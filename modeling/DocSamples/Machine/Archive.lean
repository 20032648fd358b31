import DocSamples.Machine.Basic

/-!
Contract: files packed into one byte string.

Owns:
- reading an archive: blocks of 512 bytes, where a header block says what follows;
- unpacking it into the working directory of a machine.

Only what a machine can hold is unpacked: files, directories and symbolic links.
-/

namespace DocSamples.Archive

def blockSize : Nat := 512

def field (header : Bytes) (start size : Nat) : Text :=
  Utf8.decode (((header.drop start).take size).takeWhile (· != 0))

def octalField (header : Bytes) (start size : Nat) : Nat :=
  (field header start size).foldl
    (fun value digit => if digit.isDigit then value * 8 + (digit.toNat - '0'.toNat) else value) 0

def headerPath (header : Bytes) : Text :=
  let leading := field header 345 155
  let name := field header 0 100
  if leading.isEmpty then name else Path.join leading name

def isExecutableMode (mode : Nat) : Bool :=
  mode % 2 == 1 || mode / 8 % 2 == 1 || mode / 64 % 2 == 1

def layout? (header content : Bytes) : Option FileTree.Layout :=
  match (header.drop 156).head?.map UInt8.toNat with
  | some 0 | some 48 => some (.file content (isExecutableMode (octalField header 100 8)))
  | some 50 => some (.link (field header 157 100))
  | some 53 => some .directory
  | _ => none

/-- What an archive holds, in the order in which it holds it.  An empty path ends it. -/
def entriesFrom : (rounds : Nat) → Bytes → List (Text × FileTree.Layout)
  | 0, _ => []
  | rounds + 1, bytes =>
    let header := bytes.take blockSize
    let size := octalField header 124 12
    let rest := bytes.drop blockSize
    if (headerPath header).isEmpty then []
    else
      let blocks := (size + blockSize - 1) / blockSize
      ((layout? header (rest.take size)).map fun layout => (headerPath header, layout)).toList ++
        entriesFrom rounds (rest.drop (blocks * blockSize))

def entries (bytes : Bytes) : List (Text × FileTree.Layout) :=
  entriesFrom (bytes.length / blockSize + 1) bytes

end DocSamples.Archive

namespace DocSamples.Machine

def unpack (machine : Machine) (archive : Bytes) : Machine :=
  (Archive.entries archive).foldl (fun machine (path, layout) => machine.place path layout) machine

end DocSamples.Machine
