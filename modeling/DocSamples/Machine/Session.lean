import DocSamples.Machine.FileTree.Edit

/-!
Contract: what a running program shares with the programs it runs.

Owns:
- bytes read as characters, which is how the programs of a machine see text;
- the files, the input and the outputs of a running program;
- where its two outputs go.

A program that ends leaves behind the files, what is left of the input and what
was written; where it stood and where its outputs went end with it.
-/

namespace DocSamples

/-- Bytes as characters: each byte is the character of its number, so that any
content can be read like text and given back unchanged. -/
abbrev RawText := List Char

namespace RawText

def ofBytes (bytes : Bytes) : RawText :=
  bytes.map fun byte => Char.ofNat byte.toNat

def toBytes (raw : RawText) : Bytes :=
  raw.map fun character => UInt8.ofNat character.toNat

/-- The bytes of a text, read as characters. -/
def ofText (text : Text) : RawText :=
  ofBytes (Utf8.encode text)

def toText (raw : RawText) : Text :=
  Utf8.decode (toBytes raw)

end RawText

inductive Sink where
  | stream (index : Nat)
  | file (key : Key)
  | nowhere
deriving DecidableEq

/-- What a running program shares with the programs it runs. -/
structure Session where
  tree : FileTree
  workingDirectory : Key
  searchPath : Text
  input : Bytes
  streams : List Bytes
  output : Sink
  errorOutput : Sink
deriving DecidableEq

namespace Session

def writeTo (session : Session) (sink : Sink) (raw : RawText) : Session :=
  match sink with
  | .nowhere => session
  | .file key => { session with tree := session.tree.append key (RawText.toBytes raw) }
  | .stream index =>
    { session with streams := session.streams.modify index (· ++ RawText.toBytes raw) }

def print (session : Session) (raw : RawText) : Session :=
  session.writeTo session.output raw

/-- Write to the output for errors. -/
def complain (session : Session) (raw : RawText) : Session :=
  session.writeTo session.errorOutput raw

def resume (session after : Session) : Session :=
  { session with tree := after.tree, input := after.input, streams := after.streams }

/-- Run something whose output is collected; the answer also holds the output. -/
def collecting {α : Type} (session : Session) (body : Session → α × Session) :
    RawText × α × Session :=
  let index := session.streams.length
  let (answer, after) :=
    body { session with streams := session.streams ++ [[]], output := .stream index }
  (RawText.ofBytes (after.streams.getD index []), answer,
    { after with streams := after.streams.take index, output := session.output })

end Session

end DocSamples
