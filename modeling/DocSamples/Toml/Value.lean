import DocSamples.Text.Basic

/-!
Contract: what a TOML document says.

Owns:
- values and the tables that hold them;
- the statements of a document, and what each adds to the document.

A table remembers how it came about, because that decides what may still be added
to it: a table between braces is closed; one that a dotted key made takes dotted
keys; one that has a header of its own takes none from elsewhere.
-/

namespace DocSamples.Toml

/-- How a table came about. -/
inductive Origin where
  | header
  /-- It lies on the way to a table with a header. -/
  | implied
  /-- It lies on the way to a dotted key. -/
  | dotted
  | inline
deriving DecidableEq, Repr

inductive Value where
  | text (value : Text)
  | integer (value : Int)
  | float (spelling : Text)
  | boolean (value : Bool)
  | moment (spelling : Text)
  | array (items : List Value)
  | table (origin : Origin) (entries : List (Text × Value))
  | tables (elements : List (List (Text × Value)))

/-- The entries of a table, in the order in which they were made. -/
abbrev Entries := List (Text × Value)

/-- Put another value at a key that is there. -/
def replaceEntry (key : Text) (value : Value) : Entries → Entries
  | [] => []
  | entry :: rest =>
    if entry.1 == key then (key, value) :: rest else entry :: replaceEntry key value rest

def addEntry? (key : Text) (value : Value) (entries : Entries) : Option Entries :=
  if (entries.lookup key).isSome then none else some (entries ++ [(key, value)])

/-- Change the table that a path leads to.  Tables on the way are made where nothing
stands, `dotted` says for which kind of path.  Arrays of tables are entered at their
last table; closed tables and other values are not entered. -/
def changeAt? (dotted : Bool) (change : Origin → Entries → Option Entries) :
    (path : List Text) → Origin → Entries → Option Entries
  | [], origin, entries => change origin entries
  | key :: path, _, entries =>
    match entries.lookup key with
    | none =>
      let origin := if dotted then Origin.dotted else Origin.implied
      match changeAt? dotted change path origin [] with
      | none => none
      | some inner => some (entries ++ [(key, .table origin inner)])
    | some (.table origin inner) =>
      if origin = .inline ∨ (dotted = true ∧ origin = .header) then none
      else
        match changeAt? dotted change path origin inner with
        | none => none
        | some changed => some (replaceEntry key (.table origin changed) entries)
    | some (.tables elements) =>
      match elements.getLast? with
      | none => none
      | some last =>
        match changeAt? dotted change path .header last with
        | none => none
        | some changed =>
          some (replaceEntry key (.tables (elements.dropLast ++ [changed])) entries)
    | some _ => none

/-- Add an entry under a key with dots in it, which is given as the path before its
last part and that part.  A table that takes dotted keys takes no others. -/
def addDotted? (path : List Text) (key : Text) (value : Value) (origin : Origin)
    (entries : Entries) : Option Entries :=
  changeAt? true
    (fun reached inner =>
      if (reached == .dotted) == path.isEmpty then none else addEntry? key value inner)
    path origin entries

/-- Open the table of a header: a new one, or one that was only implied. -/
def openTable? (key : Text) (entries : Entries) : Option Entries :=
  match entries.lookup key with
  | none => some (entries ++ [(key, .table .header [])])
  | some (.table .implied inner) => some (replaceEntry key (.table .header inner) entries)
  | some _ => none

/-- Add a table to the array of a header: a new one, or one made by headers. -/
def addElement? (key : Text) (entries : Entries) : Option Entries :=
  match entries.lookup key with
  | none => some (entries ++ [(key, .tables [[]])])
  | some (.tables elements) => some (replaceEntry key (.tables (elements ++ [[]])) entries)
  | some _ => none

/-- A statement of a document.  Keys are cut at their dots: what stands before the
last dot, and the last part. -/
inductive Statement where
  | assignment (path : List Text) (key : Text) (value : Value)
  | tableHeader (path : List Text) (key : Text)
  | elementHeader (path : List Text) (key : Text)

/-- A document as far as it has been read. -/
structure Document where
  entries : Entries := []
  current : List Text := []

/-- Add a statement to a document, unless it contradicts what was said before. -/
def Document.add? (document : Document) : Statement → Option Document
  | .assignment path key value =>
    (changeAt? false (addDotted? path key value) document.current .header document.entries).map
      fun entries => { document with entries }
  | .tableHeader path key =>
    (changeAt? false (fun _ => openTable? key) path .header document.entries).map
      fun entries => { entries, current := path ++ [key] }
  | .elementHeader path key =>
    (changeAt? false (fun _ => addElement? key) path .header document.entries).map
      fun entries => { entries, current := path ++ [key] }

/-- The entries that statements make, if none contradicts another. -/
def entriesOf? (statements : List Statement) : Option Entries :=
  (statements.foldlM Document.add? {}).map Document.entries

end DocSamples.Toml
