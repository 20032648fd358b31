import DocSamples.System.Error

/-!
Contract: documents and the ways in which one can fail to be had.

Owns:
- documents and the names that count as documentation;
- the causes for which a source of documents, or one document, is lost.
-/

namespace DocSamples

/-- A documentation file, read as a whole. -/
structure Document where
  name : Text
  text : Text
deriving DecidableEq

def documentEnding : Text := ['.', 'm', 'd']

def isDocumentName (name : Text) : Bool :=
  endsWith documentEnding name

inductive SourceError where
  | missingRoot (path : Text)
  | unreadable (path : Text) (cause : SystemError)
  | notFetched (reference name reason : Text)
deriving DecidableEq

def SourceError.message : SourceError → Text
  | .missingRoot path => "Path not found: ".toList ++ path
  | .unreadable path cause =>
    "Failed to read ".toList ++ path ++ ": ".toList ++ cause.message
  | .notFetched reference name reason =>
    "Failed to fetch ".toList ++ reference ++ ":".toList ++ name ++ " from git: ".toList ++ reason

/-- What one request for a document gives. -/
abbrev Fetched := Except SourceError Document

end DocSamples
