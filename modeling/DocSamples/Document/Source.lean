import DocSamples.Document.Directory
import DocSamples.Document.Revision

/-!
Contract: the source of documents that a user names.

Owns:
- selectors and their spelling;
- opening the source that a selector names.
-/

namespace DocSamples

/-- Where documents are read from. -/
inductive Selector where
  | path (root : Text)
  | revision (reference : Text)
deriving DecidableEq

/-- The selector that an argument spells.  One colon at the end marks a revision;
no argument means the working directory. -/
def Selector.parse : Option Text → Selector
  | none => .path Path.here
  | some spelling =>
    if spelling.getLast? == some ':' then .revision spelling.dropLast else .path spelling

inductive Source (World : Type) where
  | documents (stream : Documents World)
  | unavailable (reason : Text)

def Host.openSource {World : Type} (host : Host World) (selector : Selector) (world : World) :
    Except SourceError (Source World) × World :=
  match selector with
  | .path root =>
    match host.documentsBelow root world with
    | .error error => (.error error, world)
    | .ok stream => (.ok (.documents stream), world)
  | .revision reference =>
    match host.documentsOfRevision reference world with
    | (.error reason, after) => (.ok (.unavailable reason), after)
    | (.ok stream, after) => (.ok (.documents stream), after)

end DocSamples
