import DocSamples.Document.Stream
import DocSamples.System.Host
import DocSamples.Text.Blank
import DocSamples.Text.Utf8

/-!
Contract: the documents of a revision in a git repository.

Owns:
- the two git commands: one lists a revision, one gives a file of it;
- the documents of a revision, in the order of the listing.

Listing a revision runs git once.  Each document is had by a run of git of its
own, when it is asked for.  A revision that cannot be listed is unavailable
rather than wrong; a file that is listed and then not given is an error.
-/

namespace DocSamples

/-- The command that lists the files of a revision, with a NUL after each name. -/
def listCommand (reference : Text) : Command :=
  ⟨"git".toList,
    ["ls-tree".toList, "-r".toList, "-z".toList, "--name-only".toList, reference]⟩

def showCommand (reference name : Text) : Command :=
  ⟨"git".toList, ["show".toList, reference ++ ':' :: name]⟩

def listedNames (listing : Bytes) : List Text :=
  (splitAt '\x00' (Utf8.decode listing)).filter (!·.isEmpty)

def Output.complaint (output : Output) : Text :=
  trim (Utf8.decode output.stderr)

namespace Host

variable {World : Type} (host : Host World)

def listRevision (reference : Text) (world : World) : Except Text (List Text) × World :=
  match host.capture (listCommand reference) world with
  | (.error cause, after) => (.error ("git is not available: ".toList ++ cause.message), after)
  | (.ok output, after) =>
    if output.status.isSuccess then
      (.ok (listedNames output.stdout), after)
    else
      (.error ("cannot list '".toList ++ reference ++ "': ".toList ++ output.complaint), after)

def fetch (reference name : Text) (world : World) : Fetched × World :=
  match host.capture (showCommand reference name) world with
  | (.error cause, after) => (.error (.notFetched reference name cause.message), after)
  | (.ok output, after) =>
    if output.status.isSuccess then
      (.ok ⟨name, Utf8.decode output.stdout⟩, after)
    else
      (.error (.notFetched reference name output.complaint), after)

def fetchAll (reference : Text) (names : List Text) : Documents World :=
  names.foldr
    (fun name rest =>
      .cons
        (fun world =>
          let fetched := host.fetch reference name world
          (some fetched.1, fetched.2))
        rest)
    .done

def documentsOfRevision (reference : Text) (world : World) :
    Except Text (Documents World) × World :=
  match host.listRevision reference world with
  | (.error reason, after) => (.error reason, after)
  | (.ok names, after) =>
    (.ok (host.fetchAll reference (names.filter isDocumentName)), after)

end Host

end DocSamples
