import DocSamples.Check.Basic
import DocSamples.Document.Source
import DocSamples.Sample.Scanner
import DocSamples.Tool.Toolchain

/-!
Contract: checking the samples of documents, one after another.

Owns:
- the check of one document and of a stream of documents;
- the check of the source that a selector names.

Documents are asked for one at a time, and the name of each is printed before its
first sample is run.  The first sample that fails, the first tool that cannot be
run and the first document that is lost end the whole check; nothing is asked for,
printed or run after it.
-/

namespace DocSamples

/-- How a complete check ended. -/
inductive Outcome where
  | verified (summary : Summary)
  | unavailable (reason : Text)
deriving DecidableEq

namespace Console

variable {World : Type} (console : Console World)

def logSample (file : Text) (sample : Sample) (world : World) : World :=
  console.log .debug
    (file ++ ": snippet #".toList ++ decimal (sample.index + 1) ++ " at line ".toList ++
      decimal sample.line ++ " (".toList ++ (classify sample.code).name ++ ")".toList)
    world

/-- Check samples in order and stop at the first that fails.  A sample whose tool
ended is counted, however it ended. -/
def checkSamples (runner : Runner World) (file : Text) :
    List Sample → Summary → World → Except CheckError Unit × Summary × World
  | [], summary, world => (.ok (), summary, world)
  | sample :: samples, summary, world =>
    let mode := classify sample.code
    match runner mode sample.code (console.logSample file sample world) with
    | (.error error, after) => (.error (.toolFailed file error), summary, after)
    | (.ok status, after) =>
      if status.isSuccess then
        checkSamples runner file samples (summary.countSample mode) after
      else
        (.error (.sampleFailed file sample.index sample.line mode status),
          summary.countSample mode, after)

def checkDocument (runner : Runner World) (document : Document) (summary : Summary)
    (world : World) : Except CheckError Unit × Summary × World :=
  console.checkSamples runner document.name (extract document.text) summary world

/-- What is printed before a document is checked. -/
def announce (document : Document) (world : World) : World :=
  console.print ("Checking ".toList ++ document.name ++ "...\n".toList) world

def checkFrom (runner : Runner World) :
    Documents World → Summary → World → Except CheckError Summary × World
  | .done, summary, world => (.ok summary, console.log .debug summary.message world)
  | .look visit rest, summary, world =>
    match visit world with
    | (none, after) => checkFrom runner (rest world) summary after
    | (some (.error error), after) => (.error (.sourceFailed error), after)
    | (some (.ok document), after) =>
      match console.checkDocument runner document summary (console.announce document after) with
      | (.error error, _, ended) => (.error error, ended)
      | (.ok (), counted, ended) =>
        checkFrom runner (rest world) counted.countFile ended

def check (runner : Runner World) (documents : Documents World) (world : World) :
    Except CheckError Summary × World :=
  console.checkFrom runner documents {} world

end Console

namespace Host

variable {World : Type} (host : Host World)

def checkWith (runner : Runner World) (selector : Selector) (world : World) :
    Except CheckError Outcome × World :=
  match host.openSource selector world with
  | (.error error, after) => (.error (.sourceFailed error), after)
  | (.ok (.unavailable reason), after) =>
    (.ok (.unavailable reason),
      host.log .info ("Nothing to check: ".toList ++ reason) after)
  | (.ok (.documents documents), after) =>
    match host.check runner documents after with
    | (.error error, ended) => (.error error, ended)
    | (.ok summary, ended) => (.ok (.verified summary), ended)

def checkSource (config : ToolchainConfig) (selector : Selector) (world : World) :
    Except CheckError Outcome × World :=
  host.checkWith (host.toolchain config) selector world

end Host

end DocSamples
