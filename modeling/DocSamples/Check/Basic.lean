import DocSamples.Document.Basic
import DocSamples.Sample.Mode
import DocSamples.Tool.Error
import DocSamples.Tool.Status

/-!
Contract: what a check of documents comes to.

Owns:
- the counts of a check;
- the errors that end one, and their wording.
-/

namespace DocSamples

structure Summary where
  files : Nat := 0
  samples : Nat := 0
  compileOnly : Nat := 0
deriving DecidableEq

namespace Summary

def countSample (summary : Summary) (mode : Mode) : Summary :=
  { summary with
    samples := summary.samples + 1
    compileOnly := summary.compileOnly + (if mode = .compileOnly then 1 else 0) }

def countFile (summary : Summary) : Summary :=
  { summary with files := summary.files + 1 }

def message (summary : Summary) : Text :=
  "Checked ".toList ++ decimal summary.samples ++ " snippets (".toList ++
    decimal summary.compileOnly ++ " compile-only) in ".toList ++ decimal summary.files ++
    " files".toList

end Summary

inductive CheckError where
  | sampleFailed (file : Text) (index line : Nat) (mode : Mode) (status : Status)
  | toolFailed (file : Text) (error : ToolError)
  | sourceFailed (error : SourceError)
deriving DecidableEq

def CheckError.message : CheckError → Text
  | .sampleFailed file index line mode status =>
    "Snippet #".toList ++ decimal (index + 1) ++ " in ".toList ++ file ++ " (line ".toList ++
      decimal line ++ ") failed in ".toList ++ mode.name ++ " mode: ".toList ++ status.message
  | .toolFailed file error => "Failed to check ".toList ++ file ++ ": ".toList ++ error.message
  | .sourceFailed error => error.message

end DocSamples
