import DocSamples.Text.Word

/-!
Contract: how a sample is checked.

A sample that asks for input cannot run unattended, so it is only compiled; every
other sample is compiled and run.  A sample asks for input when it holds the whole
word `input`.
-/

namespace DocSamples

/-- How a sample is handed to the toolchain. -/
inductive Mode where
  | compileOnly
  | compileAndRun
deriving DecidableEq, Repr

def Mode.name : Mode → Text
  | .compileOnly => "compile-only".toList
  | .compileAndRun => "compile-and-run".toList

/-- The word by which a program asks for input. -/
def inputWord : Text := ['i', 'n', 'p', 'u', 't']

def classify (code : Text) : Mode :=
  if hasWord inputWord code then .compileOnly else .compileAndRun

end DocSamples
