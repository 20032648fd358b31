/-!
Contract: the exit codes by which the command lines tell a broken sample from a
check that could not be made.
-/

namespace DocSamples

inductive ExitCode where
  | success
  | sampleFailed
  | toolError
deriving DecidableEq, Repr

def ExitCode.number : ExitCode → Int
  | .success => 0
  | .sampleFailed => 1
  | .toolError => 2

end DocSamples
