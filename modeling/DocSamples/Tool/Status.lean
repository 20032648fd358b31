import DocSamples.Text.Basic

/-!
Contract: how a process ended.
-/

namespace DocSamples

inductive Status where
  | exited (code : Int)
  | killed
deriving DecidableEq

namespace Status

/-- Only the exit code zero is a success. -/
def isSuccess (status : Status) : Bool :=
  status == .exited 0

def code? : Status → Option Int
  | .exited code => some code
  | .killed => none

def message : Status → Text
  | .exited code => "exit code ".toList ++ (toString code).toList
  | .killed => "terminated by signal".toList

theorem isSuccess_iff (status : Status) : status.isSuccess = true ↔ status = .exited 0 := by
  simp [isSuccess]

end Status

end DocSamples
