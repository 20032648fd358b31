import DocSamples.System.Error

/-!
Contract: what can go wrong between the library and a tool it launches, as
opposed to a tool that runs and ends badly.
-/

namespace DocSamples

inductive ToolStage where
  | launch
  | input
  | waiting
deriving DecidableEq, Repr

structure ToolError where
  stage : ToolStage
  tool : Text
  cause : SystemError
deriving DecidableEq

namespace ToolStage

def wording : ToolStage → String
  | .launch => "Failed to spawn '"
  | .input => "Failed to write to stdin of '"
  | .waiting => "Failed to wait for '"

end ToolStage

def ToolError.message (error : ToolError) : Text :=
  error.stage.wording.toList ++ error.tool ++ "': ".toList ++ error.cause.message

end DocSamples
