import Compositor.Encoder.Backend

/-! # Errors of the engine -/

namespace Compositor

/-- Why the engine did not do its work. -/
inductive EngineError where
  | notFound (path : String)
  | encoderUnavailable (encoder : String)
  | probeFailed (backend : Backend) (reason : String)
  | executionFailed (code : Int) (stderr : String)
  | timeout (seconds : Nat)
  | io (reason : String)
deriving DecidableEq

/-- The error's text. -/
def EngineError.message : EngineError → String
  | notFound path => "Engine not found at path: " ++ path
  | encoderUnavailable encoder => "Encoder not available: " ++ encoder
  | probeFailed backend reason => "Probe for " ++ backend.name ++ " failed: " ++ reason
  | executionFailed code stderr => "Engine exited with code " ++ toString code ++ ": " ++ stderr
  | timeout seconds => "Engine timed out after " ++ toString seconds ++ " seconds"
  | io reason => "I/O error: " ++ reason

end Compositor
