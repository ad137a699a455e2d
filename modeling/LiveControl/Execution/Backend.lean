import LiveControl.Task
import LiveControl.Session
import LiveControl.Execution.Request

namespace LiveControl

structure Backend (σ : Type) where
  session : Query σ Attachment
  execute : ExecutionRequest → Token σ → Task σ Outcome
  read : String → ValueType → Task σ Scalar

/-- What keeps symbols at a value until they are released. -/
structure PinService (σ : Type) where
  pin : String → Scalar → Task σ Unit
  /-- Answers whether there was a pin. -/
  release : String → Task σ Bool
  /-- Answers how many pins there were. -/
  releaseAll : Task σ Nat

end LiveControl
