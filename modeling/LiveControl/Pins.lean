import LiveControl.Execution.Backend

namespace LiveControl

structure Pins where
  table : Table Scalar
  deriving DecidableEq

namespace Pins

def empty : Pins := ⟨.empty⟩

def pinned (p : Pins) (symbol : String) : Option Scalar := p.table.get? symbol

/-- The pins in order of their symbols. -/
def toList (p : Pins) : List (String × Scalar) := p.table.toList

def pin (p : Pins) (symbol : String) (value : Scalar) : Pins := ⟨p.table.insert symbol value⟩

def release (p : Pins) (symbol : String) : Pins := ⟨p.table.erase symbol⟩

def size (p : Pins) : Nat := p.table.size

/-- Pins as the service of a larger state; nothing it does can fail. -/
def service {σ : Type} (part : Part σ Pins) : PinService σ where
  pin symbol value := Task.change part fun p => p.pin symbol value
  release symbol := Query.task (Query.on part fun p => ((p.pinned symbol).isSome, p.release symbol))
  releaseAll := Query.task (Query.on part fun p => (p.size, empty))

end Pins
end LiveControl
