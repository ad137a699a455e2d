import LiveControl.Symbol

namespace LiveControl

inductive UnitField where
  | hp
  | shield
  | speed
  | damageMultiplier
  | cooldownMultiplier
  | veterancy
  | ownerFaction
  deriving DecidableEq, Repr

namespace UnitField

def text : UnitField → String
  | .hp => "hp"
  | .shield => "shield"
  | .speed => "speed"
  | .damageMultiplier => "damage_multiplier"
  | .cooldownMultiplier => "cooldown_multiplier"
  | .veterancy => "veterancy"
  | .ownerFaction => "owner_faction"

/-- All fields, in the order in which they are read and written. -/
def all : List UnitField := [
  .hp, .shield, .speed, .damageMultiplier, .cooldownMultiplier, .veterancy, .ownerFaction]

instance : Vocabulary UnitField := ⟨all, text⟩

theorem mem_all (f : UnitField) : f ∈ all := by cases f <;> decide

/-- The action that writes a field. -/
def action (f : UnitField) : String := "set_selected_" ++ f.text

/-- The symbol of a field whose action has no binding in the policy. -/
def defaultSymbol (f : UnitField) : String := "selected_" ++ f.text

def isFloat : UnitField → Bool
  | .veterancy | .ownerFaction => false
  | _ => true

def valueType (f : UnitField) : ValueType := if f.isFloat then .float else .int

def toJson (f : UnitField) : Json := .obj [
  ("name", .str f.text),
  ("action", .str f.action),
  ("symbol", .str f.defaultSymbol),
  ("float", .bool f.isFloat),
  ("value_type", .ofWord f.valueType)]

end UnitField
end LiveControl
