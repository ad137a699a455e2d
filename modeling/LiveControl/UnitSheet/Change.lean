import LiveControl.Policy
import LiveControl.UnitSheet.Snapshot

namespace LiveControl

/-- One write that a plan asks for, with the value to go back to. -/
structure UnitChange where
  field : UnitField
  symbol : String
  action : String
  old : Scalar
  new : Scalar
  isFloat : Bool
  deriving DecidableEq

namespace UnitChange

/-- The symbol through which a field is read and written. -/
def symbolOf (policy : Policy) (f : UnitField) : String := (policy.symbolFor f.action).getD f.defaultSymbol

/-- Whether the values of a field differ. Doubles within epsilon of each other do not. -/
def differs (policy : Policy) (f : UnitField) (old new : Scalar) : Bool :=
  if f.isFloat then policy.epsilon < (new.toFloat - old.toFloat).abs
  else new.toInt64 ≠ old.toInt64

/-- The change of one field that a draft asks for, if it asks for any. -/
def of? (policy : Policy) (before : UnitSnapshot) (draft : UnitDraft) (f : UnitField) :
    Option UnitChange :=
  match draft.get f with
  | none => none
  | some new =>
    let old := before.get f
    if differs policy f old new then some ⟨f, symbolOf policy f, f.action, old, new, f.isFloat⟩ else none

/-- The changes from a snapshot to a draft. -/
def plan (policy : Policy) (before : UnitSnapshot) (draft : UnitDraft) : List UnitChange :=
  UnitField.all.filterMap (of? policy before draft)

/-- The snapshot after changes. -/
def after (before : UnitSnapshot) (changes : List UnitChange) : UnitSnapshot :=
  before.setAll (changes.map fun c => (c.field, c.new))

def toJson (c : UnitChange) : Json := .obj [
  ("field", .ofWord c.field),
  ("symbol", .str c.symbol),
  ("action_id", .str c.action),
  ("old_value", c.old.toJson),
  ("new_value", c.new.toJson),
  ("is_float", .bool c.isFloat)]

def ofJson? (j : Json) : Option UnitChange := do
  let fields ← j.fields?
  some {
    field := ← Json.required fields "field" Json.word
    symbol := ← Json.required fields "symbol" Json.str?
    action := ← Json.required fields "action_id" Json.str?
    old := ← Json.required fields "old_value" Scalar.ofJson?
    new := ← Json.required fields "new_value" Scalar.ofJson?
    isFloat := ← Json.required fields "is_float" Json.bool? }

end UnitChange
end LiveControl
