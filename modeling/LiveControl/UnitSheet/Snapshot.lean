import LiveControl.Scalar
import LiveControl.UnitSheet.Field

namespace LiveControl

/-- The values of all fields at one moment. -/
structure UnitSnapshot where
  hp : Float
  shield : Float
  speed : Float
  damageMultiplier : Float
  cooldownMultiplier : Float
  veterancy : Int64
  ownerFaction : Int64
  deriving DecidableEq

namespace UnitSnapshot

def zero : UnitSnapshot := ⟨0.0, 0.0, 0.0, 0.0, 0.0, 0, 0⟩

instance : Inhabited UnitSnapshot := ⟨zero⟩

def get (s : UnitSnapshot) : UnitField → Scalar
  | .hp => .float s.hp
  | .shield => .float s.shield
  | .speed => .float s.speed
  | .damageMultiplier => .float s.damageMultiplier
  | .cooldownMultiplier => .float s.cooldownMultiplier
  | .veterancy => .int s.veterancy
  | .ownerFaction => .int s.ownerFaction

/-- The snapshot with another value of one field, converted to the kind of the field. -/
def set (s : UnitSnapshot) (f : UnitField) (value : Scalar) : UnitSnapshot :=
  match f with
  | .hp => { s with hp := value.toFloat }
  | .shield => { s with shield := value.toFloat }
  | .speed => { s with speed := value.toFloat }
  | .damageMultiplier => { s with damageMultiplier := value.toFloat }
  | .cooldownMultiplier => { s with cooldownMultiplier := value.toFloat }
  | .veterancy => { s with veterancy := value.toInt64 }
  | .ownerFaction => { s with ownerFaction := value.toInt64 }

/-- The snapshot with other values of some fields; of values for one field the last counts. -/
def setAll (s : UnitSnapshot) (values : List (UnitField × Scalar)) : UnitSnapshot :=
  values.foldl (fun s v => s.set v.1 v.2) s

end UnitSnapshot

/-- The values that fields should have; the others stay as they are. -/
structure UnitDraft where
  hp : Option Float
  shield : Option Float
  speed : Option Float
  damageMultiplier : Option Float
  cooldownMultiplier : Option Float
  veterancy : Option Int64
  ownerFaction : Option Int64
  deriving DecidableEq

namespace UnitDraft

def get (d : UnitDraft) : UnitField → Option Scalar
  | .hp => d.hp.map .float
  | .shield => d.shield.map .float
  | .speed => d.speed.map .float
  | .damageMultiplier => d.damageMultiplier.map .float
  | .cooldownMultiplier => d.cooldownMultiplier.map .float
  | .veterancy => d.veterancy.map .int
  | .ownerFaction => d.ownerFaction.map .int

def isEmpty (d : UnitDraft) : Bool := UnitField.all.all fun f => (d.get f).isNone

/-- Whether a value is a double that is not finite. -/
def isNonFinite : Option Scalar → Bool
  | some (.float x) => !x.isFinite
  | _ => false

/-- The first field with an infinity or not-a-number. -/
def firstNonFinite? (d : UnitDraft) : Option UnitField := UnitField.all.find? fun f => isNonFinite (d.get f)

/-- The draft that asks for a snapshot. -/
def ofSnapshot (s : UnitSnapshot) : UnitDraft :=
  ⟨some s.hp, some s.shield, some s.speed, some s.damageMultiplier, some s.cooldownMultiplier,
    some s.veterancy, some s.ownerFaction⟩

/-- Whether two drafts ask for equal values. As numbers compare, zeros of both signs are equal and
not-a-number differs from itself. -/
def agrees (a b : UnitDraft) : Bool :=
  a.hp == b.hp && a.shield == b.shield && a.speed == b.speed &&
    a.damageMultiplier == b.damageMultiplier && a.cooldownMultiplier == b.cooldownMultiplier &&
    a.veterancy == b.veterancy && a.ownerFaction == b.ownerFaction

def toJson (d : UnitDraft) : Json := .obj [
  ("hp", .ofOption .float d.hp),
  ("shield", .ofOption .float d.shield),
  ("speed", .ofOption .float d.speed),
  ("damage_multiplier", .ofOption .float d.damageMultiplier),
  ("cooldown_multiplier", .ofOption .float d.cooldownMultiplier),
  ("veterancy", .ofOption .ofInt64 d.veterancy),
  ("owner_faction", .ofOption .ofInt64 d.ownerFaction)]

/-- The draft of a document whose doubles are read by `number`. -/
def ofJsonWith? (number : Json → Option Float) (j : Json) : Option UnitDraft := do
  let fields ← j.fields?
  some {
    hp := ← Json.optional fields "hp" number
    shield := ← Json.optional fields "shield" number
    speed := ← Json.optional fields "speed" number
    damageMultiplier := ← Json.optional fields "damage_multiplier" number
    cooldownMultiplier := ← Json.optional fields "cooldown_multiplier" number
    veterancy := ← Json.optional fields "veterancy" Json.int64?
    ownerFaction := ← Json.optional fields "owner_faction" Json.int64? }

def ofJson? (j : Json) : Option UnitDraft := ofJsonWith? Json.number? j

end UnitDraft
end LiveControl
