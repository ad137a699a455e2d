import LiveControl.Json.Decode
import LiveControl.Fault

namespace LiveControl

inductive ReliabilityState where
  | stable
  | experimental
  | unavailable
  deriving DecidableEq, Repr

namespace ReliabilityState

def text : ReliabilityState → String
  | .stable => "stable"
  | .experimental => "experimental"
  | .unavailable => "unavailable"

instance : Vocabulary ReliabilityState := ⟨[.stable, .experimental, .unavailable], text⟩

/-- How much is refused: the worse state has the higher rank. -/
def rank : ReliabilityState → Nat
  | .stable => 0
  | .experimental => 1
  | .unavailable => 2

def read (s : String) : Except Fault ReliabilityState :=
  match Vocabulary.find? s with
  | some state => .ok state
  | none => .error (.invalidReliabilityState s)

end ReliabilityState

/-- A verdict on one action. The reason is a stable identifier, the note is for people. -/
structure Rating where
  action : String
  state : ReliabilityState
  reason : String
  confidence : Float
  note : Option String
  deriving DecidableEq

namespace Rating

def toJson (r : Rating) : Json := .obj (Json.present [
  ("action_id", some (.str r.action)),
  ("state", some (.ofWord r.state)),
  ("reason_code", some (.str r.reason)),
  ("confidence", some (.float r.confidence)),
  ("note", r.note.map .str)])

def ofJson? (j : Json) : Option Rating := do
  let fields ← j.fields?
  some {
    action := ← Json.required fields "action_id" Json.str?
    state := ← Json.required fields "state" Json.word
    reason := ← Json.required fields "reason_code" Json.str?
    confidence := ← Json.required fields "confidence" Json.number?
    note := ← Json.optional fields "note" Json.str? }

end Rating

/-- A confidence within 0 and 1. A resolver that reports no finite number is trusted half. -/
def clampConfidence (x : Float) : Float :=
  if x.isFinite then (if x < 0.0 then 0.0 else if 1.0 < x then 1.0 else x) else 0.5

end LiveControl
