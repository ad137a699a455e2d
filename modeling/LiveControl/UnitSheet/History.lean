import LiveControl.UnitSheet.Snapshot

namespace LiveControl

/-- What an edit, or a write of it, is done for. -/
inductive UnitOperation where
  | apply
  | revertLast
  | restoreBaseline
  | rollback
  deriving DecidableEq, Repr

def UnitOperation.text : UnitOperation → String
  | .apply => "apply"
  | .revertLast => "revert_last"
  | .restoreBaseline => "restore_baseline"
  | .rollback => "rollback"

/-- A committed edit. -/
structure UnitRecord where
  id : String
  before : UnitSnapshot
  after : UnitSnapshot
  /-- Whether the edit goes back to an earlier state. -/
  isRollback : Bool
  operation : UnitOperation
  actions : List String
  deriving DecidableEq

/-- The committed edits, oldest first. -/
structure UnitHistory where
  records : List UnitRecord
  deriving DecidableEq

namespace UnitHistory

def empty : UnitHistory := ⟨[]⟩

def push (h : UnitHistory) (r : UnitRecord) : UnitHistory := ⟨h.records ++ [r]⟩

/-- The latest edit. -/
def peek (h : UnitHistory) : Option UnitRecord := h.records.getLast?

/-- The history without its latest edit. -/
def pop (h : UnitHistory) : UnitHistory := ⟨h.records.dropLast⟩

def size (h : UnitHistory) : Nat := h.records.length

def isEmpty (h : UnitHistory) : Bool := h.records.isEmpty

@[simp] theorem peek_push {h : UnitHistory} {r : UnitRecord} : (h.push r).peek = some r := by
  simp [peek, push]

@[simp] theorem pop_push {h : UnitHistory} {r : UnitRecord} : (h.push r).pop = h := by
  simp [pop, push]

end UnitHistory

/-- What came of an edit. -/
structure UnitOutcome where
  succeeded : Bool
  message : String
  reason : Option String
  id : Option String
  /-- Whether a write had to be undone. -/
  rolledBack : Bool
  /-- Whether everything was undone; nothing is said when nothing failed. -/
  rollbackSucceeded : Option Bool
  applied : Nat
  diagnostics : Bag
  deriving DecidableEq

namespace UnitOutcome

def refused (message reason : String) (diagnostics : List (String × Json)) : UnitOutcome :=
  ⟨false, message, some reason, none, false, none, 0, .ofList diagnostics⟩

def unchanged : UnitOutcome := ⟨true, "no effective changes", none, none, false, none, 0, .empty⟩

def committed (id : String) (changes : Nat) : UnitOutcome :=
  ⟨true, "applied " ++ toString changes ++ " change(s)", none, some id, false, none, changes, .empty⟩

/-- An edit whose write by `action` failed after `applied` writes, which were undone as told. -/
def failed (id action message : String) (applied : Nat) (undone : Bool) : UnitOutcome where
  succeeded := false
  message := "'" ++ action ++ "' failed: " ++ message ++ "; rollback " ++
    if undone then "succeeded" else "failed"
  reason := some "transaction_step_failed"
  id := some id
  rolledBack := applied ≠ 0
  rollbackSucceeded := some undone
  applied := 0
  diagnostics := .ofList [("failedAction", .str action), ("rollbackSteps", .ofNat applied)]

def toJson (o : UnitOutcome) : Json := .obj (Json.present [
  ("succeeded", some (.bool o.succeeded)),
  ("message", some (.str o.message)),
  ("reason_code", o.reason.map .str),
  ("transaction_id", o.id.map .str),
  ("rolled_back", some (.bool o.rolledBack)),
  ("rollback_succeeded", o.rollbackSucceeded.map .bool),
  ("applied_changes", some (.ofNat o.applied)),
  ("diagnostics", some (.ofBag o.diagnostics))])

def ofJson? (j : Json) : Option UnitOutcome := do
  let fields ← j.fields?
  some {
    succeeded := ← Json.required fields "succeeded" Json.bool?
    message := ← Json.required fields "message" Json.str?
    reason := ← Json.optional fields "reason_code" Json.str?
    id := ← Json.optional fields "transaction_id" Json.str?
    rolledBack := ← Json.required fields "rolled_back" Json.bool?
    rollbackSucceeded := ← Json.optional fields "rollback_succeeded" Json.bool?
    applied := ← Json.required fields "applied_changes" fun j => (Json.uint64? j).map UInt64.toNat
    diagnostics := ← Json.defaulted fields "diagnostics" .empty Json.bag? }

end UnitOutcome
end LiveControl
