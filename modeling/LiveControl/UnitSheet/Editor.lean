import LiveControl.Execution.Executor
import LiveControl.UnitSheet.Change
import LiveControl.UnitSheet.History

/-!
Edits of the selected unit, all or nothing. An edit is planned against a fresh snapshot and written one
field at a time; at the first write that fails, the writes before it are undone in reverse order.
Cancellation undoes nothing: what was written stays.
-/

namespace LiveControl

/-- What edits units: through which executor, for which profile, under which policy. -/
structure UnitEditor (σ : Type) where
  executor : Executor σ
  profileId : String
  policy : Policy
  /-- Gives every edit an id of its own. -/
  freshId : Query σ String

/-- What an editor remembers, with the state of the execution that it drives. -/
structure UnitDesk (σ : Type) where
  /-- The first snapshot since the desk was cleared. -/
  baseline : Option UnitSnapshot
  history : UnitHistory
  runtime : Runtime σ

namespace UnitDesk

variable {σ : Type}

def runtimePart : Part (UnitDesk σ) (Runtime σ) where
  get := UnitDesk.runtime
  set r d := { d with runtime := r }

/-- Forgets the baseline and the history. -/
def clear (d : UnitDesk σ) : UnitDesk σ := { d with baseline := none, history := .empty }

def keepBaseline (d : UnitDesk σ) (s : UnitSnapshot) : UnitDesk σ :=
  { d with baseline := some (d.baseline.getD s) }

end UnitDesk

namespace UnitEditor

variable {σ : Type}

/-- Reads fields one after the other; before each the token is asked. -/
def readFields (e : UnitEditor σ) (cancel : Token σ) :
    List UnitField → Task σ (List (UnitField × Scalar))
  | [] => pure []
  | f :: rest => do
    cancel.check
    let value ← e.executor.backend.read (UnitChange.symbolOf e.policy f) f.valueType
    let others ← e.readFields cancel rest
    pure ((f, value) :: others)

/-- A fresh snapshot. The first one is kept as the baseline. -/
def capture (e : UnitEditor σ) (cancel : Token σ) : Task (UnitDesk σ) UnitSnapshot := do
  let values ← Task.on UnitDesk.runtimePart
    (Task.on Runtime.worldPart (e.readFields cancel UnitField.all))
  let snapshot := UnitSnapshot.zero.setAll values
  Task.change .whole fun d => d.keepBaseline snapshot
  pure snapshot

/-- The call that writes a value for a change. -/
def callOf (e : UnitEditor σ) (c : UnitChange) (value : Scalar) (id : String)
    (operation : UnitOperation) : ActionCall where
  profileId := e.profileId
  action := c.action
  payload := .ofList [("symbol", .str c.symbol), (value.payloadKey, value.toLoose)]
  mode := e.policy.tacticalMode
  context := .ofList [("transactionId", .str id), ("operation", .str operation.text)]

/-- Writes a value for a change; answers with the message of a write that failed. -/
def write (e : UnitEditor σ) (c : UnitChange) (value : Scalar) (id : String)
    (operation : UnitOperation) (cancel : Token σ) : Task (Runtime σ) (Option String) := do
  let outcome ← e.executor.execute (e.callOf c value id operation) cancel
  pure (if outcome.succeeded then none else some outcome.message)

/-- How far the writes of a plan came. -/
inductive Progress where
  | complete
  /-- One failed after others, which are listed latest first. -/
  | stopped (applied : List UnitChange) (failed : UnitChange) (message : String)
  deriving DecidableEq

/-- Writes the changes of a plan in order, after those of `applied`, until one fails. -/
def writeFrom (e : UnitEditor σ) (id : String) (operation : UnitOperation) (cancel : Token σ)
    (applied : List UnitChange) : List UnitChange → Task (Runtime σ) Progress
  | [] => pure .complete
  | c :: rest => do
    match ← Task.settle (e.write c c.new id operation cancel) with
    | .ok none => e.writeFrom id operation cancel (c :: applied) rest
    | .ok (some message) => pure (.stopped applied c message)
    | .error fault => pure (.stopped applied c fault.message)

/-- Writes back the old values of changes in the order of the list, to its end whatever fails; answers
whether nothing did. -/
def undo (e : UnitEditor σ) (id : String) : List UnitChange → Task (Runtime σ) Bool
  | [] => pure true
  | c :: rest => do
    let step ← Task.attempt (e.write c c.old id .rollback .never)
    let others ← e.undo id rest
    pure ((match step with | .ok none => true | _ => false) && others)

/-- The record of a committed plan. -/
def recordOf (id : String) (before : UnitSnapshot) (changes : List UnitChange)
    (operation : UnitOperation) : UnitRecord where
  id := id
  before := before
  after := UnitChange.after before changes
  isRollback := operation = .restoreBaseline
  operation := operation
  actions := changes.map UnitChange.action

/-- Carries out a plan that was made against a snapshot; a committed one goes into the history if
`recorded` says so. -/
def carryOut (e : UnitEditor σ) (before : UnitSnapshot) (changes : List UnitChange)
    (operation : UnitOperation) (recorded : Bool) (cancel : Token σ) :
    Task (UnitDesk σ) UnitOutcome := do
  let id ← Task.on UnitDesk.runtimePart (Task.on Runtime.worldPart e.freshId.task)
  match ← Task.on UnitDesk.runtimePart (e.writeFrom id operation cancel [] changes) with
  | .complete => do
    if recorded then
      Task.change .whole fun d =>
        { d with history := d.history.push (recordOf id before changes operation) }
    pure (.committed id changes.length)
  | .stopped applied failed message => do
    let undone ← Task.on UnitDesk.runtimePart (e.undo id applied)
    pure (.failed id failed.action message applied.length undone)

/-- Brings the unit to a draft. -/
def edit (e : UnitEditor σ) (draft : UnitDraft) (operation : UnitOperation) (recorded : Bool)
    (cancel : Token σ) : Task (UnitDesk σ) UnitOutcome := do
  let before ← e.capture cancel
  match UnitChange.plan e.policy before draft with
  | [] => pure .unchanged
  | changes => e.carryOut before changes operation recorded cancel

/-- The refusal of every edit while the session is not in the mode in which units may be edited. -/
def modeRefusal? (e : UnitEditor σ) (mode : Mode) : Option UnitOutcome :=
  let required := e.policy.tacticalMode
  if mode = required then none
  else
    let (message, reason) :=
      if mode = .unknown then
        ("runtime mode is unknown; " ++ required.text ++ " mode is required", "tactical_mode_unknown")
      else
        ("runtime mode is " ++ mode.text ++ "; " ++ required.text ++ " mode is required",
          "tactical_mode_required")
    some (.refused message reason [("runtimeMode", .str mode.text)])

/-- What is done when the session is in the mode in which units may be edited. -/
def inMode (e : UnitEditor σ) (act : Task (UnitDesk σ) UnitOutcome) : Task (UnitDesk σ) UnitOutcome := do
  let attachment ← Query.task (Query.on UnitDesk.runtimePart
    (Query.on Runtime.worldPart e.executor.backend.session))
  match e.modeRefusal? attachment.mode with
  | some refusal => pure refusal
  | none => act

/-- The refusal of a draft that asks for nothing, or for what no number is. -/
def draftRefusal? (draft : UnitDraft) : Option UnitOutcome :=
  if draft.isEmpty then some (.refused "draft has no fields to apply" "draft_empty" [])
  else draft.firstNonFinite?.map fun f =>
    .refused (f.text ++ " must be a finite number") "draft_invalid" [("field", .str f.text)]

def apply (e : UnitEditor σ) (draft : UnitDraft) (cancel : Token σ) : Task (UnitDesk σ) UnitOutcome :=
  e.inMode <|
    match draftRefusal? draft with
    | some refusal => pure refusal
    | none => e.edit draft .apply true cancel

/-- Goes back to the state before the latest edit and takes that edit out of the history. -/
def revertLast (e : UnitEditor σ) (cancel : Token σ) : Task (UnitDesk σ) UnitOutcome :=
  e.inMode do
    match (← get).history.peek with
    | none => pure (.refused "no transaction to revert" "history_empty" [])
    | some last => do
      let outcome ← e.edit (.ofSnapshot last.before) .revertLast false cancel
      if outcome.succeeded then do
        Task.change .whole fun d => { d with history := d.history.pop }
        pure { outcome with
          diagnostics := outcome.diagnostics.insert "revertedTransactionId" (.str last.id) }
      else pure outcome

/-- Goes back to the baseline, as an edit of its own. -/
def restoreBaseline (e : UnitEditor σ) (cancel : Token σ) : Task (UnitDesk σ) UnitOutcome :=
  e.inMode do
    match (← get).baseline with
    | none => pure (.refused "no baseline captured yet" "baseline_missing" [])
    | some baseline => e.edit (.ofSnapshot baseline) .restoreBaseline true cancel

/-- Forgets the baseline and the history, as after a detachment. -/
def reset : Task (UnitDesk σ) Unit := Task.change .whole UnitDesk.clear

end UnitEditor
end LiveControl
