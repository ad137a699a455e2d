import LiveControl.Proofs.UnitJournal

namespace LiveControl

variable {σ τ α : Type}

def UnitDesk.map (view : σ → τ) (d : UnitDesk σ) : UnitDesk τ := { d with runtime := d.runtime.map view }

namespace Task

theorem mirrors_change (view : σ → τ) (f : σ → σ) (g : τ → τ) (same : ∀ s, view (f s) = g (view s)) :
    (Task.change .whole f).Mirrors view (Task.change .whole g) :=
  fun s => ⟨rfl, same s⟩

/-- Looking at the state is mirrored where what follows does not depend on what is outside the view. -/
theorem mirrors_get {f : σ → Task σ α} {view : σ → τ} {g : τ → Task τ α}
    (same : ∀ s, (f s).Mirrors view (g (view s))) :
    ((get : Task σ σ) >>= f).Mirrors view ((get : Task τ τ) >>= g) :=
  fun s => same s s

theorem Mirrors.onRuntime {t : Task (Runtime σ) α} {view : σ → τ} {plain : Task (Runtime τ) α}
    (mirrors : t.Mirrors (Runtime.map view) plain) :
    (Task.on UnitDesk.runtimePart t).Mirrors (UnitDesk.map view) (Task.on UnitDesk.runtimePart plain) := by
  intro d
  obtain ⟨ending, left⟩ := mirrors d.runtime
  rw [ending_on, leave_on, ending_on, leave_on]
  exact ⟨ending, congrArg (UnitDesk.mk d.baseline d.history) left⟩

end Task

theorem Query.Mirrors.onRuntime {q : Query (Runtime σ) α} {view : σ → τ} {plain : Query (Runtime τ) α}
    (mirrors : q.Mirrors (Runtime.map view) plain) :
    (Query.on UnitDesk.runtimePart q).Mirrors (UnitDesk.map view) (Query.on UnitDesk.runtimePart plain) := by
  intro d
  obtain ⟨answer, left⟩ := mirrors d.runtime
  exact ⟨answer, congrArg (UnitDesk.mk d.baseline d.history) left⟩

theorem Token.never_mirrors (view : σ → τ) : (never : Token σ).Mirrors view never := fun _ => ⟨rfl, rfl⟩

namespace UnitEditor

/-- Seen through `view`, the collaborators of the editor do just what those of the plain one do. -/
structure Mirrors (e : UnitEditor σ) (view : σ → τ) (plain : UnitEditor τ) : Prop where
  executor : e.executor.Mirrors view plain.executor
  read : ∀ symbol type,
    (e.executor.backend.read symbol type).Mirrors view (plain.executor.backend.read symbol type)
  profileId : e.profileId = plain.profileId
  policy : e.policy = plain.policy
  freshId : Query.Mirrors e.freshId view plain.freshId

namespace Mirrors

variable {e : UnitEditor σ} {view : σ → τ} {plain : UnitEditor τ} {cancel : Token σ} {plainCancel : Token τ}

theorem readFields (mirrors : e.Mirrors view plain) (token : Query.Mirrors cancel view plainCancel)
    (fields : List UnitField) :
    (e.readFields cancel fields).Mirrors view (plain.readFields plainCancel fields) := by
  induction fields with
  | nil => exact Task.mirrors_pure _ view
  | cons f rest ih =>
    rw [UnitEditor.readFields, UnitEditor.readFields, mirrors.policy]
    refine (Token.check_mirrors token).bind fun _ => (mirrors.read _ _).bind fun value => ?_
    exact ih.bind fun _ => Task.mirrors_pure _ view

theorem capture (mirrors : e.Mirrors view plain) (token : Query.Mirrors cancel view plainCancel) :
    (e.capture cancel).Mirrors (UnitDesk.map view) (plain.capture plainCancel) := by
  refine (mirrors.readFields token UnitField.all).onWorld.onRuntime.bind fun values => ?_
  have kept := Task.mirrors_change (UnitDesk.map view) (·.keepBaseline (UnitSnapshot.zero.setAll values))
    (·.keepBaseline (UnitSnapshot.zero.setAll values)) fun _ => rfl
  exact kept.bind fun _ => Task.mirrors_pure _ _

theorem callOf (mirrors : e.Mirrors view plain) (c : UnitChange) (value : Scalar) (id : String)
    (operation : UnitOperation) : e.callOf c value id operation = plain.callOf c value id operation := by
  rw [UnitEditor.callOf, UnitEditor.callOf, mirrors.profileId, mirrors.policy]

theorem write (mirrors : e.Mirrors view plain) (token : Query.Mirrors cancel view plainCancel) (c : UnitChange)
    (value : Scalar) (id : String) (operation : UnitOperation) :
    (e.write c value id operation cancel).Mirrors (Runtime.map view)
      (plain.write c value id operation plainCancel) := by
  rw [UnitEditor.write, UnitEditor.write, mirrors.callOf]
  exact (mirrors.executor.execute token _).bind fun _ => Task.mirrors_pure _ _

theorem writeFrom (mirrors : e.Mirrors view plain) (token : Query.Mirrors cancel view plainCancel) (id : String)
    (operation : UnitOperation) (applied changes : List UnitChange) :
    (e.writeFrom id operation cancel applied changes).Mirrors (Runtime.map view)
      (plain.writeFrom id operation plainCancel applied changes) := by
  induction changes generalizing applied with
  | nil => exact Task.mirrors_pure _ _
  | cons c rest ih =>
    refine (mirrors.write token c c.new id operation).settle.bind fun answer => ?_
    match answer with
    | .ok none => exact ih (c :: applied)
    | .ok (some message) => exact Task.mirrors_pure _ _
    | .error fault => exact Task.mirrors_pure _ _

theorem undo (mirrors : e.Mirrors view plain) (id : String) (changes : List UnitChange) :
    (e.undo id changes).Mirrors (Runtime.map view) (plain.undo id changes) := by
  induction changes with
  | nil => exact Task.mirrors_pure _ _
  | cons c rest ih =>
    refine (mirrors.write (Token.never_mirrors view) c c.old id .rollback).attempt.bind fun _ => ?_
    exact ih.bind fun _ => Task.mirrors_pure _ _

theorem carryOut (mirrors : e.Mirrors view plain) (token : Query.Mirrors cancel view plainCancel)
    (before : UnitSnapshot) (changes : List UnitChange) (operation : UnitOperation) (recorded : Bool) :
    (e.carryOut before changes operation recorded cancel).Mirrors (UnitDesk.map view)
      (plain.carryOut before changes operation recorded plainCancel) := by
  refine mirrors.freshId.task.onWorld.onRuntime.bind fun id => ?_
  refine (mirrors.writeFrom token id operation [] changes).onRuntime.bind fun progress => ?_
  cases progress with
  | complete =>
    cases recorded with
    | true =>
      have pushed := Task.mirrors_change (UnitDesk.map view)
        (fun d => { d with history := d.history.push (recordOf id before changes operation) })
        (fun d => { d with history := d.history.push (recordOf id before changes operation) }) fun _ => rfl
      exact pushed.bind fun _ => Task.mirrors_pure _ _
    | false => exact Task.mirrors_pure _ _
  | stopped applied failed message =>
    exact (mirrors.undo id applied).onRuntime.bind fun _ => Task.mirrors_pure _ _

theorem edit (mirrors : e.Mirrors view plain) (token : Query.Mirrors cancel view plainCancel) (draft : UnitDraft)
    (operation : UnitOperation) (recorded : Bool) :
    (e.edit draft operation recorded cancel).Mirrors (UnitDesk.map view)
      (plain.edit draft operation recorded plainCancel) := by
  rw [UnitEditor.edit, UnitEditor.edit, mirrors.policy]
  refine (mirrors.capture token).bind fun before => ?_
  cases UnitChange.plan plain.policy before draft with
  | nil => exact Task.mirrors_pure _ _
  | cons c rest => exact mirrors.carryOut token before (c :: rest) operation recorded

theorem inMode (mirrors : e.Mirrors view plain) {act : Task (UnitDesk σ) UnitOutcome}
    {plainAct : Task (UnitDesk τ) UnitOutcome} (acts : act.Mirrors (UnitDesk.map view) plainAct) :
    (e.inMode act).Mirrors (UnitDesk.map view) (plain.inMode plainAct) := by
  refine mirrors.executor.session.onWorld.onRuntime.task.bind fun attachment => ?_
  have same : e.modeRefusal? attachment.mode = plain.modeRefusal? attachment.mode := by
    rw [modeRefusal?, modeRefusal?, mirrors.policy]
  rw [same]
  cases plain.modeRefusal? attachment.mode with
  | some refusal => exact Task.mirrors_pure _ _
  | none => exact acts

theorem apply (mirrors : e.Mirrors view plain) (token : Query.Mirrors cancel view plainCancel)
    (draft : UnitDraft) :
    (e.apply draft cancel).Mirrors (UnitDesk.map view) (plain.apply draft plainCancel) := by
  refine mirrors.inMode ?_
  cases draftRefusal? draft with
  | some refusal => exact Task.mirrors_pure _ _
  | none => exact mirrors.edit token draft .apply true

theorem revertLast (mirrors : e.Mirrors view plain) (token : Query.Mirrors cancel view plainCancel) :
    (e.revertLast cancel).Mirrors (UnitDesk.map view) (plain.revertLast plainCancel) := by
  refine mirrors.inMode (Task.mirrors_get fun d => ?_)
  have same : (UnitDesk.map view d).history = d.history := rfl
  rw [same]
  cases d.history.peek with
  | none => exact Task.mirrors_pure _ _
  | some last =>
    refine (mirrors.edit token (.ofSnapshot last.before) .revertLast false).bind fun outcome => ?_
    by_cases succeeded : outcome.succeeded = true
    · have popped := Task.mirrors_change (UnitDesk.map view) (fun d => { d with history := d.history.pop })
        (fun d => { d with history := d.history.pop }) fun _ => rfl
      rw [if_pos succeeded, if_pos succeeded]
      exact popped.bind fun _ => Task.mirrors_pure _ _
    · rw [if_neg succeeded, if_neg succeeded]
      exact Task.mirrors_pure _ _

theorem restoreBaseline (mirrors : e.Mirrors view plain) (token : Query.Mirrors cancel view plainCancel) :
    (e.restoreBaseline cancel).Mirrors (UnitDesk.map view) (plain.restoreBaseline plainCancel) := by
  refine mirrors.inMode (Task.mirrors_get fun d => ?_)
  have same : (UnitDesk.map view d).baseline = d.baseline := rfl
  rw [same]
  cases d.baseline with
  | none => exact Task.mirrors_pure _ _
  | some baseline => exact mirrors.edit token (.ofSnapshot baseline) .restoreBaseline true

end Mirrors

theorem mirrors_watched (e : UnitEditor σ) : e.watched.Mirrors Prod.fst e where
  executor := e.executor.mirrors_watched
  read _ _ := Task.mirrors_noted _ _
  profileId := rfl
  policy := rfl
  freshId := Query.mirrors_on .left _

end UnitEditor
end LiveControl
