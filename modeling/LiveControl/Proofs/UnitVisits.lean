import Mathlib.Data.List.DropRight
import LiveControl.Proofs.UnitMirrors

namespace LiveControl

open Executor (Event readsIn)

variable {σ τ : Type}

inductive UnitCall where
  | capture
  | apply (draft : UnitDraft)
  | revertLast
  | restoreBaseline
  | reset
  deriving DecidableEq

/-- Whether a call wants to write, and so needs the mode in which units may be edited. -/
def UnitCall.isEdit : UnitCall → Bool
  | .apply _ | .revertLast | .restoreBaseline => true
  | .capture | .reset => false

theorem UnitCall.ne_reset_of_isEdit {c : UnitCall} (wants : c.isEdit = true) : c ≠ .reset := by
  rintro rfl
  cases wants

inductive UnitAnswer where
  | snapshot (s : UnitSnapshot)
  | edit (o : UnitOutcome)
  | done

def UnitLedger.clear : UnitLedger := ⟨none, .empty⟩

def UnitLedger.pop (l : UnitLedger) : UnitLedger := { l with history := l.history.pop }

namespace UnitEditor

/-- What a call does. -/
def call (e : UnitEditor σ) (cancel : Token σ) : UnitCall → Task (UnitDesk σ) UnitAnswer
  | .capture => do pure (.snapshot (← e.capture cancel))
  | .apply draft => do pure (.edit (← e.apply draft cancel))
  | .revertLast => do pure (.edit (← e.revertLast cancel))
  | .restoreBaseline => do pure (.edit (← e.restoreBaseline cancel))
  | .reset => do
    reset
    pure .done

/-- Why a call is refused in every mode: for its draft, or because there is nothing to go back to. -/
def groundless? (l : UnitLedger) : UnitCall → Option UnitOutcome
  | .apply draft => draftRefusal? draft
  | .revertLast => if l.history.peek.isNone then some (.refused "no transaction to revert" "history_empty" []) else none
  | .restoreBaseline => if l.baseline.isNone then some (.refused "no baseline captured yet" "baseline_missing" []) else none
  | .capture | .reset => none

/-- Why a call is refused while the session is in a mode. The mode is looked at first. -/
def refusal? (e : UnitEditor σ) (l : UnitLedger) (mode : Mode) (c : UnitCall) : Option UnitOutcome :=
  if c.isEdit then (e.modeRefusal? mode).or (groundless? l c) else none

/-- What an edit is for that is not refused: its draft, its operation and whether it is put on record. -/
def aim? (l : UnitLedger) : UnitCall → Option (UnitDraft × UnitOperation × Bool)
  | .apply draft => some (draft, .apply, true)
  | .revertLast => l.history.peek.map fun last => (.ofSnapshot last.before, .revertLast, false)
  | .restoreBaseline => l.baseline.map fun s => (.ofSnapshot s, .restoreBaseline, true)
  | .capture | .reset => none

section

variable {d : UnitDesk σ}

theorem groundless?_revertLast (empty : d.history.peek = none) : groundless? d.ledger .revertLast =
    some (.refused "no transaction to revert" "history_empty" []) := by
  simp [groundless?, UnitDesk.ledger, empty]

theorem groundless?_restoreBaseline (missing : d.baseline = none) : groundless? d.ledger .restoreBaseline =
    some (.refused "no baseline captured yet" "baseline_missing" []) := by
  simp [groundless?, UnitDesk.ledger, missing]

theorem founded_revertLast {last : UnitRecord} (latest : d.history.peek = some last) :
    groundless? d.ledger .revertLast = none ∧
      aim? d.ledger .revertLast = some (.ofSnapshot last.before, .revertLast, false) := by
  simp [groundless?, aim?, UnitDesk.ledger, latest]

theorem founded_restoreBaseline {baseline : UnitSnapshot} (kept : d.baseline = some baseline) :
    groundless? d.ledger .restoreBaseline = none ∧
      aim? d.ledger .restoreBaseline = some (.ofSnapshot baseline, .restoreBaseline, true) := by
  simp [groundless?, aim?, UnitDesk.ledger, kept]

end

theorem Mirrors.call {e : UnitEditor σ} {view : σ → τ} {plain : UnitEditor τ} {cancel : Token σ}
    {plainCancel : Token τ} (mirrors : e.Mirrors view plain) (token : Query.Mirrors cancel view plainCancel)
    (c : UnitCall) : (e.call cancel c).Mirrors (UnitDesk.map view) (plain.call plainCancel c) := by
  cases c with
  | capture => exact (mirrors.capture token).bind fun _ => Task.mirrors_pure _ _
  | apply draft => exact (mirrors.apply token draft).bind fun _ => Task.mirrors_pure _ _
  | revertLast => exact (mirrors.revertLast token).bind fun _ => Task.mirrors_pure _ _
  | restoreBaseline => exact (mirrors.restoreBaseline token).bind fun _ => Task.mirrors_pure _ _
  | reset =>
    have cleared := Task.mirrors_change (UnitDesk.map view) UnitDesk.clear UnitDesk.clear fun _ => rfl
    exact cleared.bind fun _ => Task.mirrors_pure _ _

section

variable (e : UnitEditor σ) (cancel : Token σ)

/-- What a call that wants to write does in the right mode. -/
inductive Acted (p : Policy) (before : UnitLedger) :
    UnitCall → List Event → Except Fault UnitOutcome → UnitLedger → Prop
  | refused {c refusal} (groundless : groundless? before c = some refusal) :
      Acted p before c [] (.ok refusal) before
  | edited {c draft operation recorded notes ending after} (founded : groundless? before c = none)
      (aim : aim? before c = some (draft, operation, recorded))
      (kept : c = .revertLast → ∀ o, ending = .ok o → o.succeeded = false)
      (edited : Edited p draft operation recorded before notes ending after) : Acted p before c notes ending after
  | reverted {last notes o after} (latest : before.history.peek = some last)
      (edited : Edited p (.ofSnapshot last.before) .revertLast false before notes (.ok o) after)
      (succeeded : o.succeeded = true) :
      Acted p before .revertLast notes
        (.ok { o with diagnostics := o.diagnostics.insert "revertedTransactionId" (.str last.id) }) after.pop

/-- What a call that wants to write comes to: the session is looked at first. -/
inductive Gated (e : UnitEditor σ) (before : UnitLedger) :
    UnitCall → List Event → Except Fault UnitOutcome → UnitLedger → Prop
  | outOfMode {c refusal} (attachment) (barred : e.modeRefusal? attachment.mode = some refusal) :
      Gated e before c [.session attachment] (.ok refusal) before
  | inMode {c notes ending after} (attachment) (allowed : e.modeRefusal? attachment.mode = none)
      (acted : Acted e.policy before c notes ending after) :
      Gated e before c (.session attachment :: notes) ending after

theorem inMode_reports {act : Task (UnitDesk (σ × List Event)) UnitOutcome} {c : UnitCall}
    (acts : act.Reports UnitDesk.journal UnitDesk.ledger (Acted e.policy · c)) :
    (e.watched.inMode act).Reports UnitDesk.journal UnitDesk.ledger (Gated e · c) := by
  have looked : (Query.task (Query.on UnitDesk.runtimePart
      (Query.on Runtime.worldPart e.watched.executor.backend.session))).Reports UnitDesk.journal UnitDesk.ledger
      fun before notes ending after =>
        ∃ attachment, notes = [.session attachment] ∧ ending = .ok attachment ∧ after = before :=
    fun d => ⟨_, rfl, _, rfl, rfl, rfl⟩
  refine looked.bind ?_ nofun
  rintro before _ attachment _ ⟨_, rfl, same, rfl⟩
  cases same
  cases gate : e.watched.modeRefusal? attachment.mode with
  | some refusal =>
    refine (Task.reports_pure _ _ _).mono ?_
    rintro _ _ _ _ ⟨rfl, rfl, rfl⟩ rfl
    exact .outOfMode attachment gate
  | none =>
    refine acts.mono ?_
    rintro _ notes ending after acted rfl
    exact .inMode attachment gate acted

theorem apply_reports (draft : UnitDraft) :
    (e.watched.apply draft (Query.on .left cancel)).Reports UnitDesk.journal UnitDesk.ledger
      (Gated e · (.apply draft)) := by
  refine inMode_reports e ?_
  cases groundless : draftRefusal? draft with
  | some refusal =>
    refine (Task.reports_pure _ _ _).mono ?_
    rintro _ _ _ _ ⟨rfl, rfl, rfl⟩
    exact .refused groundless
  | none => exact (edit_reports e cancel draft .apply true).mono (.edited groundless rfl nofun)

theorem restoreBaseline_reports :
    (e.watched.restoreBaseline (Query.on .left cancel)).Reports UnitDesk.journal UnitDesk.ledger
      (Gated e · .restoreBaseline) := by
  refine inMode_reports e ?_
  refine Task.reports_get fun d => ?_
  cases kept : d.baseline with
  | none =>
    refine (Task.reports_pure _ _ _).mono ?_
    rintro _ _ _ _ ⟨rfl, rfl, rfl⟩ rfl
    exact .refused (groundless?_restoreBaseline kept)
  | some baseline =>
    refine (edit_reports e cancel (.ofSnapshot baseline) .restoreBaseline true).mono ?_
    rintro _ notes ending after edited rfl
    obtain ⟨founded, aim⟩ := founded_restoreBaseline kept
    exact .edited founded aim nofun edited

theorem revertLast_reports :
    (e.watched.revertLast (Query.on .left cancel)).Reports UnitDesk.journal UnitDesk.ledger
      (Gated e · .revertLast) := by
  refine inMode_reports e ?_
  refine Task.reports_get fun d => ?_
  cases latest : d.history.peek with
  | none =>
    refine (Task.reports_pure _ _ _).mono ?_
    rintro _ _ _ _ ⟨rfl, rfl, rfl⟩ rfl
    exact .refused (groundless?_revertLast latest)
  | some last =>
    obtain ⟨founded, aim⟩ := founded_revertLast latest
    refine (edit_reports e cancel (.ofSnapshot last.before) .revertLast false).bind ?_ ?_
    · intro before notes o between edited
      by_cases succeeded : o.succeeded = true
      · rw [if_pos succeeded]
        have popped := Task.reports_change
          (fun d : UnitDesk (σ × List Event) => { d with history := d.history.pop }) UnitLedger.pop
          (fun _ => rfl) (fun _ => rfl)
        refine Task.Reports.bind popped ?_ nofun
        rintro _ _ _ _ ⟨rfl, -, rfl⟩
        refine (Task.reports_pure _ _ _).mono ?_
        rintro _ _ _ _ ⟨rfl, rfl, rfl⟩ rfl rfl rfl
        simp only [List.append_nil]
        exact .reverted latest edited succeeded
      · rw [if_neg succeeded]
        refine (Task.reports_pure _ _ _).mono ?_
        rintro _ _ _ _ ⟨rfl, rfl, rfl⟩ rfl rfl
        rw [List.append_nil]
        have kept : ∀ other, (.ok o : Except Fault UnitOutcome) = .ok other → other.succeeded = false := by
          intro other same
          cases same
          exact Bool.eq_false_iff.2 succeeded
        exact .edited founded aim (fun _ => kept) edited
    · rintro before notes fault after edited rfl
      exact .edited founded aim nofun edited

/-- What a call comes to. -/
inductive Visited (e : UnitEditor σ) (before : UnitLedger) :
    UnitCall → List Event → Except Fault UnitAnswer → UnitLedger → Prop
  | captured {notes ending after} (captured : Captured e.policy before notes ending after) :
      Visited e before .capture notes (ending.map .snapshot) after
  | gated {c notes ending after} (wants : c.isEdit = true) (gated : Gated e before c notes ending after) :
      Visited e before c notes (ending.map .edit) after
  | reset : Visited e before .reset [] (.ok .done) .clear

theorem Gated.answers {act : Task (UnitDesk (σ × List Event)) UnitOutcome} {c : UnitCall} (wants : c.isEdit = true)
    (acts : act.Reports UnitDesk.journal UnitDesk.ledger (Gated e · c)) :
    (do pure (UnitAnswer.edit (← act))).Reports UnitDesk.journal UnitDesk.ledger (Visited e · c) := by
  refine (acts.answer UnitAnswer.edit).mono ?_
  rintro _ _ _ _ ⟨ending, rfl, gated⟩
  exact .gated wants gated

theorem call_reports (c : UnitCall) :
    (e.watched.call (Query.on .left cancel) c).Reports UnitDesk.journal UnitDesk.ledger (Visited e · c) := by
  cases c with
  | capture =>
    refine ((capture_reports e cancel).answer UnitAnswer.snapshot).mono ?_
    rintro _ _ _ _ ⟨ending, rfl, captured⟩
    exact .captured captured
  | apply draft => exact Gated.answers e rfl (apply_reports e cancel draft)
  | revertLast => exact Gated.answers e rfl (revertLast_reports e cancel)
  | restoreBaseline => exact Gated.answers e rfl (restoreBaseline_reports e cancel)
  | reset =>
    have cleared : (reset : Task (UnitDesk (σ × List Event)) Unit).Reports UnitDesk.journal UnitDesk.ledger
        fun before notes ending after => notes = [] ∧ ending = .ok () ∧ after = .clear :=
      Task.reports_change UnitDesk.clear (fun _ => .clear) (fun _ => rfl) (fun _ => rfl)
    refine (cleared.answer fun _ => UnitAnswer.done).mono ?_
    rintro _ _ _ _ ⟨_, rfl, rfl, rfl, rfl⟩
    exact .reset

end

/-- A call of a run, with its token and with what the runtime becomes just before it. -/
structure Occasion (σ : Type) where
  meanwhile : Runtime σ → Runtime σ
  call : UnitCall
  cancel : Token σ

/-- What became of a call, with what the editor remembered before it and after it. -/
structure Visit where
  call : UnitCall
  events : List Event
  ending : Except Fault UnitAnswer
  before : UnitLedger
  after : UnitLedger

/-- A desk at which nothing was done yet. -/
def freshDesk (r : Runtime σ) : UnitDesk σ := ⟨none, .empty, r⟩

def Occasion.now (o : Occasion σ) (d : UnitDesk σ) : UnitDesk σ := { d with runtime := o.meanwhile d.runtime }

/-- What the collaborators are asked during a call. -/
def asked (e : UnitEditor σ) (cancel : Token σ) (c : UnitCall) (d : UnitDesk σ) : List Event :=
  ((e.watched.call (Query.on .left cancel) c).leave
    ⟨d.baseline, d.history, ⟨d.runtime.telemetry, (d.runtime.world, [])⟩⟩).journal

def visits (e : UnitEditor σ) : List (Occasion σ) → UnitDesk σ → List Visit
  | [], _ => []
  | o :: rest, d =>
    let next := (e.call o.cancel o.call).leave (o.now d)
    ⟨o.call, e.asked o.cancel o.call (o.now d), (e.call o.cancel o.call).ending (o.now d), d.ledger, next.ledger⟩ ::
      e.visits rest next

/-- The desk that a run leaves. -/
def afterAll (e : UnitEditor σ) : List (Occasion σ) → UnitDesk σ → UnitDesk σ
  | [], d => d
  | o :: rest, d => e.afterAll rest ((e.call o.cancel o.call).leave (o.now d))

namespace Visit

/-- The call made changes that can be gone back from. -/
def Commits (x : Visit) : Prop :=
  ((∃ draft, x.call = .apply draft) ∨ x.call = .restoreBaseline) ∧
    ∃ o, x.ending = .ok (.edit o) ∧ o.succeeded = true ∧ 0 < o.applied

def Reverts (x : Visit) : Prop := x.call = .revertLast ∧ ∃ o, x.ending = .ok (.edit o) ∧ o.succeeded = true

end Visit

end UnitEditor

/-- A record says for which operation it stands, and lists the actions of some fields in their order. -/
structure UnitRecord.Proper (r : UnitRecord) : Prop where
  operation : r.operation = .apply ∨ r.operation = .restoreBaseline
  isRollback : r.isRollback = true ↔ r.operation = .restoreBaseline
  nonempty : r.actions ≠ []
  actions : r.actions.Sublist (UnitField.all.map UnitField.action)

theorem UnitHistory.push_pop {h : UnitHistory} {r : UnitRecord} (latest : h.peek = some r) : h.pop.push r = h :=
  congrArg UnitHistory.mk (List.dropLast_append_getLast? r latest)

theorem UnitHistory.size_push (h : UnitHistory) (r : UnitRecord) : (h.push r).size = h.size + 1 :=
  List.length_append

namespace UnitEditor

/-- What may be relied on in a call. -/
structure Visit.Accounted (e : UnitEditor σ) (x : Visit) : Prop where
  /-- Fields are read in their order, each at most once. -/
  places : (readsIn x.events).map (fun read => (read.1, read.2.1)) <+: UnitField.all.map (UnitField.place e.policy)
  baseline : x.call ≠ .reset → x.after.baseline = x.before.baseline.or (sight? x.events)
  captured : x.call = .capture → ∀ s, x.ending = .ok (.snapshot s) ↔ sight? x.events = some s
  /-- The history grows by one record exactly when changes were made; the record is of the snapshot seen. -/
  grows_iff : (∃ r, x.after.history = x.before.history.push r) ↔ x.Commits
  grown : ∀ r, x.after.history = x.before.history.push r → r.Proper ∧ sight? x.events = some r.before
  shrinks_iff : x.call ≠ .reset → ((∃ r, x.before.history = x.after.history.push r) ↔ x.Reverts)
  kept : x.call ≠ .reset → ¬x.Commits → ¬x.Reverts → x.after.history = x.before.history
  cleared : x.call = .reset → x.after = .clear
  /-- Whoever wants to write looks at the session first, and where that bars the call nothing else is asked. -/
  looks : x.call.isEdit = true → ∃ attachment, x.events.head? = some (.session attachment)
  barred : ∀ {attachment refusal}, x.events.head? = some (.session attachment) →
    e.refusal? x.before attachment.mode x.call = some refusal →
      x.ending = .ok (.edit refusal) ∧ x.events = [.session attachment] ∧ x.after = x.before

theorem modeRefusal?_fails {e : UnitEditor σ} {mode : Mode} {o : UnitOutcome} (barred : e.modeRefusal? mode = some o) :
    o.succeeded = false := by
  by_cases tactical : mode = e.policy.tacticalMode
  · rw [modeRefusal?, if_pos tactical] at barred
    cases barred
  · rw [modeRefusal?, if_neg tactical] at barred
    cases barred
    rfl

theorem groundless?_fails {l : UnitLedger} {c : UnitCall} {o : UnitOutcome} (groundless : groundless? l c = some o) :
    o.succeeded = false := by
  cases c with
  | capture | reset => cases groundless
  | apply draft =>
    have refused : draftRefusal? draft = some o := groundless
    unfold draftRefusal? at refused
    split at refused
    · cases refused
      rfl
    · obtain ⟨f, -, rfl⟩ := Option.map_eq_some_iff.1 refused
      rfl
  | revertLast | restoreBaseline =>
    obtain ⟨-, refused⟩ := Option.ite_none_right_eq_some.1 groundless
    cases refused
    rfl

/-- How the history changes in a call. -/
inductive Visit.Shifts (x : Visit) : Prop
  | committed (r) (commits : x.Commits) (pushed : x.after.history = x.before.history.push r) (proper : r.Proper)
      (seen : sight? x.events = some r.before)
  | reverted (r) (reverts : x.Reverts) (popped : x.before.history = x.after.history.push r)
  | cleared (forgets : x.call = .reset) (clear : x.after = .clear)
  | kept (remembers : x.call ≠ .reset) (uncommitted : ¬x.Commits) (unreverted : ¬x.Reverts)
      (same : x.after.history = x.before.history)

namespace Visit

theorem Commits.not_reverts {x : Visit} (commits : x.Commits) : ¬x.Reverts := by
  rintro ⟨reverts, -⟩
  obtain ⟨⟨draft, same⟩ | same, -⟩ := commits <;> cases reverts.symm.trans same

theorem Commits.remembers {x : Visit} (commits : x.Commits) : x.call ≠ .reset := by
  intro forgets
  obtain ⟨⟨draft, same⟩ | same, -⟩ := commits <;> cases forgets.symm.trans same

theorem Reverts.remembers {x : Visit} (reverts : x.Reverts) : x.call ≠ .reset :=
  fun forgets => by cases forgets.symm.trans reverts.1

namespace Shifts

variable {x : Visit}

/-- A history that grew by a record is the result of a committed edit. -/
theorem of_push (shifts : x.Shifts) {r : UnitRecord} (grew : x.after.history = x.before.history.push r) :
    x.Commits ∧ r.Proper ∧ sight? x.events = some r.before := by
  have size := congrArg UnitHistory.size grew
  rw [UnitHistory.size_push] at size
  cases shifts with
  | committed r' commits pushed proper seen =>
    have same : r' = r := by
      have latest := congrArg UnitHistory.peek (pushed.symm.trans grew)
      rw [UnitHistory.peek_push, UnitHistory.peek_push] at latest
      exact Option.some.inj latest
    exact ⟨commits, same ▸ proper, same ▸ seen⟩
  | reverted r' reverts popped =>
    rw [popped, UnitHistory.size_push] at size
    omega
  | cleared forgets clear =>
    rw [clear] at size
    exact absurd size (Nat.succ_ne_zero _).symm
  | kept remembers uncommitted unreverted same =>
    rw [same] at size
    omega

theorem grows_iff (shifts : x.Shifts) : (∃ r, x.after.history = x.before.history.push r) ↔ x.Commits := by
  constructor
  · rintro ⟨r, grew⟩
    exact (shifts.of_push grew).1
  · intro commits
    cases shifts with
    | committed r _ pushed => exact ⟨r, pushed⟩
    | reverted r reverts => exact absurd reverts commits.not_reverts
    | cleared forgets => exact absurd forgets commits.remembers
    | kept _ uncommitted => exact absurd commits uncommitted

theorem shrinks_iff (shifts : x.Shifts) (remembers : x.call ≠ .reset) :
    (∃ r, x.before.history = x.after.history.push r) ↔ x.Reverts := by
  constructor
  · rintro ⟨r, shrank⟩
    have size := congrArg UnitHistory.size shrank
    rw [UnitHistory.size_push] at size
    cases shifts with
    | committed r' commits pushed =>
      rw [pushed, UnitHistory.size_push] at size
      omega
    | reverted r' reverts => exact reverts
    | cleared forgets => exact absurd forgets remembers
    | kept _ _ _ same =>
      rw [same] at size
      omega
  · intro reverts
    cases shifts with
    | committed r commits => exact absurd reverts commits.not_reverts
    | reverted r _ popped => exact ⟨r, popped⟩
    | cleared forgets => exact absurd forgets remembers
    | kept _ _ unreverted => exact absurd reverts unreverted

theorem same_of_neither (shifts : x.Shifts) (remembers : x.call ≠ .reset) (uncommitted : ¬x.Commits)
    (unreverted : ¬x.Reverts) : x.after.history = x.before.history := by
  cases shifts with
  | committed r commits => exact absurd commits uncommitted
  | reverted r reverts => exact absurd reverts unreverted
  | cleared forgets => exact absurd forgets remembers
  | kept _ _ _ same => exact same

theorem after_of_reset (shifts : x.Shifts) (forgets : x.call = .reset) : x.after = .clear := by
  cases shifts with
  | committed r commits => exact absurd forgets commits.remembers
  | reverted r reverts => exact absurd forgets reverts.remembers
  | cleared _ clear => exact clear
  | kept remembers => exact absurd forgets remembers

end Shifts
end Visit

theorem recordOf_proper {p : Policy} {s : UnitSnapshot} {draft : UnitDraft} (id : String) {operation : UnitOperation}
    (something : UnitChange.plan p s draft ≠ []) (known : operation = .apply ∨ operation = .restoreBaseline) :
    (recordOf id s (UnitChange.plan p s draft) operation).Proper where
  operation := known
  isRollback := decide_eq_true_iff
  nonempty := fun empty => something (List.map_eq_nil_iff.1 empty)
  actions := by
    have named : (UnitChange.plan p s draft).map UnitChange.action =
        ((UnitChange.plan p s draft).map UnitChange.field).map UnitField.action := by
      rw [List.map_map]
      exact List.map_congr_left fun c member => (UnitChange.fits_of_mem_plan member).action
    show ((UnitChange.plan p s draft).map UnitChange.action).Sublist _
    rw [named]
    exact (UnitChange.plan_fields_sublist p s draft).map UnitField.action

theorem Edited.history_of_unrecorded {p : Policy} {draft : UnitDraft} {operation : UnitOperation}
    {before after : UnitLedger} {notes : List Event} {ending : Except Fault UnitOutcome}
    (edited : Edited p draft operation false before notes ending after) : after.history = before.history := by
  cases edited with
  | unseen => rfl
  | unchanged => rfl
  | carried _ _ carried => cases carried <;> rfl

/-- An edit that is put on record is an edit of its own. -/
theorem recorded_of_aim {l : UnitLedger} {c : UnitCall} {draft : UnitDraft} {operation : UnitOperation}
    {recorded : Bool} (aim : aim? l c = some (draft, operation, recorded)) (own : c ≠ .revertLast) :
    recorded = true ∧ (operation = .apply ∨ operation = .restoreBaseline) ∧
      ((∃ draft, c = .apply draft) ∨ c = .restoreBaseline) := by
  cases c with
  | capture | reset => cases aim
  | apply draft =>
    cases aim
    exact ⟨rfl, .inl rfl, .inl ⟨draft, rfl⟩⟩
  | revertLast => exact absurd rfl own
  | restoreBaseline =>
    obtain ⟨s, -, same⟩ := Option.map_eq_some_iff.1 aim
    cases same
    exact ⟨rfl, .inr rfl, .inr rfl⟩

section

variable {e : UnitEditor σ} {c : UnitCall} {before after : UnitLedger} {notes : List Event}

theorem Visit.Shifts.of_failing {x : Visit} (remembers : x.call ≠ .reset)
    (fails : ∀ o, x.ending = .ok (.edit o) → o.succeeded = false) (same : x.after.history = x.before.history) :
    x.Shifts := by
  refine .kept remembers ?_ ?_ same
  · rintro ⟨-, o, ended, succeeded, -⟩
    rw [fails o ended] at succeeded
    cases succeeded
  · rintro ⟨-, o, ended, succeeded⟩
    rw [fails o ended] at succeeded
    cases succeeded

theorem Acted.shifts {p : Policy} {ending : Except Fault UnitOutcome} (attachment : Attachment) (wants : c.isEdit = true)
    (acted : Acted p before c notes ending after) :
    Visit.Shifts ⟨c, .session attachment :: notes, ending.map .edit, before, after⟩ := by
  have remembers := UnitCall.ne_reset_of_isEdit wants
  cases acted with
  | refused groundless =>
    refine .of_failing remembers ?_ rfl
    rintro o ⟨⟩
    exact groundless?_fails groundless
  | @reverted last notes o between latest edited succeeded =>
    refine .reverted last ⟨rfl, _, rfl, succeeded⟩ ?_
    show before.history = between.history.pop.push last
    rw [edited.history_of_unrecorded, UnitHistory.push_pop latest]
  | edited founded aim kept edited =>
    cases edited with
    | unseen looked => exact .of_failing remembers nofun rfl
    | unchanged looked nothing =>
      refine .kept remembers ?_ ?_ rfl
      · rintro ⟨-, o, ⟨⟩, -, some⟩
        exact absurd some (Nat.lt_irrefl 0)
      · rintro ⟨reverts, o, ⟨⟩, -⟩
        cases kept reverts _ rfl
    | carried looked something carried =>
      cases carried with
      | committed id =>
        have own : c ≠ .revertLast := by
          intro reverts
          cases kept reverts _ rfl
        obtain ⟨rfl, known, edits⟩ := recorded_of_aim aim own
        exact .committed _ ⟨edits, _, rfl, rfl, List.length_pos_iff.2 something⟩ rfl
          (recordOf_proper id something known) looked.sight
      | failed id action message steps undone =>
        refine .of_failing remembers ?_ rfl
        rintro o ⟨⟩
        rfl
      | interrupted fault => exact .of_failing remembers nofun rfl

theorem Visited.shifts {ending : Except Fault UnitAnswer} (visited : Visited e before c notes ending after) :
    Visit.Shifts ⟨c, notes, ending, before, after⟩ := by
  cases visited with
  | captured captured =>
    cases captured with
    | unseen looked => exact .of_failing nofun nofun rfl
    | seen looked => exact .of_failing nofun nofun rfl
  | reset => exact .cleared rfl rfl
  | gated wants gated =>
    cases gated with
    | inMode attachment allowed acted => exact acted.shifts attachment wants
    | outOfMode attachment barred =>
      refine .of_failing (UnitCall.ne_reset_of_isEdit wants) ?_ rfl
      rintro o ⟨⟩
      exact modeRefusal?_fails barred

/-- What is read and what becomes of the baseline: the first snapshot is kept. -/
structure Sees (p : Policy) (before : UnitLedger) (notes : List Event) (after : UnitLedger) : Prop where
  places : (readsIn notes).map (fun read => (read.1, read.2.1)) <+: UnitField.all.map (UnitField.place p)
  baseline : after.baseline = before.baseline.or (sight? notes)

theorem Sees.of_error {p : Policy} {fault : Fault} (looked : Looked p notes (.error fault)) :
    Sees p before notes before where
  places := looked.places
  baseline := by rw [looked.sight, Except.toOption, Option.or_none]

theorem Sees.of_ok {p : Policy} {s : UnitSnapshot} (looked : Looked p notes (.ok s))
    (baseline : after.baseline = (before.keep s).baseline) : Sees p before notes after where
  places := looked.places
  baseline := by
    rw [looked.sight, baseline, UnitLedger.keep, Except.toOption]
    cases before.baseline <;> rfl

theorem Edited.sees {p : Policy} {draft : UnitDraft} {operation : UnitOperation} {recorded : Bool}
    {ending : Except Fault UnitOutcome} (edited : Edited p draft operation recorded before notes ending after) :
    Sees p before notes after := by
  cases edited with
  | unseen looked => exact .of_error looked
  | unchanged looked nothing => exact .of_ok looked rfl
  | carried looked something carried =>
    refine .of_ok looked ?_
    cases carried with
    | committed id => cases recorded <;> rfl
    | failed => rfl
    | interrupted fault => rfl

theorem Visited.sees {ending : Except Fault UnitAnswer} (visited : Visited e before c notes ending after)
    (remembers : c ≠ .reset) : Sees e.policy before notes after := by
  have barred : ∀ attachment, Sees e.policy before [.session attachment] before :=
    fun attachment => ⟨List.nil_prefix, (Option.or_none).symm⟩
  cases visited with
  | reset => exact absurd rfl remembers
  | captured captured =>
    cases captured with
    | unseen looked => exact .of_error looked
    | seen looked => exact .of_ok looked rfl
  | gated wants gated =>
    cases gated with
    | outOfMode attachment => exact barred attachment
    | inMode attachment allowed acted =>
      cases acted with
      | refused groundless => exact barred attachment
      | edited founded aim kept edited => exact ⟨edited.sees.places, edited.sees.baseline⟩
      | reverted latest edited succeeded => exact ⟨edited.sees.places, edited.sees.baseline⟩

/-- A capture answers with the snapshot that was seen. -/
theorem Visited.captured_iff {ending : Except Fault UnitAnswer} (visited : Visited e before c notes ending after)
    (captures : c = .capture) (s : UnitSnapshot) : ending = .ok (.snapshot s) ↔ sight? notes = some s := by
  subst captures
  cases visited with
  | gated wants => cases wants
  | captured captured =>
    cases captured with
    | unseen looked => simp [looked.sight, Except.map, Except.toOption]
    | seen looked => simp [looked.sight, Except.map, Except.toOption]

theorem Gated.head {ending : Except Fault UnitOutcome} (gated : Gated e before c notes ending after) :
    ∃ attachment, notes.head? = some (.session attachment) := by
  cases gated with
  | outOfMode attachment => exact ⟨attachment, rfl⟩
  | inMode attachment => exact ⟨attachment, rfl⟩

theorem Acted.founded {p : Policy} {ending : Except Fault UnitOutcome} (acted : Acted p before c notes ending after)
    {refusal : UnitOutcome} (groundless : groundless? before c = some refusal) :
    ending = .ok refusal ∧ notes = [] ∧ after = before := by
  cases acted with
  | refused same =>
    cases same.symm.trans groundless
    exact ⟨rfl, rfl, rfl⟩
  | edited founded => cases founded.symm.trans groundless
  | reverted latest =>
    rw [groundless?, latest] at groundless
    cases groundless

/-- A call that is barred asks for the session, and that is all that it does. -/
theorem Visited.barred {ending : Except Fault UnitAnswer} (visited : Visited e before c notes ending after)
    {attachment : Attachment} {refusal : UnitOutcome} (looked : notes.head? = some (.session attachment))
    (barred : e.refusal? before attachment.mode c = some refusal) :
    ending = .ok (.edit refusal) ∧ notes = [.session attachment] ∧ after = before := by
  cases visited with
  | captured => cases barred
  | reset => cases barred
  | gated wants gated =>
    rw [refusal?, if_pos wants] at barred
    cases gated with
    | outOfMode attachment gate =>
      cases looked
      rw [gate] at barred
      cases barred
      exact ⟨rfl, rfl, rfl⟩
    | inMode attachment allowed acted =>
      cases looked
      rw [allowed, Option.none_or] at barred
      obtain ⟨rfl, rfl, same⟩ := acted.founded barred
      exact ⟨rfl, rfl, same⟩

theorem Visited.accounted {ending : Except Fault UnitAnswer} (visited : Visited e before c notes ending after) :
    Visit.Accounted e ⟨c, notes, ending, before, after⟩ := by
  have shifts := visited.shifts
  exact {
    places := by
      by_cases forgets : c = .reset
      · subst forgets
        cases visited with
        | gated wants => cases wants
        | reset => exact List.nil_prefix
      · exact (visited.sees forgets).places
    baseline := fun remembers => (visited.sees remembers).baseline
    captured := visited.captured_iff
    grows_iff := shifts.grows_iff
    grown := fun r grew => (shifts.of_push grew).2
    shrinks_iff := shifts.shrinks_iff
    kept := shifts.same_of_neither
    cleared := shifts.after_of_reset
    looks := by
      intro wants
      cases visited with
      | captured => cases wants
      | reset => cases wants
      | gated _ gated => exact gated.head
    barred := visited.barred }

end

theorem accounted_asked (e : UnitEditor σ) (cancel : Token σ) (c : UnitCall) (d : UnitDesk σ) :
    Visit.Accounted e ⟨c, e.asked cancel c d, (e.call cancel c).ending d, d.ledger,
      ((e.call cancel c).leave d).ledger⟩ := by
  let start : UnitDesk (σ × List Event) := ⟨d.baseline, d.history, ⟨d.runtime.telemetry, (d.runtime.world, [])⟩⟩
  obtain ⟨notes, added, visited⟩ := call_reports e cancel c start
  obtain ⟨ending, left⟩ := e.mirrors_watched.call (Query.mirrors_on .left cancel) c start
  have asked : e.asked cancel c d = notes := added
  have after : ((e.watched.call (Query.on .left cancel) c).leave start).ledger = ((e.call cancel c).leave d).ledger :=
    congrArg UnitDesk.ledger left
  rw [asked, ← after]
  exact (ending ▸ visited).accounted

section

variable (e : UnitEditor σ) (occasions : List (Occasion σ))

theorem calls_visits (d : UnitDesk σ) :
    (e.visits occasions d).map Visit.call = occasions.map Occasion.call := by
  induction occasions generalizing d with
  | nil => rfl
  | cons o rest ih => rw [visits, List.map_cons, List.map_cons, ih]

theorem accounted_of_mem_visits (d : UnitDesk σ) {x : Visit} (member : x ∈ e.visits occasions d) :
    x.Accounted e := by
  induction occasions generalizing d with
  | nil => cases member
  | cons o rest ih =>
    rcases List.mem_cons.1 member with rfl | later
    · exact accounted_asked e o.cancel o.call (o.now d)
    · exact ih _ later

end

/-- The calls since the desk was last cleared. -/
def sinceReset (visits : List Visit) : List Visit := visits.rtakeWhile fun x => x.call ≠ .reset

/-- What is remembered after calls: the first snapshot since the desk was cleared, and records of edits made
since then. -/
structure Keeping (past : List Visit) (l : UnitLedger) : Prop where
  baseline : l.baseline = (sinceReset past).findSome? fun x => sight? x.events
  anchored : l.history.records ≠ [] → l.baseline ≠ none
  records : ∀ r ∈ l.history.records, r.Proper

theorem sinceReset_concat (past : List Visit) (x : Visit) :
    sinceReset (past ++ [x]) = if x.call = .reset then [] else sinceReset past ++ [x] := by
  rw [sinceReset, List.rtakeWhile_concat]
  by_cases forgets : x.call = .reset <;> simp [forgets, sinceReset]

/-- Where the desk is not cleared, a record is an old one, or one of a snapshot that was just seen. -/
theorem Visit.Accounted.mem_records {e : UnitEditor σ} {x : Visit} (accounted : x.Accounted e)
    (remembers : x.call ≠ .reset) {r : UnitRecord} (member : r ∈ x.after.history.records) :
    r ∈ x.before.history.records ∨ (r.Proper ∧ sight? x.events = some r.before) := by
  by_cases commits : x.Commits
  · obtain ⟨latest, grew⟩ := accounted.grows_iff.2 commits
    rw [grew] at member
    rcases List.mem_append.1 member with old | new
    · exact .inl old
    · obtain rfl := List.mem_singleton.1 new
      exact .inr (accounted.grown _ grew)
  · by_cases reverts : x.Reverts
    · obtain ⟨latest, shrank⟩ := (accounted.shrinks_iff remembers).2 reverts
      rw [shrank]
      exact .inl (List.mem_append_left _ member)
    · rw [accounted.kept remembers commits reverts] at member
      exact .inl member

theorem Keeping.visit {e : UnitEditor σ} {past : List Visit} {x : Visit} (keeping : Keeping past x.before)
    (accounted : x.Accounted e) : Keeping (past ++ [x]) x.after := by
  by_cases forgets : x.call = .reset
  · rw [accounted.cleared forgets]
    have none_seen : sinceReset (past ++ [x]) = [] := by rw [sinceReset_concat, if_pos forgets]
    exact ⟨by rw [none_seen]; rfl, fun some => absurd rfl some, nofun⟩
  · have seen : x.after.baseline = x.before.baseline.or (sight? x.events) := accounted.baseline forgets
    refine ⟨?_, fun nonempty => ?_, fun r member => ?_⟩
    · have latest : [x].findSome? (fun x => sight? x.events) = sight? x.events := by
        rw [List.findSome?_singleton]
      rw [seen, keeping.baseline, sinceReset_concat, if_neg forgets, List.findSome?_append, latest]
    · obtain ⟨r, member⟩ := List.exists_mem_of_ne_nil _ nonempty
      rw [seen]
      rcases accounted.mem_records forgets member with old | ⟨-, sight⟩
      · have anchored := keeping.anchored (List.ne_nil_of_mem old)
        simp [anchored]
      · simp [sight]
    · rcases accounted.mem_records forgets member with old | ⟨proper, -⟩
      · exact keeping.records r old
      · exact proper

theorem Keeping.visits {past : List Visit} {d : UnitDesk σ} (keeping : Keeping past d.ledger) (e : UnitEditor σ)
    (occasions : List (Occasion σ)) :
    Keeping (past ++ e.visits occasions d) (e.afterAll occasions d).ledger := by
  induction occasions generalizing past d with
  | nil => exact (List.append_nil past).symm ▸ keeping
  | cons o rest ih =>
    have next := Keeping.visit keeping (accounted_asked e o.cancel o.call (o.now d))
    have later := ih next
    rwa [List.append_assoc] at later

/-- Whatever is called, whatever the collaborators answer and whenever the tokens fire, every call is
accounted for. The baseline is the first snapshot since the desk was cleared, there are records only with a
baseline, and every record is proper. The run may stop anywhere, so this holds at every point of a longer
one. -/
theorem visits_accounted (e : UnitEditor σ) (occasions : List (Occasion σ)) (r : Runtime σ) :
    (∀ cancel c, (e.watched.call (Query.on .left cancel) c).Mirrors (UnitDesk.map Prod.fst) (e.call cancel c)) ∧
    (e.visits occasions (freshDesk r)).map Visit.call = occasions.map Occasion.call ∧
    (∀ x ∈ e.visits occasions (freshDesk r), x.Accounted e) ∧
    (e.afterAll occasions (freshDesk r)).baseline =
      (sinceReset (e.visits occasions (freshDesk r))).findSome? (fun x => sight? x.events) ∧
    ((e.afterAll occasions (freshDesk r)).history.records ≠ [] →
      (e.afterAll occasions (freshDesk r)).baseline ≠ none) ∧
    ∀ record ∈ (e.afterAll occasions (freshDesk r)).history.records, record.Proper := by
  have fresh : Keeping [] (freshDesk r).ledger := ⟨rfl, fun some => absurd rfl some, nofun⟩
  have keeping := fresh.visits e occasions
  exact ⟨fun cancel c => e.mirrors_watched.call (Query.mirrors_on .left cancel) c, calls_visits e occasions _,
    fun x => accounted_of_mem_visits e occasions _, keeping.baseline, keeping.anchored, keeping.records⟩

end UnitEditor
end LiveControl
