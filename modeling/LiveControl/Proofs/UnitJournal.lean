import LiveControl.Proofs.ExecutorJournal
import LiveControl.Proofs.UnitPlan
import LiveControl.UnitSheet.Editor

namespace LiveControl

open Executor (Event)

variable {σ τ α β : Type}

namespace Executor

def Event.read? : Event → Option (String × ValueType × Except Fault Scalar)
  | .read symbol type answer => some (symbol, type, answer)
  | _ => none

/-- The reads in order, with their answers. -/
def readsIn (events : List Event) : List (String × ValueType × Except Fault Scalar) :=
  events.filterMap Event.read?

theorem readsIn_append_of_quiet (events : List Event) {more : List Event} (quiet : ∀ e ∈ more, e.read? = none) :
    readsIn (events ++ more) = readsIn events := by
  have nothing : readsIn more = [] := List.filterMap_eq_nil_iff.2 quiet
  rw [readsIn, List.filterMap_append]
  exact (congrArg (readsIn events ++ ·) nothing).trans (List.append_nil _)

theorem Story.quiet {call : ActionCall} {events : List Event} {ending : Except Fault Outcome}
    (story : Story call events ending) : ∀ e ∈ events, e.read? = none := by
  cases story with
  | cancelled | unknown | refused | interrupted => simp [Event.read?]
  | unrecorded _ works | recorded _ works => cases works <;> simp [Event.read?]

/-- The execution of an action reads nothing. -/
theorem execute_reads_nothing (e : Executor σ) (call : ActionCall) (cancel : Token σ) :
    (e.watched.execute call (Query.on .left cancel)).NotesIn (fun r => r.world.2)
      (fun event => event.read? = none) := by
  intro r
  obtain ⟨events, added, story, -⟩ := execute_told e call cancel r
  exact ⟨events, added, story.quiet⟩

end Executor

open Executor (readsIn)

/-- The snapshot of all reads in a journal, if every field was read. -/
def sight? (events : List Event) : Option UnitSnapshot :=
  let values := (readsIn events).filterMap fun read => read.2.2.toOption
  if values.length = UnitField.all.length then some (UnitSnapshot.zero.setAll (UnitField.all.zip values))
  else none

/-- What is read for a field: its symbol, with the type of its values. -/
def UnitField.place (p : Policy) (f : UnitField) : String × ValueType := (UnitChange.symbolOf p f, f.valueType)

/-- The reads of fields one after the other, to the first that has no value. -/
inductive Looks (p : Policy) : List UnitField → List Event → Except Fault (List (UnitField × Scalar)) → Prop
  | done : Looks p [] [] (.ok [])
  | cancelled {f rest} : Looks p (f :: rest) [] (.error .cancelled)
  | failed {f rest} (fault) :
      Looks p (f :: rest) [.read (UnitChange.symbolOf p f) f.valueType (.error fault)] (.error fault)
  | read {f rest events ending} (value) (later : Looks p rest events ending) :
      Looks p (f :: rest) (.read (UnitChange.symbolOf p f) f.valueType (.ok value) :: events)
        (ending.map ((f, value) :: ·))

namespace Looks

variable {p : Policy} {fields : List UnitField} {events : List Event}
  {ending : Except Fault (List (UnitField × Scalar))}

theorem places (looks : Looks p fields events ending) :
    (readsIn events).map (fun read => (read.1, read.2.1)) <+: fields.map (UnitField.place p) := by
  induction looks with
  | done => exact List.prefix_refl []
  | cancelled => exact List.nil_prefix
  | failed fault => exact ⟨_, rfl⟩
  | read value later ih => exact (List.prefix_cons_inj _).2 ih

/-- Looking comes to an end exactly when every field has a value. -/
theorem values (looks : Looks p fields events ending) :
    match ending with
    | .ok values => values = fields.zip ((readsIn events).filterMap fun read => read.2.2.toOption) ∧
        ((readsIn events).filterMap fun read => read.2.2.toOption).length = fields.length
    | .error _ => ((readsIn events).filterMap fun read => read.2.2.toOption).length < fields.length := by
  induction looks with
  | done => exact ⟨rfl, rfl⟩
  | cancelled => exact Nat.zero_lt_succ _
  | failed fault => exact Nat.zero_lt_succ _
  | @read f rest events ending value later ih =>
    cases ending with
    | error fault => exact Nat.succ_lt_succ ih
    | ok values => exact ⟨congrArg ((f, value) :: ·) ih.1, congrArg (· + 1) ih.2⟩

end Looks

/-- The reads of a snapshot that is taken, or could not be. -/
structure Looked (p : Policy) (events : List Event) (ending : Except Fault UnitSnapshot) : Prop where
  places : (readsIn events).map (fun read => (read.1, read.2.1)) <+: UnitField.all.map (UnitField.place p)
  sight : sight? events = ending.toOption

theorem Looks.looked {p : Policy} {events : List Event} {ending : Except Fault (List (UnitField × Scalar))}
    (looks : Looks p UnitField.all events ending) : Looked p events (ending.map UnitSnapshot.zero.setAll) where
  places := looks.places
  sight := by
    have values := looks.values
    unfold sight?
    cases ending with
    | error fault => exact if_neg (Nat.ne_of_lt values)
    | ok read =>
      obtain ⟨rfl, all⟩ := values
      exact if_pos all

theorem Looked.append {p : Policy} {events more : List Event} {ending : Except Fault UnitSnapshot}
    (looked : Looked p events ending) (quiet : ∀ e ∈ more, e.read? = none) : Looked p (events ++ more) ending where
  places := by
    rw [Executor.readsIn_append_of_quiet events quiet]
    exact looked.places
  sight := by
    rw [sight?, Executor.readsIn_append_of_quiet events quiet]
    exact looked.sight

/-- What an editor remembers. -/
structure UnitLedger where
  baseline : Option UnitSnapshot
  history : UnitHistory

def UnitLedger.keep (l : UnitLedger) (s : UnitSnapshot) : UnitLedger :=
  { l with baseline := some (l.baseline.getD s) }

def UnitLedger.push (l : UnitLedger) (r : UnitRecord) : UnitLedger := { l with history := l.history.push r }

namespace UnitDesk

def ledger (d : UnitDesk σ) : UnitLedger := ⟨d.baseline, d.history⟩

def journal (d : UnitDesk (σ × List Event)) : List Event := d.runtime.world.2

end UnitDesk

/-- What is done on the runtime leaves the ledger alone. -/
theorem Task.reports_onRuntime {t : Task (Runtime (σ × List Event)) α} {P : Event → Prop}
    (fits : t.NotesIn (fun r => r.world.2) P) :
    (Task.on UnitDesk.runtimePart t).Reports UnitDesk.journal UnitDesk.ledger fun before notes _ after =>
      (∀ e ∈ notes, P e) ∧ after = before := by
  intro d
  rw [Task.leave_on]
  obtain ⟨notes, added, each⟩ := fits d.runtime
  exact ⟨notes, added, each, rfl⟩

theorem Task.reports_onWorld {t : Task (σ × List Event) α} {story : List Event → Except Fault α → Prop}
    (told : t.Tells story) :
    (Task.on UnitDesk.runtimePart (Task.on Runtime.worldPart t)).Reports UnitDesk.journal UnitDesk.ledger
      fun before notes ending after => story notes ending ∧ after = before := by
  intro d
  rw [Task.leave_on, Task.leave_on, Task.ending_on, Task.ending_on]
  obtain ⟨notes, added, fits⟩ := told d.runtime.world
  exact ⟨notes, added, fits, rfl⟩

/-- A change of what is remembered asks nothing. -/
theorem Task.reports_change (f : UnitDesk (σ × List Event) → UnitDesk (σ × List Event)) (g : UnitLedger → UnitLedger)
    (journal : ∀ d, (f d).journal = d.journal) (ledger : ∀ d, (f d).ledger = g d.ledger) :
    (Task.change .whole f).Reports UnitDesk.journal UnitDesk.ledger fun before notes ending after =>
      notes = [] ∧ ending = .ok () ∧ after = g before :=
  fun d => ⟨[], (journal d).trans (List.append_nil _).symm, rfl, rfl, ledger d⟩

namespace UnitEditor

variable (e : UnitEditor σ) (cancel : Token σ)

/-- The editor with a note of everything that the collaborators are asked. -/
def watched : UnitEditor (σ × List Event) where
  executor := e.executor.watched
  profileId := e.profileId
  policy := e.policy
  freshId := Query.on .left e.freshId

theorem readFields_tells (fields : List UnitField) :
    (e.watched.readFields (Query.on .left cancel) fields).Tells (Looks e.policy fields) := by
  induction fields with
  | nil =>
    refine (Task.tells_pure _).mono ?_
    rintro _ _ ⟨rfl, rfl⟩
    exact .done
  | cons f rest ih =>
    have asked : (Token.check (Query.on .left cancel)).Tells fun (notes : List Event) ending =>
        notes = [] ∧ ∀ fault, ending = .error fault → fault = .cancelled := by
      intro s
      rw [Token.ending_check, Token.leave_check]
      refine ⟨[], (List.append_nil _).symm, rfl, fun fault faulted => ?_⟩
      split at faulted <;> cases faulted
      rfl
    have read := Task.tells_noted
      (e.executor.backend.read (UnitChange.symbolOf e.policy f) f.valueType)
      (Event.read (UnitChange.symbolOf e.policy f) f.valueType)
    refine asked.bind ?_ ?_
    · rintro _ _ ⟨rfl, -⟩
      refine read.bind ?_ ?_
      · rintro value _ rfl
        refine ih.bind ?_ fun later => .read value later
        intro others notes later
        refine (Task.tells_pure _).mono ?_
        rintro _ _ ⟨rfl, rfl⟩
        rw [List.append_nil]
        exact .read value later
      · rintro fault _ rfl
        exact .failed fault
    · rintro fault _ ⟨rfl, fired⟩
      rw [fired fault rfl]
      exact .cancelled

/-- What taking a snapshot comes to: the first one that is taken becomes the baseline. -/
inductive Captured (p : Policy) (before : UnitLedger) :
    List Event → Except Fault UnitSnapshot → UnitLedger → Prop
  | unseen {notes fault} (looked : Looked p notes (.error fault)) : Captured p before notes (.error fault) before
  | seen {notes s} (looked : Looked p notes (.ok s)) : Captured p before notes (.ok s) (before.keep s)

theorem capture_reports :
    (e.watched.capture (Query.on .left cancel)).Reports UnitDesk.journal UnitDesk.ledger (Captured e.policy) := by
  refine (Task.reports_onWorld (readFields_tells e cancel UnitField.all)).bind ?_ ?_
  · rintro before notes values _ ⟨looks, rfl⟩
    have kept := Task.reports_change (fun d : UnitDesk (σ × List Event) => d.keepBaseline (UnitSnapshot.zero.setAll values))
      (fun l => l.keep (UnitSnapshot.zero.setAll values)) (fun _ => rfl) (fun _ => rfl)
    refine kept.bind ?_ nofun
    rintro start _ _ _ ⟨rfl, -, rfl⟩
    refine (Task.reports_pure _ _ _).mono ?_
    rintro _ _ _ _ ⟨rfl, rfl, rfl⟩ rfl rfl
    simp only [List.append_nil]
    exact .seen looks.looked
  · rintro before notes fault _ ⟨looks, rfl⟩
    exact .unseen looks.looked

theorem write_reads_nothing (c : UnitChange) (value : Scalar) (id : String) (operation : UnitOperation) :
    (e.watched.write c value id operation (Query.on .left cancel)).NotesIn (fun r => r.world.2)
      (fun event => event.read? = none) :=
  (Executor.execute_reads_nothing e.executor _ cancel).bind fun _ => Task.notesIn_pure _ _ _

/-- What is noted while changes are written is noted in one write or another. -/
theorem writeFrom_notesIn {P : Event → Prop} {id : String} {operation : UnitOperation} (applied : List UnitChange)
    {changes : List UnitChange}
    (fits : ∀ c ∈ changes, (e.watched.write c c.new id operation (Query.on .left cancel)).NotesIn (fun r => r.world.2) P) :
    (e.watched.writeFrom id operation (Query.on .left cancel) applied changes).NotesIn (fun r => r.world.2) P := by
  induction changes generalizing applied with
  | nil => exact Task.notesIn_pure _ _ _
  | cons c rest ih =>
    obtain ⟨first, later⟩ := List.forall_mem_cons.1 fits
    refine first.settle.bind fun answer => ?_
    match answer with
    | .ok none => exact ih (c :: applied) later
    | .ok (some message) => exact Task.notesIn_pure _ _ _
    | .error fault => exact Task.notesIn_pure _ _ _

theorem undo_notesIn {P : Event → Prop} {id : String} {changes : List UnitChange}
    (fits : ∀ c ∈ changes, (e.watched.write c c.old id .rollback .never).NotesIn (fun r => r.world.2) P) :
    (e.watched.undo id changes).NotesIn (fun r => r.world.2) P := by
  induction changes with
  | nil => exact Task.notesIn_pure _ _ _
  | cons c rest ih =>
    obtain ⟨first, later⟩ := List.forall_mem_cons.1 fits
    refine first.attempt.bind fun _ => ?_
    exact (ih later).bind fun _ => Task.notesIn_pure _ _ _

/-- What carrying out a plan comes to: only when every change was made is there something to remember. -/
inductive Carried (s : UnitSnapshot) (changes : List UnitChange) (operation : UnitOperation) (recorded : Bool)
    (before : UnitLedger) : Except Fault UnitOutcome → UnitLedger → Prop
  | committed (id) :
      Carried s changes operation recorded before (.ok (.committed id changes.length))
        (if recorded then before.push (recordOf id s changes operation) else before)
  | failed (id action message steps undone) :
      Carried s changes operation recorded before (.ok (.failed id action message steps undone)) before
  | interrupted (fault) : Carried s changes operation recorded before (.error fault) before

/-- A task that asks for no reads, and does with the ledger what its story says. -/
abbrev QuietlyReports (t : Task (UnitDesk (σ × List Event)) α)
    (story : UnitLedger → Except Fault α → UnitLedger → Prop) : Prop :=
  t.Reports UnitDesk.journal UnitDesk.ledger fun before notes ending after =>
    (∀ event ∈ notes, event.read? = none) ∧ story before ending after

theorem QuietlyReports.after {t : Task (UnitDesk (σ × List Event)) α} {f : α → Task (UnitDesk (σ × List Event)) β}
    {story : UnitLedger → Except Fault β → UnitLedger → Prop}
    (first : QuietlyReports t fun before _ after => after = before) (rest : ∀ a, QuietlyReports (f a) story)
    (stopped : ∀ l fault, story l (.error fault) l) : QuietlyReports (t >>= f) story := by
  refine Task.Reports.bind first ?_ ?_
  · rintro before notes a _ ⟨quiet, rfl⟩
    refine (rest a).mono ?_
    rintro start more ending after ⟨quiet', told⟩ rfl
    exact ⟨fun event member => (List.mem_append.1 member).elim (quiet event) (quiet' event), told⟩
  · rintro before notes fault _ ⟨quiet, rfl⟩
    exact ⟨quiet, stopped _ fault⟩

theorem quietlyReports_pure (a : α) :
    QuietlyReports (pure a : Task (UnitDesk (σ × List Event)) α) fun before ending after =>
      ending = .ok a ∧ after = before := by
  refine (Task.reports_pure a _ _).mono ?_
  rintro _ _ _ _ ⟨rfl, told⟩
  exact ⟨List.forall_mem_nil _, told⟩

theorem carryOut_reports (s : UnitSnapshot) (changes : List UnitChange) (operation : UnitOperation)
    (recorded : Bool) :
    QuietlyReports (e.watched.carryOut s changes operation recorded (Query.on .left cancel))
      (Carried s changes operation recorded) := by
  have named : (Task.on Runtime.worldPart e.watched.freshId.task).NotesIn (fun r => r.world.2)
      (fun event : Event => event.read? = none) := Task.Keeps.notesIn (fun _ => rfl) _
  refine QuietlyReports.after (Task.reports_onRuntime named) (fun id => ?_) fun _ => .interrupted
  have wrote := Task.reports_onRuntime
    (writeFrom_notesIn e cancel [] fun c (_ : c ∈ changes) => write_reads_nothing e cancel c c.new id operation)
  refine QuietlyReports.after wrote (fun progress => ?_) fun _ => .interrupted
  cases progress with
  | complete =>
    cases recorded with
    | true =>
      have pushed := Task.reports_change
        (fun d : UnitDesk (σ × List Event) => { d with history := d.history.push (recordOf id s changes operation) })
        (·.push (recordOf id s changes operation)) (fun _ => rfl) (fun _ => rfl)
      refine Task.Reports.bind pushed ?_ nofun
      rintro _ _ _ _ ⟨rfl, -, rfl⟩
      refine (quietlyReports_pure _).mono ?_
      rintro _ _ _ _ ⟨quiet, rfl, rfl⟩ rfl
      exact ⟨quiet, .committed id⟩
    | false =>
      refine (quietlyReports_pure _).mono ?_
      rintro _ _ _ _ ⟨quiet, rfl, rfl⟩
      exact ⟨quiet, .committed id⟩
  | stopped applied failed message =>
    have undone := Task.reports_onRuntime
      (undo_notesIn e fun c (_ : c ∈ applied) => write_reads_nothing e .never c c.old id .rollback)
    refine QuietlyReports.after undone (fun whole => ?_) fun _ => .interrupted
    refine (quietlyReports_pure _).mono ?_
    rintro _ _ _ _ ⟨quiet, rfl, rfl⟩
    exact ⟨quiet, .failed id failed.action message applied.length whole⟩

/-- What an edit comes to. It is planned against the snapshot that it takes. -/
inductive Edited (p : Policy) (draft : UnitDraft) (operation : UnitOperation) (recorded : Bool)
    (before : UnitLedger) : List Event → Except Fault UnitOutcome → UnitLedger → Prop
  | unseen {notes fault} (looked : Looked p notes (.error fault)) :
      Edited p draft operation recorded before notes (.error fault) before
  | unchanged {notes s} (looked : Looked p notes (.ok s)) (nothing : UnitChange.plan p s draft = []) :
      Edited p draft operation recorded before notes (.ok .unchanged) (before.keep s)
  | carried {notes s ending after} (looked : Looked p notes (.ok s)) (something : UnitChange.plan p s draft ≠ [])
      (carried : Carried s (UnitChange.plan p s draft) operation recorded (before.keep s) ending after) :
      Edited p draft operation recorded before notes ending after

theorem edit_reports (draft : UnitDraft) (operation : UnitOperation) (recorded : Bool) :
    (e.watched.edit draft operation recorded (Query.on .left cancel)).Reports UnitDesk.journal UnitDesk.ledger
      (Edited e.policy draft operation recorded) := by
  refine (capture_reports e cancel).bind ?_ ?_
  · intro before notes s _ captured
    cases captured with
    | seen looked =>
      cases planned : UnitChange.plan e.watched.policy s draft with
      | nil =>
        refine (Task.reports_pure _ _ _).mono ?_
        rintro _ _ _ _ ⟨rfl, rfl, rfl⟩ rfl
        rw [List.append_nil]
        exact .unchanged looked planned
      | cons c rest =>
        have something : UnitChange.plan e.policy s draft ≠ [] := planned ▸ List.cons_ne_nil c rest
        refine (carryOut_reports e cancel s (c :: rest) operation recorded).mono ?_
        rintro _ more ending after ⟨quiet, carried⟩ rfl
        exact .carried (looked.append quiet) something (planned ▸ carried)
  · intro before notes fault _ captured
    cases captured with
    | unseen looked => exact .unseen looked

end UnitEditor
end LiveControl
