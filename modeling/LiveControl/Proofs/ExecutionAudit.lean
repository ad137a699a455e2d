import LiveControl.Proofs.ExecutorJournal

namespace LiveControl.Executor

variable {σ : Type}

/-- A call of a run, with its token and with what the world becomes just before it. -/
structure Occasion (σ : Type) where
  meanwhile : σ → σ
  call : ActionCall
  cancel : Token σ

/-- What became of a call, with the counters before it and after it. -/
structure Execution where
  call : ActionCall
  events : List Event
  ending : Except Fault Outcome
  before : Telemetry
  after : Telemetry

/-- What the collaborators are asked during a call. -/
def asked (e : Executor σ) (call : ActionCall) (cancel : Token σ) (r : Runtime σ) : List Event :=
  ((e.watched.execute call (Query.on .left cancel)).leave ⟨r.telemetry, (r.world, [])⟩).world.2

def Occasion.now (o : Occasion σ) (r : Runtime σ) : Runtime σ := { r with world := o.meanwhile r.world }

def executions (e : Executor σ) : List (Occasion σ) → Runtime σ → List Execution
  | [], _ => []
  | o :: rest, r =>
    let next := (e.execute o.call o.cancel).leave (o.now r)
    ⟨o.call, e.asked o.call o.cancel (o.now r), (e.execute o.call o.cancel).ending (o.now r),
      r.telemetry, next.telemetry⟩ :: e.executions rest next

/-- The state that a run leaves. -/
def afterAll (e : Executor σ) : List (Occasion σ) → Runtime σ → Runtime σ
  | [], r => r
  | o :: rest, r => e.afterAll rest ((e.execute o.call o.cancel).leave (o.now r))

/-- All that the audit was asked to write down during a run. -/
def written (xs : List Execution) : List AuditRecord := xs.flatMap fun x => entriesIn x.events

/-- What the audit and the counters may be relied on for in a call. -/
structure Execution.Accounted (x : Execution) : Prop where
  /-- An entry is written exactly when work was done, the call has an outcome and a process was attached. -/
  written_iff : entriesIn x.events ≠ [] ↔
    (∃ work ∈ x.events, work.isWork = true) ∧ (∃ outcome, x.ending = .ok outcome) ∧
      ∃ session, .session (.attached session) ∈ x.events
  written_once : (entriesIn x.events).length ≤ 1
  counted : x.after = x.before.recordAll ((entriesIn x.events).map AuditRecord.key)
  /-- The entry tells what the outcome tells, under the action that the call found. -/
  truthful : ∀ entry ∈ entriesIn x.events, ∃ profile a payload session outcome,
    .profile x.call.profileId (.ok profile) ∈ x.events ∧ screen profile x.call = .ok (a, payload) ∧
      .session (.attached session) ∈ x.events ∧ x.ending = .ok outcome ∧
      entry = .ofOutcome profile.id session.processId a.id outcome
  /-- The outcome is what is reported of the work, with the caller's context over its diagnostics. -/
  overlaid : ∀ entry ∈ entriesIn x.events, ∃ profile a payload attachment work reported,
    work ∈ x.events ∧ Work profile x.call a attachment payload work reported ∧
      x.ending = .ok (framed reported x.call.context) ∧
      ∀ key, entry.diagnostics.get? key =
        (x.call.context.get? key).or (reported.diagnostics.get? key)

/-- A call of which nothing was written down, for want of work, of an outcome or of a process. -/
theorem Execution.Accounted.of_nothing {x : Execution} (nothing : entriesIn x.events = [])
    (counted : x.after = x.before.recordAll ((entriesIn x.events).map AuditRecord.key))
    (wanting : ¬((∃ work ∈ x.events, work.isWork = true) ∧ (∃ outcome, x.ending = .ok outcome) ∧
      ∃ session, .session (.attached session) ∈ x.events)) : x.Accounted where
  written_iff := by simp only [nothing, ne_eq, not_true_eq_false, wanting]
  written_once := by rw [nothing]; exact Nat.zero_le 1
  counted := counted
  truthful entry member := by rw [nothing] at member; cases member
  overlaid entry member := by rw [nothing] at member; cases member

section

variable {call : ActionCall} {events : List Event} {ending : Except Fault Outcome} {before after : Telemetry}

theorem Story.accounted (story : Story call events ending)
    (counted : after = before.recordAll ((entriesIn events).map AuditRecord.key)) :
    Execution.Accounted ⟨call, events, ending, before, after⟩ := by
  cases story with
  | cancelled => exact .of_nothing rfl counted (by simp)
  | unknown fault => exact .of_nothing rfl counted (by simp [Event.isWork])
  | refused barred => exact .of_nothing rfl counted (by simp [Event.isWork])
  | interrupted attachment passed other => exact .of_nothing rfl counted (by simp)
  | @unrecorded profile a payload work outcome passed works =>
    refine .of_nothing (works.entriesIn_cons []) counted ?_
    have other : ∀ session, work ≠ .session (.attached session) := by
      rintro session rfl
      cases works
    simp [(other _).symm]
  | @recorded profile a payload session work outcome passed works answer =>
    have entries : entriesIn [.profile call.profileId (.ok profile), .session (.attached session), work,
        .audit (.ofOutcome profile.id session.processId a.id (framed outcome call.context)) answer] =
        [.ofOutcome profile.id session.processId a.id (framed outcome call.context)] :=
      works.entriesIn_cons _
    exact {
      written_iff := by
        rw [entries]
        exact ⟨fun _ => ⟨⟨work, by simp, works.isWork⟩, ⟨_, rfl⟩, session, by simp⟩,
          fun _ => List.cons_ne_nil _ _⟩
      written_once := by rw [entries]; exact Nat.le_refl 1
      counted := counted
      truthful := by
        intro entry member
        rw [entries, List.mem_singleton] at member
        exact ⟨profile, a, payload, session, _, by simp, passed, by simp, rfl, member⟩
      overlaid := by
        intro entry member
        rw [entries, List.mem_singleton] at member
        subst member
        exact ⟨profile, a, payload, _, work, outcome, by simp, works, rfl, fun key => Table.get?_overlay⟩ }

end

/-- What is asked during a call, and how the call ends, does not depend on the noting. -/
theorem accounted_asked (e : Executor σ) (call : ActionCall) (cancel : Token σ) (r : Runtime σ) :
    Execution.Accounted ⟨call, e.asked call cancel r, (e.execute call cancel).ending r, r.telemetry,
      ((e.execute call cancel).leave r).telemetry⟩ := by
  obtain ⟨events, added, story, counted, -⟩ := execute_told e call cancel ⟨r.telemetry, (r.world, [])⟩
  obtain ⟨ending, left⟩ :=
    e.mirrors_watched.execute (Query.mirrors_on .left cancel) call ⟨r.telemetry, (r.world, [])⟩
  have asked : e.asked call cancel r = events := added
  have after := congrArg Runtime.telemetry left
  rw [asked]
  exact (ending ▸ story).accounted (after.symm.trans counted)

section

variable (e : Executor σ) (occasions : List (Occasion σ))

end

end LiveControl.Executor
