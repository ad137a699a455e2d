import LiveControl.Execution.Executor
import LiveControl.Proofs.Journal

namespace LiveControl.Executor

variable {σ τ : Type}

/-- What is passed on of an outcome: the caller's context stands over its diagnostics. -/
def framed (outcome : Outcome) (context : Bag) : Outcome :=
  { outcome with diagnostics := outcome.diagnostics.overlay context }

/-- A backend that fails in everything. -/
def failingBackend : Backend σ where
  session := Query.const .detached
  execute r _ := throw (.backend r.profileId)
  read symbol _ := throw (.backend symbol)

/-- Pins that fail in everything. -/
def failingPins : PinService σ where
  pin symbol _ := throw (.backend symbol)
  release symbol := throw (.backend symbol)
  releaseAll := throw (.backend "")

/-- The action that a call finds in the profile that it asks for. -/
def spec? (e : Executor σ) (call : ActionCall) (cancel : Token σ) (r : Runtime σ) : Option ActionSpec :=
  match (e.profiles call.profileId).ending (cancel r.world).2 with
  | .ok profile => profile.action? call.action
  | .error _ => none

/-- The state after an outcome was written down, whatever the audit made of it. -/
def recorded (e : Executor σ) (profile : Profile) (a : ActionSpec) (attachment : Attachment)
    (outcome : Outcome) (r : Runtime σ) : Runtime σ :=
  match attachment with
  | .detached => r
  | .attached session => {
      telemetry := r.telemetry.record ⟨a.id, outcome.source, outcome.succeeded⟩
      world := (e.audit (.ofOutcome profile.id session.processId a.id outcome)).leave r.world }

theorem record_eq (e : Executor σ) (profile : Profile) (a : ActionSpec) (attachment : Attachment)
    (outcome : Outcome) (r : Runtime σ) :
    e.record profile a attachment outcome r = .ok () (e.recorded profile a attachment outcome r) := by
  cases attachment with
  | detached => rfl
  | attached session =>
    exact Task.bind_of_ok (Task.on_of_ok (Task.attempt_apply _ _))

theorem recorded_keeps {e : Executor σ} {view : σ → τ} (audit : ∀ entry, (e.audit entry).Keeps view)
    (profile : Profile) (action : ActionSpec) (attachment : Attachment) (outcome : Outcome) (r : Runtime σ) :
    view (e.recorded profile action attachment outcome r).world = view r.world := by
  cases attachment with
  | detached => rfl
  | attached session => exact audit _ r.world

section

variable {profile : Profile} {call : ActionCall}

/-- What the checks of a call come to, one case for each. -/
inductive Screening (profile : Profile) (call : ActionCall) : Except Refusal (ActionSpec × Payload) → Prop
  | unlisted (absent : profile.action? call.action = none) :
      Screening profile call (.error (.actionNotFound call.action profile.id))
  | outOfMode {a required} (listed : profile.action? call.action = some a)
      (conflict : modeConflict? a call.mode = some required) :
      Screening profile call (.error (.modeNotAllowed call.action required call.mode))
  | incomplete {a field} (listed : profile.action? call.action = some a)
      (agrees : modeConflict? a call.mode = none)
      (missing : Payload.firstMissing? a call.payload = some field) :
      Screening profile call (.error (.missingField field))
  | malformed {a flaw} (listed : profile.action? call.action = some a)
      (agrees : modeConflict? a call.mode = none)
      (complete : Payload.firstMissing? a call.payload = none)
      (unread : Payload.read a call.payload = .error flaw) :
      Screening profile call (.error (.payloadInvalid (flaw.fault a.id)))
  | passed {a payload} (listed : profile.action? call.action = some a)
      (agrees : modeConflict? a call.mode = none)
      (complete : Payload.firstMissing? a call.payload = none)
      (read : Payload.read a call.payload = .ok payload) :
      Screening profile call (.ok (a, payload))

theorem screening (profile : Profile) (call : ActionCall) : Screening profile call (screen profile call) := by
  unfold screen
  cases listed : profile.action? call.action with
  | none => exact .unlisted listed
  | some a =>
    dsimp only
    cases gate : modeConflict? a call.mode with
    | some required => exact .outOfMode listed gate
    | none =>
      dsimp only
      cases given : Payload.firstMissing? a call.payload with
      | some field => exact .incomplete listed gate given
      | none =>
        dsimp only
        cases read : Payload.read a call.payload with
        | error flaw => exact .malformed listed gate given read
        | ok payload => exact .passed listed gate given read

theorem read_of_screen {a : ActionSpec} {payload : Payload} (passed : screen profile call = .ok (a, payload)) :
    profile.action? call.action = some a ∧ Payload.read a call.payload = .ok payload := by
  have screening := screening profile call
  rw [passed] at screening
  cases screening with
  | passed listed _ _ read => exact ⟨listed, read⟩

theorem modeConflict_eq_some_iff {a : ActionSpec} {mode required : Mode} :
    modeConflict? a mode = some required ↔
      a.enforcedMode = some required ∧ mode.isKnown = true ∧ required ≠ mode := by
  simp [modeConflict?]

/-- Each check has a reason of its own, so the reason tells which one a call did not pass. -/
theorem modeConflict_of_screen {refusal : Refusal} (refused : screen profile call = .error refusal)
    (reason : refusal.outcome.reason = some "mode_not_allowed") :
    ∃ a required, profile.action? call.action = some a ∧ modeConflict? a call.mode = some required := by
  have screening := screening profile call
  rw [refused] at screening
  cases screening with
  | outOfMode listed conflict => exact ⟨_, _, listed, conflict⟩
  | unlisted | incomplete | malformed =>
    simp [Refusal.outcome, Outcome.failure, Outcome.withDiagnostic] at reason

end

section

variable (e : Executor σ) (call : ActionCall) (cancel : Token σ) (r : Runtime σ)

/-- A call that gets as far as the checks: the token has not fired, and there is a profile. -/
structure Opens (profile : Profile) (s : σ) : Prop where
  unfired : (cancel r.world).1 = false
  found : e.profiles call.profileId (cancel r.world).2 = .ok profile s

/-- A call that passes the checks, with what the backend says of the attachment after that. -/
structure Enters (profile : Profile) (a : ActionSpec) (payload : Payload) (attachment : Attachment)
    (s : σ) : Prop where
  opens : ∃ before, e.Opens call cancel r profile before ∧ e.backend.session before = (attachment, s)
  passed : screen profile call = .ok (a, payload)

/-- What comes of a call, one case for each way out. -/
inductive Course : EStateM.Result Fault (Runtime σ) Outcome → Prop
  | cancelled (fired : (cancel r.world).1 = true) :
      Course (.error .cancelled { r with world := (cancel r.world).2 })
  | unknown {fault s} (unfired : (cancel r.world).1 = false)
      (missing : e.profiles call.profileId (cancel r.world).2 = .error fault s) :
      Course (.error fault { r with world := s })
  | refused {profile refusal s} (opens : e.Opens call cancel r profile s)
      (barred : screen profile call = .error refusal) :
      Course (.ok refusal.outcome { r with world := s })
  | stopped {profile a payload attachment fault s s'}
      (enters : e.Enters call cancel r profile a payload attachment s)
      (fails : e.perform profile call a payload attachment cancel s = .error fault s') :
      Course (.error fault { r with world := s' })
  | performed {profile a payload attachment outcome s s'}
      (enters : e.Enters call cancel r profile a payload attachment s)
      (ran : e.perform profile call a payload attachment cancel s = .ok outcome s') :
      Course (.ok (framed outcome call.context)
        (e.recorded profile a attachment (framed outcome call.context) { r with world := s' }))

end

theorem Opens.keeps {e : Executor σ} {view : σ → τ} {call : ActionCall} {cancel : Token σ} {r : Runtime σ}
    {profile : Profile} {s : σ} (opens : e.Opens call cancel r profile s)
    (profiles : (e.profiles call.profileId).Keeps view) (quiet : cancel.Keeps view) :
    view s = view r.world :=
  (profiles.ok opens.found).trans (quiet r.world)

/-- Every call takes one of the courses. -/
theorem course_execute (e : Executor σ) (call : ActionCall) (cancel : Token σ) (r : Runtime σ) :
    e.Course call cancel r (e.execute call cancel r) := by
  cases fired : (cancel r.world).1 with
  | true =>
    rw [execute, Task.bind_of_error (Task.on_of_error (Token.check_of_fired fired))]
    exact .cancelled fired
  | false =>
    rw [execute, Task.bind_of_ok (Task.on_of_ok (Token.check_of_unfired fired))]
    cases found : e.profiles call.profileId (cancel r.world).2 with
    | error fault s =>
      rw [Task.bind_of_error (Task.on_of_error found)]
      exact .unknown fired found
    | ok profile s =>
      rw [Task.bind_of_ok (Task.on_of_ok found)]
      cases passed : screen profile call with
      | error refusal => exact .refused ⟨fired, found⟩ passed
      | ok admitted =>
        obtain ⟨a, payload⟩ := admitted
        have enters : e.Enters call cancel r profile a payload (e.backend.session s).1 (e.backend.session s).2 :=
          ⟨⟨s, ⟨fired, found⟩, rfl⟩, passed⟩
        simp only
        rw [Task.bind_of_ok (Query.task_apply _ _)]
        cases ran : e.perform profile call a payload (e.backend.session s).1 cancel (e.backend.session s).2 with
        | error fault s' =>
          rw [Task.bind_of_error (Task.on_of_error ran)]
          exact .stopped enters ran
        | ok outcome s' =>
          rw [Task.bind_of_ok (Task.on_of_ok ran), Task.bind_of_ok (record_eq _ _ _ _ _ _)]
          exact .performed enters ran

end LiveControl.Executor
