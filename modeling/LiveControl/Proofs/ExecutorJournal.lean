import LiveControl.Proofs.ExecutorMirrors
import LiveControl.Proofs.TelemetryCount

namespace LiveControl

/-- What the counter of an entry counts. -/
def AuditRecord.key (entry : AuditRecord) : TelemetryKey := ⟨entry.action, entry.source, entry.succeeded⟩

namespace Executor

variable {σ : Type}

/-- One thing that is asked of a collaborator, with the answer. -/
inductive Event where
  | profile (id : String) (answer : Except Fault Profile)
  | session (attachment : Attachment)
  | order (request : ExecutionRequest) (answer : Except Fault Outcome)
  | read (symbol : String) (type : ValueType) (answer : Except Fault Scalar)
  | pin (symbol : String) (value : Scalar) (answer : Except Fault Unit)
  | release (symbol : String) (answer : Except Fault Bool)
  | releaseAll (answer : Except Fault Nat)
  | audit (entry : AuditRecord) (answer : Except Fault Unit)

namespace Event

/-- An order to the backend, or anything that is asked of the pins. -/
def isWork : Event → Bool
  | .order .. | .pin .. | .release .. | .releaseAll .. => true
  | _ => false

/-- What the audit is asked to write down, whatever comes of it. -/
def entry? : Event → Option AuditRecord
  | .audit entry _ => some entry
  | _ => none

end Event

/-- The entries that the audit was asked to write down, in order. -/
def entriesIn (events : List Event) : List AuditRecord := events.filterMap Event.entry?

/-- The executor with a note of everything that its collaborators are asked. -/
def watched (e : Executor σ) : Executor (σ × List Event) where
  profiles id := (e.profiles id).noted (.profile id)
  backend := {
    session := e.backend.session.noted .session
    execute := fun r cancel s => (e.backend.execute r (cancel.within .left s)).noted (.order r) s
    read := fun symbol type => (e.backend.read symbol type).noted (.read symbol type) }
  pins := {
    pin := fun symbol value => (e.pins.pin symbol value).noted (.pin symbol value)
    release := fun symbol => (e.pins.release symbol).noted (.release symbol)
    releaseAll := e.pins.releaseAll.noted .releaseAll }
  audit entry := (e.audit entry).noted (.audit entry)

/-- To note what is asked changes nothing. -/
theorem mirrors_watched (e : Executor σ) : e.watched.Mirrors Prod.fst e where
  profiles _ := Task.mirrors_noted _ _
  session := Query.mirrors_noted _ _
  backend r cancel plainCancel token := by
    intro s
    show ((e.backend.execute r (cancel.within .left s)).noted (.order r)).ending s = _ ∧
      (((e.backend.execute r (cancel.within .left s)).noted (.order r)).leave s).1 = _
    rw [Token.within_of_mirrors (p := .left) token]
    exact Task.mirrors_noted _ _ s
  pin _ _ := Task.mirrors_noted _ _
  release _ := Task.mirrors_noted _ _
  audit _ s := (Task.mirrors_noted _ _ s).2

/-- What is reported of an order to the backend that was not cancelled. -/
def orderReport : Except Fault Outcome → Outcome
  | .ok outcome => outcome
  | .error fault => .failure ("backend failure: " ++ fault.message) "backend_error"

/-- The one thing that is done for an admitted call, with what is reported of it. -/
inductive Work (profile : Profile) (call : ActionCall) (a : ActionSpec) (attachment : Attachment) :
    Payload → Event → Outcome → Prop
  | pinned (symbol value answer) :
      Work profile call a attachment (.freeze symbol (.pin value)) (.pin symbol value answer)
        (located symbol (attachment.sourceOf symbol) (pinReport symbol value answer))
  | released (symbol answer) :
      Work profile call a attachment (.freeze symbol .release) (.release symbol answer)
        (located symbol (attachment.sourceOf symbol) (releaseReport symbol answer))
  | ordered {payload answer} (other : payload.kind ≠ .freeze) (finished : answer ≠ .error .cancelled) :
      Work profile call a attachment payload (.order (requestOf profile call a payload) answer)
        (orderReport answer)

section

variable {profile : Profile} {call : ActionCall} {a : ActionSpec} {attachment : Attachment}
  {payload : Payload} {work : Event} {outcome : Outcome}

theorem Work.isWork (works : Work profile call a attachment payload work outcome) : work.isWork = true := by
  cases works <;> rfl

/-- Work is nothing that the audit is asked. -/
theorem Work.entriesIn_cons (works : Work profile call a attachment payload work outcome)
    (events : List Event) : entriesIn (work :: events) = entriesIn events := by
  cases works <;> rfl

end

theorem perform_of_other (e : Executor σ) (profile : Profile) (call : ActionCall) (a : ActionSpec)
    {payload : Payload} (attachment : Attachment) (cancel : Token σ) (other : payload.kind ≠ .freeze) :
    e.perform profile call a payload attachment cancel =
      (do
        let answer ← Task.settle (e.backend.execute (requestOf profile call a payload) cancel)
        pure (orderReport answer)) := by
  cases payload with
  | freeze => exact absurd rfl other
  | memory | helper | sdk | codePatch =>
    refine congrArg (Task.settle (e.backend.execute _ cancel) >>= ·) (funext fun answer => ?_)
    cases answer <;> rfl

/-- Carrying out an admitted call is one piece of work, which at most a cancelled order cuts off. -/
theorem perform_tells (e : Executor σ) (profile : Profile) (call : ActionCall) (a : ActionSpec)
    (payload : Payload) (attachment : Attachment) (cancel : Token (σ × List Event)) :
    (e.watched.perform profile call a payload attachment cancel).Tells fun notes ending =>
      match ending with
      | .ok outcome => ∃ work, notes = [work] ∧ Work profile call a attachment payload work outcome
      | .error fault => fault = .cancelled ∧ payload.kind ≠ .freeze ∧
          notes = [.order (requestOf profile call a payload) (.error .cancelled)] := by
  by_cases freezing : payload.kind = .freeze
  · cases payload with
    | freeze symbol directive =>
      cases directive with
      | pin value =>
        refine (Task.tells_noted (e.pins.pin symbol value) (Event.pin symbol value)).attempt.bind ?_ nofun
        rintro answer notes ⟨_, same, rfl⟩
        cases same
        refine (Task.tells_pure _).mono ?_
        rintro _ _ ⟨rfl, rfl⟩
        exact ⟨_, rfl, .pinned symbol value answer⟩
      | release =>
        refine (Task.tells_noted (e.pins.release symbol) (Event.release symbol)).attempt.bind ?_ nofun
        rintro answer notes ⟨_, same, rfl⟩
        cases same
        refine (Task.tells_pure _).mono ?_
        rintro _ _ ⟨rfl, rfl⟩
        exact ⟨_, rfl, .released symbol answer⟩
    | memory | helper | sdk | codePatch => cases freezing
  · have told : (e.watched.backend.execute (requestOf profile call a payload) cancel).Tells
        fun notes ending => notes = [.order (requestOf profile call a payload) ending] :=
      fun s => Task.tells_noted _ _ s
    rw [perform_of_other _ _ _ _ _ _ freezing]
    refine told.settle.bind ?_ ?_
    · rintro answer notes ⟨rfl, finished⟩
      refine (Task.tells_pure _).mono ?_
      rintro _ _ ⟨rfl, rfl⟩
      exact ⟨_, rfl, .ordered freezing finished⟩
    · rintro fault notes ⟨rfl, rfl⟩
      exact ⟨rfl, freezing, rfl⟩

/-- What is asked during a call, in order, and how the call ends, one case for each way out. -/
inductive Story (call : ActionCall) : List Event → Except Fault Outcome → Prop
  | cancelled : Story call [] (.error .cancelled)
  | unknown (fault) : Story call [.profile call.profileId (.error fault)] (.error fault)
  | refused {profile refusal} (barred : screen profile call = .error refusal) :
      Story call [.profile call.profileId (.ok profile)] (.ok refusal.outcome)
  | interrupted {profile a payload} (attachment) (passed : screen profile call = .ok (a, payload))
      (other : payload.kind ≠ .freeze) :
      Story call [.profile call.profileId (.ok profile), .session attachment,
        .order (requestOf profile call a payload) (.error .cancelled)] (.error .cancelled)
  | unrecorded {profile a payload work outcome} (passed : screen profile call = .ok (a, payload))
      (works : Work profile call a .detached payload work outcome) :
      Story call [.profile call.profileId (.ok profile), .session .detached, work]
        (.ok (framed outcome call.context))
  | recorded {profile a payload session work outcome} (passed : screen profile call = .ok (a, payload))
      (works : Work profile call a (.attached session) payload work outcome) (answer : Except Fault Unit) :
      Story call [.profile call.profileId (.ok profile), .session (.attached session), work,
        .audit (.ofOutcome profile.id session.processId a.id (framed outcome call.context)) answer]
        (.ok (framed outcome call.context))

section

variable {e : Executor σ} {call : ActionCall} {cancel : Token σ} {r : Runtime (σ × List Event)}
  {profile : Profile} {a : ActionSpec} {payload : Payload} {attachment : Attachment} {s : σ × List Event}

theorem Opens.told (opens : e.watched.Opens call (Query.on .left cancel) r profile s) :
    s.2 = r.world.2 ++ [.profile call.profileId (.ok profile)] :=
  -- The token changes nothing in the journal.
  Task.noted_of_ok (s := (Query.on .left cancel r.world).2) opens.found

/-- A profile that is noted was had. -/
theorem Opens.had (opens : e.watched.Opens call (Query.on .left cancel) r profile s) :
    (e.profiles call.profileId).ending (cancel r.world.1).2 = .ok profile := by
  have found := Task.ending_of_ok opens.found
  rwa [watched, Task.ending_noted] at found

theorem Enters.told (enters : e.watched.Enters call (Query.on .left cancel) r profile a payload attachment s) :
    s.2 = r.world.2 ++ [.profile call.profileId (.ok profile), .session attachment] := by
  obtain ⟨before, opens, looked⟩ := enters.opens
  have noted : s.2 = before.2 ++ [.session attachment] := by
    cases looked
    rfl
  rw [noted, opens.told, List.append_assoc]
  rfl

end

/-- What is asked during a call follows the way in which it ends, each entry that the audit is asked to
write down is counted once, and a profile that is noted was had. -/
theorem execute_told (e : Executor σ) (call : ActionCall) (cancel : Token σ) (r : Runtime (σ × List Event)) :
    ∃ events,
      ((e.watched.execute call (Query.on .left cancel)).leave r).world.2 = r.world.2 ++ events ∧
      Story call events ((e.watched.execute call (Query.on .left cancel)).ending r) ∧
      ((e.watched.execute call (Query.on .left cancel)).leave r).telemetry =
        r.telemetry.recordAll ((entriesIn events).map AuditRecord.key) ∧
      ∀ profile, events.head? = some (.profile call.profileId (.ok profile)) →
        (e.profiles call.profileId).ending (cancel r.world.1).2 = .ok profile := by
  have course := course_execute e.watched call (Query.on .left cancel) r
  generalize run : e.watched.execute call (Query.on .left cancel) r = result at course
  cases course with
  | cancelled fired =>
    rw [Task.ending_of_error run, Task.leave_of_error run]
    exact ⟨[], (List.append_nil _).symm, .cancelled, rfl, nofun⟩
  | unknown unfired missing =>
    rw [Task.ending_of_error run, Task.leave_of_error run]
    exact ⟨_, Task.noted_of_error (s := (Query.on .left cancel r.world).2) missing, .unknown _, rfl, nofun⟩
  | refused opens barred =>
    rw [Task.ending_of_ok run, Task.leave_of_ok run]
    refine ⟨_, opens.told, .refused barred, rfl, fun _ same => ?_⟩
    cases same
    exact opens.had
  | @stopped profile a payload attachment fault s s' enters fails =>
    rw [Task.ending_of_error run, Task.leave_of_error run]
    obtain ⟨notes, added, told⟩ := perform_tells e profile call a payload attachment (Query.on .left cancel) s
    rw [Task.ending_of_error fails] at told
    rw [Task.leave_of_error fails, enters.told, List.append_assoc] at added
    obtain ⟨rfl, other, rfl⟩ := told
    obtain ⟨_, opens, -⟩ := enters.opens
    refine ⟨_, added, .interrupted attachment enters.passed other, rfl, fun _ same => ?_⟩
    cases same
    exact opens.had
  | @performed profile a payload attachment outcome s s' enters ran =>
    rw [Task.ending_of_ok run, Task.leave_of_ok run]
    obtain ⟨notes, added, told⟩ := perform_tells e profile call a payload attachment (Query.on .left cancel) s
    rw [Task.ending_of_ok ran] at told
    rw [Task.leave_of_ok ran, enters.told, List.append_assoc] at added
    obtain ⟨work, rfl, works⟩ := told
    obtain ⟨_, opens, -⟩ := enters.opens
    cases attachment with
    | detached =>
      refine ⟨_, added, .unrecorded enters.passed works, ?_, fun _ same => ?_⟩
      · exact congrArg (fun entries => r.telemetry.recordAll (entries.map AuditRecord.key))
          (works.entriesIn_cons []).symm
      · cases same
        exact opens.had
    | attached session =>
      have written := congrArg Prod.snd (Task.leave_noted
        (e.audit (.ofOutcome profile.id session.processId a.id (framed outcome call.context)))
        (.audit (.ofOutcome profile.id session.processId a.id (framed outcome call.context))) s')
      rw [added, List.append_assoc] at written
      refine ⟨_, written, .recorded enters.passed works _, ?_, fun _ same => ?_⟩
      · exact congrArg (fun entries => r.telemetry.recordAll (entries.map AuditRecord.key))
          (works.entriesIn_cons [.audit (.ofOutcome _ _ _ (framed outcome call.context)) _]).symm
      · cases same
        exact opens.had

end Executor
end LiveControl
