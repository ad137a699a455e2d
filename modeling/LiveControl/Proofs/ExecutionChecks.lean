import LiveControl.Proofs.ExecutionAudit

namespace LiveControl

namespace Payload

/-- A bag lacks a field that it does not have or that is null. -/
def Lacks (raw : Bag) (field : String) : Prop := raw.get? field = none ∨ raw.get? field = some .null

theorem given?_eq_none_iff {raw : Bag} {field : String} : given? raw field = none ↔ Lacks raw field := by
  unfold given? Lacks
  cases raw.get? field with
  | none => simp
  | some value => cases value <;> simp [Json.isNull]

variable {a : ActionSpec} {raw : Bag}

/-- The field that is reported as missing is the first that the bag lacks. -/
theorem firstMissing?_eq_some_iff {field : String} :
    firstMissing? a raw = some field ↔ Lacks raw field ∧
      ∃ before after, a.requiredFields = before ++ field :: after ∧ ∀ earlier ∈ before, ¬Lacks raw earlier := by
  simp only [firstMissing?, List.find?_eq_some_iff_append, Option.isNone_iff_eq_none, given?_eq_none_iff,
    Bool.not_eq_true', ← Bool.not_eq_true]

theorem firstMissing?_eq_none_iff : firstMissing? a raw = none ↔ ∀ field ∈ a.requiredFields, ¬Lacks raw field := by
  simp only [firstMissing?, List.find?_eq_none, Option.isNone_iff_eq_none, given?_eq_none_iff]

theorem kind_of_read {payload : Payload} (read : Payload.read a raw = .ok payload) : payload.kind = a.kind := by
  unfold Payload.read at read
  cases kind : a.kind <;> simp only [kind, bind, Except.bind, pure, Except.pure] at read <;>
    repeat' split at read
  all_goals cases read
  all_goals rfl

end Payload

namespace Executor

variable {σ : Type}

inductive Check where
  | token
  | profile
  | action
  | mode
  | fields
  | payload
  deriving DecidableEq, Repr

/-- The checks, in the order in which they are made. -/
def checks : List Check := [.token, .profile, .action, .mode, .fields, .payload]

theorem mem_checks (check : Check) : check ∈ checks := by
  cases check <;> decide

/-- The reason of an outcome that a check has; the first two end in a fault. -/
def Check.reason? : Check → Option String
  | .token | .profile => none
  | .action => some "action_not_found"
  | .mode => some "mode_not_allowed"
  | .fields => some "payload_missing_field"
  | .payload => some "payload_invalid"

section

variable (e : Executor σ) (call : ActionCall) (cancel : Token σ) (r : Runtime σ)

/-- What comes of looking for the profile of a call, after the token was asked. -/
def lookup : Except Fault Profile := (e.profiles call.profileId).ending (cancel r.world).2

/-- The world after the token was asked and, unless it has fired, the profile was looked for. -/
def afterLookup : σ :=
  if (cancel r.world).1 then (cancel r.world).2 else (e.profiles call.profileId).leave (cancel r.world).2

/-- The mode of the call is known, and the action requires another one. -/
def OutOfMode (a : ActionSpec) (mode required : Mode) : Prop :=
  a.requiredMode = some required ∧ required ≠ .unknown ∧ mode ≠ .unknown ∧ required ≠ mode

/-- What a call that does not pass a check is like. -/
def Fails : Check → Prop
  | .token => (cancel r.world).1 = true
  | .profile => ∃ fault, e.lookup call cancel r = .error fault
  | .action => ∃ profile, e.lookup call cancel r = .ok profile ∧ profile.action? call.action = none
  | .mode => ∃ a required, e.spec? call cancel r = some a ∧ OutOfMode a call.mode required
  | .fields => ∃ a, e.spec? call cancel r = some a ∧ ∃ field ∈ a.requiredFields, Payload.Lacks call.payload field
  | .payload => ∃ a, e.spec? call cancel r = some a ∧ ∃ flaw, Payload.read a call.payload = .error flaw

/-- The check is the first that the call does not pass. -/
def StopsAt (check : Check) : Prop :=
  ∃ before after, checks = before ++ check :: after ∧
    (∀ earlier ∈ before, ¬e.Fails call cancel r earlier) ∧ e.Fails call cancel r check

/-- How a call ends that stops at a check. -/
def Answers : Check → Except Fault Outcome → Prop
  | .token, ending => ending = .error .cancelled
  | .profile, ending => ∃ fault, e.lookup call cancel r = .error fault ∧ ending = .error fault
  | .action, ending => ∃ profile, e.lookup call cancel r = .ok profile ∧
      ending = .ok (Refusal.actionNotFound call.action profile.id).outcome
  | .mode, ending => ∃ a required, e.spec? call cancel r = some a ∧ OutOfMode a call.mode required ∧
      ending = .ok (Refusal.modeNotAllowed call.action required call.mode).outcome
  | .fields, ending => ∃ a field before after, e.spec? call cancel r = some a ∧
      a.requiredFields = before ++ field :: after ∧ (∀ earlier ∈ before, ¬Payload.Lacks call.payload earlier) ∧
      Payload.Lacks call.payload field ∧ ending = .ok (Refusal.missingField field).outcome
  | .payload, ending => ∃ a flaw, e.spec? call cancel r = some a ∧
      Payload.read a call.payload = .error flaw ∧ ending = .ok (Refusal.payloadInvalid (flaw.fault a.id)).outcome

end

section

variable {e : Executor σ} {call : ActionCall} {cancel : Token σ} {r : Runtime σ} {profile : Profile}
  {a : ActionSpec}

theorem StopsAt.fails {check : Check} (stops : e.StopsAt call cancel r check) : e.Fails call cancel r check := by
  obtain ⟨_, _, _, _, fails⟩ := stops
  exact fails

theorem StopsAt.eq {check check' : Check} (stops : e.StopsAt call cancel r check)
    (stops' : e.StopsAt call cancel r check') : check = check' := by
  classical
  have first : ∀ {check}, e.StopsAt call cancel r check →
      checks.find? (fun c => decide (e.Fails call cancel r c)) = some check := by
    rintro check ⟨before, after, order, passed, fails⟩
    exact List.find?_eq_some_iff_append.2 ⟨by simpa using fails, before, after, order, by simpa using passed⟩
  exact Option.some.inj ((first stops).symm.trans (first stops'))

theorem reason_of_answers {check : Check} {outcome : Outcome}
    (answers : e.Answers call cancel r check (.ok outcome)) :
    outcome.succeeded = false ∧ outcome.reason = check.reason? := by
  cases check with
  | token => cases answers
  | profile =>
    obtain ⟨_, _, ended⟩ := answers
    cases ended
  | action =>
    obtain ⟨_, _, ended⟩ := answers
    cases ended
    exact ⟨rfl, rfl⟩
  | mode =>
    obtain ⟨_, _, _, _, ended⟩ := answers
    cases ended
    exact ⟨rfl, rfl⟩
  | fields =>
    obtain ⟨_, _, _, _, _, _, _, _, ended⟩ := answers
    cases ended
    exact ⟨rfl, rfl⟩
  | payload =>
    obtain ⟨_, _, _, _, ended⟩ := answers
    cases ended
    exact ⟨rfl, rfl⟩

theorem modeConflict_iff {mode required : Mode} : modeConflict? a mode = some required ↔ OutOfMode a mode required := by
  rw [modeConflict_eq_some_iff, ActionSpec.enforcedMode, Option.filter_eq_some_iff]
  simp only [OutOfMode, Mode.isKnown, decide_eq_true_eq, and_assoc]

theorem not_fails_token (unfired : (cancel r.world).1 = false) : ¬e.Fails call cancel r .token := by
  rw [Fails, unfired]
  nofun

theorem not_fails_profile (found : e.lookup call cancel r = .ok profile) : ¬e.Fails call cancel r .profile := by
  rintro ⟨fault, missing⟩
  rw [found] at missing
  cases missing

theorem spec_of_lookup (found : e.lookup call cancel r = .ok profile) :
    e.spec? call cancel r = profile.action? call.action := by
  unfold lookup at found
  simp only [spec?, found]

theorem not_fails_action (listed : e.spec? call cancel r = some a) : ¬e.Fails call cancel r .action := by
  rintro ⟨profile, found, absent⟩
  rw [spec_of_lookup found, absent] at listed
  cases listed

theorem fails_mode_iff (listed : e.spec? call cancel r = some a) :
    e.Fails call cancel r .mode ↔ ∃ required, OutOfMode a call.mode required := by
  simp [Fails, listed]

theorem not_fails_mode (listed : e.spec? call cancel r = some a) (agrees : modeConflict? a call.mode = none) :
    ¬e.Fails call cancel r .mode := by
  rw [fails_mode_iff listed]
  rintro ⟨required, differs⟩
  rw [modeConflict_iff.2 differs] at agrees
  cases agrees

theorem fails_fields_iff (listed : e.spec? call cancel r = some a) :
    e.Fails call cancel r .fields ↔ ∃ field ∈ a.requiredFields, Payload.Lacks call.payload field := by
  simp [Fails, listed]

theorem not_fails_fields (listed : e.spec? call cancel r = some a)
    (complete : Payload.firstMissing? a call.payload = none) : ¬e.Fails call cancel r .fields := by
  rw [fails_fields_iff listed]
  rintro ⟨field, required, lacks⟩
  exact Payload.firstMissing?_eq_none_iff.1 complete field required lacks

theorem not_fails_payload (listed : e.spec? call cancel r = some a) {payload : Payload}
    (read : Payload.read a call.payload = .ok payload) : ¬e.Fails call cancel r .payload := by
  rintro ⟨a', listed', flaw, unread⟩
  obtain rfl := Option.some.inj (listed.symm.trans listed')
  rw [read] at unread
  cases unread

section Screened

variable (unfired : (cancel r.world).1 = false) (found : e.lookup call cancel r = .ok profile)
include unfired found

/-- A refusal is the answer of the first check that the call does not pass. -/
theorem stopsAt_of_refused {refusal : Refusal} (barred : screen profile call = .error refusal) :
    ∃ check, e.StopsAt call cancel r check ∧ e.Answers call cancel r check (.ok refusal.outcome) := by
  have token : ¬e.Fails call cancel r .token := not_fails_token unfired
  have known := not_fails_profile found
  have spec := spec_of_lookup found
  have screening := screening profile call
  rw [barred] at screening
  cases screening with
  | unlisted absent =>
    exact ⟨.action, ⟨[.token, .profile], _, rfl, by simp [token, known], profile, found, absent⟩,
      profile, found, rfl⟩
  | @outOfMode a required listed conflict =>
    rw [listed] at spec
    have differs := modeConflict_iff.1 conflict
    exact ⟨.mode, ⟨[.token, .profile, .action], _, rfl, by simp [token, known, not_fails_action spec],
      (fails_mode_iff spec).2 ⟨required, differs⟩⟩, a, required, spec, differs, rfl⟩
  | @incomplete a field listed agrees missing =>
    rw [listed] at spec
    obtain ⟨lacks, before, after, order, given⟩ := Payload.firstMissing?_eq_some_iff.1 missing
    have required : field ∈ a.requiredFields := order ▸ List.mem_append_right _ List.mem_cons_self
    exact ⟨.fields, ⟨[.token, .profile, .action, .mode], _, rfl,
      by simp [token, known, not_fails_action spec, not_fails_mode spec agrees],
      (fails_fields_iff spec).2 ⟨field, required, lacks⟩⟩, a, field, before, after, spec, order, given, lacks, rfl⟩
  | @malformed a flaw listed agrees complete unread =>
    rw [listed] at spec
    exact ⟨.payload, ⟨[.token, .profile, .action, .mode, .fields], _, rfl,
      by simp [token, known, not_fails_action spec, not_fails_mode spec agrees, not_fails_fields spec complete],
      a, spec, flaw, unread⟩, a, flaw, spec, unread, rfl⟩

theorem passes_of_screened {payload : Payload} (passed : screen profile call = .ok (a, payload)) :
    e.spec? call cancel r = some a ∧ ∀ check, ¬e.Fails call cancel r check := by
  have spec := spec_of_lookup found
  have screening := screening profile call
  rw [passed] at screening
  cases screening with
  | passed listed agrees complete read =>
    rw [listed] at spec
    refine ⟨spec, fun check => ?_⟩
    cases check with
    | token => exact not_fails_token unfired
    | profile => exact not_fails_profile found
    | action => exact not_fails_action spec
    | mode => exact not_fails_mode spec agrees
    | fields => exact not_fails_fields spec complete
    | payload => exact not_fails_payload spec read

end Screened

end

namespace Event

def isOrder : Event → Bool
  | .order .. => true
  | _ => false

/-- Anything that is asked of the pins. -/
def isPinning : Event → Bool
  | .pin .. | .release .. | .releaseAll .. => true
  | _ => false

end Event

section

variable (e : Executor σ) (call : ActionCall) (cancel : Token σ) (r : Runtime σ)

/-- What a call that stops at a check does, and what it leaves alone. -/
structure Stopped (check : Check) : Prop where
  answers : e.Answers call cancel r check ((e.execute call cancel).ending r)
  untouched : (e.execute call cancel).leave r = { r with world := e.afterLookup call cancel r }
  asked : ∀ event ∈ e.asked call cancel r, ∃ answer, event = .profile call.profileId answer

/-- What a call does that passes the checks. -/
structure Worked (a : ActionSpec) : Prop where
  orders : (e.asked call cancel r).countP Event.isOrder = if a.kind = .freeze then 0 else 1
  pinnings : (e.asked call cancel r).countP Event.isPinning = if a.kind = .freeze then 1 else 0
  faults : ∀ fault, (e.execute call cancel).ending r = .error fault → fault = .cancelled

end

section

variable {e : Executor σ} {call : ActionCall} {cancel : Token σ} {r : Runtime σ} {profile : Profile}
  {a : ActionSpec} {s : σ × List Event}

theorem Opens.looked
    (opens : e.watched.Opens call (Query.on .left cancel) ⟨r.telemetry, (r.world, [])⟩ profile s) :
    (cancel r.world).1 = false ∧ e.lookup call cancel r = .ok profile ∧ s.1 = e.afterLookup call cancel r := by
  have unfired : (cancel r.world).1 = false := opens.unfired
  refine ⟨unfired, ?_, ?_⟩
  · exact (Task.ending_noted ..).symm.trans (Task.ending_of_ok opens.found)
  · rw [afterLookup, unfired, ← Task.leave_of_ok opens.found]
    exact congrArg Prod.fst (Task.leave_noted ..)

theorem Work.isOrder_eq {attachment : Attachment} {payload : Payload} {work : Event} {outcome : Outcome}
    (works : Work profile call a attachment payload work outcome) :
    work.isOrder = !decide (payload.kind = .freeze) := by
  cases works with
  | pinned | released => rfl
  | ordered other => simp [Event.isOrder, other]

theorem Work.isPinning_eq {attachment : Attachment} {payload : Payload} {work : Event} {outcome : Outcome}
    (works : Work profile call a attachment payload work outcome) :
    work.isPinning = decide (payload.kind = .freeze) := by
  cases works with
  | pinned | released => rfl
  | ordered other => simp [Event.isPinning, other]

/-- Of what is asked for a call that does its work, that work is all there is of its kind. -/
theorem countP_of_work {P : Event → Bool} (working : ∀ event, event.isWork = false → P event = false)
    {attachment : Attachment} {work : Event} {audits : List Event}
    (unrelated : ∀ event ∈ audits, event.isWork = false) :
    (.profile call.profileId (.ok profile) :: .session attachment :: work :: audits).countP P =
      if P work then 1 else 0 := by
  have none : audits.countP P = 0 := List.countP_eq_zero.2 fun event member =>
    Bool.eq_false_iff.1 (working event (unrelated event member))
  simp [List.countP_cons, none, working (.profile _ _) rfl, working (.session _) rfl]

theorem Worked.of_work {attachment : Attachment} {payload : Payload} {work : Event} {outcome : Outcome}
    {audits : List Event} (passed : screen profile call = .ok (a, payload))
    (works : Work profile call a attachment payload work outcome)
    (asked : e.asked call cancel r =
      .profile call.profileId (.ok profile) :: .session attachment :: work :: audits)
    (unrelated : ∀ event ∈ audits, event.isWork = false)
    (ended : (e.execute call cancel).ending r = .ok (framed outcome call.context)) :
    e.Worked call cancel r a := by
  have kind : payload.kind = a.kind := Payload.kind_of_read (read_of_screen passed).2
  refine ⟨?_, ?_, fun fault ended' => ?_⟩
  · rw [asked, countP_of_work (fun event => by cases event <;> simp [Event.isWork, Event.isOrder]) unrelated,
      works.isOrder_eq, kind]
    by_cases freezing : a.kind = .freeze <;> simp [freezing]
  · rw [asked, countP_of_work (fun event => by cases event <;> simp [Event.isWork, Event.isPinning]) unrelated,
      works.isPinning_eq, kind]
    by_cases freezing : a.kind = .freeze <;> simp [freezing]
  · rw [ended] at ended'
    cases ended'

section Entered

variable {payload : Payload} {attachment : Attachment} {s' : σ × List Event}
  (enters : e.watched.Enters call (Query.on .left cancel) ⟨r.telemetry, (r.world, [])⟩ profile a payload
    attachment s)
include enters

theorem passes_of_enters : e.spec? call cancel r = some a ∧ ∀ check, ¬e.Fails call cancel r check := by
  obtain ⟨before, opens, -⟩ := enters.opens
  obtain ⟨unfired, found, -⟩ := opens.looked
  exact passes_of_screened unfired found enters.passed

theorem worked_of_interrupted {fault : Fault}
    (fails : e.watched.perform profile call a payload attachment (Query.on .left cancel) s = .error fault s')
    (asked : e.asked call cancel r = s'.2) (ended : (e.execute call cancel).ending r = .error fault) :
    e.Worked call cancel r a := by
  have kind : payload.kind = a.kind := Payload.kind_of_read (read_of_screen enters.passed).2
  obtain ⟨notes, added, told⟩ := perform_tells e profile call a payload attachment (Query.on .left cancel) s
  rw [Task.ending_of_error fails] at told
  rw [Task.leave_of_error fails, enters.told] at added
  obtain ⟨rfl, other, rfl⟩ := told
  rw [kind] at other
  refine ⟨?_, ?_, fun fault' ended' => ?_⟩
  · rw [asked, added, if_neg other]
    rfl
  · rw [asked, added, if_neg other]
    rfl
  · rw [ended] at ended'
    exact (Except.error.inj ended').symm

theorem worked_of_performed {outcome : Outcome}
    (ran : e.watched.perform profile call a payload attachment (Query.on .left cancel) s = .ok outcome s')
    (asked : e.asked call cancel r =
      (e.watched.recorded profile a attachment (framed outcome call.context) ⟨r.telemetry, s'⟩).world.2)
    (ended : (e.execute call cancel).ending r = .ok (framed outcome call.context)) :
    e.Worked call cancel r a := by
  obtain ⟨notes, added, told⟩ := perform_tells e profile call a payload attachment (Query.on .left cancel) s
  rw [Task.ending_of_ok ran] at told
  rw [Task.leave_of_ok ran, enters.told] at added
  obtain ⟨work, rfl, works⟩ := told
  cases attachment with
  | detached =>
    exact .of_work enters.passed works (asked.trans added) (fun _ member => absurd member List.not_mem_nil) ended
  | attached session =>
    have written := congrArg Prod.snd (Task.leave_noted
      (e.audit (.ofOutcome profile.id session.processId a.id (framed outcome call.context)))
      (.audit (.ofOutcome profile.id session.processId a.id (framed outcome call.context))) s')
    rw [added] at written
    refine .of_work enters.passed works (asked.trans written) ?_ ended
    intro event member
    rw [List.mem_singleton.1 member]
    rfl

end Entered

/-- Every call is stopped by a check, or passes all of them and does its work. -/
theorem stopped_or_worked (e : Executor σ) (call : ActionCall) (cancel : Token σ) (r : Runtime σ) :
    (∃ check, e.StopsAt call cancel r check ∧ e.Stopped call cancel r check) ∨
      (∀ check, ¬e.Fails call cancel r check) ∧
        ∃ a, e.spec? call cancel r = some a ∧ e.Worked call cancel r a := by
  -- What is asked is read off the watched executor, how the call ends and what it leaves off the plain one.
  have course := course_execute e.watched call (Query.on .left cancel) ⟨r.telemetry, (r.world, [])⟩
  have mirrors := e.mirrors_watched.execute (Query.mirrors_on .left cancel) call ⟨r.telemetry, (r.world, [])⟩
  have ended : (e.execute call cancel).ending r = _ := mirrors.1.symm
  have left : (e.execute call cancel).leave r = _ := mirrors.2.symm
  generalize run : e.watched.execute call (Query.on .left cancel) ⟨r.telemetry, (r.world, [])⟩ = result at course
  cases course with
  | cancelled fired =>
    rw [Task.ending_of_error run] at ended
    rw [Task.leave_of_error run] at left
    have asked : e.asked call cancel r = [] := by rw [Executor.asked, Task.leave_of_error run]; rfl
    have fired : (cancel r.world).1 = true := fired
    refine .inl ⟨.token, ⟨[], _, rfl, nofun, fired⟩, ended, left.trans ?_, ?_⟩
    · rw [afterLookup, fired]
      rfl
    · rw [asked]
      exact fun _ member => absurd member List.not_mem_nil
  | @unknown fault s unfired missing =>
    rw [Task.ending_of_error run] at ended
    rw [Task.leave_of_error run] at left
    have asked : e.asked call cancel r = [.profile call.profileId (.error fault)] := by
      rw [Executor.asked, Task.leave_of_error run]
      exact Task.noted_of_error (s := (Query.on .left cancel (r.world, [])).2) missing
    have unfired : (cancel r.world).1 = false := unfired
    have found : e.lookup call cancel r = .error fault :=
      (Task.ending_noted ..).symm.trans (Task.ending_of_error missing)
    have same : s.1 = (e.profiles call.profileId).leave (cancel r.world).2 := by
      rw [← Task.leave_of_error missing]
      exact congrArg Prod.fst (Task.leave_noted ..)
    refine .inl ⟨.profile, ⟨[.token], _, rfl, by simp [not_fails_token unfired], fault, found⟩,
      ⟨fault, found, ended⟩, left.trans ?_, ?_⟩
    · rw [afterLookup, unfired, if_neg Bool.false_ne_true, ← same]
      rfl
    · rw [asked]
      exact fun event member => ⟨_, List.mem_singleton.1 member⟩
  | @refused profile refusal s opens barred =>
    rw [Task.ending_of_ok run] at ended
    rw [Task.leave_of_ok run] at left
    have asked : e.asked call cancel r = [.profile call.profileId (.ok profile)] := by
      rw [Executor.asked, Task.leave_of_ok run]
      exact opens.told
    obtain ⟨unfired, found, same⟩ := opens.looked
    obtain ⟨check, stops, answers⟩ := stopsAt_of_refused unfired found barred
    refine .inl ⟨check, stops, ended ▸ answers, left.trans ?_, ?_⟩
    · rw [← same]
      rfl
    · rw [asked]
      exact fun event member => ⟨_, List.mem_singleton.1 member⟩
  | @stopped profile a payload attachment fault s s' enters fails =>
    rw [Task.ending_of_error run] at ended
    have asked : e.asked call cancel r = s'.2 := by rw [Executor.asked, Task.leave_of_error run]
    obtain ⟨listed, passes⟩ := passes_of_enters enters
    exact .inr ⟨passes, a, listed, worked_of_interrupted enters fails asked ended⟩
  | @performed profile a payload attachment outcome s s' enters ran =>
    rw [Task.ending_of_ok run] at ended
    have asked : e.asked call cancel r = (e.watched.recorded profile a attachment (framed outcome call.context)
        ⟨r.telemetry, s'⟩).world.2 := by rw [Executor.asked, Task.leave_of_ok run]
    obtain ⟨listed, passes⟩ := passes_of_enters enters
    exact .inr ⟨passes, a, listed, worked_of_performed enters ran asked ended⟩

end

/-- A call stops at the first check that it does not pass: it answers as the check demands, has asked for
nothing but its profile, and leaves the counters and the world as they were found. A call that passes all
checks makes exactly one order, of the pins if its action freezes and else of the backend, and the only fault
with which it can end is that it was cancelled. To watch a call changes nothing. -/
theorem execute_stops_or_works (e : Executor σ) (call : ActionCall) (cancel : Token σ) (r : Runtime σ) :
    (e.watched.execute call (Query.on .left cancel)).Mirrors (Runtime.map Prod.fst) (e.execute call cancel) ∧
    (∀ check, e.StopsAt call cancel r check → e.Stopped call cancel r check ∧
      ∀ outcome, (e.execute call cancel).ending r = .ok outcome →
        outcome.succeeded = false ∧ outcome.reason = check.reason?) ∧
    ((∀ check ∈ checks, ¬e.Fails call cancel r check) →
      ∃ a, e.spec? call cancel r = some a ∧ e.Worked call cancel r a) := by
  refine ⟨e.mirrors_watched.execute (Query.mirrors_on .left cancel) call, fun check stops => ?_, fun passes => ?_⟩
  · rcases stopped_or_worked e call cancel r with ⟨check', stops', stopped⟩ | ⟨passes, -⟩
    · obtain rfl := stops'.eq stops
      exact ⟨stopped, fun outcome ended => reason_of_answers (ended ▸ stopped.answers)⟩
    · exact absurd stops.fails (passes check)
  · rcases stopped_or_worked e call cancel r with ⟨check, stops, -⟩ | ⟨-, worked⟩
    · exact absurd stops.fails (passes check (mem_checks check))
    · exact worked

/-- An executor with one action, which freezes a symbol and needs the tactical mode. Its backend and its pins fail in
everything. -/
def gated : Executor Unit where
  profiles _ := pure ((Profile.bare "drill").addAction
    { ActionSpec.plain "hold" .freeze with requiredMode := some .tactical, requiredFields := ["symbol"] })
  backend := failingBackend
  pins := failingPins
  audit _ := pure ()

/-- A call of that action in the wrong mode and without any payload. -/
def wrongCall : ActionCall := ⟨"drill", "hold", .empty, .galactic, .empty⟩

def rightCall : ActionCall :=
  ⟨"drill", "hold", .ofList [("symbol", .str "credits"), ("intValue", .int 500)], .tactical, .empty⟩

theorem execute_stops_or_works_gated :
    (gated.Fails wrongCall .never ⟨.empty, ()⟩ .fields ∧ gated.Stopped wrongCall .never ⟨.empty, ()⟩ .mode) ∧
      ∃ a, gated.spec? rightCall .never ⟨.empty, ()⟩ = some a ∧ gated.Worked rightCall .never ⟨.empty, ()⟩ a := by
  have fields : gated.Fails wrongCall .never ⟨.empty, ()⟩ .fields :=
    ⟨_, rfl, "symbol", List.mem_singleton_self _, .inl rfl⟩
  have mode : gated.Fails wrongCall .never ⟨.empty, ()⟩ .mode := ⟨_, .tactical, rfl, rfl, by decide⟩
  have stops : gated.StopsAt wrongCall .never ⟨.empty, ()⟩ .mode := by
    refine ⟨[.token, .profile, .action], _, rfl, ?_, mode⟩
    simp only [List.forall_mem_cons, List.not_mem_nil, false_implies, implies_true, and_true]
    exact ⟨not_fails_token rfl, not_fails_profile rfl, not_fails_action rfl⟩
  have passes : ∀ check ∈ checks, ¬gated.Fails rightCall .never ⟨.empty, ()⟩ check :=
    fun check _ => (passes_of_screened rfl rfl rfl).2 check
  exact ⟨⟨fields, ((execute_stops_or_works gated wrongCall .never _).2.1 .mode stops).1⟩,
    (execute_stops_or_works gated rightCall .never _).2.2 passes⟩

end Executor
end LiveControl
