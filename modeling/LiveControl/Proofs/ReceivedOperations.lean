import LiveControl.Proofs.CheckedOperation
import LiveControl.Proofs.ExecutorMirrors

namespace LiveControl

variable {σ ε : Type}

/-- The operation that a call of an action names: its payload may name one, else it is the action's id. -/
def ActionCall.operation (call : ActionCall) (a : ActionSpec) : String :=
  (((call.payload.get? "operationId").bind Json.str?).filter fun text => !Text.isBlankText text).getD a.id

theorem Router.operationId_requestOf (profile : Profile) (call : ActionCall) (a : ActionSpec) (payload : Payload) :
    operationId (Executor.requestOf profile call a payload) call.payload = call.operation a := by
  unfold operationId ActionCall.operation
  cases (call.payload.get? "operationId").bind Json.str? with
  | none => rfl
  | some text => cases blank : Text.isBlankText text <;> simp [blank, Option.filter, Executor.requestOf]

/-- An operation of the extension path is given the whole payload. -/
theorem Payload.eq_of_read_sdk {a : ActionSpec} {raw arguments : Bag}
    (read : Payload.read a raw = .ok (.sdk arguments)) : arguments = raw := by
  unfold Payload.read at read
  simp only [bind, Except.bind, pure, Except.pure] at read
  repeat' split at read
  all_goals cases read
  rfl

/-- The request asks for the operation of that name, and has its flag. -/
def OperationRequest.AsksFor (sent : OperationRequest) (name : String) : Prop :=
  sent.operation = name ∧ ∃ o, Operation.find? name = some o ∧ sent.isMutation = o.isMutation

namespace Router

/-- If the event is a dispatch, the request that is handed on satisfies `P`. -/
def Event.Delivers (P : OperationRequest → Prop) : Event → Prop
  | .dispatch sent _ => P sent
  | _ => True

theorem mem_sentIn {sent : OperationRequest} {events : List Event} :
    sent ∈ sentIn events ↔ ∃ answer, .dispatch sent answer ∈ events := by
  fun_induction sentIn events with
  | case1 => simp
  | case2 other answer events ih => simp [ih, exists_or]
  | case3 e events other ih =>
    have skipped : ∀ answer, Event.dispatch sent answer ≠ e := fun answer same => other sent answer same.symm
    simp [ih, skipped]

/-- Whatever is sent on behalf of a request has the flag of the operation that the request names. -/
theorem route_delivers (router : Router σ) (r : OperationRequest) (cancel : Token σ) :
    (router.noted.route r (cancel.noted .token)).Notes (Event.Delivers (·.AsksFor r.operation)) := by
  refine (route_tells router r cancel).mono fun course e member => ?_
  cases e with
  | dispatch sent answer =>
    obtain ⟨o, resolved, -, -, passed, -, -, rfl, -⟩ := course.of_sent (mem_sentIn.2 ⟨answer, member⟩)
    exact ⟨rfl, o, (screen_eq_ok_iff.1 passed).2.2.1, rfl⟩
  | _ => trivial

end Router

namespace Executor

theorem freeze_notes {e : Executor (σ × List ε)} {P : ε → Prop}
    (pin : ∀ symbol value, (e.pins.pin symbol value).Notes P)
    (release : ∀ symbol, (e.pins.release symbol).Notes P)
    (symbol : String) (directive : PinDirective) (source : SymbolSource) :
    (e.freeze symbol directive source).Notes P := by
  cases directive with
  | pin value => exact (pin symbol value).attempt.bind fun _ => Task.notes_pure _ P
  | release => exact (release symbol).attempt.bind fun _ => Task.notes_pure _ P

/-- The executor with the router before its backend, and every event of the router noted. -/
def noted (e : Executor σ) (router : Router σ) : Executor (σ × List Router.Event) :=
  (e.on .left).through router.noted

/-- To note the events changes nothing. -/
theorem mirrors_noted (e : Executor σ) (router : Router σ) :
    (e.noted router).Mirrors Prod.fst (e.through router) :=
  (mirrors_on .left e).through router.mirrors_noted

section Admitted

variable (e : Executor σ) (router : Router σ) (cancel : Token σ) {profile : Profile} {call : ActionCall}
  {a : ActionSpec} {payload : Payload}

/-- What is asked of the backend behind the router makes no request but for the operation that is named. -/
theorem execute_delivers (passed : screen profile call = .ok (a, payload)) :
    ((e.noted router).backend.execute (requestOf profile call a payload) (cancel.noted .token)).Notes
      (Router.Event.Delivers (·.AsksFor (call.operation a))) := by
  show ((router.noted.routed (e.on .left).backend).execute _ _).Notes _
  cases payload with
  | sdk arguments =>
    have looks : (e.on .left).backend.session.task.Notes (Router.Event.Delivers (·.AsksFor (call.operation a))) :=
      Task.Keeps.notes (fun _ => rfl) _
    rw [Router.routed_of_sdk _ _ rfl]
    obtain rfl : arguments = call.payload := Payload.eq_of_read_sdk (read_of_screen passed).2
    rw [← Router.operationId_requestOf profile call a (.sdk call.payload)] at looks ⊢
    -- The session that is looked at only adds to the context, so the router is asked for the same operation.
    exact looks.bind fun _ => (Router.route_delivers router _ cancel).bind fun _ => Task.notes_pure _ _
  | memory | freeze | helper | codePatch =>
    rw [Router.routed_of_other _ _ fun same => by cases same]
    exact (Backend.on_left_keeps _ _ _).notes _

theorem perform_delivers (passed : screen profile call = .ok (a, payload)) (attachment : Attachment) :
    ((e.noted router).perform profile call a payload attachment (cancel.noted .token)).Notes
      (Router.Event.Delivers (·.AsksFor (call.operation a))) := by
  have asks := (execute_delivers e router cancel passed).settle
  cases payload with
  | freeze symbol directive =>
    exact freeze_notes (fun _ _ => (Task.on_left_keeps _).notes _) (fun _ => (Task.on_left_keeps _).notes _)
      symbol directive _
  | memory | helper | sdk | codePatch =>
    refine asks.bind fun answer => ?_
    cases answer <;> exact Task.notes_pure _ _

end Admitted

/-- What passes between a router and its collaborators during a call. -/
def events (e : Executor σ) (router : Router σ) (call : ActionCall) (cancel : Token σ) (r : Runtime σ) :
    List Router.Event :=
  (((e.noted router).execute call (cancel.noted .token)).leave ⟨r.telemetry, (r.world, [])⟩).world.2

section Calls

variable {e : Executor σ} {router : Router σ} {call : ActionCall} {cancel : Token σ} {r : Runtime σ}

theorem journal_recorded (profile : Profile) (a : ActionSpec) (attachment : Attachment) (outcome : Outcome)
    (r : Runtime (σ × List Router.Event)) :
    ((e.noted router).recorded profile a attachment outcome r).world.2 = r.world.2 := by
  cases attachment with
  | detached => rfl
  | attached session => exact Task.on_left_keeps _ r.world

/-- Up to the checks nothing is noted but that the token was asked. -/
theorem journal_of_opens {profile : Profile} {s : σ × List Router.Event}
    (opens : (e.noted router).Opens call (cancel.noted .token) ⟨r.telemetry, (r.world, [])⟩ profile s) :
    s.2 = [.token (cancel r.world).1] ∧ (e.profiles call.profileId).ending (cancel r.world).2 = .ok profile := by
  obtain ⟨u, ran, rfl⟩ := Task.on_eq_ok opens.found
  exact ⟨rfl, Task.ending_of_ok ran⟩

theorem delivers_of_enters {profile : Profile} {a : ActionSpec} {payload : Payload} {attachment : Attachment}
    {s : σ × List Router.Event}
    (enters : (e.noted router).Enters call (cancel.noted .token) ⟨r.telemetry, (r.world, [])⟩ profile a payload
      attachment s) {event : Router.Event}
    (member : event ∈
      (((e.noted router).perform profile call a payload attachment (cancel.noted .token)).leave s).2) :
    event.Delivers fun sent => ∃ a, e.spec? call cancel r = some a ∧ sent.AsksFor (call.operation a) := by
  obtain ⟨before, opens, looked⟩ := enters.opens
  obtain ⟨asked, found⟩ := journal_of_opens opens
  have same : before.2 = s.2 := congrArg (·.2.2) looked
  have listed : e.spec? call cancel r = some a := by
    rw [spec?, found]
    exact (read_of_screen enters.passed).1
  obtain ⟨notes, added, each⟩ := perform_delivers e router cancel enters.passed attachment s
  rw [added, ← same, asked] at member
  cases event with
  | dispatch sent answer =>
    have noted : .dispatch sent answer ∈ notes := by simpa using member
    exact ⟨a, listed, each _ noted⟩
  | _ => trivial

/-- Every request that is handed on during a call asks for the operation that the call names. -/
theorem delivers_of_mem_events {event : Router.Event} (member : event ∈ e.events router call cancel r) :
    event.Delivers fun sent => ∃ a, e.spec? call cancel r = some a ∧ sent.AsksFor (call.operation a) := by
  have course := course_execute (e.noted router) call (cancel.noted .token) ⟨r.telemetry, (r.world, [])⟩
  unfold events Task.leave at member
  generalize (e.noted router).execute call (cancel.noted .token) ⟨r.telemetry, (r.world, [])⟩ = result
    at course member
  cases course with
  | cancelled fired =>
    cases List.mem_singleton.1 member
    trivial
  | unknown unfired missing =>
    have kept := (Task.on_left_keeps (e.profiles call.profileId)).error missing
    simp only [kept] at member
    cases List.mem_singleton.1 member
    trivial
  | refused opens barred =>
    have asked := (journal_of_opens opens).1
    simp only [asked] at member
    cases List.mem_singleton.1 member
    trivial
  | stopped enters fails =>
    rw [← Task.leave_of_error fails] at member
    exact delivers_of_enters enters member
  | performed enters ran =>
    simp only [journal_recorded] at member
    rw [← Task.leave_of_ok ran] at member
    exact delivers_of_enters enters member

end Calls

/-- A call of an action: what the profile says of the action, what the extension backend received, and how the
call ended. -/
structure Errand where
  call : ActionCall
  spec : Option ActionSpec
  received : List OperationRequest
  ending : Except Fault Outcome

/-- The calls of a run, each with a token of its own and on the state that the one before it left. -/
def errands (e : Executor σ) (router : Router σ) : List (ActionCall × Token σ) → Runtime σ → List Errand
  | [], _ => []
  | (call, cancel) :: calls, r =>
    ⟨call, e.spec? call cancel r, Router.sentIn (e.events router call cancel r),
        ((e.through router).execute call cancel).ending r⟩ ::
      e.errands router calls (((e.through router).execute call cancel).leave r)

theorem asksFor_of_mem_errands {e : Executor σ} {router : Router σ} {calls : List (ActionCall × Token σ)}
    {r : Runtime σ} {errand : Errand} (member : errand ∈ e.errands router calls r) {sent : OperationRequest}
    (received : sent ∈ errand.received) :
    ∃ a, errand.spec = some a ∧ sent.AsksFor (errand.call.operation a) := by
  -- Nothing is asked of the state that a call leaves, so the induction is for all states.
  induction calls generalizing r with
  | nil => cases member
  | cons call calls ih =>
    rcases List.mem_cons.1 member with rfl | later
    · obtain ⟨answer, dispatched⟩ := Router.mem_sentIn.1 received
      exact delivers_of_mem_events dispatched
    · exact ih later

/-- In every run each request that the extension backend receives has the flag of the operation that its call
names, whatever the profile says of the action. To look on changes no call. -/
theorem received_flag (e : Executor σ) (router : Router σ) (calls : List (ActionCall × Token σ))
    (r : Runtime σ) :
    (∀ call cancel, ((e.noted router).execute call (cancel.noted .token)).Mirrors (Runtime.map Prod.fst)
      ((e.through router).execute call cancel)) ∧
    ∀ errand ∈ e.errands router calls r, ∀ sent ∈ errand.received,
      ∃ a o, errand.spec = some a ∧ sent.operation = errand.call.operation a ∧
        Operation.find? sent.operation = some o ∧ sent.isMutation = o.isMutation := by
  refine ⟨fun call cancel => (mirrors_noted e router).execute (Query.mirrors_noted cancel _) call, ?_⟩
  intro errand member sent received
  obtain ⟨a, listed, named, o, found, flag⟩ := asksFor_of_mem_errands member received
  exact ⟨a, o, listed, named, named ▸ found, flag⟩

/-- An executor on a process of which nothing but its identity can be had, with an action that is said to change
nothing. -/
def peeking : Executor Extender where
  profiles _ := pure ((Profile.bare "drill").addAction { ActionSpec.plain "peek" .sdk with isMutation := false })
  backend := { failingBackend with
    session := Query.const (.attached { Session.bare 7 .galactic with processPath := "/games/swfoc.exe" }) }
  pins := failingPins
  audit _ := pure ()

/-- A call of that action in whose payload another operation is named. -/
def peekCall : ActionCall :=
  ⟨"drill", "peek", .ofList [("operationId", .str "toggle_ai"), ("boolValue", .bool false)], .galactic, .empty⟩

def peekErrands : List Errand :=
  peeking.errands (Router.drill.withExtender .whole) [(peekCall, .never)] ⟨.empty, .load Plugin.shipped⟩

theorem received_flag_peek :
    ∃ errand ∈ peekErrands, ∃ sent ∈ errand.received, ∃ a o, errand.spec = some a ∧
      sent.operation = errand.call.operation a ∧ Operation.find? sent.operation = some o ∧
      sent.isMutation = o.isMutation := by
  have received : ∃ errand ∈ peekErrands, ∃ sent, sent ∈ errand.received :=
    ⟨_, List.mem_singleton_self _, _, List.mem_singleton_self _⟩
  obtain ⟨errand, member, sent, received⟩ := received
  exact ⟨errand, member, sent, received, (received_flag peeking _ _ _).2 errand member sent received⟩

/-- An action that is said to change nothing can have the extension backend receive a request that does. -/
theorem received_mutation_of_peek :
    ∃ errand ∈ peekErrands, ∃ a, errand.spec = some a ∧ a.isMutation = false ∧
      ∃ sent ∈ errand.received, sent.isMutation = true :=
  ⟨_, List.mem_singleton_self _, _, rfl, rfl, _, List.mem_singleton_self _, rfl⟩

end Executor
end LiveControl
