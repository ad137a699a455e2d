import LiveControl.Proofs.Journal
import LiveControl.Extension.Router

namespace LiveControl.Router

variable {σ τ υ : Type}

/-- A question or an order of the router with what came of it. -/
inductive Event where
  | token (fired : Bool)
  | gate (isOpen : Bool)
  | variant (profileId : String) (answer : Except Fault VariantResolution)
  | fingerprint (path : String) (processId : Option UInt32) (answer : Except Fault Fingerprint)
  | capability (fingerprint : Fingerprint) (variant operation : String) (anchors : NameSet)
      (answer : Except Fault Capability)
  | guard (capability : Capability) (isMutation : Bool) (decision : Decision)
  | dispatch (sent : OperationRequest) (answer : Except Fault OperationResult)
  | report (r : OperationRequest) (result : OperationResult)

/-- The router with every event noted. A report is noted whatever the sink makes of it. -/
def noted (router : Router σ) : Router (σ × List Event) where
  gate := router.gate.noted .gate
  variants profileId := (router.variants profileId).noted (.variant profileId)
  fingerprints path processId := (router.fingerprints path processId).noted (.fingerprint path processId)
  capabilities fingerprint variant operation anchors :=
    (router.capabilities fingerprint variant operation anchors).noted
      (.capability fingerprint variant operation anchors)
  guard capability isMutation := (router.guard capability isMutation).noted (.guard capability isMutation)
  backend sent := (router.backend sent).noted (.dispatch sent)
  sink r result := (router.sink r result).noted fun _ => .report r result

/-- The events of a run, in order. -/
def events (router : Router σ) (r : OperationRequest) (cancel : Token σ) (s : σ) : List Event :=
  ((router.noted.route r (cancel.noted .token)).leave (s, [])).2

theorem ending_finish (router : Router σ) (r : OperationRequest) (result : OperationResult) (s : σ) :
    (router.finish r result).ending s = .ok result := by
  rw [finish, Task.ending_bind, Task.ending_attempt]
  rfl

theorem leave_finish (router : Router σ) (r : OperationRequest) (result : OperationResult) (s : σ) :
    (router.finish r result).leave s = (router.sink r result).leave s := by
  rw [finish, Task.leave_bind, Task.ending_attempt, Task.leave_attempt]
  rfl

/-- Seen through `view`, the collaborators of a router do just what those of the plain one do, but whether
a report fails is left open. -/
structure Mirrors (router : Router σ) (view : σ → τ) (plain : Router τ) : Prop where
  gate : router.gate.Mirrors view plain.gate
  variants : ∀ profileId, (router.variants profileId).Mirrors view (plain.variants profileId)
  fingerprints : ∀ path processId,
    (router.fingerprints path processId).Mirrors view (plain.fingerprints path processId)
  capabilities : ∀ fingerprint variant operation anchors,
    (router.capabilities fingerprint variant operation anchors).Mirrors view
      (plain.capabilities fingerprint variant operation anchors)
  guard : ∀ capability isMutation,
    (router.guard capability isMutation).Mirrors view (plain.guard capability isMutation)
  backend : ∀ sent, (router.backend sent).Mirrors view (plain.backend sent)
  sink : ∀ r result s, view ((router.sink r result).leave s) = (plain.sink r result).leave (view s)

namespace Mirrors

variable {router : Router σ} {view : σ → τ} {plain : Router τ}

theorem finish (mirrors : router.Mirrors view plain) (r : OperationRequest) (result : OperationResult) :
    (router.finish r result).Mirrors view (plain.finish r result) := by
  intro s
  rw [ending_finish, leave_finish, ending_finish, leave_finish]
  exact ⟨rfl, mirrors.sink r result s⟩

theorem resolve (mirrors : router.Mirrors view plain) (r : OperationRequest) (operation : Operation) :
    (router.resolve r operation).Mirrors view (plain.resolve r operation) :=
  (mirrors.variants _).bind fun _ => (mirrors.fingerprints _ _).bind fun _ =>
    (mirrors.capabilities _ _ _ _).bind fun _ => Task.mirrors_pure _ view

theorem dispatch (mirrors : router.Mirrors view plain) (r : OperationRequest) (operation : Operation)
    (resolved : Resolved) :
    (router.dispatch r operation resolved).Mirrors view (plain.dispatch r operation resolved) := by
  refine (mirrors.backend _).settle.bind fun answer => ?_
  cases answer <;> exact mirrors.finish _ _

/-- What a router answers and leaves behind does not depend on whether reports fail. -/
theorem route (mirrors : router.Mirrors view plain) (r : OperationRequest) {cancel : Token σ}
    {plainCancel : Token τ} (token : Query.Mirrors cancel view plainCancel) :
    (router.route r cancel).Mirrors view (plain.route r plainCancel) := by
  refine (Token.check_mirrors token).bind fun _ => mirrors.gate.task.bind fun isOpen => ?_
  cases screen isOpen r with
  | error refusal => exact mirrors.finish r refusal.result
  | ok operation =>
    refine (mirrors.resolve r operation).settle.bind fun outcome => ?_
    cases outcome with
    | error fault => exact mirrors.finish r (unresolved fault)
    | ok resolved =>
      refine (mirrors.guard _ _).task.bind fun decision => ?_
      cases decision.allowed with
      | true => exact (Token.check_mirrors token).bind fun _ => mirrors.dispatch r operation resolved
      | false => exact mirrors.finish r (denied operation resolved decision)

theorem noted (mirrors : router.Mirrors view plain) :
    router.noted.Mirrors (Prod.map view id) plain.noted where
  gate := mirrors.gate.noted _
  variants profileId := (mirrors.variants profileId).noted _
  fingerprints path processId := (mirrors.fingerprints path processId).noted _
  capabilities fingerprint variant operation anchors :=
    (mirrors.capabilities fingerprint variant operation anchors).noted _
  guard capability isMutation := (mirrors.guard capability isMutation).noted _
  backend sent := (mirrors.backend sent).noted _
  sink r result s := by
    show Prod.map view id (((router.sink r result).noted fun _ => Event.report r result).leave s) =
      ((plain.sink r result).noted fun _ => Event.report r result).leave (Prod.map view id s)
    rw [Task.leave_noted, Task.leave_noted]
    exact Prod.ext (mirrors.sink r result s.1) rfl

/-- Routers of which one mirrors the other have the same events. -/
theorem events (mirrors : router.Mirrors view plain) (r : OperationRequest) {cancel : Token σ}
    {plainCancel : Token τ} (token : Query.Mirrors cancel view plainCancel) (s : σ) :
    router.events r cancel s = plain.events r plainCancel (view s) :=
  congrArg Prod.snd (mirrors.noted.route r (token.noted Event.token) (s, [])).2

end Mirrors

/-- To note the events changes nothing. -/
theorem mirrors_noted (router : Router σ) : router.noted.Mirrors Prod.fst router where
  gate := Query.mirrors_noted _ _
  variants _ := Task.mirrors_noted _ _
  fingerprints _ _ := Task.mirrors_noted _ _
  capabilities _ _ _ _ := Task.mirrors_noted _ _
  guard _ _ := Query.mirrors_noted _ _
  backend _ := Task.mirrors_noted _ _
  sink r result s := (Task.mirrors_noted (router.sink r result) (fun _ => Event.report r result) s).2

/-- The path and the number of the process that a request names. -/
def pathOf (r : OperationRequest) : String := (r.context.text? ContextKey.processPath).getD ""

def processOf (r : OperationRequest) : Option UInt32 := r.context.uint32? ContextKey.processId

def anchorsOf (r : OperationRequest) : NameSet := Anchors.ofEntry (r.context.get? ContextKey.anchors)

/-- The questions of a resolution, up to the first that has no answer. -/
inductive Resolution (r : OperationRequest) (operation : Operation) :
    List Event → Except Fault Resolved → Prop
  | noVariant (fault : Fault) : Resolution r operation [.variant r.profileId (.error fault)] (.error fault)
  | noFingerprint (variant : VariantResolution) (fault : Fault) :
      Resolution r operation
        [.variant r.profileId (.ok variant), .fingerprint (pathOf r) (processOf r) (.error fault)] (.error fault)
  | noCapability (variant : VariantResolution) (fingerprint : Fingerprint) (fault : Fault) :
      Resolution r operation
        [.variant r.profileId (.ok variant), .fingerprint (pathOf r) (processOf r) (.ok fingerprint),
          .capability fingerprint variant.resolved operation.id (anchorsOf r) (.error fault)] (.error fault)
  | resolved (resolved : Resolved) :
      Resolution r operation
        [.variant r.profileId (.ok resolved.variant),
          .fingerprint (pathOf r) (processOf r) (.ok resolved.fingerprint),
          .capability resolved.fingerprint resolved.variant.resolved operation.id (anchorsOf r)
            (.ok resolved.capability)] (.ok resolved)

/-- The events before a request is dispatched. -/
def clearance (r : OperationRequest) (operation : Operation) (resolved : Resolved) (decision : Decision) :
    List Event := [
  .token false, .gate true, .variant r.profileId (.ok resolved.variant),
  .fingerprint (pathOf r) (processOf r) (.ok resolved.fingerprint),
  .capability resolved.fingerprint resolved.variant.resolved operation.id (anchorsOf r) (.ok resolved.capability),
  .guard resolved.capability operation.isMutation decision, .token false]

/-- The dispatch of a request and what follows it. -/
inductive Delivery (sent : OperationRequest) (resolved : Resolved) :
    List Event → Except Fault OperationResult → Prop
  | answered (result : OperationResult) :
      Delivery sent resolved [.dispatch sent (.ok result), .report sent result] (.ok result)
  | failed {fault} (other : fault ≠ .cancelled) :
      Delivery sent resolved
        [.dispatch sent (.error fault), .report sent (dispatchFailed resolved fault)]
        (.ok (dispatchFailed resolved fault))
  | aborted : Delivery sent resolved [.dispatch sent (.error .cancelled)] (.error .cancelled)

/-- The events of a request and how it ends, one case for each way out of the stages. -/
inductive Course (r : OperationRequest) : List Event → Except Fault OperationResult → Prop
  | cancelled : Course r [.token true] (.error .cancelled)
  | refused {isOpen refusal} (barred : screen isOpen r = .error refusal) :
      Course r [.token false, .gate isOpen, .report r refusal.result] (.ok refusal.result)
  | unresolved {operation steps fault} (passed : screen true r = .ok operation)
      (failed : Resolution r operation steps (.error fault)) (other : fault ≠ .cancelled) :
      Course r (.token false :: .gate true :: (steps ++ [.report r (unresolved fault)])) (.ok (unresolved fault))
  | interrupted {operation steps} (passed : screen true r = .ok operation)
      (failed : Resolution r operation steps (.error .cancelled)) :
      Course r (.token false :: .gate true :: steps) (.error .cancelled)
  | denied {operation steps resolved decision} (passed : screen true r = .ok operation)
      (found : Resolution r operation steps (.ok resolved)) (denies : decision.allowed = false) :
      Course r
        (.token false :: .gate true :: (steps ++
          [.guard resolved.capability operation.isMutation decision,
            .report r (denied operation resolved decision)]))
        (.ok (denied operation resolved decision))
  | withdrawn {operation steps resolved decision} (passed : screen true r = .ok operation)
      (found : Resolution r operation steps (.ok resolved)) (allows : decision.allowed = true) :
      Course r
        (.token false :: .gate true :: (steps ++
          [.guard resolved.capability operation.isMutation decision, .token true]))
        (.error .cancelled)
  | delivered {operation resolved decision steps ending} (passed : screen true r = .ok operation)
      (allows : decision.allowed = true)
      (delivery : Delivery (forwarded r operation resolved) resolved steps ending) :
      Course r (clearance r operation resolved decision ++ steps) ending

/-- The requests that were dispatched. -/
def sentIn : List Event → List OperationRequest
  | [] => []
  | .dispatch sent _ :: events => sent :: sentIn events
  | _ :: events => sentIn events

/-- The reports that were made. -/
def reportsIn : List Event → List (OperationRequest × OperationResult)
  | [] => []
  | .report r result :: events => (r, result) :: reportsIn events
  | _ :: events => reportsIn events

theorem sentIn_append (early late : List Event) : sentIn (early ++ late) = sentIn early ++ sentIn late := by
  fun_induction sentIn early <;> simp_all [sentIn]

theorem reportsIn_append (early late : List Event) :
    reportsIn (early ++ late) = reportsIn early ++ reportsIn late := by
  fun_induction reportsIn early <;> simp_all [reportsIn]

theorem Resolution.sends_nothing {r : OperationRequest} {operation : Operation} {steps : List Event}
    {ending : Except Fault Resolved} (resolution : Resolution r operation steps ending) :
    sentIn steps = [] := by cases resolution <;> rfl

theorem Resolution.reports_nothing {r : OperationRequest} {operation : Operation} {steps : List Event}
    {ending : Except Fault Resolved} (resolution : Resolution r operation steps ending) :
    reportsIn steps = [] := by cases resolution <;> rfl

/-- A course on which something was sent begins with its clearance. -/
theorem Course.of_sent {r : OperationRequest} {events : List Event} {ending : Except Fault OperationResult}
    (course : Course r events ending) {sent : OperationRequest} (sends : sent ∈ sentIn events) :
    ∃ operation resolved decision steps, screen true r = .ok operation ∧ decision.allowed = true ∧
      Delivery (forwarded r operation resolved) resolved steps ending ∧
      sent = forwarded r operation resolved ∧
      events = clearance r operation resolved decision ++ steps := by
  cases course with
  | cancelled => cases sends
  | refused => cases sends
  | unresolved _ failed => simp [sentIn, sentIn_append, failed.sends_nothing] at sends
  | interrupted _ failed => simp [sentIn, failed.sends_nothing] at sends
  | denied _ found => simp [sentIn, sentIn_append, found.sends_nothing] at sends
  | withdrawn _ found => simp [sentIn, sentIn_append, found.sends_nothing] at sends
  | @delivered operation resolved decision steps _ passed allows delivery =>
    refine ⟨operation, resolved, decision, steps, passed, allows, delivery, ?_, rfl⟩
    cases delivery <;> simpa [sentIn, clearance] using sends

theorem screen_eq_ok_iff {isOpen : Bool} {r : OperationRequest} {operation : Operation} :
    screen isOpen r = .ok operation ↔ isOpen = true ∧ (r.context.text? ContextKey.processPath).isSome ∧
      Operation.find? r.operation = some operation ∧ operation.allows r.mode = true := by
  unfold screen
  cases isOpen <;> cases r.context.text? ContextKey.processPath <;>
    cases Operation.find? r.operation <;> simp
  rename_i found
  split
  · rename_i allows
    simp only [Except.ok.injEq, iff_self_and]
    rintro rfl
    exact allows
  · rename_i forbids
    simp only [reduceCtorEq, false_iff, not_and]
    rintro rfl
    exact forbids

theorem Resolution.steps_eq {r : OperationRequest} {operation : Operation} {steps : List Event}
    {resolved : Resolved} (found : Resolution r operation steps (.ok resolved)) :
    steps = [.variant r.profileId (.ok resolved.variant),
      .fingerprint (pathOf r) (processOf r) (.ok resolved.fingerprint),
      .capability resolved.fingerprint resolved.variant.resolved operation.id (anchorsOf r)
        (.ok resolved.capability)] := by
  cases found
  rfl

section Stages

variable (router : Router σ) {r : OperationRequest} {operation : Operation}

theorem finish_tells (r : OperationRequest) (result : OperationResult) :
    (router.noted.finish r result).Tells fun notes ending =>
      notes = [.report r result] ∧ ending = .ok result := by
  intro s
  rw [ending_finish, leave_finish]
  exact ⟨[.report r result], congrArg Prod.snd
    (Task.leave_noted (router.sink r result) (fun _ => Event.report r result) s), rfl, rfl⟩

theorem resolve_tells (r : OperationRequest) (operation : Operation) :
    (router.noted.resolve r operation).Tells (Resolution r operation) := by
  refine (Task.tells_noted _ _).bind ?_ ?_
  · rintro variant _ rfl
    refine (Task.tells_noted _ _).bind ?_ ?_
    · rintro fingerprint _ rfl
      refine (Task.tells_noted _ _).bind ?_ ?_
      · rintro capability _ rfl
        refine (Task.tells_pure _).mono ?_
        rintro _ _ ⟨rfl, rfl⟩
        exact .resolved ⟨variant, fingerprint, capability⟩
      · rintro fault _ rfl
        exact .noCapability variant fingerprint fault
    · rintro fault _ rfl
      exact .noFingerprint variant fault
  · rintro fault _ rfl
    exact .noVariant fault

theorem dispatch_tells (resolved : Resolved) :
    (router.noted.dispatch r operation resolved).Tells
      (Delivery (forwarded r operation resolved) resolved) := by
  refine (Task.tells_noted _ _).settle.bind ?_ ?_
  · rintro answer _ ⟨rfl, other⟩
    cases answer with
    | ok result =>
      refine (finish_tells router _ result).mono ?_
      rintro _ _ ⟨rfl, rfl⟩
      exact .answered result
    | error fault =>
      refine (finish_tells router _ _).mono ?_
      rintro _ _ ⟨rfl, rfl⟩
      exact .failed fun fired => other (congrArg Except.error fired)
  · rintro fault _ ⟨rfl, rfl⟩
    exact .aborted

/-- What follows once a request is resolved. -/
theorem guard_tells (cancel : Token σ) {steps : List Event} {resolved : Resolved}
    (passed : screen true r = .ok operation) (found : Resolution r operation steps (.ok resolved)) :
    ((router.noted.guard resolved.capability operation.isMutation).task >>= fun decision =>
        if decision.allowed then
          Token.check (cancel.noted Event.token) >>= fun _ => router.noted.dispatch r operation resolved
        else router.noted.finish r (denied operation resolved decision)).Tells
      fun notes ending => Course r (.token false :: .gate true :: (steps ++ notes)) ending := by
  refine (Query.tells_noted _ _).bind ?_ fun stops => stops.elim
  rintro decision _ rfl
  cases allows : decision.allowed with
  | false =>
    refine (finish_tells router r _).mono ?_
    rintro _ _ ⟨rfl, rfl⟩
    exact .denied passed found allows
  | true =>
    refine (Token.check_tells cancel Event.token).bind ?_ ?_
    · rintro _ _ rfl
      refine (dispatch_tells router resolved).mono fun delivery => ?_
      rw [found.steps_eq]
      exact .delivered passed allows delivery
    · rintro fault _ ⟨rfl, rfl⟩
      exact .withdrawn passed found allows

theorem route_tells (r : OperationRequest) (cancel : Token σ) :
    (router.noted.route r (cancel.noted .token)).Tells (Course r) := by
  refine (Token.check_tells cancel Event.token).bind ?_ ?_
  · rintro _ _ rfl
    refine (Query.tells_noted _ _).bind ?_ fun stops => stops.elim
    rintro isOpen _ rfl
    cases screened : screen isOpen r with
    | error refusal =>
      refine (finish_tells router r _).mono ?_
      rintro _ _ ⟨rfl, rfl⟩
      exact .refused screened
    | ok operation =>
      obtain rfl := (screen_eq_ok_iff.1 screened).1
      refine (resolve_tells router r operation).settle.bind ?_ ?_
      · rintro outcome steps ⟨resolution, other⟩
        cases outcome with
        | error fault =>
          refine (finish_tells router r _).mono ?_
          rintro _ _ ⟨rfl, rfl⟩
          exact .unresolved screened resolution fun fired => other (congrArg Except.error fired)
        | ok resolved => exact guard_tells router cancel screened resolution
      · rintro fault steps ⟨rfl, resolution⟩
        exact .interrupted screened resolution
  · rintro fault _ ⟨rfl, rfl⟩
    exact .cancelled

end Stages

/-- The events of a request on its way through a router take one of the courses, and the way in which the
request ends is the one that belongs to the course. -/
theorem course_events (router : Router σ) (r : OperationRequest) (cancel : Token σ) (s : σ) :
    Course r (router.events r cancel s) ((router.route r cancel).ending s) := by
  obtain ⟨notes, added, fits⟩ := route_tells router r cancel (s, [])
  have same := (router.mirrors_noted.route r (Query.mirrors_noted cancel Event.token) (s, [])).1
  rw [same] at fits
  rw [events, added]
  exact fits

/-- The answer in an event is one that the collaborator gives. -/
def Event.GivenBy (router : Router σ) (cancel : Token σ) : Event → Prop
  | .token fired => ∃ s, (cancel s).1 = fired
  | .gate isOpen => ∃ s, (router.gate s).1 = isOpen
  | .variant profileId answer => ∃ s, (router.variants profileId).ending s = answer
  | .fingerprint path processId answer => ∃ s, (router.fingerprints path processId).ending s = answer
  | .capability binary profile operation anchors answer =>
    ∃ s, (router.capabilities binary profile operation anchors).ending s = answer
  | .guard found isMutation decision => ∃ s, (router.guard found isMutation s).1 = decision
  | .dispatch sent answer => ∃ s, (router.backend sent).ending s = answer
  | .report _ _ => True

/-- All that the collaborators of a router note satisfies `P`. -/
structure Notes {ε : Type} (router : Router (σ × List ε)) (P : ε → Prop) : Prop where
  gate : router.gate.task.Notes P
  variants : ∀ profileId, (router.variants profileId).Notes P
  fingerprints : ∀ path processId, (router.fingerprints path processId).Notes P
  capabilities : ∀ fingerprint variant operation anchors,
    (router.capabilities fingerprint variant operation anchors).Notes P
  guard : ∀ capability isMutation, (router.guard capability isMutation).task.Notes P
  backend : ∀ sent, (router.backend sent).Notes P
  sink : ∀ r result, (router.sink r result).Notes P

namespace Notes

variable {ε : Type} {router : Router (σ × List ε)} {P : ε → Prop}

theorem finish (notes : router.Notes P) (r : OperationRequest) (result : OperationResult) :
    (router.finish r result).Notes P :=
  (notes.sink r result).attempt.bind fun _ => Task.notes_pure _ P

theorem resolve (notes : router.Notes P) (r : OperationRequest) (operation : Operation) :
    (router.resolve r operation).Notes P :=
  (notes.variants _).bind fun _ => (notes.fingerprints _ _).bind fun _ =>
    (notes.capabilities _ _ _ _).bind fun _ => Task.notes_pure _ P

theorem dispatch (notes : router.Notes P) (r : OperationRequest) (operation : Operation) (resolved : Resolved) :
    (router.dispatch r operation resolved).Notes P := by
  refine (notes.backend _).settle.bind fun answer => ?_
  cases answer <;> exact notes.finish _ _

theorem route (notes : router.Notes P) (r : OperationRequest) {cancel : Token (σ × List ε)}
    (token : cancel.check.Notes P) : (router.route r cancel).Notes P := by
  refine token.bind fun _ => notes.gate.bind fun isOpen => ?_
  cases screen isOpen r with
  | error refusal => exact notes.finish r refusal.result
  | ok operation =>
    refine (notes.resolve r operation).settle.bind fun outcome => ?_
    cases outcome with
    | error fault => exact notes.finish r (unresolved fault)
    | ok resolved =>
      refine (notes.guard _ _).bind fun decision => ?_
      cases decision.allowed with
      | true => exact token.bind fun _ => notes.dispatch r operation resolved
      | false => exact notes.finish r (denied operation resolved decision)

end Notes

theorem noted_notes (router : Router σ) (cancel : Token σ) : router.noted.Notes (Event.GivenBy router cancel) where
  gate := Query.notes_noted fun s => ⟨s, rfl⟩
  variants _ := Task.notes_noted fun s => ⟨s, rfl⟩
  fingerprints _ _ := Task.notes_noted fun s => ⟨s, rfl⟩
  capabilities _ _ _ _ := Task.notes_noted fun s => ⟨s, rfl⟩
  guard _ _ := Query.notes_noted fun s => ⟨s, rfl⟩
  backend _ := Task.notes_noted fun s => ⟨s, rfl⟩
  sink r result := by
    show ((router.sink r result).noted fun _ => Event.report r result).Notes _
    exact Task.notes_noted fun _ => trivial

theorem givenBy_of_mem_events {router : Router σ} {r : OperationRequest} {cancel : Token σ} {s : σ} {e : Event}
    (member : e ∈ router.events r cancel s) : e.GivenBy router cancel := by
  have token : (Token.check (cancel.noted Event.token)).Notes (Event.GivenBy router cancel) :=
    Token.check_notes fun s => ⟨s, rfl⟩
  have notes : (router.noted.route r (cancel.noted .token)).NotesIn Prod.snd (Event.GivenBy router cancel) :=
    (noted_notes router cancel).route r token
  exact notes.of_mem rfl member

end LiveControl.Router
