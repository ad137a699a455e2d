import LiveControl.Proofs.RouterJournal

namespace LiveControl

/-- The left one of two states. -/
def Part.left {σ υ : Type} : Part (σ × υ) σ where
  get := Prod.fst
  set s whole := (s, whole.2)

/-- The right one of two states. -/
def Part.right {σ υ : Type} : Part (σ × υ) υ where
  get := Prod.snd
  set u whole := (whole.1, u)

theorem Task.on_left_keeps {σ υ α : Type} (t : Task σ α) : (Task.on (.left : Part (σ × υ) σ) t).Keeps Prod.snd :=
  fun s => by rw [Task.leave_on]; rfl

namespace Router

variable {σ υ : Type}

/-- After the event the request must not be dispatched any more. -/
def Event.Bars (r : OperationRequest) : Event → Prop
  | .token fired => fired = true
  | .gate isOpen => ∃ refusal, screen isOpen r = .error refusal
  | .variant _ answer => ∃ fault, answer = .error fault
  | .fingerprint _ _ answer => ∃ fault, answer = .error fault
  | .capability _ _ _ _ answer => ∃ fault, answer = .error fault
  | .guard _ _ decision => decision.allowed = false
  | .dispatch _ _ | .report _ _ => False

/-- One call of a router: the caller's request, what happened and how the call ended. -/
structure Passage where
  request : OperationRequest
  events : List Event
  ending : Except Fault OperationResult

/-- The calls of a router, each with a token of its own and on the state that the one before it left. -/
def passages (router : Router σ) : List (OperationRequest × Token σ) → σ → List Passage
  | [], _ => []
  | (r, cancel) :: calls, s =>
    ⟨r, router.events r cancel s, (router.route r cancel).ending s⟩ ::
      router.passages calls ((router.route r cancel).leave s)

/-- What the sink, the backend and the caller may rely on in a call. -/
structure Passage.Accounted (p : Passage) : Prop where
  reported : ∀ {result}, p.ending = .ok result →
    reportsIn p.events = [((sentIn p.events).head?.getD p.request, result)]
  unreported : ∀ {fault}, p.ending = .error fault → fault = .cancelled ∧ reportsIn p.events = []
  sent_once : (sentIn p.events).length ≤ 1
  rewritten : ∀ {sent}, sent ∈ sentIn p.events → ∃ operation resolved decision,
    screen true p.request = .ok operation ∧ sent = forwarded p.request operation resolved ∧
      clearance p.request operation resolved decision <+: p.events
  unbarred : sentIn p.events ≠ [] → ∀ e ∈ p.events, ¬ e.Bars p.request

section

variable {r : OperationRequest} {events : List Event} {ending : Except Fault OperationResult}

theorem Course.reports_of_ok {result : OperationResult} (course : Course r events (.ok result)) :
    reportsIn events = [((sentIn events).head?.getD r, result)] := by
  cases course with
  | refused => rfl
  | unresolved _ failed =>
    simp [reportsIn, sentIn, reportsIn_append, sentIn_append, failed.reports_nothing, failed.sends_nothing]
  | denied _ found =>
    simp [reportsIn, sentIn, reportsIn_append, sentIn_append, found.reports_nothing, found.sends_nothing]
  | delivered _ _ delivery => cases delivery <;> rfl

theorem Course.reports_of_error {fault : Fault} (course : Course r events (.error fault)) :
    fault = .cancelled ∧ reportsIn events = [] := by
  cases course with
  | cancelled => exact ⟨rfl, rfl⟩
  | interrupted _ failed => exact ⟨rfl, failed.reports_nothing⟩
  | withdrawn _ found => exact ⟨rfl, by simp [reportsIn, reportsIn_append, found.reports_nothing]⟩
  | delivered _ _ delivery =>
    cases delivery
    exact ⟨rfl, rfl⟩

theorem Course.sends_once (course : Course r events ending) : (sentIn events).length ≤ 1 := by
  match sends : sentIn events with
  | [] => exact Nat.zero_le _
  | sent :: more =>
    obtain ⟨operation, resolved, decision, steps, -, -, delivery, -, rfl⟩ :=
      course.of_sent (sends ▸ List.mem_cons_self)
    rw [← sends, sentIn_append]
    cases delivery <;> exact Nat.le_refl 1

/-- Where a request was dispatched, nothing happened that bars it. -/
theorem Course.unbarred (course : Course r events ending) (sends : sentIn events ≠ []) :
    ∀ e ∈ events, ¬e.Bars r := by
  obtain ⟨sent, sends⟩ := List.exists_mem_of_ne_nil _ sends
  obtain ⟨operation, resolved, decision, steps, passed, allows, delivery, -, rfl⟩ := course.of_sent sends
  rw [List.forall_mem_append]
  constructor
  · simp [clearance, Event.Bars, passed, allows]
  · cases delivery <;> simp [Event.Bars]

theorem Course.accounted (course : Course r events ending) : Passage.Accounted ⟨r, events, ending⟩ where
  reported answered := by
    subst answered
    exact course.reports_of_ok
  unreported faulted := by
    subst faulted
    exact course.reports_of_error
  sent_once := course.sends_once
  rewritten sends := by
    obtain ⟨operation, resolved, decision, steps, passed, -, -, rewrites, rfl⟩ := course.of_sent sends
    exact ⟨operation, resolved, decision, passed, rewrites, List.prefix_append _ _⟩
  unbarred := course.unbarred

end

/-- The router with a sink that takes every report in as before, but has a rule of its own, with a memory
of its own, for whether it says so. -/
def reporting (verdict : OperationRequest → OperationResult → σ → υ → Except Fault Unit × υ)
    (router : Router σ) : Router (σ × υ) where
  gate := Query.on .left router.gate
  variants profileId := Task.on .left (router.variants profileId)
  fingerprints path processId := Task.on .left (router.fingerprints path processId)
  capabilities fingerprint variant operation anchors :=
    Task.on .left (router.capabilities fingerprint variant operation anchors)
  guard capability isMutation := Query.on .left (router.guard capability isMutation)
  backend sent := Task.on .left (router.backend sent)
  sink r result whole :=
    let (answer, own) := verdict r result whole.1 whole.2
    Task.ofExcept answer ((router.sink r result).leave whole.1, own)

theorem mirrors_reporting (verdict : OperationRequest → OperationResult → σ → υ → Except Fault Unit × υ)
    (router : Router σ) : (router.reporting verdict).Mirrors Prod.fst router where
  gate := Query.mirrors_on .left _
  variants _ := Task.mirrors_on .left _
  fingerprints _ _ := Task.mirrors_on .left _
  capabilities _ _ _ _ := Task.mirrors_on .left _
  guard _ _ := Query.mirrors_on .left _
  backend _ := Task.mirrors_on .left _
  sink r result whole :=
    congrArg Prod.fst (Task.leave_ofExcept (verdict r result whole.1 whole.2).1 (_, _))

theorem passages_reporting (verdict : OperationRequest → OperationResult → σ → υ → Except Fault Unit × υ)
    (router : Router σ) (calls : List (OperationRequest × Token σ)) (s : σ) (own : υ) :
    (router.reporting verdict).passages (calls.map fun call => (call.1, Query.on .left call.2)) (s, own) =
      router.passages calls s := by
  -- A call may change what the sink remembers, so the induction is for all of its memories.
  induction calls generalizing s own with
  | nil => rfl
  | cons call calls ih =>
    obtain ⟨r, cancel⟩ := call
    have mirrors := mirrors_reporting verdict router
    have token := Query.mirrors_on (.left : Part (σ × υ) σ) cancel
    obtain ⟨ending, left⟩ := mirrors.route r token (s, own)
    simp only [List.map_cons, passages]
    rw [mirrors.events r token, ending]
    generalize ((router.reporting verdict).route r (Query.on .left cancel)).leave (s, own) = next at left ⊢
    rw [← left, ← ih next.1 next.2]

theorem requests_passages (router : Router σ) (calls : List (OperationRequest × Token σ)) (s : σ) :
    (router.passages calls s).map Passage.request = calls.map Prod.fst := by
  induction calls generalizing s with
  | nil => rfl
  | cons call calls ih => rw [passages, List.map_cons, List.map_cons, ih]

theorem accounted_of_mem_passages (router : Router σ) (calls : List (OperationRequest × Token σ)) (s : σ)
    {p : Passage} (member : p ∈ router.passages calls s) : p.Accounted := by
  induction calls generalizing s with
  | nil => cases member
  | cons call calls ih =>
    obtain ⟨r, cancel⟩ := call
    have course := course_events router r cancel s
    rcases List.mem_cons.1 member with rfl | later
    · exact course.accounted
    · exact ih _ later

/-- However often a router is called, with whatever collaborators and whenever the tokens fire, every call
is accounted for, and whether the sink says that a report failed changes no call. -/
theorem passages_accounted (router : Router σ) (calls : List (OperationRequest × Token σ)) (s : σ) :
    (router.passages calls s).map Passage.request = calls.map Prod.fst ∧
      (∀ p ∈ router.passages calls s, p.Accounted) ∧
      ∀ {υ : Type} (verdict : OperationRequest → OperationResult → σ → υ → Except Fault Unit × υ) (own : υ),
        (router.reporting verdict).passages (calls.map fun call => (call.1, Query.on .left call.2)) (s, own) =
          router.passages calls s :=
  ⟨requests_passages router calls s, fun _ => accounted_of_mem_passages router calls s,
    fun verdict own => passages_reporting verdict router calls s own⟩

end Router
end LiveControl
