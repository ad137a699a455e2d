import LiveControl.Proofs.CapabilityChoice
import LiveControl.Proofs.CheckedOperation
import LiveControl.Proofs.RouterReports

namespace LiveControl

variable {σ τ υ α : Type}

theorem Task.on_left_mirrors (t : Task σ α) (view : τ → υ) :
    (Task.on .left t).Mirrors (Prod.map id view) (Task.on .left t) := by
  intro s
  rw [ending_on, leave_on, ending_on, leave_on]
  exact ⟨rfl, rfl⟩

/-- The result tells by its reason whether the operation succeeded, and success is verified. -/
def OperationResult.Candid (result : OperationResult) : Prop :=
  result.succeeded = true ∧ result.reason = .probePass ∧ result.state = .verified ∨
    result.succeeded = false ∧ result.reason ≠ .probePass

theorem OperationResult.Candid.succeeded_iff {result : OperationResult} (candid : result.Candid) :
    (result.succeeded = true ↔ result.reason = .probePass) ∧
      (result.succeeded = true ↔ result.reason = .probePass ∧ result.state = .verified) := by
  rcases candid with ⟨succeeded, passed, verified⟩ | ⟨failed, other⟩
  · simp [succeeded, passed, verified]
  · simp [failed, other]

/-- The outcome gives the reason of a probe that passed exactly when it is a success. -/
def PluginOutcome.Candid (o : PluginOutcome) : Prop := o.succeeded = true ↔ o.reason = .probePass

theorem PluginOutcome.candid_accepted (hookState message : String) (diagnostics : List (String × Json)) :
    (accepted hookState message diagnostics).Candid := ⟨fun _ => rfl, fun _ => rfl⟩

theorem PluginOutcome.candid_denied {reason : ExtensionReason} (other : reason ≠ .probePass) (message : String)
    (diagnostics : List (String × Json)) : (denied reason message diagnostics).Candid :=
  ⟨nofun, fun same => absurd same other⟩

def Plugin.Candid (p : Plugin) : Prop := ∀ r, (p.execute r).Candid

namespace Plugin

open PluginOutcome

theorem candid_economy : economy.Candid := by
  intro r
  cases given : r.intValue with
  | none =>
    simp only [economy, given]
    exact candid_denied (by decide) _ _
  | some value =>
    simp only [economy, given]
    split
    · exact candid_denied (by decide) _ _
    · exact candid_accepted _ _ _

theorem candid_globalToggle : globalToggle.Candid := by
  intro r
  cases attached : r.processId with
  | none =>
    simp only [globalToggle, attached]
    exact candid_denied (by decide) _ _
  | some n =>
    cases found : r.anchor? (toggleAnchors r.feature) with
    | none =>
      simp only [globalToggle, attached, found]
      exact candid_denied (by decide) _ _
    | some anchor =>
      simp only [globalToggle, attached, found]
      exact candid_accepted _ _ _

theorem candid_buildPatch : buildPatch.Candid := by
  intro r
  cases attached : r.processId with
  | none =>
    simp only [buildPatch, attached]
    exact candid_denied (by decide) _ _
  | some n =>
    simp only [buildPatch, attached, Option.isNone_some, Bool.false_eq_true, if_false]
    split
    · exact candid_denied (by decide) _ _
    · exact candid_accepted _ _ _

theorem candid_of_mem_shipped {p : Plugin} (member : p ∈ shipped) : p.Candid := by
  simp only [shipped, List.mem_cons, List.not_mem_nil, or_false] at member
  obtain rfl | rfl | rfl := member
  · exact candid_economy
  · exact candid_globalToggle
  · exact candid_buildPatch

end Plugin

/-- An extender all of whose plugins are candid. -/
abbrev CandidExtender := { x : Extender // ∀ p ∈ x.plugins, p.Candid }

theorem Extender.candid_execute (x : CandidExtender) (r : OperationRequest) : (execute r x.1).1.Candid := by
  cases served : x.1.pluginFor (featureOf r.operation) with
  | none =>
    simp only [execute, served]
    exact .inr ⟨rfl, fun same => by cases same⟩
  | some plugin =>
    cases probed : x.1.probe.isAvailable (featureOf r.operation) with
    | false =>
      simp only [execute, served, probed]
      exact .inr ⟨rfl, fun same => by cases same⟩
    | true =>
      have candid := x.2 plugin (List.mem_of_find?_eq_some served) (.ofOperation (featureOf r.operation) r)
      simp only [execute, served, probed, if_true]
      cases came : (plugin.execute (.ofOperation (featureOf r.operation) r)).succeeded with
      | true => exact .inl ⟨came, candid.1 came, if_pos came⟩
      | false =>
        refine .inr ⟨came, fun same => ?_⟩
        rw [candid.2 same] at came
        cases came

/-- What the extender does, with the plugins still candid afterwards. -/
def CandidExtender.execute (r : OperationRequest) : Query CandidExtender OperationResult := fun x =>
  ((Extender.execute r x.1).1, ⟨(Extender.execute r x.1).2, (Extender.plugins_execute r x.1).symm ▸ x.2⟩)

theorem CandidExtender.mirrors_execute (r : OperationRequest) :
    (execute r).Mirrors Subtype.val (Extender.execute r) := fun _ => ⟨rfl, rfl⟩

namespace CapabilityMap

variable {m : CapabilityMap} {fingerprintId variant operation : String} {anchors : NameSet} {isMutation : Bool}

/-- The entry that decides holds as declared, and declares the operation unknown or unavailable. -/
def Disowns (m : CapabilityMap) (fingerprintId variant operation : String) (anchors : NameSet) : Prop :=
  ∃ e, m.Decides fingerprintId variant operation e ∧ e.Met anchors ∧
    (e.state = .unknown ∨ e.state = .unavailable)

theorem Disowns.denial (disowns : m.Disowns fingerprintId variant operation anchors) :
    m.Denial fingerprintId variant operation anchors isMutation .probePass := by
  obtain ⟨e, decides, met, state⟩ := disowns
  exact .unusable decides met state

theorem Denial.probePass_iff {reason : ExtensionReason}
    (denial : m.Denial fingerprintId variant operation anchors isMutation reason) :
    reason = .probePass ↔ m.Disowns fingerprintId variant operation anchors := by
  constructor
  · rintro rfl
    cases denial with
    | unusable decides met state => exact ⟨_, decides, met, state⟩
  · rintro ⟨e, decides, met, state⟩
    cases denial with
    | undeclared silent => exact absurd decides (silent e)
    | unmet decides' unmet => exact absurd (decides.eq decides' ▸ met) unmet
    | unproven decides' _ declared =>
      obtain rfl := decides.eq decides'
      rw [declared] at state
      exact absurd state (by decide)
    | unusable => rfl

end CapabilityMap

namespace Router

/-- The router with declared capabilities, the guard, and a backend that has a state of its own beside the one of
the other collaborators. -/
def serving (router : Router σ) (map : CapabilityMap) (serve : OperationRequest → Query τ OperationResult) :
    Router (σ × τ) where
  gate := Query.on .left router.gate
  variants profileId := Task.on .left (router.variants profileId)
  fingerprints path processId := Task.on .left (router.fingerprints path processId)
  capabilities fingerprint variant operation anchors := pure (map.lookup fingerprint variant operation anchors)
  guard capability isMutation := Query.const (.ofCapability capability isMutation)
  backend sent := Query.task (Query.on .right (serve sent))
  sink r result := Task.on .left (router.sink r result)

/-- Backends of which one mirrors the other serve alike. -/
theorem mirrors_serving (router : Router σ) (map : CapabilityMap) {view : τ → υ}
    {serve : OperationRequest → Query τ OperationResult} {plain : OperationRequest → Query υ OperationResult}
    (mirrors : ∀ sent, (serve sent).Mirrors view (plain sent)) :
    (router.serving map serve).Mirrors (Prod.map id view) (router.serving map plain) where
  gate _ := ⟨rfl, rfl⟩
  variants profileId := Task.on_left_mirrors (router.variants profileId) view
  fingerprints path processId := Task.on_left_mirrors (router.fingerprints path processId) view
  capabilities _ _ _ _ := Task.mirrors_pure _ _
  guard _ _ _ := ⟨rfl, rfl⟩
  backend sent s := by
    obtain ⟨answer, left⟩ := mirrors sent s.2
    exact ⟨congrArg Except.ok answer, Prod.ext rfl left⟩
  sink r result s := (Task.on_left_mirrors (router.sink r result) view s).2

/-- A capability is answered by an entry that disowns the operation. -/
def Event.Disowned (map : CapabilityMap) : Event → Prop
  | .capability binary profile operation anchors (.ok _) => map.Disowns binary.id profile operation anchors
  | _ => False

def Disowned (map : CapabilityMap) (events : List Event) : Prop := ∃ e ∈ events, e.Disowned map

/-- The answer in an event is the one of the map or of the guard, or a candid one of the backend. -/
def Event.Candid (map : CapabilityMap) : Event → Prop
  | .capability binary profile operation anchors answer =>
    answer = .ok (map.lookup binary profile operation anchors)
  | .guard found isMutation decision => decision = .ofCapability found isMutation
  | .dispatch _ answer => ∀ result, answer = .ok result → result.Candid
  | _ => True

variable {map : CapabilityMap} {r : OperationRequest} {o : Operation} {resolved : Resolved} {decision : Decision}

theorem Refusal.candid_result (refusal : Refusal) : refusal.result.Candid := by
  cases refusal <;> exact .inr ⟨rfl, by nofun⟩

/-- On its way to an answer a request is disowned, and then denied with nothing sent, or it is not, and then the
answer is candid. -/
theorem Course.candid_or_disowned {events : List Event} {result : OperationResult}
    (course : Course r events (.ok result)) (given : ∀ e ∈ events, e.Candid map) :
    (Disowned map events ∧ sentIn events = [] ∧
        result.succeeded = false ∧ result.reason = .probePass ∧ result.state ≠ .verified) ∨
      ¬Disowned map events ∧ result.Candid := by
  cases course with
  | refused barred => exact .inr ⟨by simp [Disowned, Event.Disowned], Refusal.candid_result _⟩
  | unresolved passed failed other =>
    refine .inr ⟨?_, .inr ⟨rfl, fun same => by cases same⟩⟩
    cases failed <;> simp [Disowned, Event.Disowned]
  | @denied operation steps resolved decision passed found denies =>
    rw [found.steps_eq] at given ⊢
    simp only [List.cons_append, List.nil_append, List.forall_mem_cons, Event.Candid, Except.ok.injEq] at given
    obtain ⟨-, -, -, -, looked, judged, -⟩ := given
    have unverified : resolved.capability.state ≠ .verified := by
      intro verified
      rw [judged, Decision.ofCapability, verified] at denies
      cases denies
    rw [judged, looked] at denies
    rcases CapabilityMap.guard_cases with ⟨allows, -⟩ | ⟨-, denial⟩
    · rw [allows] at denies
      cases denies
    rw [← looked, ← judged] at denial
    by_cases disowns : map.Disowns resolved.fingerprint.id resolved.variant.resolved operation.id (anchorsOf r)
    · exact .inl ⟨by simpa [Disowned, Event.Disowned] using disowns, rfl, rfl,
        denial.probePass_iff.2 disowns, unverified⟩
    · exact .inr ⟨by simpa [Disowned, Event.Disowned] using disowns,
        .inr ⟨rfl, fun same => disowns (denial.probePass_iff.1 same)⟩⟩
  | @delivered operation resolved decision steps _ passed allows delivery =>
    rw [List.forall_mem_append] at given
    obtain ⟨before, after⟩ := given
    simp only [clearance, List.forall_mem_cons, Event.Candid, Except.ok.injEq] at before
    obtain ⟨-, -, -, -, looked, judged, -⟩ := before
    have own : ¬map.Disowns resolved.fingerprint.id resolved.variant.resolved operation.id (anchorsOf r) := by
      rw [judged, looked] at allows
      rcases CapabilityMap.guard_cases with ⟨-, permits⟩ | ⟨denies, -⟩
      · exact fun disowns => disowns.denial.not_permits permits
      · rw [allows] at denies
        cases denies
    cases delivery with
    | answered =>
      refine .inr ⟨by simpa [Disowned, Event.Disowned, clearance] using own, ?_⟩
      exact after (.dispatch _ (.ok result)) List.mem_cons_self result rfl
    | failed other =>
      exact .inr ⟨by simpa [Disowned, Event.Disowned, clearance] using own, .inr ⟨rfl, fun same => by cases same⟩⟩

/-- A router to an extender, with declared capabilities and the guard. -/
def toExtender (router : Router σ) (map : CapabilityMap) : Router (σ × Extender) :=
  router.serving map Extender.execute

/-- Whoever else the router works with, what it asks the map, the guard and a candid extender is answered as by
those. -/
theorem candid_of_mem_events (router : Router σ) {cancel : Token (σ × CandidExtender)} {s : σ × CandidExtender}
    {e : Event} (member : e ∈ (router.serving map CandidExtender.execute).events r cancel s) : e.Candid map := by
  have given := givenBy_of_mem_events member
  cases e with
  | token | gate | variant | fingerprint | report => trivial
  | capability =>
    obtain ⟨s, rfl⟩ := given
    rfl
  | guard =>
    obtain ⟨s, rfl⟩ := given
    rfl
  | dispatch sent answer =>
    obtain ⟨s, rfl⟩ := given
    rintro result came
    cases came
    exact Extender.candid_execute s.2 sent

/-- The reason of a result tells success from failure, but for operations that are disowned. With declared
capabilities, the guard and an extender whose plugins are candid, an answer has the reason of a probe that passed
exactly when the operation succeeded, unless the deciding entry holds as declared and declares the operation
unknown or unavailable. Such a request is denied for that very reason, and never sent. -/
theorem reason_tells_success (router : Router σ) (map : CapabilityMap) (r : OperationRequest) (cancel : Token σ)
    (s : σ) {x : Extender} (candid : ∀ p ∈ x.plugins, p.Candid) {result : OperationResult}
    (returned : ((router.toExtender map).route r (Query.on .left cancel)).ending (s, x) = .ok result) :
    let events := (router.toExtender map).events r (Query.on .left cancel) (s, x)
    (¬Disowned map events → (result.succeeded = true ↔ result.reason = .probePass)) ∧
      (Disowned map events → result.succeeded = false ∧ result.reason = .probePass ∧ sentIn events = []) ∧
      (result.succeeded = true ↔ result.reason = .probePass ∧ result.state = .verified) := by
  intro events
  have mirrors : (router.serving map CandidExtender.execute).Mirrors (Prod.map id Subtype.val)
      (router.toExtender map) := mirrors_serving router map CandidExtender.mirrors_execute
  have token : Query.Mirrors (Query.on .left cancel : Token (σ × CandidExtender)) (Prod.map id Subtype.val)
      (Query.on .left cancel) := fun _ => ⟨rfl, rfl⟩
  have same : _ = events := mirrors.events r token (s, ⟨x, candid⟩)
  have given : ∀ e ∈ events, e.Candid map := by
    rw [← same]
    exact fun e => candid_of_mem_events router
  have course : Course r events _ := course_events (router.toExtender map) r (Query.on .left cancel) (s, x)
  rw [returned] at course
  rcases course.candid_or_disowned given with ⟨disowned, nothing, failed, passed, unverified⟩ | ⟨own, candid⟩
  · refine ⟨fun own => absurd disowned own, fun _ => ⟨failed, passed, nothing⟩, ?_⟩
    simp [failed, unverified]
  · obtain ⟨told, verified⟩ := candid.succeeded_iff
    exact ⟨fun _ => told, fun disowned => absurd disowned own, verified⟩

/-- A switch of the world in a process in which it was found. -/
def toggleRequest : OperationRequest :=
  { OperationRequest.bare "toggle_ai" "drill" with
    payload := .ofList [("boolValue", .bool true)]
    mode := .galactic
    context := .ofList [(ContextKey.processPath, .str "/games/swfoc.exe"), (ContextKey.processId, .int 4242),
      (ContextKey.anchors, .arr [.str "ai_enabled"])] }

/-- What comes of the switch when it is declared to be in a state. -/
def toggled (state : CapabilityState) : Except Fault OperationResult :=
  ((drill.toExtender ⟨[.plain "toggle_ai" state]⟩).route toggleRequest (Query.on .left Token.never)).ending
    (.load [], .load Plugin.shipped)

theorem reason_tells_success_toggle : ∃ result, toggled .verified = .ok result ∧
    result.succeeded = true ∧ result.reason = .probePass ∧ result.state = .verified := by
  obtain ⟨result, returned, succeeded⟩ : ∃ result, toggled .verified = .ok result ∧ result.succeeded = true :=
    ⟨_, rfl, rfl⟩
  have told := reason_tells_success drill ⟨[.plain "toggle_ai" .verified]⟩ toggleRequest .never (.load [])
    (fun _ => Plugin.candid_of_mem_shipped) returned
  exact ⟨result, returned, succeeded, told.2.2.1 succeeded⟩

/-- A switch that is declared unknown is denied for the reason of a probe that passed. -/
theorem denied_with_probePass :
    ∃ result, toggled .unknown = .ok result ∧ result.succeeded = false ∧ result.reason = .probePass :=
  ⟨_, rfl, rfl, rfl⟩

end Router
end LiveControl
