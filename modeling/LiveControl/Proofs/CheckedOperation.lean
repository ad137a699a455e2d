import LiveControl.Proofs.ExtenderRuns
import LiveControl.Proofs.RouterJournal

namespace LiveControl

/-- Both ways of reading an operation's id agree. -/
theorem Extender.featureOf_eq_id {operation : String} {o : Operation}
    (found : Operation.find? operation = some o) : featureOf operation = o.id := by
  obtain ⟨listed, spelled⟩ := Operation.find?_eq_some_iff.1 found
  rw [Text.eqIgnoringCase_iff, Operation.asciiLower_id o listed] at spelled
  exact spelled.symm

namespace Router

variable {σ : Type}

/-- The keys under which the router tells what it found out. -/
def findingKeys : List String := [
  ContextKey.variant, ContextKey.variantConfidence, ContextKey.fingerprintId, ContextKey.capabilityState,
  ContextKey.capabilityReason]

/-- The router with an extender as its backend. -/
def withExtender (router : Router σ) (part : Part σ Extender) : Router σ :=
  { router with backend := Extender.backend part }

/-- What a plugin is given for a request that was dispatched is what the router checked on the way. -/
structure Checked (events : List Event) (r sent : OperationRequest) (seen : PluginRequest)
    (operation : Operation) : Prop where
  listed : operation ∈ Operation.catalog
  mode_allowed : operation.allows r.mode = true
  cleared : ∃ resolved decision, decision.allowed = true ∧
    clearance r operation resolved decision <+: events
  feature : seen.feature = operation.id
  capability_asked : ∀ {binary profile id anchors answer},
    .capability binary profile id anchors answer ∈ events → id = operation.id ∧ anchors = seen.anchors
  guard_asked : ∀ {found isMutation decision},
    .guard found isMutation decision ∈ events → isMutation = operation.isMutation
  fingerprint_asked : ∀ {path processId answer},
    .fingerprint path processId answer ∈ events → seen.processId = processId.filter fun n => n > 0
  seen_eq : seen = .ofOperation operation.id r
  payload_eq : sent.payload = r.payload
  mode_eq : sent.mode = r.mode
  context_eq : ∀ key ∉ findingKeys, sent.context.get? key = r.context.get? key

theorem get?_findings {key : String} (other : key ∉ findingKeys) (resolved : Resolved) :
    (findings resolved).get? key = none := by
  simp only [findingKeys, List.mem_cons, not_or, List.not_mem_nil] at other
  simp [findings, Table.ofList, other]

theorem get?_context_forwarded {key : String} (other : key ∉ findingKeys) (r : OperationRequest)
    (o : Operation) (resolved : Resolved) :
    (forwarded r o resolved).context.get? key = r.context.get? key := by
  rw [forwarded, Table.get?_overlay, get?_findings other, Option.none_or]

/-- The rewriting does not change what a plugin sees. -/
theorem ofOperation_forwarded (feature : String) (r : OperationRequest) (o : Operation) (resolved : Resolved) :
    PluginRequest.ofOperation feature (forwarded r o resolved) = .ofOperation feature r := by
  have anchors := get?_context_forwarded (by decide : ContextKey.anchors ∉ findingKeys) r o resolved
  have process := get?_context_forwarded (by decide : ContextKey.processId ∉ findingKeys) r o resolved
  simp only [PluginRequest.ofOperation, Bag.uint32?, anchors, process]
  rfl

/-- What is asked in an event is asked of that operation and with what the request gives for it. -/
def Event.Concerns (r : OperationRequest) (o : Operation) : Event → Prop
  | .fingerprint path processId _ => path = pathOf r ∧ processId = processOf r
  | .capability _ _ id anchors _ => id = o.id ∧ anchors = anchorsOf r
  | .guard _ isMutation _ => isMutation = o.isMutation
  | .token _ | .gate _ | .variant _ _ | .dispatch _ _ | .report _ _ => True

theorem concerns_of_delivery (r : OperationRequest) (o : Operation) {sent : OperationRequest}
    {resolved : Resolved} (decision : Decision) {steps : List Event} {ending : Except Fault OperationResult}
    (delivery : Delivery sent resolved steps ending) :
    ∀ e ∈ clearance r o resolved decision ++ steps, e.Concerns r o := by
  rw [List.forall_mem_append]
  constructor
  · simp [clearance, Event.Concerns]
  · cases delivery <;> simp [Event.Concerns]

theorem checked_of_delivery {r : OperationRequest} {o : Operation} {resolved : Resolved} {decision : Decision}
    {steps : List Event} {ending : Except Fault OperationResult} (passed : screen true r = .ok o)
    (allows : decision.allowed = true) (delivery : Delivery (forwarded r o resolved) resolved steps ending) :
    Checked (clearance r o resolved decision ++ steps) r (forwarded r o resolved)
      (.ofOperation o.id r) o := by
  obtain ⟨-, -, found, mode⟩ := screen_eq_ok_iff.1 passed
  have concerns := concerns_of_delivery r o decision delivery
  exact {
    listed := (Operation.find?_eq_some_iff.1 found).1
    mode_allowed := mode
    cleared := ⟨resolved, decision, allows, List.prefix_append _ _⟩
    feature := rfl
    capability_asked := fun asked => concerns _ asked
    guard_asked := fun asked => concerns _ asked
    fingerprint_asked := fun asked => (concerns _ asked).2 ▸ rfl
    seen_eq := rfl
    payload_eq := rfl
    mode_eq := rfl
    context_eq := fun key other => get?_context_forwarded other r o resolved }

/-- Whenever the router dispatches to an extender and a plugin runs, the plugin is given what the router
checked, and its outcome is noted under the operation that was checked. -/
theorem plugin_sees_checked (router : Router σ) (part : Part σ Extender) {r sent : OperationRequest}
    {cancel : Token σ} {s : σ} (dispatched : sent ∈ sentIn ((router.withExtender part).events r cancel s))
    {x : Extender} {plugin : Plugin} {seen : PluginRequest} (called : x.call? sent = some (plugin, seen)) :
    ∃ operation, Checked ((router.withExtender part).events r cancel s) r sent seen operation ∧
      (Extender.execute sent x).1 = Extender.resultOf plugin operation.id (plugin.execute seen) := by
  obtain ⟨o, resolved, decision, steps, passed, allows, delivery, rfl, events⟩ :=
    (course_events (router.withExtender part) r cancel s).of_sent dispatched
  obtain ⟨-, -, found, -⟩ := screen_eq_ok_iff.1 passed
  have feature : Extender.featureOf (forwarded r o resolved).operation = o.id := Extender.featureOf_eq_id found
  have ran := congrArg Prod.fst (Extender.execute_of_call called)
  obtain ⟨-, -, rfl⟩ := Extender.call_eq_some_iff.1 called
  rw [feature, ofOperation_forwarded] at ran ⊢
  rw [events]
  exact ⟨o, checked_of_delivery passed allows delivery, ran⟩

/-- A router that takes every binary for the same one and every operation for verified. -/
def drill : Router Extender where
  gate := Query.const true
  variants profileId := pure (.asRequested profileId)
  fingerprints _ processId := pure ⟨"swfoc_0badcafe", "0badcafe", "swfoc.exe", 2, processId⟩
  capabilities binary _ _ _ :=
    pure ⟨binary.id, .verified, .probePass, ⟨CapabilityEntry.standardReason, .verified, true, []⟩⟩
  guard capability isMutation := Query.const (.ofCapability capability isMutation)
  backend r := throw (.backend r.operation)
  sink _ _ := pure ()

/-- A request in a loose spelling that claims a fingerprint of its own. -/
def looseRequest : OperationRequest :=
  { OperationRequest.bare " Set_Unit_CAP " "drill" with
    payload := .ofList [("intValue", .int 250)]
    mode := .galactic
    context := .ofList [
      (ContextKey.processPath, .str "/games/swfoc.exe"), (ContextKey.processId, .str " 4242 "),
      (ContextKey.fingerprintId, .str "claimed")] }

theorem plugin_sees_checked_cap :
    ∃ sent seen operation, sent ∈ sentIn ((drill.withExtender .whole).events looseRequest .never
        (.load Plugin.shipped)) ∧
      (Extender.load Plugin.shipped).call? sent = some (Plugin.buildPatch, seen) ∧
      Checked ((drill.withExtender .whole).events looseRequest .never (.load Plugin.shipped)) looseRequest
        sent seen operation := by
  have sends : ∃ sent seen, sent ∈ sentIn ((drill.withExtender .whole).events looseRequest .never
        (.load Plugin.shipped)) ∧
      (Extender.load Plugin.shipped).call? sent = some (Plugin.buildPatch, seen) :=
    ⟨_, _, List.mem_singleton_self _, Extender.call_eq_some_iff.2 ⟨rfl, by decide, rfl⟩⟩
  obtain ⟨sent, seen, dispatched, called⟩ := sends
  obtain ⟨operation, checked, -⟩ := plugin_sees_checked drill .whole dispatched called
  exact ⟨sent, seen, operation, dispatched, called, checked⟩

end Router
end LiveControl
