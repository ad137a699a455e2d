import LiveControl.Proofs.CapabilityChoice
import LiveControl.Proofs.RouterJournal

namespace LiveControl.Router

variable {σ : Type}

/-- The request spells the id of the operation, up to blanks around it and the case of A to Z. -/
def Spells (r : OperationRequest) (o : Operation) : Prop :=
  o ∈ Operation.catalog ∧ Text.eqIgnoringCase o.id (Text.trim r.operation) = true

/-- The request names the file of a process, by a text that is not blank. -/
def Names (r : OperationRequest) (path : String) : Prop :=
  ∃ text, r.context.get? ContextKey.processPath = some (.str text) ∧ path = Text.trim text ∧ path ≠ ""

/-- The file that the request names is there and has that fingerprint. -/
def Captures (files : Files) (r : OperationRequest) (fingerprint : Fingerprint) : Prop :=
  ∃ path, Names r path ∧ Fingerprint.ofFile files path (processOf r) = .ok fingerprint

/-- What a request has to satisfy at a stage. -/
def Passes (gateOpen : Bool) (files : Files) (map : CapabilityMap) (r : OperationRequest) : Stage → Prop
  | .featureGate => gateOpen = true
  | .runtimeContext => ∃ path, Names r path
  | .catalogLookup => ∃ o, Spells r o
  | .modeCompatibility => ∃ o, Spells r o ∧ (o.allowedModes = [] ∨ r.mode ∈ o.allowedModes)
  | .resolution => ∃ fingerprint, Captures files r fingerprint
  | .executionGuard => ∃ o fingerprint, Spells r o ∧ Captures files r fingerprint ∧
      map.Permits fingerprint.id r.profileId o.id (anchorsOf r) o.isMutation
  | .dispatch => True

/-- The reason that a refusal at a stage has. -/
def GivesReason (files : Files) (map : CapabilityMap) (r : OperationRequest) :
    Stage → ExtensionReason → Prop
  | .featureGate, reason => reason = .featureFlagDisabled
  | .runtimeContext, reason => reason = .runtimeNotAttached
  | .catalogLookup, reason => reason = .unknownOperation
  | .modeCompatibility, reason => reason = .modeMismatch
  | .resolution, reason => reason = .resolutionFailed
  | .executionGuard, reason => ∃ o fingerprint, Spells r o ∧ Captures files r fingerprint ∧
      map.Denial fingerprint.id r.profileId o.id (anchorsOf r) o.isMutation reason
  | .dispatch, _ => False

/-- The first stage whose condition the request does not satisfy. -/
def StopsAt (gateOpen : Bool) (files : Files) (map : CapabilityMap) (r : OperationRequest)
    (stage : Stage) : Prop :=
  ∃ before after, stages = before ++ stage :: after ∧
    (∀ passed ∈ before, Passes gateOpen files map r passed) ∧ ¬Passes gateOpen files map r stage

section

variable {gateOpen : Bool} {files : Files} {map : CapabilityMap} {r : OperationRequest} {o : Operation}

theorem names_iff {path : String} : Names r path ↔ r.context.text? ContextKey.processPath = some path :=
  Bag.text?_eq_some_iff.symm

theorem pathOf_eq {path : String} (names : Names r path) : pathOf r = path := by
  rw [pathOf, names_iff.1 names]
  rfl

theorem isSome_path_iff :
    (r.context.text? ContextKey.processPath).isSome = true ↔ ∃ path, Names r path := by
  simp only [Option.isSome_iff_exists, names_iff]

theorem captures_iff {fingerprint : Fingerprint} (attached : ∃ path, Names r path) :
    Captures files r fingerprint ↔ Fingerprint.ofFile files (pathOf r) (processOf r) = .ok fingerprint := by
  obtain ⟨path, names⟩ := attached
  constructor
  · rintro ⟨path', names', captured⟩
    rwa [pathOf_eq names']
  · intro captured
    rw [pathOf_eq names] at captured
    exact ⟨path, names, captured⟩

theorem Captures.eq {fingerprint fingerprint' : Fingerprint} (captures : Captures files r fingerprint)
    (captures' : Captures files r fingerprint') : fingerprint = fingerprint' := by
  obtain ⟨path, names, captured⟩ := captures
  rw [captures_iff ⟨path, names⟩, pathOf_eq names, captured] at captures'
  exact Except.ok.inj captures'

theorem spells_iff : Spells r o ↔ Operation.find? r.operation = some o :=
  Operation.find?_eq_some_iff.symm

theorem Spells.eq {o' : Operation} (spells : Spells r o) (spells' : Spells r o') : o = o' :=
  Option.some.inj ((spells_iff.1 spells).symm.trans (spells_iff.1 spells'))

theorem allows_iff {mode : Mode} :
    o.allows mode = true ↔ o.allowedModes = [] ∨ mode ∈ o.allowedModes := by
  simp [Operation.allows]

theorem passes_of_screened (passed : screen gateOpen r = .ok o) :
    ∀ stage ∈ [Stage.featureGate, .runtimeContext, .catalogLookup, .modeCompatibility],
      Passes gateOpen files map r stage := by
  obtain ⟨opened, attached, found, allows⟩ := screen_eq_ok_iff.1 passed
  have spells := spells_iff.2 found
  have mode := allows_iff.1 allows
  simpa [Passes] using ⟨opened, isSome_path_iff.1 attached, ⟨o, spells⟩, ⟨o, spells, mode⟩⟩

/-- What a refusal before the resolution says of the request. -/
inductive Refuses (gateOpen : Bool) (r : OperationRequest) : Refusal → Prop
  | gateClosed (closed : ¬gateOpen = true) : Refuses gateOpen r .gateClosed
  | notAttached (opened : gateOpen = true) (detached : ¬∃ path, Names r path) :
      Refuses gateOpen r .notAttached
  | unknownOperation (opened : gateOpen = true) (attached : ∃ path, Names r path)
      (unknown : ¬∃ o, Spells r o) : Refuses gateOpen r (.unknownOperation r.operation)
  | modeMismatch {o : Operation} (opened : gateOpen = true) (attached : ∃ path, Names r path) (spells : Spells r o)
      (forbids : ¬(o.allowedModes = [] ∨ r.mode ∈ o.allowedModes)) :
      Refuses gateOpen r (.modeMismatch o r.mode)

theorem refuses_of_screen {refusal : Refusal} (barred : screen gateOpen r = .error refusal) :
    Refuses gateOpen r refusal := by
  unfold screen at barred
  cases gateOpen with
  | false =>
    cases barred
    exact .gateClosed nofun
  | true =>
    cases attached : r.context.text? ContextKey.processPath with
    | none =>
      rw [attached] at barred
      cases barred
      refine .notAttached rfl fun ⟨path, names⟩ => ?_
      rw [names_iff.1 names] at attached
      cases attached
    | some path =>
      rw [attached] at barred
      have named : ∃ path, Names r path := ⟨path, names_iff.2 attached⟩
      cases found : Operation.find? r.operation with
      | none =>
        rw [found] at barred
        cases barred
        refine .unknownOperation rfl named fun ⟨o, spells⟩ => ?_
        rw [spells_iff.1 spells] at found
        cases found
      | some o =>
        rw [found] at barred
        cases allows : o.allows r.mode with
        | true => simp [allows] at barred
        | false =>
          simp only [allows] at barred
          cases barred
          refine .modeMismatch rfl named (spells_iff.2 found) fun mode => ?_
          rw [allows_iff.2 mode] at allows
          cases allows

/-- A request that is refused before anything is resolved stops at one of the first four stages. -/
theorem stopsAt_of_refused {refusal : Refusal} (barred : screen gateOpen r = .error refusal) :
    ∃ stage, StopsAt gateOpen files map r stage ∧ GivesReason files map r stage refusal.result.reason := by
  cases refuses_of_screen barred with
  | gateClosed closed => exact ⟨.featureGate, ⟨[], _, rfl, nofun, closed⟩, rfl⟩
  | notAttached opened detached =>
    refine ⟨.runtimeContext, ⟨[.featureGate], _, rfl, ?_, detached⟩, rfl⟩
    simpa [Passes] using opened
  | unknownOperation opened attached unknown =>
    refine ⟨.catalogLookup, ⟨[.featureGate, .runtimeContext], _, rfl, ?_, unknown⟩, rfl⟩
    simpa [Passes] using ⟨opened, attached⟩
  | modeMismatch opened attached spells forbids =>
    refine ⟨.modeCompatibility, ⟨[.featureGate, .runtimeContext, .catalogLookup], _, rfl, ?_, ?_⟩, rfl⟩
    · simpa [Passes] using ⟨opened, attached, _, spells⟩
    · rintro ⟨o', spells', mode⟩
      rw [← spells.eq spells'] at mode
      exact forbids mode

section

variable {backend : OperationRequest → Task σ OperationResult}
  {sink : OperationRequest → OperationResult → Task σ Unit}

/-- The answer in an event is the one of the reference collaborator, whatever the state. -/
def Event.IsReference (gateOpen : Bool) (files : Files) (map : CapabilityMap) : Event → Prop
  | .token fired => fired = false
  | .gate isOpen => isOpen = gateOpen
  | .variant profileId answer => answer = .ok (.asRequested profileId)
  | .fingerprint path processId answer => answer = Fingerprint.ofFile files path processId
  | .capability binary profile operation anchors answer =>
    answer = .ok (map.lookup binary profile operation anchors)
  | .guard found isMutation decision => decision = .ofCapability found isMutation
  | .dispatch _ _ | .report _ _ => True

theorem ofFile_ne_cancelled (files : Files) (path : String) (processId : Option UInt32) :
    Fingerprint.ofFile files path processId ≠ .error .cancelled := by
  unfold Fingerprint.ofFile
  split <;> nofun

/-- With the reference collaborators a resolution stands and falls with the fingerprint. -/
theorem resolution_of_reference {steps : List Event} {ending : Except Fault Resolved}
    (resolution : Resolution r o steps ending) (given : ∀ e ∈ steps, e.IsReference gateOpen files map) :
    match ending with
    | .ok resolved => Fingerprint.ofFile files (pathOf r) (processOf r) = .ok resolved.fingerprint ∧
        resolved.capability = map.lookup resolved.fingerprint r.profileId o.id (anchorsOf r)
    | .error fault => Fingerprint.ofFile files (pathOf r) (processOf r) = .error fault := by
  cases resolution with
  | noVariant fault => simp [Event.IsReference] at given
  | noFingerprint profile fault =>
    simp only [List.forall_mem_cons, Event.IsReference] at given
    obtain ⟨-, captured, -⟩ := given
    exact captured.symm
  | noCapability profile fingerprint fault => simp [Event.IsReference] at given
  | resolved resolved =>
    obtain ⟨profile, fingerprint, capability⟩ := resolved
    simp only [List.forall_mem_cons, Event.IsReference, Except.ok.injEq] at given
    obtain ⟨rfl, captured, looked, -⟩ := given
    exact ⟨captured.symm, looked⟩

theorem stopsAt_of_not_captured {fault : Fault} (passed : screen gateOpen r = .ok o)
    (uncaptured : Fingerprint.ofFile files (pathOf r) (processOf r) = .error fault) :
    StopsAt gateOpen files map r .resolution := by
  refine ⟨_, _, rfl, passes_of_screened passed, ?_⟩
  rintro ⟨fingerprint, path, names, captured⟩
  rw [← pathOf_eq names, uncaptured] at captured
  cases captured

theorem captures_of_screened {fingerprint : Fingerprint} (passed : screen gateOpen r = .ok o)
    (captured : Fingerprint.ofFile files (pathOf r) (processOf r) = .ok fingerprint) :
    Spells r o ∧ Captures files r fingerprint := by
  obtain ⟨-, attached, spelled, -⟩ := screen_eq_ok_iff.1 passed
  exact ⟨spells_iff.2 spelled, (captures_iff (isSome_path_iff.1 attached)).2 captured⟩

theorem passes_of_captured {fingerprint : Fingerprint} (passed : screen gateOpen r = .ok o)
    (captured : Fingerprint.ofFile files (pathOf r) (processOf r) = .ok fingerprint) :
    ∀ stage ∈ [Stage.featureGate, .runtimeContext, .catalogLookup, .modeCompatibility] ++ [.resolution],
      Passes gateOpen files map r stage := by
  rw [List.forall_mem_append, List.forall_mem_singleton]
  exact ⟨passes_of_screened passed, fingerprint, (captures_of_screened passed captured).2⟩

theorem stopsAt_of_denied {fingerprint : Fingerprint} {reason : ExtensionReason}
    (passed : screen gateOpen r = .ok o)
    (captured : Fingerprint.ofFile files (pathOf r) (processOf r) = .ok fingerprint)
    (denial : map.Denial fingerprint.id r.profileId o.id (anchorsOf r) o.isMutation reason) :
    StopsAt gateOpen files map r .executionGuard := by
  refine ⟨_, _, rfl, passes_of_captured passed captured, ?_⟩
  rintro ⟨o', fingerprint', spells', captures', permits⟩
  obtain ⟨spells, captures⟩ := captures_of_screened passed captured
  rw [← spells.eq spells', ← captures.eq captures'] at permits
  exact denial.not_permits permits

theorem passes_of_permitted {fingerprint : Fingerprint} (passed : screen gateOpen r = .ok o)
    (captured : Fingerprint.ofFile files (pathOf r) (processOf r) = .ok fingerprint)
    (permits : map.Permits fingerprint.id r.profileId o.id (anchorsOf r) o.isMutation) :
    ∀ stage ∈ stages, Passes gateOpen files map r stage := by
  obtain ⟨spells, captures⟩ := captures_of_screened passed captured
  have early (stage : Stage) (member : stage ∈ [Stage.featureGate, .runtimeContext, .catalogLookup,
      .modeCompatibility] ++ [.resolution]) : Passes gateOpen files map r stage :=
    passes_of_captured passed captured stage member
  intro stage member
  cases stage with
  | executionGuard => exact ⟨o, fingerprint, spells, captures, permits⟩
  | dispatch => trivial
  | _ => exact early _ (by simp)

/-- A course with the reference collaborators: either something was sent, and the request passes every
stage, or it is refused with the reason of the stage at which it stops. -/
theorem Course.verdict {events : List Event} {ending : Except Fault OperationResult}
    (course : Course r events ending) (given : ∀ e ∈ events, e.IsReference gateOpen files map) :
    sentIn events ≠ [] ∧ (∀ stage ∈ stages, Passes gateOpen files map r stage) ∨
      sentIn events = [] ∧ ∃ result stage, ending = .ok result ∧ result.succeeded = false ∧
        StopsAt gateOpen files map r stage ∧ GivesReason files map r stage result.reason := by
  cases course with
  -- The token never fires, so no request is cancelled on its own account.
  | cancelled => cases given (.token true) (by simp)
  | @refused isOpen refusal barred =>
    obtain rfl : isOpen = gateOpen := given (.gate isOpen) (by simp)
    obtain ⟨stage, stops, reason⟩ := stopsAt_of_refused barred
    exact .inr ⟨rfl, refusal.result, stage, rfl, by cases refusal <;> rfl, stops, reason⟩
  | @unresolved o steps fault passed failed other =>
    obtain rfl : true = gateOpen := given (.gate true) (by simp)
    have uncaptured := resolution_of_reference failed fun e member => given e (by simp [member])
    have nothing : sentIn (steps ++ [.report r (Router.unresolved fault)]) = [] := by
      simp [sentIn_append, sentIn, failed.sends_nothing]
    exact .inr ⟨nothing, _, .resolution, rfl, rfl, stopsAt_of_not_captured passed uncaptured, rfl⟩
  | @interrupted o steps passed failed =>
    have uncaptured := resolution_of_reference failed fun e member => given e (by simp [member])
    -- Only the file can fail the resolution, and reading a file is never cancelled.
    exact absurd uncaptured (ofFile_ne_cancelled _ _ _)
  | @denied o steps resolved decision passed found denies =>
    obtain rfl : true = gateOpen := given (.gate true) (by simp)
    obtain rfl : decision = .ofCapability resolved.capability o.isMutation :=
      given (.guard resolved.capability o.isMutation decision) (by simp)
    obtain ⟨captured, looked⟩ := resolution_of_reference found fun e member => given e (by simp [member])
    obtain ⟨spells, captures⟩ := captures_of_screened passed captured
    have nothing : ∀ result, sentIn (steps ++ [.guard resolved.capability o.isMutation
        (.ofCapability resolved.capability o.isMutation), .report r result]) = [] := by
      simp [sentIn_append, sentIn, found.sends_nothing]
    rw [looked] at denies
    rcases CapabilityMap.guard_cases with ⟨allows, -⟩ | ⟨-, denial⟩
    · rw [allows] at denies
      cases denies
    · rw [← looked] at denial
      exact .inr ⟨nothing _, _, .executionGuard, rfl, rfl, stopsAt_of_denied passed captured denial,
        o, resolved.fingerprint, spells, captures, denial⟩
  | withdrawn => cases given (.token true) (by simp)
  | @delivered o resolved decision steps _ passed allows delivery =>
    obtain rfl : true = gateOpen := given (.gate true) (by simp [clearance])
    obtain rfl : decision = .ofCapability resolved.capability o.isMutation :=
      given (.guard resolved.capability o.isMutation decision) (by simp [clearance])
    have found : Resolution r o _ (.ok resolved) := .resolved resolved
    obtain ⟨captured, looked⟩ := resolution_of_reference found fun e member =>
      given e (List.mem_append_left _ (by simp [clearance] at member ⊢; grind))
    rw [looked] at allows
    rcases CapabilityMap.guard_cases with ⟨-, permits⟩ | ⟨denies, -⟩
    · refine .inl ⟨?_, passes_of_permitted passed captured permits⟩
      cases delivery <;> simp [sentIn, clearance]
    · rw [allows] at denies
      cases denies

end

end

end LiveControl.Router
