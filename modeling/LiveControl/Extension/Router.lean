import LiveControl.Context
import LiveControl.Environment
import LiveControl.Extension.Capability
import LiveControl.Extension.Operation
import LiveControl.Extension.Request

namespace LiveControl

/-- What the router works with, each a task on states `σ`. -/
structure Router (σ : Type) where
  /-- Whether the extension path is open. -/
  gate : Query σ Bool
  variants : String → Task σ VariantResolution
  fingerprints : String → Option UInt32 → Task σ Fingerprint
  /-- Answers for a fingerprint, a variant, an operation and the anchors that were found. -/
  capabilities : Fingerprint → String → String → NameSet → Task σ Capability
  guard : Capability → Bool → Query σ Decision
  backend : OperationRequest → Task σ OperationResult
  sink : OperationRequest → OperationResult → Task σ Unit

namespace Router

inductive Stage where
  | featureGate
  | runtimeContext
  | catalogLookup
  | modeCompatibility
  | resolution
  | executionGuard
  | dispatch
  deriving DecidableEq, Repr

def Stage.text : Stage → String
  | .featureGate => "feature_gate"
  | .runtimeContext => "runtime_context"
  | .catalogLookup => "catalog_lookup"
  | .modeCompatibility => "mode_compatibility"
  | .resolution => "resolution"
  | .executionGuard => "execution_guard"
  | .dispatch => "dispatch"

/-- The stages, in the order in which a request passes them. -/
def stages : List Stage := [
  .featureGate, .runtimeContext, .catalogLookup, .modeCompatibility, .resolution, .executionGuard,
  .dispatch]

inductive Refusal where
  | gateClosed
  | notAttached
  | unknownOperation (text : String)
  | modeMismatch (operation : Operation) (mode : Mode)
  deriving DecidableEq, Repr

def Refusal.result : Refusal → OperationResult
  | .gateClosed => .failure "SDK execution path is disabled" .featureFlagDisabled .unavailable
  | .notAttached =>
    .failure "no attached runtime: processPath missing from context" .runtimeNotAttached .unavailable
  | .unknownOperation text =>
    (OperationResult.failure ("'" ++ text ++ "' is not an SDK v1 operation") .unknownOperation
      .unavailable).withDiagnostic "operationId" (.str text)
  | .modeMismatch operation mode =>
    ((OperationResult.failure ("'" ++ operation.id ++ "' is not allowed in " ++ mode.text ++ " mode")
      .modeMismatch .unavailable).withDiagnostic "allowedModes"
        (.ofNames (operation.allowedModes.map Mode.text))).withDiagnostic "runtimeMode" (.str mode.text)

/-- The operation of a request that passes all checks: the path is open, a process is attached, the
operation exists and may be used in the mode. -/
def screen (gateOpen : Bool) (r : OperationRequest) : Except Refusal Operation :=
  if !gateOpen then .error .gateClosed
  else if (r.context.text? ContextKey.processPath).isNone then .error .notAttached
  else match Operation.find? r.operation with
    | none => .error (.unknownOperation r.operation)
    | some operation =>
      if operation.allows r.mode then .ok operation else .error (.modeMismatch operation r.mode)

/-- What a request resolves to. -/
structure Resolved where
  variant : VariantResolution
  fingerprint : Fingerprint
  capability : Capability
  deriving DecidableEq

variable {σ : Type}

def resolve (router : Router σ) (r : OperationRequest) (operation : Operation) : Task σ Resolved := do
  let variant ← router.variants r.profileId
  let fingerprint ← router.fingerprints ((r.context.text? ContextKey.processPath).getD "")
    (r.context.uint32? ContextKey.processId)
  let capability ← router.capabilities fingerprint variant.resolved operation.id
    (Anchors.ofEntry (r.context.get? ContextKey.anchors))
  pure ⟨variant, fingerprint, capability⟩

/-- What is said about a resolution that failed. -/
def unresolved (fault : Fault) : OperationResult :=
  .failure ("capability resolution failed: " ++ fault.message) .resolutionFailed .unknown

/-- What the resolution found out, for the diagnostics of a denial. -/
def denialDiagnostics (resolved : Resolved) : Bag :=
  let source := resolved.capability.source
  .ofList (Json.present [
    (ContextKey.variant, some (.str resolved.variant.resolved)),
    (ContextKey.fingerprintId, some (.str resolved.fingerprint.id)),
    (ContextKey.capabilityReason, some (.ofWord resolved.capability.reason)),
    ("capabilitySourceReasonCode", some (.str source.reason)),
    ("capabilitySourceState", some (.ofWord source.state)),
    ("capabilityDeclaredAvailable", some (.bool source.available)),
    ("missingAnchors", if source.missing.isEmpty then none else some (.ofNames source.missing))])

def denied (operation : Operation) (resolved : Resolved) (decision : Decision) : OperationResult :=
  let state := resolved.capability.state
  { OperationResult.failure
      ("'" ++ operation.id ++ "' denied: capability is " ++ state.text ++ " (" ++ decision.reason.text ++ ")")
      decision.reason state with
    diagnostics := denialDiagnostics resolved }

/-- The context entries by which the router tells the backend what it found out. -/
def findings (resolved : Resolved) : Bag := .ofList [
  (ContextKey.variant, .str resolved.variant.resolved),
  (ContextKey.variantConfidence, .ofFloat resolved.variant.confidence),
  (ContextKey.fingerprintId, .str resolved.fingerprint.id),
  (ContextKey.capabilityState, .ofWord resolved.capability.state),
  (ContextKey.capabilityReason, .ofWord resolved.capability.reason)]

/-- The request as it is handed on: what was found out stands over what the caller claimed. -/
def forwarded (r : OperationRequest) (operation : Operation) (resolved : Resolved) : OperationRequest :=
  { r with
    isMutation := operation.isMutation
    profileId := resolved.variant.resolved
    context := r.context.overlay (findings resolved) }

/-- Reports a result to the sink, whose failure changes nothing. -/
def finish (router : Router σ) (r : OperationRequest) (result : OperationResult) :
    Task σ OperationResult := do
  let _ ← Task.attempt (router.sink r result)
  pure result

def dispatchFailed (resolved : Resolved) (fault : Fault) : OperationResult :=
  .failure ("sdk backend failed: " ++ fault.message) .executionFailed resolved.capability.state

/-- Hands a request on and reports what comes back. -/
def dispatch (router : Router σ) (r : OperationRequest) (operation : Operation) (resolved : Resolved) :
    Task σ OperationResult := do
  let sent := forwarded r operation resolved
  match ← Task.settle (router.backend sent) with
  | .ok result => router.finish sent result
  | .error fault => router.finish sent (dispatchFailed resolved fault)

/-- Takes a request through all stages. Only cancellation is a fault. -/
def route (router : Router σ) (r : OperationRequest) (cancel : Token σ) : Task σ OperationResult := do
  cancel.check
  match screen (← router.gate.task) r with
  | .error refusal => router.finish r refusal.result
  | .ok operation => do
    match ← Task.settle (router.resolve r operation) with
    | .error fault => router.finish r (unresolved fault)
    | .ok resolved => do
      let decision ← (router.guard resolved.capability operation.isMutation).task
      if decision.allowed then do
        cancel.check
        router.dispatch r operation resolved
      else router.finish r (denied operation resolved decision)

end Router

/-- The switch of the extension path: a variable of the environment that has to be `1` exactly. -/
def environmentGate (environment : Environment) (name : String) : Bool :=
  environment.get? name == some "1"

end LiveControl
