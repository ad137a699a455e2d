import LiveControl.Profile
import LiveControl.Audit
import LiveControl.Telemetry
import LiveControl.Execution.Backend

namespace LiveControl

/-- What executes actions: the collaborators, each a task on states `σ`. -/
structure Executor (σ : Type) where
  profiles : String → Task σ Profile
  backend : Backend σ
  pins : PinService σ
  audit : AuditRecord → Task σ Unit

/-- The state of execution: the counters, and the world of the collaborators. -/
structure Runtime (σ : Type) where
  telemetry : Telemetry
  world : σ

namespace Runtime

variable {σ : Type}

def worldPart : Part (Runtime σ) σ where
  get := Runtime.world
  set w r := { r with world := w }

def telemetryPart : Part (Runtime σ) Telemetry where
  get := Runtime.telemetry
  set t r := { r with telemetry := t }

end Runtime

/-- A call of an action. -/
structure ActionCall where
  profileId : String
  action : String
  payload : Bag
  mode : Mode
  context : Bag
  deriving DecidableEq

namespace Executor

/-- Why a call is refused before anything is done. -/
inductive Refusal where
  | actionNotFound (action profile : String)
  | modeNotAllowed (action : String) (required current : Mode)
  | missingField (field : String)
  | payloadInvalid (fault : Fault)
  deriving DecidableEq, Repr

def Refusal.outcome : Refusal → Outcome
  | .actionNotFound action profile =>
    .failure ("action '" ++ action ++ "' not found in profile '" ++ profile ++ "'") "action_not_found"
  | .modeNotAllowed action required current =>
    ((Outcome.failure
      ("action '" ++ action ++ "' requires " ++ required.text ++ " mode, current mode is " ++ current.text)
      "mode_not_allowed").withDiagnostic "requiredMode" (.str required.text)).withDiagnostic
        "runtimeMode" (.str current.text)
  | .missingField field =>
    (Outcome.failure ("payload is missing required field '" ++ field ++ "'")
      "payload_missing_field").withDiagnostic "missingField" (.str field)
  | .payloadInvalid fault => .failure fault.message "payload_invalid"

/-- The mode an action is refused for: it is enforced, the caller's mode is known, and they differ. -/
def modeConflict? (a : ActionSpec) (mode : Mode) : Option Mode :=
  a.enforcedMode.filter fun required => mode.isKnown && required ≠ mode

/-- The checks of a call against a profile, in order: the action exists, its mode agrees, no field is
missing, and the payload has the form that the action needs. -/
def screen (profile : Profile) (call : ActionCall) : Except Refusal (ActionSpec × Payload) :=
  match profile.action? call.action with
  | none => .error (.actionNotFound call.action profile.id)
  | some action =>
    match modeConflict? action call.mode with
    | some required => .error (.modeNotAllowed call.action required call.mode)
    | none =>
      match Payload.firstMissing? action call.payload with
      | some field => .error (.missingField field)
      | none =>
        match Payload.read action call.payload with
        | .error flaw => .error (.payloadInvalid (flaw.fault action.id))
        | .ok payload => .ok (action, payload)

/-- What is reported of an order to pin a symbol; a failing service is a failed outcome. -/
def pinReport (symbol : String) (value : Scalar) : Except Fault Unit → Outcome
  | .ok () =>
    ((Outcome.success ("'" ++ symbol ++ "' frozen to " ++ value.text)).withReason
      "freeze_applied").withDiagnostic "frozenValue" value.toLoose
  | .error fault => .failure ("failed to freeze '" ++ symbol ++ "': " ++ fault.message) "freeze_failed"

/-- What is reported of an order to release a symbol. -/
def releaseReport (symbol : String) : Except Fault Bool → Outcome
  | .ok true => (Outcome.success ("'" ++ symbol ++ "' unfrozen")).withReason "freeze_released"
  | .ok false => (Outcome.success ("'" ++ symbol ++ "' was not frozen")).withReason "freeze_not_active"
  | .error fault => .failure ("failed to unfreeze '" ++ symbol ++ "': " ++ fault.message) "freeze_failed"

/-- An outcome about a symbol, with the way in which the symbol was found. -/
def located (symbol : String) (source : SymbolSource) (outcome : Outcome) : Outcome :=
  (outcome.withSource source).withDiagnostic "symbol" (.str symbol)

variable {σ : Type}

/-- What pinning or releasing a symbol comes to. -/
def freeze (e : Executor σ) (symbol : String) (directive : PinDirective) (source : SymbolSource) :
    Task σ Outcome :=
  match directive with
  | .pin value => do
    let answer ← Task.attempt (e.pins.pin symbol value)
    pure (located symbol source (pinReport symbol value answer))
  | .release => do
    let answer ← Task.attempt (e.pins.release symbol)
    pure (located symbol source (releaseReport symbol answer))

/-- The request that an admitted call makes of the backend. -/
def requestOf (profile : Profile) (call : ActionCall) (action : ActionSpec) (payload : Payload) :
    ExecutionRequest :=
  ⟨profile.id, action, payload, Payload.schemaVersion, call.mode, call.context⟩

/-- What an admitted call does: freezing is asked of the pins, all else of the backend. -/
def perform (e : Executor σ) (profile : Profile) (call : ActionCall) (action : ActionSpec)
    (payload : Payload) (attachment : Attachment) (cancel : Token σ) : Task σ Outcome :=
  match payload with
  | .freeze symbol directive => e.freeze symbol directive (attachment.sourceOf symbol)
  | _ => do
    match ← Task.settle (e.backend.execute (requestOf profile call action payload) cancel) with
    | .ok outcome => pure outcome
    | .error fault => pure (.failure ("backend failure: " ++ fault.message) "backend_error")

/-- Writes down and counts an outcome while a process is attached. A failing audit changes nothing. -/
def record (e : Executor σ) (profile : Profile) (action : ActionSpec) (attachment : Attachment)
    (outcome : Outcome) : Task (Runtime σ) Unit :=
  match attachment with
  | .detached => pure ()
  | .attached session => do
    let entry := AuditRecord.ofOutcome profile.id session.processId action.id outcome
    let _ ← Task.on Runtime.worldPart (Task.attempt (e.audit entry))
    Task.change Runtime.telemetryPart fun t => t.record ⟨action.id, outcome.source, outcome.succeeded⟩

/-- Executes a call. The caller's context stands over the diagnostics of the outcome. -/
def execute (e : Executor σ) (call : ActionCall) (cancel : Token σ) : Task (Runtime σ) Outcome := do
  Task.on Runtime.worldPart cancel.check
  let profile ← Task.on Runtime.worldPart (e.profiles call.profileId)
  match screen profile call with
  | .error refusal => pure refusal.outcome
  | .ok (action, payload) => do
    let attachment ← Query.task (Query.on Runtime.worldPart e.backend.session)
    let outcome ← Task.on Runtime.worldPart
      (e.perform profile call action payload attachment cancel)
    let outcome := { outcome with diagnostics := outcome.diagnostics.overlay call.context }
    e.record profile action attachment outcome
    pure outcome

end Executor
end LiveControl
