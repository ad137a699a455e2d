import LiveControl.Payload
import LiveControl.Symbol

namespace LiveControl

/-- What came of an action. The reason is a stable identifier, the message is for people. -/
structure Outcome where
  succeeded : Bool
  message : String
  reason : Option String
  source : SymbolSource
  diagnostics : Bag
  deriving DecidableEq

namespace Outcome

def success (message : String) : Outcome := ⟨true, message, none, .none, .empty⟩

def failure (message reason : String) : Outcome := ⟨false, message, some reason, .none, .empty⟩

def withReason (o : Outcome) (reason : String) : Outcome := { o with reason := some reason }

def withSource (o : Outcome) (source : SymbolSource) : Outcome := { o with source := source }

def withDiagnostic (o : Outcome) (key : String) (value : Json) : Outcome :=
  { o with diagnostics := o.diagnostics.insert key value }

def toJson (o : Outcome) : Json := .obj (Json.present [
  ("succeeded", some (.bool o.succeeded)),
  ("message", some (.str o.message)),
  ("reason_code", o.reason.map .str),
  ("address_source", some (.ofWord o.source)),
  ("diagnostics", some (.ofBag o.diagnostics))])

def ofJson? (j : Json) : Option Outcome := do
  let fields ← j.fields?
  some {
    succeeded := ← Json.required fields "succeeded" Json.bool?
    message := ← Json.required fields "message" Json.str?
    reason := ← Json.optional fields "reason_code" Json.str?
    source := ← Json.defaulted fields "address_source" .none Json.word
    diagnostics := ← Json.defaulted fields "diagnostics" .empty Json.bag? }

end Outcome

/-- An action with its payload, ready for a backend. -/
structure ExecutionRequest where
  profileId : String
  action : ActionSpec
  payload : Payload
  /-- The version of the payload forms under which the payload was read. -/
  payloadVersion : UInt32
  mode : Mode
  context : Bag
  deriving DecidableEq

namespace ExecutionRequest

/-- What makes a request unfit for every backend. -/
inductive EnvelopeFlaw where
  | version (given : UInt32)
  | kind (payload action : ExecutionKind) (id : String)
  deriving DecidableEq, Repr

def EnvelopeFlaw.outcome : EnvelopeFlaw → Outcome
  | .version given =>
    (Outcome.failure
      ("payload schema version " ++ toString given.toNat ++ " is not supported (expected " ++
        toString Payload.schemaVersion.toNat ++ ")")
      "payload_version_unsupported").withDiagnostic "payloadVersion" (.ofNat given.toNat)
  | .kind payload action id =>
    (Outcome.failure
      (payload.text ++ " payload cannot drive " ++ action.text ++ " action '" ++ id ++ "'")
      "payload_kind_mismatch").withDiagnostic "payloadKind" (.str payload.text)

/-- A request is fit when its payload has the current forms and the kind of its action. -/
def envelopeFlaw? (r : ExecutionRequest) : Option EnvelopeFlaw :=
  if r.payloadVersion ≠ Payload.schemaVersion then some (.version r.payloadVersion)
  else if r.payload.kind ≠ r.action.kind then some (.kind r.payload.kind r.action.kind r.action.id)
  else none

def toJson (r : ExecutionRequest) : Json := .obj [
  ("profile_id", .str r.profileId),
  ("action", r.action.toJson),
  ("payload", r.payload.toJson),
  ("payload_version", .ofNat r.payloadVersion.toNat),
  ("runtime_mode", .ofWord r.mode),
  ("context", .ofBag r.context)]

def ofJson? (j : Json) : Option ExecutionRequest := do
  let fields ← j.fields?
  some {
    profileId := ← Json.required fields "profile_id" Json.str?
    action := ← Json.required fields "action" ActionSpec.ofJson?
    payload := ← Json.required fields "payload" Payload.ofJson?
    payloadVersion := ← Json.defaulted fields "payload_version" Payload.schemaVersion Json.uint32?
    mode := ← Json.required fields "runtime_mode" Json.word
    context := ← Json.defaulted fields "context" .empty Json.bag? }

end ExecutionRequest
end LiveControl
