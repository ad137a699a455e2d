import LiveControl.Mode
import LiveControl.Extension.Reason

namespace LiveControl

structure OperationRequest where
  operation : String
  payload : Bag
  isMutation : Bool
  mode : Mode
  profileId : String
  context : Bag
  deriving DecidableEq

namespace OperationRequest

/-- A request without payload and context that changes nothing and knows no mode. -/
def bare (operation profileId : String) : OperationRequest :=
  ⟨operation, .empty, false, .unknown, profileId, .empty⟩

def withMode (r : OperationRequest) (mode : Mode) : OperationRequest := { r with mode := mode }

def withContext (r : OperationRequest) (key : String) (value : Json) : OperationRequest :=
  { r with context := r.context.insert key value }

def toJson (r : OperationRequest) : Json := .obj [
  ("operation_id", .str r.operation),
  ("payload", .ofBag r.payload),
  ("is_mutation", .bool r.isMutation),
  ("runtime_mode", .ofWord r.mode),
  ("profile_id", .str r.profileId),
  ("context", .ofBag r.context)]

def ofJson? (j : Json) : Option OperationRequest := do
  let fields ← j.fields?
  some {
    operation := ← Json.required fields "operation_id" Json.str?
    payload := ← Json.defaulted fields "payload" .empty Json.bag?
    isMutation := ← Json.defaulted fields "is_mutation" false Json.bool?
    mode := ← Json.defaulted fields "runtime_mode" .unknown Json.word
    profileId := ← Json.required fields "profile_id" Json.str?
    context := ← Json.defaulted fields "context" .empty Json.bag? }

end OperationRequest

structure OperationResult where
  succeeded : Bool
  message : String
  reason : ExtensionReason
  state : CapabilityState
  diagnostics : Bag
  deriving DecidableEq

namespace OperationResult

def success (message : String) (reason : ExtensionReason) (state : CapabilityState) : OperationResult :=
  ⟨true, message, reason, state, .empty⟩

def failure (message : String) (reason : ExtensionReason) (state : CapabilityState) : OperationResult :=
  ⟨false, message, reason, state, .empty⟩

def withDiagnostic (r : OperationResult) (key : String) (value : Json) : OperationResult :=
  { r with diagnostics := r.diagnostics.insert key value }

def toJson (r : OperationResult) : Json := .obj [
  ("succeeded", .bool r.succeeded),
  ("message", .str r.message),
  ("reason_code", .ofWord r.reason),
  ("capability_state", .ofWord r.state),
  ("diagnostics", .ofBag r.diagnostics)]

def ofJson? (j : Json) : Option OperationResult := do
  let fields ← j.fields?
  some {
    succeeded := ← Json.required fields "succeeded" Json.bool?
    message := ← Json.required fields "message" Json.str?
    reason := ← Json.required fields "reason_code" Json.word
    state := ← Json.required fields "capability_state" Json.word
    diagnostics := ← Json.defaulted fields "diagnostics" .empty Json.bag? }

end OperationResult

namespace ContextKey

def processPath : String := "processPath"
def processId : String := "processId"
def anchors : String := "resolvedAnchors"
def variant : String := "resolvedVariant"
def variantConfidence : String := "resolvedVariantConfidence"
def fingerprintId : String := "fingerprintId"
def capabilityState : String := "capabilityState"
def capabilityReason : String := "capabilityReasonCode"

end ContextKey
end LiveControl
