import LiveControl.Json.Decode
import LiveControl.Fault

namespace LiveControl

/-- The stable reason of an outcome on the extension path. -/
inductive ExtensionReason where
  | featureFlagDisabled
  | runtimeNotAttached
  | unknownOperation
  | modeMismatch
  | resolutionFailed
  | probePass
  | requiredMissing
  | capabilityUnknown
  | mutationBlocked
  | executionFailed
  deriving DecidableEq, Repr

namespace ExtensionReason

def text : ExtensionReason → String
  | .featureFlagDisabled => "FeatureFlagDisabled"
  | .runtimeNotAttached => "RuntimeNotAttached"
  | .unknownOperation => "UnknownSdkOperation"
  | .modeMismatch => "ModeMismatch"
  | .resolutionFailed => "ResolutionFailed"
  | .probePass => "CAPABILITY_PROBE_PASS"
  | .requiredMissing => "CAPABILITY_REQUIRED_MISSING"
  | .capabilityUnknown => "CAPABILITY_UNKNOWN"
  | .mutationBlocked => "SAFETY_MUTATION_BLOCKED"
  | .executionFailed => "ExecutionFailed"

instance : Vocabulary ExtensionReason := ⟨[
  .featureFlagDisabled, .runtimeNotAttached, .unknownOperation, .modeMismatch, .resolutionFailed,
  .probePass, .requiredMissing, .capabilityUnknown, .mutationBlocked, .executionFailed], text⟩

end ExtensionReason

/-- Whether an operation may be used on a binary. -/
inductive CapabilityState where
  | verified
  | experimental
  | unknown
  | unavailable
  deriving DecidableEq, Repr

namespace CapabilityState

def text : CapabilityState → String
  | .verified => "verified"
  | .experimental => "experimental"
  | .unknown => "unknown"
  | .unavailable => "unavailable"

instance : Vocabulary CapabilityState := ⟨[.verified, .experimental, .unknown, .unavailable], text⟩

def read (s : String) : Except Fault CapabilityState :=
  match Vocabulary.find? s with
  | some state => .ok state
  | none => .error (.invalidCapabilityState s)

end CapabilityState
end LiveControl
