import LiveControl.Extension.Anchors
import LiveControl.Extension.Fingerprint
import LiveControl.Extension.Reason

namespace LiveControl

/-- What was declared by the entry that decided. -/
structure CapabilitySource where
  reason : String
  state : CapabilityState
  available : Bool
  missing : List String
  deriving DecidableEq, Repr

/-- The answer to whether an operation may be used on a binary. -/
structure Capability where
  fingerprintId : String
  state : CapabilityState
  reason : ExtensionReason
  source : CapabilitySource
  deriving DecidableEq, Repr

/-- One declaration. Fingerprint and variant may be left open by a wildcard. -/
structure CapabilityEntry where
  fingerprintId : String
  variant : String
  operation : String
  state : CapabilityState
  available : Bool
  requiredAnchors : NameSet
  reason : String
  deriving DecidableEq

namespace CapabilityEntry

/-- What leaves a fingerprint or a variant open. -/
def wildcard : String := "*"

def standardReason : String := ExtensionReason.probePass.text

/-- An available entry for all binaries and variants that needs no anchors. -/
def plain (operation : String) (state : CapabilityState) : CapabilityEntry :=
  ⟨wildcard, wildcard, operation, state, true, .empty, standardReason⟩

def forFingerprint (e : CapabilityEntry) (id : String) : CapabilityEntry := { e with fingerprintId := id }

def forVariant (e : CapabilityEntry) (variant : String) : CapabilityEntry := { e with variant := variant }

def requiring (e : CapabilityEntry) (anchors : List String) : CapabilityEntry :=
  { e with requiredAnchors := .ofList (anchors.map Text.asciiLower) }

def declaredUnavailable (e : CapabilityEntry) : CapabilityEntry := { e with available := false }

/-- What is gained by an entry's fingerprint: nothing if it is open; an entry for another one does
not apply. -/
def fingerprintWeight? (e : CapabilityEntry) (id : String) : Option Nat :=
  if e.fingerprintId = wildcard then some 0 else if e.fingerprintId = id then some 2 else none

def variantWeight? (e : CapabilityEntry) (variant : String) : Option Nat :=
  if e.variant = wildcard then some 0
  else if Text.eqIgnoringCase e.variant variant then some 1
  else none

/-- How specifically an entry applies to a question, if it applies. The fingerprint outweighs the
variant. -/
def specificity? (e : CapabilityEntry) (fingerprintId variant operation : String) : Option Nat :=
  if Text.eqIgnoringCase e.operation operation then do
    let byFingerprint ← e.fingerprintWeight? fingerprintId
    let byVariant ← e.variantWeight? variant
    some (byFingerprint + byVariant)
  else none

def toJson (e : CapabilityEntry) : Json := .obj [
  ("fingerprint_id", .str e.fingerprintId),
  ("variant", .str e.variant),
  ("operation_id", .str e.operation),
  ("state", .ofWord e.state),
  ("available", .bool e.available),
  ("required_anchors", .ofSet e.requiredAnchors),
  ("reason_code", .str e.reason)]

def ofJson? (j : Json) : Option CapabilityEntry := do
  let fields ← j.fields?
  some {
    fingerprintId := ← Json.defaulted fields "fingerprint_id" wildcard Json.str?
    variant := ← Json.defaulted fields "variant" wildcard Json.str?
    operation := ← Json.required fields "operation_id" Json.str?
    state := ← Json.required fields "state" Json.word
    available := ← Json.defaulted fields "available" true Json.bool?
    requiredAnchors := ← Json.defaulted fields "required_anchors" .empty Json.set?
    reason := ← Json.defaulted fields "reason_code" standardReason Json.str? }

end CapabilityEntry

namespace Capability

/-- The answer when nothing is declared. -/
def undeclared (fingerprintId : String) : Capability :=
  ⟨fingerprintId, .unknown, .capabilityUnknown,
    ⟨ExtensionReason.capabilityUnknown.text, .unknown, false, []⟩⟩

/-- The answer of an entry. It holds as declared only when the entry is available and every anchor it
requires was found. -/
def ofEntry (fingerprintId : String) (e : CapabilityEntry) (anchors : NameSet) : Capability :=
  let missing := (e.requiredAnchors.filter fun a => !anchors.contains a).toList
  let source : CapabilitySource := ⟨e.reason, e.state, e.available, missing⟩
  if e.available && missing.isEmpty then ⟨fingerprintId, e.state, .probePass, source⟩
  else ⟨fingerprintId, .unavailable, .requiredMissing, source⟩

end Capability

/-- The declarations, in the order in which they were made. -/
structure CapabilityMap where
  entries : List CapabilityEntry
  deriving DecidableEq

namespace CapabilityMap

/-- The entry that decides among `entries`, after `best` was found with its specificity. -/
def decideFrom (fingerprintId variant operation : String) :
    Option (Nat × CapabilityEntry) → List CapabilityEntry → Option (Nat × CapabilityEntry)
  | best, [] => best
  | best, e :: rest =>
    let next := match e.specificity? fingerprintId variant operation, best with
      | none, _ => best
      | some weight, none => some (weight, e)
      | some weight, some (held, b) => if held ≤ weight then some (weight, e) else some (held, b)
    decideFrom fingerprintId variant operation next rest

/-- The entry that decides a question. -/
def deciding? (m : CapabilityMap) (fingerprintId variant operation : String) : Option CapabilityEntry :=
  (decideFrom fingerprintId variant operation none m.entries).map Prod.snd

/-- The answer for an operation on a binary with the anchors that were found in it. -/
def lookup (m : CapabilityMap) (fingerprint : Fingerprint) (variant operation : String)
    (anchors : NameSet) : Capability :=
  match m.deciding? fingerprint.id variant operation with
  | none => .undeclared fingerprint.id
  | some e => .ofEntry fingerprint.id e anchors

end CapabilityMap

/-- Whether an operation may be executed, and why. -/
structure Decision where
  allowed : Bool
  reason : ExtensionReason
  deriving DecidableEq, Repr

/-- Verified operations may be executed; experimental ones only if they change nothing. -/
def Decision.ofCapability (c : Capability) (isMutation : Bool) : Decision :=
  match c.state with
  | .verified => ⟨true, c.reason⟩
  | .experimental => if isMutation then ⟨false, .mutationBlocked⟩ else ⟨true, c.reason⟩
  | .unknown | .unavailable => ⟨false, c.reason⟩

def Decision.toJson (d : Decision) : Json := .obj [
  ("allowed", .bool d.allowed), ("reason_code", .ofWord d.reason)]

namespace CapabilitySource

def toJson (s : CapabilitySource) : Json := .obj (Json.present [
  ("source_reason_code", some (.str s.reason)),
  ("source_state", some (.ofWord s.state)),
  ("declared_available", some (.bool s.available)),
  ("missing_anchors", if s.missing.isEmpty then none else some (.ofNames s.missing))])

def ofJson? (j : Json) : Option CapabilitySource := do
  let fields ← j.fields?
  some {
    reason := ← Json.required fields "source_reason_code" Json.str?
    state := ← Json.required fields "source_state" Json.word
    available := ← Json.required fields "declared_available" Json.bool?
    missing := ← Json.defaulted fields "missing_anchors" [] Json.names? }

end CapabilitySource

namespace Capability

def toJson (c : Capability) : Json := .obj [
  ("fingerprint_id", .str c.fingerprintId),
  ("state", .ofWord c.state),
  ("reason_code", .ofWord c.reason),
  ("metadata", c.source.toJson)]

def ofJson? (j : Json) : Option Capability := do
  let fields ← j.fields?
  some {
    fingerprintId := ← Json.required fields "fingerprint_id" Json.str?
    state := ← Json.required fields "state" Json.word
    reason := ← Json.required fields "reason_code" Json.word
    source := ← Json.required fields "metadata" CapabilitySource.ofJson? }

end Capability

namespace CapabilityMap

def toJson (m : CapabilityMap) : Json := .arr (m.entries.map CapabilityEntry.toJson)

def ofJson? (j : Json) : Option CapabilityMap := (j.list? CapabilityEntry.ofJson?).map CapabilityMap.mk

end CapabilityMap
end LiveControl
