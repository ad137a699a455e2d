import LiveControl.Profile
import LiveControl.Session
import LiveControl.Reliability.Rating

/-!
Rating rules. A situation is an action with everything that may bear on it; a rule is a condition on
situations with the verdict it gives. `Rule.standard` lists the rules in order of priority: what makes
an action unavailable whatever else holds comes first, so no later rule can undo it.
-/

namespace LiveControl

/-- An action in a session, with the policy signals that bear on it. -/
structure Situation where
  action : ActionSpec
  profile : Profile
  session : Session
  policy : Policy
  catalog : Option EntityCatalog
  disabled : NameSet
  critical : NameSet

namespace Situation

/-- The name of the symbol that is bound to the action. -/
def symbolName (s : Situation) : Option String := s.policy.symbolFor s.action.id

/-- The symbol that is bound to the action, as the session reports it. -/
def symbol (s : Situation) : Option Symbol := s.symbolName.bind s.session.symbol?

def confidence (s : Situation) : Float :=
  match s.symbol with
  | some symbol => clampConfidence symbol.confidence
  | none => 0.0

def isFallback (s : Situation) : Bool := (s.policy.fallbackFlag s.action.id).isSome

def fallbackAllowed (s : Situation) : Bool :=
  (s.policy.fallbackFlag s.action.id).any s.profile.flagEnabled

def isDisabled (s : Situation) : Bool := s.disabled.contains s.action.id

def isStrict (s : Situation) : Bool := s.policy.isStrict s.action.id

def modeUnknown (s : Situation) : Bool := !s.session.mode.isKnown

def declaresMode (s : Situation) : Bool := s.action.enforcedMode.isSome

def modeDiffers (s : Situation) : Bool := s.action.enforcedMode.any fun m => m ≠ s.session.mode

def isHelper (s : Situation) : Bool := s.action.kind == .helper

def hasEntities (s : Situation) : Bool := s.catalog.any EntityCatalog.hasEntries

def symbolUnusable (s : Situation) : Bool :=
  match s.symbol with
  | some symbol => symbol.isUnusable
  | none => true

def symbolCritical (s : Situation) : Bool := s.symbolName.any s.critical.contains

def healthIs (s : Situation) (h : SymbolHealth) : Bool := s.symbol.any fun symbol => symbol.health == h

def sourceIs (s : Situation) (source : SymbolSource) : Bool :=
  s.symbol.any fun symbol => symbol.source == source

/-- What the action and the session say about the mode. -/
def modeNote (s : Situation) : String :=
  match s.action.enforcedMode with
  | some m => "requires " ++ m.text ++ " mode, session is " ++ s.session.mode.text
  | none => "session mode is " ++ s.session.mode.text

/-- An address in hexadecimal digits without leading zeros. -/
def addressText (address : UInt64) : String :=
  "0x" ++ String.ofList (Nat.toDigits 16 address.toNat)

/-- What the session says about the bound symbol. -/
def symbolNote (s : Situation) : String :=
  match s.symbolName, s.symbol with
  | some name, some symbol =>
    "symbol '" ++ name ++ "' health=" ++ symbol.health.text ++ " source=" ++ symbol.source.text ++
      " address=" ++ addressText symbol.address
  | some name, none => "symbol '" ++ name ++ "' missing from session"
  | none, _ => "no symbol binding"

def fallbackNote (s : Situation) : String :=
  "enable feature flag '" ++ (s.policy.fallbackFlag s.action.id).getD "" ++ "' to allow this fallback"

end Situation

/-- A condition with the verdict it gives. -/
structure Rule where
  id : String
  applies : Situation → Bool
  state : ReliabilityState
  reason : Situation → String
  confidence : Situation → Float
  note : Situation → Option String

namespace Rule

/-- The verdict of a rule on a situation to which it applies. -/
def verdict (r : Rule) (s : Situation) : Rating :=
  ⟨s.action.id, r.state, r.reason s, r.confidence s, r.note s⟩

/-- A fallback whose flag is off. -/
def fallbackDisabled : Rule where
  id := "fallback_disabled"
  applies s := s.isFallback && !s.fallbackAllowed
  state := .unavailable
  reason _ := "fallback_disabled"
  confidence _ := 1.0
  note s := some s.fallbackNote

/-- A fallback that is allowed is still never stable. -/
def fallbackEnabled : Rule where
  id := "fallback_enabled"
  applies s := s.isFallback
  state := .experimental
  reason _ := "fallback_experimental"
  confidence _ := 0.45
  note _ := none

def dependencyDisabled : Rule where
  id := "dependency_disabled"
  applies s := s.isDisabled
  state := .unavailable
  reason _ := "dependency_disabled"
  confidence _ := 0.99
  note _ := none

/-- A strict action waits until the mode is known. -/
def strictModeUnknown : Rule where
  id := "strict_mode_unknown"
  applies s := s.isStrict && s.modeUnknown
  state := .unavailable
  reason _ := "mode_unknown_strict_gate"
  confidence _ := 0.90
  note s := some s.modeNote

def declaredModeUnknown : Rule where
  id := "declared_mode_unknown"
  applies s := s.declaresMode && s.modeUnknown
  state := .unavailable
  reason _ := "mode_unknown"
  confidence _ := 0.90
  note s := some s.modeNote

def declaredModeMismatch : Rule where
  id := "declared_mode_mismatch"
  applies s := s.modeDiffers
  state := .unavailable
  reason _ := "mode_mismatch"
  confidence _ := 1.0
  note s := some s.modeNote

def helperCatalogPresent : Rule where
  id := "helper_catalog_present"
  applies s := s.isHelper && s.hasEntities
  state := .stable
  reason _ := "helper_catalog_available"
  confidence _ := 0.85
  note _ := none

def helperCatalogMissing : Rule where
  id := "helper_catalog_missing"
  applies s := s.isHelper
  state := .experimental
  reason _ := "helper_catalog_missing"
  confidence _ := 0.60
  note _ := none

/-- Nothing has to be resolved. -/
def noSymbolRequired : Rule where
  id := "no_symbol_required"
  applies s := !s.action.requiresSymbol
  state := .stable
  reason _ := "no_symbol_required"
  confidence _ := 0.85
  note _ := none

def symbolMappingMissing : Rule where
  id := "symbol_mapping_missing"
  applies s := s.symbolName.isNone
  state := .experimental
  reason _ := "symbol_mapping_missing"
  confidence _ := 0.45
  note _ := none

def symbolUnresolved : Rule where
  id := "symbol_unresolved"
  applies s := s.symbolUnusable
  state := .unavailable
  reason _ := "symbol_unresolved"
  confidence _ := 0.95
  note s := some s.symbolNote

/-- A critical symbol has to be healthy. -/
def criticalSymbolUnhealthy : Rule where
  id := "critical_symbol_unhealthy"
  applies s := s.symbolCritical && !s.healthIs .healthy
  state := .unavailable
  reason _ := "critical_symbol_unhealthy"
  confidence := Situation.confidence
  note s := some s.symbolNote

def symbolDegradedOrFallback : Rule where
  id := "symbol_degraded_or_fallback"
  applies s := s.healthIs .degraded || s.sourceIs .fallback
  state := .experimental
  reason s := if s.healthIs .degraded then "symbol_degraded" else "symbol_fallback_offset"
  confidence := Situation.confidence
  note s := some s.symbolNote

/-- Whatever is left is resolved in good health. -/
def symbolHealthy : Rule where
  id := "symbol_healthy"
  applies _ := true
  state := .stable
  reason s := if s.sourceIs .signature then "healthy_signature" else "healthy_other_source"
  confidence := Situation.confidence
  note _ := none

/-- All rules, in order of priority. -/
def standard : List Rule := [
  fallbackDisabled, fallbackEnabled, dependencyDisabled, strictModeUnknown, declaredModeUnknown,
  declaredModeMismatch, helperCatalogPresent, helperCatalogMissing, noSymbolRequired,
  symbolMappingMissing, symbolUnresolved, criticalSymbolUnhealthy, symbolDegradedOrFallback,
  symbolHealthy]

/-- The standard rules with the given ids, in the order of the ids; of equal ids the first counts and
ids of no rule are passed over. -/
def selection (ids : List String) : List Rule :=
  ids.eraseDups.filterMap fun id => standard.find? fun r => r.id == id

end Rule
end LiveControl
