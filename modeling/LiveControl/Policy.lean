import LiveControl.Mode
import LiveControl.Decimal.Layout

namespace LiveControl

structure Policy where
  /-- The environment variable that opens the extension path. -/
  gateVariable : String
  /-- The mode in which units may be edited. -/
  tacticalMode : Mode
  /-- Actions that are refused until the mode is known. -/
  strict : NameSet
  /-- For each fallback action the feature flag that allows it. -/
  fallbacks : Table String
  /-- For each action the symbol it writes through. -/
  bindings : Table String
  /-- Float fields that differ by no more than this count as equal. -/
  epsilon : Float
  /-- The profile metadata that lists the critical symbols. -/
  criticalKey : String
  /-- The session metadata that lists the actions disabled by dependencies. -/
  disabledKey : String
  deriving DecidableEq

namespace Policy

def defaultStrict : NameSet := .ofList [
  "set_selected_hp", "set_selected_shield", "set_selected_speed", "set_selected_damage_multiplier",
  "set_selected_cooldown_multiplier", "set_selected_veterancy", "set_selected_owner_faction",
  "spawn_unit_helper", "toggle_tactical_god_mode", "toggle_tactical_one_hit_mode"]

def defaultFallbacks : Table String := .ofList [
  ("set_unit_cap_patch_fallback", "allow_unit_cap_patch_fallback"),
  ("toggle_instant_build_patch_fallback", "allow_build_patch_fallback")]

def defaultBindings : Table String := .ofList [
  ("set_credits", "credits"),
  ("freeze_timer", "game_timer_freeze"),
  ("toggle_fog_reveal", "fog_reveal"),
  ("toggle_ai", "ai_enabled"),
  ("set_unit_cap", "unit_cap"),
  ("toggle_instant_build", "instant_build"),
  ("toggle_tactical_god_mode", "tactical_god_mode"),
  ("toggle_tactical_one_hit_mode", "tactical_one_hit_mode"),
  ("set_selected_hp", "selected_hp"),
  ("set_selected_shield", "selected_shield"),
  ("set_selected_speed", "selected_speed"),
  ("set_selected_damage_multiplier", "selected_damage_multiplier"),
  ("set_selected_cooldown_multiplier", "selected_cooldown_multiplier"),
  ("set_selected_veterancy", "selected_veterancy"),
  ("set_selected_owner_faction", "selected_owner_faction")]

def standard : Policy where
  gateVariable := "TRAINER_EXPERIMENTAL_SDK"
  tacticalMode := .tactical
  strict := defaultStrict
  fallbacks := defaultFallbacks
  bindings := defaultBindings
  epsilon := 1e-4
  criticalKey := "criticalSymbols"
  disabledKey := "dependencyDisabledActions"

instance : Inhabited Policy := ⟨standard⟩

def isStrict (p : Policy) (action : String) : Bool := p.strict.contains action

def fallbackFlag (p : Policy) (action : String) : Option String := p.fallbacks.get? action

def symbolFor (p : Policy) (action : String) : Option String := p.bindings.get? action

inductive Severity where
  | warning
  | error
  deriving DecidableEq, Repr

def Severity.text : Severity → String
  | .warning => "warning"
  | .error => "error"

instance : Vocabulary Severity := ⟨[.warning, .error], Severity.text⟩

/-- What is wrong, or doubtful, about a policy. -/
inductive Finding where
  | blankGateVariable
  | unusableEpsilon (value : Float)
  | unknownTacticalMode
  | strictFallback (action : String)
  | blankFlag (action : String)
  deriving DecidableEq

/-- Only what leaves a setting without a usable value is an error. -/
def Finding.severity : Finding → Severity
  | .blankGateVariable | .unusableEpsilon _ | .unknownTacticalMode => .error
  | .strictFallback _ | .blankFlag _ => .warning

def Finding.message : Finding → String
  | .blankGateVariable => "sdk_gate_env must name an environment variable"
  | .unusableEpsilon value =>
    "float_epsilon must be a positive finite number (got " ++ Decimal.messageLayout.write value ++ ")"
  | .unknownTacticalMode => "tactical_mode cannot be 'unknown'"
  | .strictFallback action =>
    "action '" ++ action ++ "' is both strict and a fallback; the fallback rule wins"
  | .blankFlag action => "fallback action '" ++ action ++ "' has an empty feature flag"

/-- Everything wrong with a policy: its single settings first, then each strict fallback, then each
fallback whose flag has no name. -/
def review (p : Policy) : List Finding :=
  (if Text.isBlankText p.gateVariable then [.blankGateVariable] else []) ++
  (if !p.epsilon.isFinite || p.epsilon ≤ 0.0 then [.unusableEpsilon p.epsilon] else []) ++
  (if p.tacticalMode.isKnown then [] else [.unknownTacticalMode]) ++
  ((p.strict.toList.filter p.fallbacks.contains).map .strictFallback) ++
  ((p.fallbacks.toList.filter fun e => Text.isBlankText e.2).map fun e => .blankFlag e.1)

def errors (p : Policy) : List Finding := p.review.filter fun f => f.severity == .error

/-- The policy, if its review finds no error; else a fault that lists the errors. -/
def accepted (p : Policy) : Except Fault Policy :=
  if p.errors.isEmpty then .ok p
  else .error (.policy (String.intercalate "; " (p.errors.map Finding.message)))

def Finding.toJson (f : Finding) : Json := .obj [
  ("level", .ofWord f.severity), ("message", .str f.message)]

def toJson (p : Policy) : Json := .obj [
  ("sdk_gate_env", .str p.gateVariable),
  ("tactical_mode", .ofWord p.tacticalMode),
  ("strict_bundle", .ofSet p.strict),
  ("fallback_actions", .ofTable .str p.fallbacks),
  ("symbol_bindings", .ofTable .str p.bindings),
  ("float_epsilon", .ofFloat p.epsilon),
  ("critical_symbols_key", .str p.criticalKey),
  ("dependency_disabled_key", .str p.disabledKey)]

def ofJson? (j : Json) : Option Policy := do
  let fields ← j.fields?
  some {
    gateVariable := ← Json.defaulted fields "sdk_gate_env" standard.gateVariable Json.str?
    tacticalMode := ← Json.defaulted fields "tactical_mode" standard.tacticalMode Json.word
    strict := ← Json.defaulted fields "strict_bundle" standard.strict Json.set?
    fallbacks := ← Json.defaulted fields "fallback_actions" standard.fallbacks (Json.table? Json.str?)
    bindings := ← Json.defaulted fields "symbol_bindings" standard.bindings (Json.table? Json.str?)
    epsilon := ← Json.defaulted fields "float_epsilon" standard.epsilon Json.number?
    criticalKey := ← Json.defaulted fields "critical_symbols_key" standard.criticalKey Json.str?
    disabledKey := ← Json.defaulted fields "dependency_disabled_key" standard.disabledKey Json.str? }

end Policy
end LiveControl
