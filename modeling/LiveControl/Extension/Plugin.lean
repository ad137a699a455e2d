import LiveControl.Context
import LiveControl.Extension.Anchors
import LiveControl.Extension.Request

namespace LiveControl

/-- What a plugin sees of a request. -/
structure PluginRequest where
  feature : String
  processId : Option UInt32
  intValue : Option Int64
  boolValue : Option Bool
  enable : Option Bool
  lock : Bool
  anchors : NameSet
  deriving DecidableEq

namespace PluginRequest

/-- A request for a feature, with what the payload and the context give for it. A process number
of 0 is no process. -/
def ofOperation (feature : String) (r : OperationRequest) : PluginRequest where
  feature := feature
  processId := (r.context.uint32? ContextKey.processId).filter fun n => n > 0
  intValue := (r.payload.get? "intValue").bind Json.int64?
  boolValue := (r.payload.get? "boolValue").bind Json.bool?
  enable := (r.payload.get? "enable").bind Json.bool?
  lock := ((r.payload.get? "lockCredits").bind Json.bool?).getD false
  anchors := Anchors.ofEntry (r.context.get? ContextKey.anchors)

/-- The first of the candidates that was found in the binary. -/
def anchor? (r : PluginRequest) (candidates : List String) : Option String :=
  candidates.find? r.anchors.contains

end PluginRequest

structure PluginOutcome where
  succeeded : Bool
  reason : ExtensionReason
  hookState : String
  message : String
  diagnostics : Bag
  deriving DecidableEq

namespace PluginOutcome

def accepted (hookState message : String) (diagnostics : List (String × Json)) : PluginOutcome :=
  ⟨true, .probePass, hookState, message, .ofList diagnostics⟩

def denied (reason : ExtensionReason) (message : String) (diagnostics : List (String × Json)) :
    PluginOutcome :=
  ⟨false, reason, "DENIED", message, .ofList diagnostics⟩

/-- The denial of a feature that needs a process. -/
def processMissing (feature : String) : PluginOutcome :=
  denied .requiredMissing ("processId is required for " ++ feature) [("requiredField", .str "processId")]

end PluginOutcome

structure Plugin where
  id : String
  features : List String
  execute : PluginRequest → PluginOutcome

namespace Plugin

/-- Credits, set once or held. -/
def economy : Plugin where
  id := "economy"
  features := ["set_credits"]
  execute r :=
    match r.intValue with
    | none =>
      .denied .requiredMissing "set_credits requires intValue" [("requiredField", .str "intValue")]
    | some value =>
      if value < 0 then
        .denied .mutationBlocked "intValue must be non-negative for set_credits"
          [("intValue", .ofInt64 value)]
      else
        let (hookState, message) :=
          if r.lock then ("HOOK_LOCK", "credits lock activated")
          else ("HOOK_ONESHOT", "credits one-shot applied")
        .accepted hookState message [("intValue", .ofInt64 value), ("lockCredits", .bool r.lock)]

/-- The anchors of which a toggle needs one. -/
def toggleAnchors (feature : String) : List String :=
  match feature with
  | "freeze_timer" => ["game_timer_freeze", "freeze_timer"]
  | "toggle_fog" => ["fog_reveal", "toggle_fog"]
  | _ => ["ai_enabled", "toggle_ai"]

def boolText (b : Bool) : String := if b then "true" else "false"

/-- Switches of the whole world. -/
def globalToggle : Plugin where
  id := "global_toggle"
  features := ["freeze_timer", "toggle_fog", "toggle_ai"]
  execute r :=
    if r.processId.isNone then .processMissing r.feature
    else match r.anchor? (toggleAnchors r.feature) with
      | none =>
        .denied .requiredMissing ("no resolved anchor for " ++ r.feature)
          [("requiredField", .str "anchors"), ("anchorCount", .ofNat r.anchors.size)]
      | some anchor =>
        let enabled := r.boolValue.getD false
        .accepted (if enabled then "HOOK_ENABLED" else "HOOK_DISABLED")
          (r.feature ++ " set to " ++ boolText enabled)
          [("anchorKey", .str anchor), ("boolValue", .bool enabled)]

def minUnitCap : Int64 := 1

def maxUnitCap : Int64 := 100000

/-- Whether a unit cap patch is switched on. -/
def patchEnabled (r : PluginRequest) : Bool := (r.enable.or r.boolValue).getD true

/-- The patch of the unit cap. While it is on, the cap has to lie within bounds. -/
def buildPatch : Plugin where
  id := "build_patch"
  features := ["set_unit_cap"]
  execute r :=
    if r.processId.isNone then .processMissing r.feature
    else
      let enable := patchEnabled r
      let value := r.intValue.getD 0
      if enable && !(minUnitCap ≤ value && value ≤ maxUnitCap) then
        .denied .mutationBlocked "unit cap must be within 1..=100000" [
          ("intValue", .ofInt64 value),
          ("minIntValue", .ofInt64 minUnitCap),
          ("maxIntValue", .ofInt64 maxUnitCap)]
      else
        .accepted (if enable then "HOOK_PATCH_ENABLED" else "HOOK_PATCH_DISABLED")
          (if enable then "unit cap patched to " ++ toString value.toInt else "unit cap patch disabled") [
            ("anchorKey", .str ((r.anchor? ["unit_cap", "set_unit_cap"]).getD "none")),
            ("enable", .bool enable),
            ("intValue", .ofInt64 value)]

/-- All plugins, in the order in which they are asked. -/
def shipped : List Plugin := [economy, globalToggle, buildPatch]

end Plugin
end LiveControl
