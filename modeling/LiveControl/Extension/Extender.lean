import LiveControl.Extension.Plugin
import LiveControl.Task

namespace LiveControl

structure ProbeEntry where
  available : Bool
  state : CapabilityState
  reason : ExtensionReason
  deriving DecidableEq, Repr

namespace ProbeEntry

def toJson (e : ProbeEntry) : Json := .obj [
  ("available", .bool e.available),
  ("state", .ofWord e.state),
  ("reason_code", .ofWord e.reason)]

def ofJson? (j : Json) : Option ProbeEntry := do
  let fields ← j.fields?
  some {
    available := ← Json.required fields "available" Json.bool?
    state := ← Json.required fields "state" Json.word
    reason := ← Json.required fields "reason_code" Json.word }

end ProbeEntry

/-- The features that were confirmed, under their lowercase names. -/
structure Probe where
  entries : Table ProbeEntry
  deriving DecidableEq

namespace Probe

def empty : Probe := ⟨.empty⟩

def mark (p : Probe) (feature : String) (reason : ExtensionReason) : Probe :=
  ⟨p.entries.insert (Text.asciiLower feature) ⟨true, .verified, reason⟩⟩

def isAvailable (p : Probe) (feature : String) : Bool :=
  (p.entries.get? (Text.asciiLower feature)).any ProbeEntry.available

/-- The probe with all features of the plugins. -/
def ofPlugins (plugins : List Plugin) : Probe :=
  (plugins.flatMap Plugin.features).foldl (fun p feature => p.mark feature .probePass) empty

def toJson (p : Probe) : Json := .ofTable ProbeEntry.toJson p.entries

end Probe

inductive HookState where
  | notInstalled
  | installed
  | failed
  | rolledBack
  deriving DecidableEq, Repr

namespace HookState

def text : HookState → String
  | .notInstalled => "not_installed"
  | .installed => "installed"
  | .failed => "failed"
  | .rolledBack => "rolled_back"

instance : Vocabulary HookState := ⟨[.notInstalled, .installed, .failed, .rolledBack], text⟩

end HookState

structure HookRecord where
  state : HookState
  reason : String
  deriving DecidableEq, Repr

namespace HookRecord

/-- The record of a hook that was never touched. -/
def untouched : HookRecord := ⟨.notInstalled, "HOOK_NOT_INSTALLED"⟩

def toJson (r : HookRecord) : Json := .obj [("state", .ofWord r.state), ("reason_code", .str r.reason)]

def ofJson? (j : Json) : Option HookRecord := do
  let fields ← j.fields?
  some {
    state := ← Json.required fields "state" Json.word
    reason := ← Json.required fields "reason_code" Json.str? }

end HookRecord

/-- The last known state of every hook. -/
structure Hooks where
  records : Table HookRecord
  deriving DecidableEq

namespace Hooks

def empty : Hooks := ⟨.empty⟩

def markInstalled (h : Hooks) (id : String) : Hooks := ⟨h.records.insert id ⟨.installed, "HOOK_OK"⟩⟩

def markFailed (h : Hooks) (id reason : String) : Hooks := ⟨h.records.insert id ⟨.failed, reason⟩⟩

def markRolledBack (h : Hooks) (id : String) : Hooks :=
  ⟨h.records.insert id ⟨.rolledBack, "ROLLBACK_SUCCESS"⟩⟩

def get (h : Hooks) (id : String) : HookRecord := (h.records.get? id).getD .untouched

/-- The hooks that are installed, in ascending order. -/
def installed (h : Hooks) : List String :=
  (h.records.toList.filter fun e => e.2.state == .installed).map Prod.fst

end Hooks

structure Extender where
  plugins : List Plugin
  probe : Probe
  hooks : Hooks

namespace Extender

/-- An extender with all features of its plugins probed and no hook touched. -/
def load (plugins : List Plugin) : Extender := ⟨plugins, .ofPlugins plugins, .empty⟩

/-- The feature that an operation id means. -/
def featureOf (operation : String) : String := Text.asciiLower (Text.trim operation)

/-- The first plugin that serves a feature. -/
def pluginFor (x : Extender) (feature : String) : Option Plugin :=
  x.plugins.find? fun p => p.features.contains feature

def hook (x : Extender) (feature : String) : HookRecord := x.hooks.get (Text.asciiLower feature)

/-- The outcome of a plugin as a result. -/
def resultOf (plugin : Plugin) (feature : String) (outcome : PluginOutcome) : OperationResult :=
  { succeeded := outcome.succeeded
    message := outcome.message
    reason := outcome.reason
    state := if outcome.succeeded then .verified else .unavailable
    diagnostics := outcome.diagnostics.overlay (.ofList [
      ("plugin", .str plugin.id), ("featureId", .str feature), ("hookState", .str outcome.hookState)]) }

/-- Writes down what became of the hook of a feature. -/
def noteOutcome (hooks : Hooks) (feature : String) (outcome : PluginOutcome) : Hooks :=
  if outcome.succeeded then hooks.markInstalled feature
  else hooks.markFailed feature outcome.reason.text

/-- Serves an operation by the first plugin that has it among its features. -/
def execute (r : OperationRequest) : Query Extender OperationResult := fun x =>
  let feature := featureOf r.operation
  match x.pluginFor feature with
  | none =>
    (.failure ("no extender plugin serves '" ++ feature ++ "'") .requiredMissing .unavailable, x)
  | some plugin =>
    if x.probe.isAvailable feature then
      let outcome := plugin.execute (.ofOperation feature r)
      (resultOf plugin feature outcome, { x with hooks := noteOutcome x.hooks feature outcome })
    else
      (.failure ("'" ++ feature ++ "' has not passed its capability probe") .capabilityUnknown .unknown, x)

/-- Rolls back every installed hook and lists them. -/
def rollBackAll : Query Extender (List String) := fun x =>
  let ids := x.hooks.installed
  (ids, { x with hooks := ids.foldl Hooks.markRolledBack x.hooks })

/-- An extender within a larger state, as the backend of a router. -/
def backend {σ : Type} (part : Part σ Extender) (r : OperationRequest) : Task σ OperationResult :=
  Query.task (Query.on part (execute r))

end Extender
end LiveControl
