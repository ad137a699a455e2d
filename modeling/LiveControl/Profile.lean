import LiveControl.Action
import LiveControl.Policy

namespace LiveControl

structure Profile where
  id : String
  displayName : String
  actions : Table ActionSpec
  featureFlags : Table Bool
  metadata : Table String
  deriving DecidableEq

namespace Profile

/-- A profile with nothing but an id. -/
def bare (id : String) : Profile := ⟨id, "", .empty, .empty, .empty⟩

/-- The profile with an action under the action's own id. -/
def addAction (p : Profile) (a : ActionSpec) : Profile :=
  { p with actions := p.actions.insert a.id a }

def addFlag (p : Profile) (flag : String) (enabled : Bool) : Profile :=
  { p with featureFlags := p.featureFlags.insert flag enabled }

def addMetadata (p : Profile) (key value : String) : Profile :=
  { p with metadata := p.metadata.insert key value }

def action? (p : Profile) (id : String) : Option ActionSpec := p.actions.get? id

/-- A flag that the profile does not mention is off. -/
def flagEnabled (p : Profile) (flag : String) : Bool := (p.featureFlags.get? flag).getD false

/-- The symbols that the profile's metadata declares critical. -/
def criticalSymbols (p : Profile) (policy : Policy) : NameSet :=
  .ofCommaText? (p.metadata.get? policy.criticalKey)

def toJson (p : Profile) : Json := .obj [
  ("id", .str p.id),
  ("display_name", .str p.displayName),
  ("actions", .ofTable ActionSpec.toJson p.actions),
  ("feature_flags", .ofTable .bool p.featureFlags),
  ("metadata", .ofTable .str p.metadata)]

def ofJson? (j : Json) : Option Profile := do
  let fields ← j.fields?
  some {
    id := ← Json.required fields "id" Json.str?
    displayName := ← Json.defaulted fields "display_name" "" Json.str?
    actions := ← Json.defaulted fields "actions" .empty (Json.table? ActionSpec.ofJson?)
    featureFlags := ← Json.defaulted fields "feature_flags" .empty (Json.table? Json.bool?)
    metadata := ← Json.defaulted fields "metadata" .empty (Json.table? Json.str?) }

end Profile

/-- The profiles that can be asked for; under one id the last one given counts. -/
structure ProfileShelf where
  profiles : Table Profile

namespace ProfileShelf

def ofList (profiles : List Profile) : ProfileShelf := ⟨.ofList (profiles.map fun p => (p.id, p))⟩

def find (shelf : ProfileShelf) (id : String) : Except Fault Profile :=
  match shelf.profiles.get? id with
  | some p => .ok p
  | none => .error (.profileNotFound id)

end ProfileShelf
end LiveControl
