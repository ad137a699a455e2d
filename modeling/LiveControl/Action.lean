import LiveControl.Mode

namespace LiveControl

/-- What carries an action out. It is fixed when the catalog is loaded. -/
inductive ExecutionKind where
  | memory
  | freeze
  | helper
  | sdk
  | codePatch
  deriving DecidableEq, Repr

namespace ExecutionKind

def text : ExecutionKind → String
  | .memory => "memory"
  | .freeze => "freeze"
  | .helper => "helper"
  | .sdk => "sdk"
  | .codePatch => "code_patch"

instance : Vocabulary ExecutionKind := ⟨[.memory, .freeze, .helper, .sdk, .codePatch], text⟩

def read (s : String) : Except Fault ExecutionKind :=
  match Vocabulary.find? s with
  | some kind => .ok kind
  | none => .error (.invalidExecutionKind s)

end ExecutionKind

/-- One entry of a catalog: what an action needs and how it is carried out. -/
structure ActionSpec where
  id : String
  category : String
  requiredMode : Option Mode
  kind : ExecutionKind
  /-- The payload fields that must be given, in the order in which they are asked for. -/
  requiredFields : List String
  isMutation : Bool
  deriving DecidableEq, Repr

namespace ActionSpec

/-- An action of a kind that needs no mode and no payload and changes the process. -/
def plain (id : String) (kind : ExecutionKind) : ActionSpec := ⟨id, "", none, kind, [], true⟩

/-- The mode an action is gated on. A declared `unknown` gates nothing. -/
def enforcedMode (a : ActionSpec) : Option Mode := a.requiredMode.filter Mode.isKnown

def requires (a : ActionSpec) (field : String) : Bool := a.requiredFields.contains field

def requiresSymbol (a : ActionSpec) : Bool := a.requires "symbol"

def schemaToJson (fields : List String) : Json := .obj [("required", .ofNames fields)]

def schemaOfJson? (j : Json) : Option (List String) := do
  let fields ← j.fields?
  Json.defaulted fields "required" [] Json.names?

def toJson (a : ActionSpec) : Json := .obj [
  ("id", .str a.id),
  ("category", .str a.category),
  ("required_mode", .ofOption .ofWord a.requiredMode),
  ("execution_kind", .ofWord a.kind),
  ("payload_schema", schemaToJson a.requiredFields),
  ("is_mutation", .bool a.isMutation)]

def ofJson? (j : Json) : Option ActionSpec := do
  let fields ← j.fields?
  some {
    id := ← Json.required fields "id" Json.str?
    category := ← Json.defaulted fields "category" "" Json.str?
    requiredMode := ← Json.optional fields "required_mode" Json.word
    kind := ← Json.required fields "execution_kind" Json.word
    requiredFields := ← Json.defaulted fields "payload_schema" [] schemaOfJson?
    isMutation := ← Json.defaulted fields "is_mutation" true Json.bool? }

end ActionSpec
end LiveControl
