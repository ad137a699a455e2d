import LiveControl.Action
import LiveControl.Context
import LiveControl.Scalar

namespace LiveControl

inductive PinDirective where
  | pin (value : Scalar)
  | release
  deriving DecidableEq

/-- The arguments of an action, one form for each kind of execution. -/
inductive Payload where
  | memory (symbol : String) (value : Scalar)
  | freeze (symbol : String) (directive : PinDirective)
  | helper (hook unit : Option String) (arguments : Bag)
  | sdk (arguments : Bag)
  | codePatch (symbol : String) (enable : Bool)
  deriving DecidableEq

namespace Payload

/-- The number of the payload forms; it grows whenever a form changes what it requires. -/
def schemaVersion : UInt32 := 1

def kind : Payload → ExecutionKind
  | .memory .. => .memory
  | .freeze .. => .freeze
  | .helper .. => .helper
  | .sdk .. => .sdk
  | .codePatch .. => .codePatch

/-- The symbol that a payload is aimed at. -/
def symbol? : Payload → Option String
  | .memory symbol _ | .freeze symbol _ | .codePatch symbol _ => some symbol
  | .helper .. | .sdk .. => none

/-- What keeps a bag from being the payload of an action. -/
inductive Flaw where
  | symbolMissing
  | freezeNotBoolean
  | enableNotBoolean
  | valueMissing
  | valueAmbiguous (keys : List String)
  | valueMistyped (key : String)
  deriving DecidableEq, Repr

def Flaw.message : Flaw → String
  | .symbolMissing => "symbol is required"
  | .freezeNotBoolean => "freeze must be a boolean"
  | .enableNotBoolean => "enable must be a boolean"
  | .valueMissing => "expected one of intValue, floatValue or boolValue"
  | .valueAmbiguous keys => "ambiguous value fields: " ++ String.intercalate ", " keys
  | .valueMistyped key => key ++ " has the wrong type"

/-- A flawed payload of an action, as a fault. -/
def Flaw.fault (f : Flaw) (action : String) : Fault := .invalidPayload action f.message

/-- The entry of a bag, where null counts as absent. -/
def given? (raw : Bag) (key : String) : Option Json := (raw.get? key).filter fun v => !v.isNull

def valueKeys : List String := ["intValue", "floatValue", "boolValue"]

/-- The scalar that a loose value gives under one of the value keys. -/
def scalarAt? (key : String) (value : Json) : Option Scalar :=
  match key with
  | "intValue" => value.int64?.map .int
  | "floatValue" => value.number?.map .float
  | _ => value.bool?.map .bool

/-- The one scalar of a bag. -/
def readScalar (raw : Bag) : Except Flaw Scalar :=
  match valueKeys.filterMap fun key => (given? raw key).map fun v => (key, v) with
  | [] => .error .valueMissing
  | [(key, value)] =>
    match scalarAt? key value with
    | some scalar => .ok scalar
    | none => .error (.valueMistyped key)
  | several => .error (.valueAmbiguous (several.map Prod.fst))

def readSymbol (raw : Bag) : Except Flaw String :=
  match raw.text? "symbol" with
  | some symbol => .ok symbol
  | none => .error .symbolMissing

/-- A switch that may be left out. -/
def readSwitch (raw : Bag) (key : String) (absent : Bool) (flaw : Flaw) : Except Flaw Bool :=
  match given? raw key with
  | none => .ok absent
  | some value =>
    match value.bool? with
    | some b => .ok b
    | none => .error flaw

/-- Whether a freezing action pins when its bag does not say. -/
def pinsByDefault (a : ActionSpec) : Bool := a.id ≠ "unfreeze_symbol"

/-- The payload that a bag gives an action. -/
def read (a : ActionSpec) (raw : Bag) : Except Flaw Payload :=
  match a.kind with
  | .memory => do
    let symbol ← readSymbol raw
    let value ← readScalar raw
    pure (.memory symbol value)
  | .freeze => do
    let symbol ← readSymbol raw
    if ← readSwitch raw "freeze" (pinsByDefault a) .freezeNotBoolean then
      let value ← readScalar raw
      pure (.freeze symbol (.pin value))
    else pure (.freeze symbol .release)
  | .helper => .ok (.helper (raw.text? "helperHookId") (raw.text? "unitId") raw)
  | .sdk => .ok (.sdk raw)
  | .codePatch => do
    let enable ← readSwitch raw "enable" true .enableNotBoolean
    let symbol ← readSymbol raw
    pure (.codePatch symbol enable)

/-- The first field that an action requires and a bag does not give. -/
def firstMissing? (a : ActionSpec) (raw : Bag) : Option String :=
  a.requiredFields.find? fun field => (given? raw field).isNone

def PinDirective.toJson : PinDirective → Json
  | .pin value => .obj [("op", .str "pin"), ("value", value.toJson)]
  | .release => .obj [("op", .str "release")]

/-- Reads a directive whose name is read by `name?`. -/
def PinDirective.named? (name? : Json → Option String) (j : Json) : Option PinDirective := do
  let order (name : String) : List String := if name = "pin" then ["value"] else []
  let (name, fields) ← Json.formed? "op" name? order j
  match name with
  | "pin" => (Json.required fields "value" Scalar.ofInner?).map .pin
  | "release" => some .release
  | _ => none

def PinDirective.ofJson? : Json → Option PinDirective := PinDirective.named? Json.str?

/-- The name of a directive within a payload, where its place among the directives may stand for it. -/
def PinDirective.nameOrPlace? : Json → Option String
  | .int 0 => some "pin"
  | .int 1 => some "release"
  | j => j.str?

def toJson : Payload → Json
  | .memory symbol value => .obj [
      ("kind", .str "memory"), ("symbol", .str symbol), ("value", value.toJson)]
  | .freeze symbol directive => .obj [
      ("kind", .str "freeze"), ("symbol", .str symbol), ("directive", PinDirective.toJson directive)]
  | .helper hook unit arguments => .obj [
      ("kind", .str "helper"), ("helper_hook_id", .ofOption .str hook),
      ("unit_id", .ofOption .str unit), ("arguments", .ofBag arguments)]
  | .sdk arguments => .obj [("kind", .str "sdk"), ("arguments", .ofBag arguments)]
  | .codePatch symbol enable => .obj [
      ("kind", .str "code_patch"), ("symbol", .str symbol), ("enable", .bool enable)]

/-- The fields of each form in their order. -/
def fieldOrder : String → List String
  | "memory" => ["symbol", "value"]
  | "freeze" => ["symbol", "directive"]
  | "helper" => ["helper_hook_id", "unit_id", "arguments"]
  | "sdk" => ["arguments"]
  | "code_patch" => ["symbol", "enable"]
  | _ => []

/-- The payload of a form with the given fields, of which `scalar?` and `directive?` read the inner ones. -/
def ofForm? (scalar? : Json → Option Scalar) (directive? : Json → Option PinDirective) (kind : String)
    (fields : List (String × Json)) : Option Payload := do
  match kind with
  | "memory" =>
    some (.memory (← Json.required fields "symbol" Json.str?)
      (← Json.required fields "value" scalar?))
  | "freeze" =>
    some (.freeze (← Json.required fields "symbol" Json.str?)
      (← Json.required fields "directive" directive?))
  | "helper" =>
    some (.helper (← Json.optional fields "helper_hook_id" Json.str?)
      (← Json.optional fields "unit_id" Json.str?)
      (← Json.required fields "arguments" Json.bag?))
  | "sdk" => some (.sdk (← Json.required fields "arguments" Json.bag?))
  | "code_patch" =>
    some (.codePatch (← Json.required fields "symbol" Json.str?)
      (← Json.required fields "enable" Json.bool?))
  | _ => none

def ofJson? (j : Json) : Option Payload := do
  let (kind, fields) ← Json.formed? "kind" Json.str? fieldOrder j
  ofForm? Scalar.ofInner? (PinDirective.named? PinDirective.nameOrPlace?) kind fields

end Payload
end LiveControl
