import LiveControl.Json.Decode
import LiveControl.Decimal.Layout

namespace LiveControl

inductive Scalar where
  | int (value : Int64)
  | float (value : Float)
  | bool (value : Bool)
  deriving DecidableEq

namespace Scalar

/-- The payload field that carries a scalar of this kind. -/
def payloadKey : Scalar → String
  | .int _ => "intValue"
  | .float _ => "floatValue"
  | .bool _ => "boolValue"

/-- The loose value that stands for a scalar; a double that is not finite has none. -/
def toLoose : Scalar → Json
  | .int n => .ofInt64 n
  | .float x => .ofFloat x
  | .bool b => .bool b

def toFloat : Scalar → Float
  | .int n => Decimal.ofInt64 n
  | .float x => x
  | .bool b => if b then 1.0 else 0.0

def toInt64 : Scalar → Int64
  | .int n => n
  | .float x => Decimal.truncateInt64 x
  | .bool b => if b then 1 else 0

/-- A scalar as it stands in messages. -/
def text : Scalar → String
  | .int n => toString n.toInt
  | .float x => Decimal.messageLayout.write x
  | .bool b => if b then "true" else "false"

/-- The document of a scalar, which names its kind. -/
def toJson : Scalar → Json
  | .int n => .obj [("type", .str "int"), ("value", .ofInt64 n)]
  | .float x => .obj [("type", .str "float"), ("value", .ofFloat x)]
  | .bool b => .obj [("type", .str "bool"), ("value", .bool b)]

/-- Reads a scalar whose kind is read by `name?`. -/
def named? (name? : Json → Option String) (j : Json) : Option Scalar := do
  let (kind, fields) ← Json.formed? "type" name? (fun _ => ["value"]) j
  match kind with
  | "int" => (Json.required fields "value" Json.int64?).map .int
  | "float" => (Json.required fields "value" Json.number?).map .float
  | "bool" => (Json.required fields "value" Json.bool?).map .bool
  | _ => none

def ofJson? : Json → Option Scalar := named? Json.label?

/-- Reads a scalar within a payload. -/
def ofInner? : Json → Option Scalar := named? Json.innerLabel?

end Scalar
end LiveControl
