import LiveControl.Json.Decode
import LiveControl.Fault

namespace LiveControl

/-- How the address of a symbol was found. -/
inductive SymbolSource where
  | signature
  | fallback
  | none
  deriving DecidableEq, Repr

namespace SymbolSource

instance : Inhabited SymbolSource := ⟨.none⟩

def text : SymbolSource → String
  | .signature => "signature"
  | .fallback => "fallback"
  | .none => "none"

instance : Vocabulary SymbolSource := ⟨[.signature, .fallback, .none], text⟩

/-- The place of a source in reports: the surest comes first. -/
def rank : SymbolSource → Nat
  | .signature => 0
  | .fallback => 1
  | .none => 2

def read (s : String) : Except Fault SymbolSource :=
  match Vocabulary.find? s with
  | some source => .ok source
  | Option.none => .error (.invalidSymbolSource s)

end SymbolSource

inductive SymbolHealth where
  | healthy
  | degraded
  | unresolved
  deriving DecidableEq, Repr

namespace SymbolHealth

def text : SymbolHealth → String
  | .healthy => "healthy"
  | .degraded => "degraded"
  | .unresolved => "unresolved"

instance : Vocabulary SymbolHealth := ⟨[.healthy, .degraded, .unresolved], text⟩

def read (s : String) : Except Fault SymbolHealth :=
  match Vocabulary.find? s with
  | some health => .ok health
  | none => .error (.invalidHealth s)

end SymbolHealth

/-- The declared kind of the value at a symbol. -/
inductive ValueType where
  | int
  | float
  | bool
  | byte
  | pointer
  deriving DecidableEq, Repr

namespace ValueType

def text : ValueType → String
  | .int => "int"
  | .float => "float"
  | .bool => "bool"
  | .byte => "byte"
  | .pointer => "pointer"

instance : Vocabulary ValueType := ⟨[.int, .float, .bool, .byte, .pointer], text⟩

def read (s : String) : Except Fault ValueType :=
  match Vocabulary.find? s with
  | some type => .ok type
  | none => .error (.invalidValueType s)

end ValueType

/-- A named place in memory, resolved or not. -/
structure Symbol where
  name : String
  address : UInt64
  valueType : ValueType
  source : SymbolSource
  confidence : Float
  health : SymbolHealth
  diagnostics : String
  deriving DecidableEq

namespace Symbol

/-- A symbol found by its signature, in full confidence. -/
def healthySignature (name : String) (address : UInt64) (valueType : ValueType) : Symbol :=
  ⟨name, address, valueType, .signature, 1.0, .healthy, ""⟩

/-- A symbol without an address or without a resolution cannot be used at all. -/
def isUnusable (s : Symbol) : Bool := s.address == 0 || s.health == .unresolved

def toJson (s : Symbol) : Json := .obj [
  ("name", .str s.name),
  ("address", .ofNat s.address.toNat),
  ("value_type", .ofWord s.valueType),
  ("source", .ofWord s.source),
  ("confidence", .ofFloat s.confidence),
  ("health", .ofWord s.health),
  ("diagnostics", .str s.diagnostics)]

def ofJson? (j : Json) : Option Symbol := do
  let fields ← j.fields?
  some {
    name := ← Json.required fields "name" Json.str?
    address := ← Json.defaulted fields "address" 0 Json.uint64?
    valueType := ← Json.required fields "value_type" Json.word
    source := ← Json.defaulted fields "source" .none Json.word
    confidence := ← Json.defaulted fields "confidence" 0.0 Json.number?
    health := ← Json.required fields "health" Json.word
    diagnostics := ← Json.defaulted fields "diagnostics" "" Json.str? }

end Symbol
end LiveControl
