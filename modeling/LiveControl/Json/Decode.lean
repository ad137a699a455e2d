import LiveControl.Json.Basic

namespace LiveControl

/-- A closed vocabulary: finitely many values, each with a name of its own in documents. -/
class Vocabulary (α : Type) where
  all : List α
  name : α → String

namespace Vocabulary

variable {α : Type} [Vocabulary α]

/-- The value with a name. -/
def find? (text : String) : Option α :=
  (all : List α).find? fun a => name a == text

end Vocabulary

namespace Json

variable {α : Type}

/-- The field of a name: nothing at all if it is given more than once. -/
def single? (fields : List (String × Json)) (name : String) : Option (Option Json) :=
  match fields.filter fun f => f.1 == name with
  | [] => some none
  | [f] => some (some f.2)
  | _ => none

/-- A field that must be given. -/
def required (fields : List (String × Json)) (name : String) (decode : Json → Option α) : Option α := do
  let given ← single? fields name
  given >>= decode

/-- A field that may be missing or null. -/
def optional (fields : List (String × Json)) (name : String) (decode : Json → Option α) :
    Option (Option α) := do
  match ← single? fields name with
  | none | some .null => some none
  | some value => (decode value).map some

/-- A field that may be missing, with the value it then has. -/
def defaulted (fields : List (String × Json)) (name : String) (absent : α) (decode : Json → Option α) :
    Option α := do
  match ← single? fields name with
  | none => some absent
  | some value => decode value

def list? (decode : Json → Option α) (j : Json) : Option (List α) :=
  j.items? >>= List.mapM decode

def names? (j : Json) : Option (List String) := j.list? str?

def set? (j : Json) : Option NameSet := j.names?.map NameSet.ofList

/-- A table of values that are all of one shape. -/
def table? (decode : Json → Option α) (j : Json) : Option (Table α) := do
  let fields ← j.fields?
  let entries ← fields.mapM fun f => (decode f.2).map fun v => (f.1, v)
  some (Table.ofList entries)

def ofTable (encode : α → Json) (t : Table α) : Json := ofBag (t.map encode)

def uint32? (j : Json) : Option UInt32 :=
  j.nat?.bind fun n => if n < UInt32.size then some (UInt32.ofNat n) else none

def uint64? (j : Json) : Option UInt64 :=
  j.nat?.bind fun n => if n < UInt64.size then some (UInt64.ofNat n) else none

/-- A name: a text, or the only field of an object if it is null. -/
def label? : Json → Option String
  | .str s => some s
  | .obj [(s, .null)] => some s
  | _ => none

/-- A name within a form that is read as a whole before it is understood: there an empty object says as
little as null. -/
def innerLabel? : Json → Option String
  | .obj [(s, .obj [])] => some s
  | j => j.label?

/-- A word of a vocabulary, by its name. -/
def word [Vocabulary α] (j : Json) : Option α := j.label? >>= Vocabulary.find?

def ofWord [Vocabulary α] (a : α) : Json := .str (Vocabulary.name a)

/-- The form of a value that names it under `tag`, and its fields. Such a value may also be written as
the list of its name and of its other fields, which then come in the order of the form. -/
def formed? (tag : String) (name? : Json → Option String) (order : String → List String) :
    Json → Option (String × List (String × Json))
  | .obj fields => (required fields tag name?).map fun name => (name, fields)
  | .arr (form :: values) => do
    let name ← name? form
    let names := order name
    if names.length = values.length then some (name, names.zip values) else none
  | _ => none

def ofOption (encode : α → Json) : Option α → Json
  | none => .null
  | some a => encode a

/-- The fields of an object of which some are left out when they have nothing to say. -/
def present (fields : List (String × Option Json)) : List (String × Json) :=
  fields.filterMap fun f => f.2.map fun v => (f.1, v)

end Json
end LiveControl
