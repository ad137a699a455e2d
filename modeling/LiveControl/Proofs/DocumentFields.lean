import LiveControl.Json.Decode

namespace LiveControl

/-- A vocabulary in which the name of every value finds that value again. -/
class Vocabulary.Lawful (α : Type) [Vocabulary α] : Prop where
  find?_name (a : α) : Vocabulary.find? (Vocabulary.name a) = some a

namespace Json

variable {α : Type} {fields : List (String × Json)} {name other : String}

@[simp] theorem word_ofWord [Vocabulary α] [Vocabulary.Lawful α] (a : α) : (ofWord a).word = some a :=
  Vocabulary.Lawful.find?_name a

theorem mapM_map_of_inverse {β : Type} {encode : α → β} {decode : β → Option α} {xs : List α}
    (inverse : ∀ x ∈ xs, decode (encode x) = some x) : (xs.map encode).mapM decode = some xs := by
  induction xs with
  | nil => rfl
  | cons x xs ih =>
    obtain ⟨first, rest⟩ := List.forall_mem_cons.1 inverse
    rw [List.map_cons, List.mapM_cons, first, ih rest]
    rfl

@[simp] theorem names?_ofNames (names : List String) : (ofNames names).names? = some names :=
  mapM_map_of_inverse fun _ _ => rfl

@[simp] theorem set?_ofSet (s : NameSet) : (ofSet s).set? = some s := by
  rw [set?, ofSet, names?_ofNames, Option.map_some, NameSet.ofList_toList]

theorem table?_ofTable {encode : α → Json} {decode : Json → Option α} {t : Table α}
    (inverse : ∀ key value, t.get? key = some value → decode (encode value) = some value) :
    (ofTable encode t).table? decode = some t := by
  have entries : (t.toList.map fun e => (e.1, encode e.2)).mapM
      (fun f => (decode f.2).map fun v => (f.1, v)) = some t.toList :=
    mapM_map_of_inverse fun e member => by
      rw [inverse e.1 e.2 (Table.mem_toList.1 member), Option.map_some]
  change ((t.map encode).toList.mapM _ >>= fun entries => some (Table.ofList entries)) = some t
  rw [show (t.map encode).toList = t.toList.map fun e => (e.1, encode e.2) from rfl, entries]
  exact congrArg some (Table.ofList_toList t)

@[simp] theorem table?_ofTable_str (t : Table String) : (ofTable .str t).table? str? = some t :=
  table?_ofTable fun _ _ _ => rfl

@[simp] theorem table?_ofTable_bool (t : Table Bool) : (ofTable .bool t).table? bool? = some t :=
  table?_ofTable fun _ _ _ => rfl

@[simp] theorem str?_str (s : String) : (Json.str s).str? = some s := rfl

@[simp] theorem bool?_bool (b : Bool) : (Json.bool b).bool? = some b := rfl

@[simp] theorem int64?_ofInt64 (n : Int64) : (ofInt64 n).int64? = some n := int64?_eq_some_iff.2 rfl

@[simp] theorem nat?_ofNat (n : Nat) : (ofNat n).nat? = some n := by simp [ofNat, nat?]

@[simp] theorem uint32?_ofNat (n : UInt32) : (ofNat n.toNat).uint32? = some n := by
  rw [uint32?, nat?_ofNat, Option.bind_some, if_pos n.toNat_lt_size, UInt32.ofNat_toNat]

@[simp] theorem uint64?_ofNat (n : UInt64) : (ofNat n.toNat).uint64? = some n := by
  rw [uint64?, nat?_ofNat, Option.bind_some, if_pos n.toNat_lt_size, UInt64.ofNat_toNat]

theorem number?_ofFloat {x : Float} (finite : x.isFinite = true) : (ofFloat x).number? = some x := by
  rw [ofFloat, if_pos finite, number?]

theorem optional_of_ne_null {j : Json} {decode : Json → Option α}
    (given : single? fields name = some (some j)) (shown : j ≠ .null) :
    optional fields name decode = (decode j).map some := by
  unfold optional
  rw [given]
  cases j with
  | null => exact absurd rfl shown
  | bool | int | float | str | arr | obj => rfl

/-- A value that may be missing, written so that only a missing one is null. -/
theorem optional_ofOption (encode : α → Json) {decode : Json → Option α} {a : Option α}
    (shown : ∀ a, encode a ≠ .null) (inverse : ∀ a, decode (encode a) = some a)
    (given : single? fields name = some (some (ofOption encode a))) :
    optional fields name decode = some a := by
  cases a with
  | none =>
    unfold optional
    rw [given]
    rfl
  | some a => rw [optional_of_ne_null given (shown a), ofOption, inverse a, Option.map_some]

/-- The document with one field of its own less. -/
def without (name : String) : Json → Json
  | .obj fields => .obj (fields.filter fun f => f.1 ≠ name)
  | j => j

/-- The document with a change made within one of its own fields. -/
def within (name : String) (change : Json → Json) : Json → Json
  | .obj fields => .obj (fields.map fun f => if f.1 = name then (f.1, change f.2) else f)
  | j => j

/-- The values that an object lists under a name. -/
def valuesAt (fields : List (String × Json)) (name : String) : List Json :=
  (fields.filter fun f => f.1 == name).map Prod.snd

/-- What a field is read as of which these are the values. -/
def sole? : List Json → Option (Option Json)
  | [] => some none
  | [j] => some (some j)
  | _ => none

theorem single?_eq : single? fields name = sole? (valuesAt fields name) := by
  unfold single? valuesAt
  generalize fields.filter (fun f => f.1 == name) = found
  match found with
  | [] | [_] | _ :: _ :: _ => rfl

theorem sole?_map (change : Json → Json) (values : List Json) :
    sole? (values.map change) = (sole? values).map (Option.map change) := by
  match values with
  | [] | [_] | _ :: _ :: _ => rfl

theorem single?_without :
    single? (fields.filter fun f => f.1 ≠ name) other =
      if other = name then some none else single? fields other := by
  rw [single?_eq, single?_eq, valuesAt, valuesAt, List.filter_filter]
  by_cases same : other = name
  · rw [if_pos same, List.filter_eq_nil_iff.2 fun f _ => by simp [same], List.map_nil, sole?]
  · rw [if_neg same]
    congr 3
    funext f
    by_cases here : f.1 = other <;> simp [here, same]

theorem valuesAt_within (change : Json → Json) :
    valuesAt (fields.map fun f => if f.1 = name then (f.1, change f.2) else f) other =
      if other = name then (valuesAt fields other).map change else valuesAt fields other := by
  unfold valuesAt
  induction fields with
  | nil => simp
  | cons f fields ih =>
    rw [List.map_cons, List.filter_cons, List.filter_cons]
    grind

theorem single?_within (change : Json → Json) :
    single? (fields.map fun f => if f.1 = name then (f.1, change f.2) else f) other =
      if other = name then (single? fields other).map (Option.map change) else single? fields other := by
  rw [single?_eq, single?_eq, valuesAt_within]
  split
  · exact sole?_map change _
  · rfl

theorem required_without {decode : Json → Option α} :
    required (fields.filter fun f => f.1 ≠ name) other decode =
      if other = name then none else required fields other decode := by
  unfold required
  rw [single?_without]
  split <;> rfl

theorem optional_without {decode : Json → Option α} :
    optional (fields.filter fun f => f.1 ≠ name) other decode =
      if other = name then some none else optional fields other decode := by
  unfold optional
  rw [single?_without]
  split <;> rfl

theorem defaulted_without {absent : α} {decode : Json → Option α} :
    defaulted (fields.filter fun f => f.1 ≠ name) other absent decode =
      if other = name then some absent else defaulted fields other absent decode := by
  unfold defaulted
  rw [single?_without]
  split <;> rfl

section Within

variable {change : Json → Json} {decode : Json → Option α}

theorem required_within_ne (apart : other ≠ name) :
    required (fields.map fun f => if f.1 = name then (f.1, change f.2) else f) other decode =
      required fields other decode := by
  rw [required, single?_within, if_neg apart, required]

theorem defaulted_within_ne {absent : α} (apart : other ≠ name) :
    defaulted (fields.map fun f => if f.1 = name then (f.1, change f.2) else f) other absent decode =
      defaulted fields other absent decode := by
  rw [defaulted, single?_within, if_neg apart, defaulted]

/-- A change within a required field, of which the decoder of that field knows what it does. -/
theorem required_within_self {a b : α} (changed : ∀ j, decode j = some a → decode (change j) = some b)
    (read : required fields name decode = some a) :
    required (fields.map fun f => if f.1 = name then (f.1, change f.2) else f) name decode = some b := by
  obtain ⟨given, single, read⟩ := Option.bind_eq_some_iff.1 read
  obtain ⟨value, rfl, read⟩ := Option.bind_eq_some_iff.1 read
  rw [required, single?_within, if_pos rfl, single]
  exact changed value read

end Within

end Json
end LiveControl
