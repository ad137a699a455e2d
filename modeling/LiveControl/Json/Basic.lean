import LiveControl.Table
import LiveControl.NameSet

namespace LiveControl

inductive Json where
  | null
  | bool (value : Bool)
  | int (value : Int)
  | float (value : Float)
  | str (value : String)
  | arr (items : List Json)
  | obj (fields : List (String × Json))
  deriving Inhabited

/-- A bag of loose values under text keys: contexts, diagnostics and payload arguments. -/
abbrev Bag := Table Json

namespace Json

mutual

def beq : Json → Json → Bool
  | .null, .null => true
  | .bool a, .bool b => a == b
  | .int a, .int b => a == b
  | .float a, .float b => decide (a = b)
  | .str a, .str b => a == b
  | .arr a, .arr b => beqItems a b
  | .obj a, .obj b => beqFields a b
  | _, _ => false

def beqItems : List Json → List Json → Bool
  | [], [] => true
  | a :: as, b :: bs => beq a b && beqItems as bs
  | _, _ => false

def beqFields : List (String × Json) → List (String × Json) → Bool
  | [], [] => true
  | (k, a) :: as, (l, b) :: bs => k == l && beq a b && beqFields as bs
  | _, _ => false

end

mutual

theorem eq_of_beq {a b : Json} (h : beq a b = true) : a = b := by
  cases a <;> cases b <;> simp_all [beq]
  · exact eq_of_beqItems h
  · exact eq_of_beqFields h

theorem eq_of_beqItems {a b : List Json} (h : beqItems a b = true) : a = b := by
  cases a <;> cases b <;> simp_all [beqItems]
  exact ⟨eq_of_beq h.1, eq_of_beqItems h.2⟩

theorem eq_of_beqFields {a b : List (String × Json)} (h : beqFields a b = true) : a = b := by
  cases a <;> cases b <;> simp_all [beqFields]
  rename_i x xs y ys
  exact ⟨Prod.ext h.1.1 (eq_of_beq h.1.2), eq_of_beqFields h.2⟩

end

mutual

theorem beq_refl : (a : Json) → beq a a = true
  | .null => rfl
  | .bool _ => by simp [beq]
  | .int _ => by simp [beq]
  | .float _ => by simp [beq]
  | .str _ => by simp [beq]
  | .arr items => by simpa [beq] using beqItems_refl items
  | .obj fields => by simpa [beq] using beqFields_refl fields

theorem beqItems_refl : (a : List Json) → beqItems a a = true
  | [] => rfl
  | x :: xs => by simp [beqItems, beq_refl x, beqItems_refl xs]

theorem beqFields_refl : (a : List (String × Json)) → beqFields a a = true
  | [] => rfl
  | (_, x) :: xs => by simp [beqFields, beq_refl x, beqFields_refl xs]

end

instance : DecidableEq Json := fun a b =>
  if h : beq a b = true then isTrue (eq_of_beq h)
  else isFalse fun equal => h (equal ▸ beq_refl a)

def isNull : Json → Bool
  | .null => true
  | _ => false

def bool? : Json → Option Bool
  | .bool b => some b
  | _ => none

theorem bool?_eq_some_iff {j : Json} {b : Bool} : j.bool? = some b ↔ j = .bool b := by
  cases j <;> simp [bool?]

def str? : Json → Option String
  | .str s => some s
  | _ => none

/-- A whole number of at least 0 that is written without point and exponent. -/
def nat? : Json → Option Nat
  | .int n => if 0 ≤ n then some n.toNat else none
  | _ => none

/-- A whole number of 64 bits with sign that is written without point and exponent. -/
def int64? : Json → Option Int64
  | .int n =>
    if Int64.minValue.toInt ≤ n ∧ n ≤ Int64.maxValue.toInt then some (Int64.ofInt n) else none
  | _ => none

theorem toInt_bounds (value : Int64) :
    Int64.minValue.toInt ≤ value.toInt ∧ value.toInt ≤ Int64.maxValue.toInt :=
  ⟨Int64.le_iff_toInt_le.1 (Int64.minValue_le value), Int64.le_iff_toInt_le.1 (Int64.le_maxValue value)⟩

theorem int64?_eq_some_iff {j : Json} {value : Int64} : j.int64? = some value ↔ j = .int value.toInt := by
  constructor
  · intro read
    cases j with
    | int n =>
      obtain ⟨fits, read⟩ := Option.ite_none_right_eq_some.1 read
      obtain rfl := Option.some.inj read
      rw [Int64.toInt_minValue, Int64.toInt_maxValue] at fits
      rw [Int64.toInt_ofInt_of_le fits.1 (by omega)]
    | null | bool | float | str | arr | obj => cases read
  · rintro rfl
    simp only [int64?, if_pos (toInt_bounds value), Int64.ofInt_toInt]

/-- Any number, as a double. -/
def number? : Json → Option Float
  | .int n => some (Float.ofInt n)
  | .float x => some x
  | _ => none

def items? : Json → Option (List Json)
  | .arr items => some items
  | _ => none

def fields? : Json → Option (List (String × Json))
  | .obj fields => some fields
  | _ => none

/-- The fields of an object as a bag; of fields with one name the last counts. -/
def bag? (j : Json) : Option Bag := j.fields?.map Table.ofList

def ofBag (bag : Bag) : Json := .obj bag.toList

@[simp] theorem bag?_ofBag (bag : Bag) : (ofBag bag).bag? = some bag := by
  simp [bag?, ofBag, fields?]

def ofInt64 (n : Int64) : Json := .int n.toInt

def ofNat (n : Nat) : Json := .int n

/-- A double as a loose value; one that is not finite has none and becomes null. -/
def ofFloat (x : Float) : Json := if x.isFinite then .float x else .null

def ofNames (names : List String) : Json := .arr (names.map .str)

def ofSet (s : NameSet) : Json := ofNames s.toList

/-- An object with the given fields in ascending order of their names. -/
def object (fields : List (String × Json)) : Json := ofBag (Table.ofList fields)

mutual

/-- The value with the fields of every object in ascending order. -/
def sorted : Json → Json
  | .arr items => .arr (sortedItems items)
  | .obj fields => object (sortedFields fields)
  | other => other

def sortedItems : List Json → List Json
  | [] => []
  | x :: rest => sorted x :: sortedItems rest

def sortedFields : List (String × Json) → List (String × Json)
  | [] => []
  | (k, x) :: rest => (k, sorted x) :: sortedFields rest

end

end Json
end LiveControl
