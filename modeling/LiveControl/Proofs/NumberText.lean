import LiveControl.Json.Parser
import LiveControl.Proofs.ShortestDecimal
import LiveControl.Yaml.Number

namespace LiveControl.Decimal

namespace Written

/-- What is written of an exponent; `mark` stands before one that is not negative. -/
def powerChars (mark : List Char) (exponent : Int) : List Char :=
  if exponent < 0 then 'e' :: '-' :: Nat.toDigits 10 (-exponent).toNat
  else 'e' :: mark ++ Nat.toDigits 10 exponent.toNat

/-- A decimal as a text, without its sign. -/
def chars (mark : List Char) (w : Written) : List Char :=
  w.whole ++ ((if w.point then '.' :: w.fraction else []) ++ if w.power then powerChars mark w.exponent else [])

/-- A decimal as a text. -/
def spelled (mark : List Char) (w : Written) : List Char :=
  if w.negative then '-' :: w.chars mark else w.chars mark

/-- A decimal with all that is needed of one and nothing besides. -/
structure Tidy (w : Written) : Prop where
  whole : ∀ c ∈ w.whole, isDigit c = true
  fraction : ∀ c ∈ w.fraction, isDigit c = true
  leading : w.whole = ['0'] ∨ ∃ first rest, w.whole = first :: rest ∧ first ≠ '0'
  point : w.point = !w.fraction.isEmpty
  power : w.power = false → w.exponent = 0

end Written

variable {b : Binary} {x : Float}

theorem toList_digitText (digits : List Nat) : (digitText digits).toList = digitChars digits :=
  String.toList_ofList

theorem isDigit_zero_of_mem {zeros : Nat} {c : Char} (member : c ∈ List.replicate zeros '0') : isDigit c = true :=
  List.eq_of_mem_replicate member ▸ rfl

theorem natOf_zeros_append (zeros : Nat) (cs : List Char) : natOf (List.replicate zeros '0' ++ cs) = natOf cs := by
  rw [natOf_eq, natOf_eq, Nat.ofDigitChars_append, Nat.ofDigitChars_replicate_zero, Nat.mul_zero]

namespace Digits

variable {d : Digits}

theorem Proper.isDigit (proper : d.Proper) {c : Char} (member : c ∈ digitChars d.digits) : isDigit c = true :=
  isDigit_of_mem_digitChars proper.small member

theorem Proper.eq_cons (proper : d.Proper) :
    ∃ first rest, digitChars d.digits = first :: rest ∧ first ≠ '0' := by
  obtain ⟨first, rest, digits, leading⟩ := proper.leading
  have small := proper.small first (digits ▸ List.mem_cons_self)
  exact ⟨_, digitChars rest, by rw [digits]; rfl, fun zero => leading ((digitChar_spec first small).2 zero)⟩

/-- A decimal with the same digits, but for zeros behind them, and with the same place of the last one. -/
theorem size_of_written {w : Written} (zeros : Nat)
    (number : natOf (w.whole ++ w.fraction) = natOf (digitChars d.digits) * 10 ^ zeros)
    (place : w.exponent - w.fraction.length + zeros = d.point - d.digits.length) : w.size = d.size := by
  rw [Written.size, Digits.size, number, ← place, zpow_add₀ (by norm_num), zpow_natCast]
  push_cast
  ring

theorem length_digitChars (digits : List Nat) : (digitChars digits).length = digits.length := List.length_map _

/-- What is written of digits around a point, as a decimal. -/
def written (d : Digits) (negative : Bool) : Written :=
  if d.point ≤ 0 then ⟨negative, ['0'], List.replicate (-d.point).toNat '0' ++ digitChars d.digits, 0, true, false⟩
  else if (d.digits.length : Int) ≤ d.point then
    ⟨negative, digitChars d.digits ++ List.replicate (d.point.toNat - d.digits.length) '0', ['0'], 0, true, false⟩
  else ⟨negative, (digitChars d.digits).take d.point.toNat, (digitChars d.digits).drop d.point.toNat, 0, true, false⟩

/-- What is written of digits with an exponent, as a decimal. -/
def scaled (d : Digits) (negative : Bool) : Written :=
  ⟨negative, (digitChars d.digits).take 1, (digitChars d.digits).drop 1, d.point - 1,
    !((digitChars d.digits).drop 1).isEmpty, true⟩

theorem negative_written (d : Digits) (negative : Bool) : (d.written negative).negative = negative := by
  unfold written
  split
  · rfl
  · split <;> rfl

theorem Proper.tidy_written (proper : d.Proper) (negative : Bool) : (d.written negative).Tidy := by
  obtain ⟨first, rest, digits, leading⟩ := proper.eq_cons
  have spelled : ∀ c ∈ first :: rest, Decimal.isDigit c = true := fun c member => proper.isDigit (digits ▸ member)
  have count : rest.length + 1 = d.digits.length := by rw [← length_digitChars, digits, List.length_cons]
  unfold written
  rw [digits]
  split
  · exact ⟨fun c member => List.eq_of_mem_singleton member ▸ rfl,
      fun c member => (List.mem_append.1 member).elim isDigit_zero_of_mem (spelled c), .inl rfl,
      by simp, fun _ => rfl⟩
  · rename_i positive
    split
    · exact ⟨fun c member => (List.mem_append.1 member).elim (spelled c) isDigit_zero_of_mem,
        fun c member => List.eq_of_mem_singleton member ▸ rfl, .inr ⟨first, _, List.cons_append, leading⟩, rfl,
        fun _ => rfl⟩
    · rename_i within
      obtain ⟨place, point⟩ : ∃ place, d.point.toNat = place + 1 := Nat.exists_eq_add_one.2 (by omega)
      have more : rest.drop place ≠ [] := by
        rw [Ne, List.drop_eq_nil_iff]
        omega
      rw [point]
      exact ⟨fun c member => spelled c (List.mem_of_mem_take member),
        fun c member => spelled c (List.mem_of_mem_drop member), .inr ⟨first, _, List.take_succ_cons, leading⟩,
        by simpa using more, fun _ => rfl⟩

theorem size_written (d : Digits) (negative : Bool) : (d.written negative).size = d.size := by
  have zero : ['0'] = List.replicate 1 '0' := rfl
  unfold written
  split
  · refine size_of_written 0 ?_ ?_
    · simp only [zero, natOf_zeros_append, pow_zero, mul_one]
    · simp only [List.length_append, List.length_replicate, length_digitChars]
      omega
  · split
    · refine size_of_written (d.point.toNat - d.digits.length + 1) ?_ ?_
      · simp only [zero, List.append_assoc, List.replicate_append_replicate, natOf_append_zeros]
      · simp only [List.length_singleton]
        omega
    · refine size_of_written 0 ?_ ?_
      · simp only [List.take_append_drop, pow_zero, mul_one]
      · simp only [List.length_drop, length_digitChars]
        omega

theorem toList_positional (d : Digits) (negative : Bool) (mark : List Char) :
    (d.positional true).toList = (d.written negative).chars mark := by
  unfold Digits.positional written
  by_cases below : d.point ≤ 0
  · simp [below, Written.chars, toList_digitText, digitChars_append, digitChars_zeros]
  · by_cases whole : (d.digits.length : Int) ≤ d.point
    · simp [below, whole, Written.chars, toList_digitText, digitChars_append, digitChars_zeros]
    · simp [below, whole, Written.chars, toList_digitText, digitChars]

theorem Proper.tidy_scaled (proper : d.Proper) (negative : Bool) : (d.scaled negative).Tidy := by
  obtain ⟨first, rest, digits, leading⟩ := proper.eq_cons
  have spelled : ∀ c ∈ first :: rest, Decimal.isDigit c = true := fun c member => proper.isDigit (digits ▸ member)
  unfold scaled
  rw [digits]
  exact ⟨fun c member => spelled c (List.mem_of_mem_take member), fun c member => spelled c (List.mem_of_mem_drop member),
    .inr ⟨first, _, rfl, leading⟩, rfl, nofun⟩

theorem Proper.size_scaled (proper : d.Proper) (negative : Bool) : (d.scaled negative).size = d.size := by
  obtain ⟨first, rest, digits, -⟩ := proper.eq_cons
  have count : rest.length + 1 = d.digits.length := by rw [← length_digitChars, digits, List.length_cons]
  refine size_of_written 0 ?_ ?_
  · rw [scaled, List.take_append_drop, pow_zero, mul_one]
  · simp only [scaled, List.length_drop, length_digitChars]
    omega

theorem toList_scientific (d : Digits) (negative : Bool) {mark : String} {sign : List Char}
    (marked : mark.toList = 'e' :: sign) : (d.scientific mark).toList = (d.scaled negative).chars sign := by
  have head : digitChars (d.digits.take 1) = (digitChars d.digits).take 1 := List.map_take
  have tail : (digitChars d.digits).tail = digitChars d.digits.tail := List.map_tail.symm
  have empty : digitChars d.digits.tail = [] ↔ d.digits.tail = [] := List.map_eq_nil_iff
  have nothing : digitChars [] = [] := rfl
  unfold Digits.scientific scaled Written.chars Written.powerChars
  by_cases single : d.digits.tail = [] <;> by_cases below : d.point - 1 < 0 <;>
    simp [single, below, empty, nothing, head, tail, marked, toList_digitText]

end Digits

/-- A double is written as a decimal that is read as this double. -/
theorem Layout.exists_written {l : Layout} {mark : List Char} (keeps : l.keepsPoint = true)
    (marked : l.exponentMark.toList = 'e' :: mark) (read : Binary.ofFloat? x = some b) :
    ∃ w : Written, w.Tidy ∧ (l.write x).toList = w.spelled mark ∧ nearest? w = some x := by
  have sign (text : String) (cs : List Char) (same : text.toList = cs) :
      ((if b.negative then "-" else "") ++ text).toList = if b.negative then '-' :: cs else cs := by
    split <;> simp [same]
  simp only [Layout.write, read, keeps]
  by_cases blank : b.mantissa = 0
  · refine ⟨⟨b.negative, ['0'], ['0'], 0, true, false⟩, ?_, ?_, nearest?_of_zero read blank rfl rfl⟩
    · exact ⟨fun c member => List.eq_of_mem_singleton member ▸ rfl,
        fun c member => List.eq_of_mem_singleton member ▸ rfl, .inl rfl, rfl, fun _ => rfl⟩
    · rw [if_pos blank]
      exact sign _ _ rfl
  · obtain ⟨proper, grid, point, holds, size⟩ := exists_shortest l.tie read (Nat.pos_of_ne_zero blank)
    rw [if_neg blank]
    generalize shortest b l.tie = d at proper size ⊢
    have near {w : Written} (tidy : w.Tidy) (signed : w.negative = b.negative) (same : w.size = d.size) :
        nearest? w = some x := by
      refine nearest?_of_holds read (Nat.pos_of_ne_zero blank) (fun c member => ?_) holds signed (same.trans size)
      exact (List.mem_append.1 member).elim (tidy.whole c) (tidy.fraction c)
    by_cases positional : l.positional (d.point - 1) = true
    · have signed := d.negative_written b.negative
      refine ⟨d.written b.negative, proper.tidy_written _, ?_, near (proper.tidy_written _) signed (d.size_written _)⟩
      rw [if_pos positional, sign _ _ (d.toList_positional b.negative mark), Written.spelled, signed]
    · refine ⟨d.scaled b.negative, proper.tidy_scaled _, ?_, near (proper.tidy_scaled _) rfl (proper.size_scaled _)⟩
      rw [if_neg positional, sign _ _ (d.toList_scientific b.negative marked)]
      rfl

/-- Digits are taken up as far as they go. -/
theorem span_digits {digits rest : List Char} (spelled : ∀ c ∈ digits, isDigit c = true)
    (ends : ∀ c ∈ rest.head?, isDigit c = false) :
    (digits ++ rest).takeWhile isDigit = digits ∧ (digits ++ rest).dropWhile isDigit = rest := by
  rw [List.takeWhile_append_of_pos spelled, List.dropWhile_append_of_pos spelled]
  cases rest with
  | nil => simp
  | cons c rest => simp [ends c rfl]

theorem isDigit_of_mem_digits {n : Nat} {c : Char} (member : c ∈ Nat.toDigits 10 n) : isDigit c = true :=
  isDigit_iff.2 (isDigit_of_mem_toDigits member)

theorem natOf_toDigits (n : Nat) : natOf (Nat.toDigits 10 n) = n := by
  rw [natOf_eq, Nat.ofDigitChars_ten_toDigits]

theorem toDigits_eq_cons (n : Nat) : ∃ first rest, Nat.toDigits 10 n = first :: rest ∧ isDigit first = true := by
  cases digits : Nat.toDigits 10 n with
  | nil => exact absurd digits Nat.toDigits_ne_nil
  | cons first rest => exact ⟨first, rest, rfl, isDigit_of_mem_digits (digits ▸ List.mem_cons_self)⟩

namespace Written

variable {w : Written} {mark : List Char}

theorem Tidy.eq_cons (tidy : w.Tidy) : ∃ first rest, w.whole = first :: rest ∧ isDigit first = true := by
  rcases tidy.leading with zero | ⟨first, rest, whole, -⟩
  · exact ⟨'0', [], zero, rfl⟩
  · exact ⟨first, rest, whole, tidy.whole first (whole ▸ List.mem_cons_self)⟩

/-- What follows the digits before the point. -/
theorem Tidy.span_whole (mark : List Char) (tidy : w.Tidy) :
    let rest := (if w.point then '.' :: w.fraction else []) ++ if w.power then powerChars mark w.exponent else []
    (w.chars mark).takeWhile isDigit = w.whole ∧ (w.chars mark).dropWhile isDigit = rest := by
  refine span_digits tidy.whole fun c first => ?_
  split at first
  · cases first
    rfl
  · split at first
    · unfold powerChars at first
      split at first <;> (cases first; rfl)
    · cases first

theorem Tidy.span_fraction (mark : List Char) (tidy : w.Tidy) :
    let rest := if w.power then powerChars mark w.exponent else []
    (w.fraction ++ rest).takeWhile isDigit = w.fraction ∧ (w.fraction ++ rest).dropWhile isDigit = rest := by
  refine span_digits tidy.fraction fun c first => ?_
  split at first
  · unfold powerChars at first
    split at first <;> (cases first; rfl)
  · cases first

/-- An exponent is written as its sign, or the mark that stands for none, and its digits. -/
theorem powerChars_cases (mark : List Char) (exponent : Int) :
    ∃ digits first rest, digits = first :: rest ∧ isDigit first = true ∧ digits.takeWhile isDigit = digits ∧
      digits.dropWhile isDigit = [] ∧
        (powerChars mark exponent = 'e' :: '-' :: digits ∧ exponent = -natOf digits ∨
          powerChars mark exponent = 'e' :: (mark ++ digits) ∧ exponent = natOf digits) := by
  have spelled := @span_digits (Nat.toDigits 10 exponent.natAbs) [] (fun c => isDigit_of_mem_digits) nofun
  rw [List.append_nil] at spelled
  obtain ⟨first, rest, digits, digit⟩ := toDigits_eq_cons exponent.natAbs
  refine ⟨_, first, rest, digits, digit, spelled.1, spelled.2, ?_⟩
  rw [natOf_toDigits, powerChars]
  by_cases negative : exponent < 0
  · have size : (-exponent).toNat = exponent.natAbs := by omega
    rw [if_pos negative, size]
    exact .inl ⟨rfl, by omega⟩
  · have size : exponent.toNat = exponent.natAbs := by omega
    rw [if_neg negative, size]
    exact .inr ⟨rfl, by omega⟩

/-- The characters that a decimal is written with. -/
theorem Tidy.of_mem_spelled (tidy : w.Tidy) {c : Char} (member : c ∈ w.spelled mark) :
    isDigit c = true ∨ c ∈ '-' :: '.' :: 'e' :: mark := by
  have power {c : Char} (member : c ∈ powerChars mark w.exponent) :
      isDigit c = true ∨ c ∈ '-' :: '.' :: 'e' :: mark := by
    unfold powerChars at member
    split at member
    · rcases List.mem_cons.1 member with rfl | member
      · exact .inr (by simp)
      · rcases List.mem_cons.1 member with rfl | digit
        · exact .inr List.mem_cons_self
        · exact .inl (isDigit_of_mem_digits digit)
    · rcases List.mem_append.1 member with front | digit
      · exact .inr (List.mem_cons_of_mem _ (List.mem_cons_of_mem _ front))
      · exact .inl (isDigit_of_mem_digits digit)
  have body {c : Char} (member : c ∈ w.chars mark) : isDigit c = true ∨ c ∈ '-' :: '.' :: 'e' :: mark := by
    unfold chars at member
    rcases List.mem_append.1 member with whole | member
    · exact .inl (tidy.whole c whole)
    · rcases List.mem_append.1 member with fraction | exponent
      · split at fraction
        · rcases List.mem_cons.1 fraction with rfl | fraction
          · exact .inr (by simp)
          · exact .inl (tidy.fraction c fraction)
        · cases fraction
      · split at exponent
        · exact power exponent
        · cases exponent
  unfold spelled at member
  split at member
  · rcases List.mem_cons.1 member with rfl | member
    · exact .inr List.mem_cons_self
    · exact body member
  · exact body member

theorem spelled_ne_nil (tidy : w.Tidy) : w.spelled mark ≠ [] := by
  obtain ⟨first, rest, whole, -⟩ := tidy.eq_cons
  unfold spelled chars
  split <;> simp [whole]

/-- A whole number is written with its digits alone. -/
theorem tidy_whole (negative : Bool) (n : Nat) : Tidy ⟨negative, Nat.toDigits 10 n, [], 0, false, false⟩ where
  whole _ := isDigit_of_mem_digits
  fraction := nofun
  leading := by
    rcases Nat.eq_zero_or_pos n with rfl | positive
    · exact .inl rfl
    · obtain ⟨first, rest, digits, leading⟩ := digitsOf_eq_cons positive
      have small : first < 10 := digitsOf_lt (n := n) (digits ▸ List.mem_cons_self)
      refine .inr ⟨Char.ofNat (48 + first), digitChars rest, ?_, fun zero => leading ((digitChar_spec first small).2 zero)⟩
      rw [← digitChars_digitsOf, digits]
      rfl
  point := rfl
  power _ := rfl

end Written

end LiveControl.Decimal

namespace LiveControl.Yaml

open Decimal

variable {w : Decimal.Written} {mark : List Char}

theorem splitSign_digit {first : Char} (digit : isDigit first = true) (rest : List Char) :
    splitSign (first :: rest) = (none, first :: rest) := by
  unfold splitSign
  split
  · rename_i same
    cases same
    cases digit
  · rename_i same
    cases same
    cases digit
  · rfl

theorem splitSign_spelled (tidy : w.Tidy) :
    splitSign (w.spelled mark) = (if w.negative then some '-' else none, w.chars mark) := by
  obtain ⟨first, rest, whole, digit⟩ := tidy.eq_cons
  unfold Written.spelled
  split
  · rfl
  · rw [Written.chars, whole]
    exact splitSign_digit digit _

theorem splitSign_powerChars (marked : mark = [] ∨ mark = ['+']) (exponent : Int) :
    ∃ sign digits cs, Written.powerChars mark exponent = 'e' :: cs ∧ splitSign cs = (sign, digits) ∧
      digits.takeWhile isDigit = digits ∧ digits.dropWhile isDigit = [] ∧ digits.isEmpty = false ∧
        (if sign == some '-' then -(natOf digits : Int) else natOf digits) = exponent := by
  obtain ⟨digits, first, rest, rfl, digit, takes, drops, down | up⟩ := Written.powerChars_cases mark exponent
  · exact ⟨some '-', _, _, down.1, rfl, takes, drops, rfl, down.2.symm⟩
  · rcases marked with rfl | rfl
    · exact ⟨none, _, _, up.1, splitSign_digit digit rest, takes, drops, rfl, up.2.symm⟩
    · exact ⟨some '+', _, _, up.1, rfl, takes, drops, rfl, up.2.symm⟩

theorem written?_spelled (tidy : w.Tidy) (marked : mark = [] ∨ mark = ['+']) : written? (w.spelled mark) = some w := by
  obtain ⟨first, rest, whole, digit⟩ := tidy.eq_cons
  obtain ⟨takesWhole, dropsWhole⟩ := tidy.span_whole mark
  obtain ⟨takesFraction, dropsFraction⟩ := tidy.span_fraction mark
  obtain ⟨sign, digits, cs, power, split, takesPower, dropsPower, some, exponent⟩ := splitSign_powerChars marked w.exponent
  have negative : ((if w.negative then Option.some '-' else none) == Option.some '-') = w.negative := by
    cases w.negative <;> rfl
  have whole' : w = ⟨w.negative, w.whole, w.fraction, w.exponent, w.point, w.power⟩ := rfl
  simp only [written?, splitSign_spelled tidy, takesWhole, dropsWhole, negative]
  have pointed := tidy.point
  have unpowered := tidy.power
  rw [power] at takesFraction dropsFraction ⊢
  conv_rhs => rw [whole']
  clear whole'
  rw [whole]
  generalize w.point = point at *
  cases point <;> cases powered : w.power <;> rw [powered] at takesFraction dropsFraction unpowered <;>
    simp only [Bool.false_eq_true, if_true, if_false, List.append_nil] at takesFraction dropsFraction
  · have fraction : w.fraction = [] := by simpa using pointed
    simp [fraction, unpowered, natOf]
  · have fraction : w.fraction = [] := by simpa using pointed
    simpa [fraction, split, takesPower, dropsPower, some] using exponent
  · simp [takesFraction, dropsFraction, natOf, unpowered]
  · simpa [takesFraction, dropsFraction, split, takesPower, dropsPower, some] using exponent

/-- Whether a text starts with a digit, perhaps behind a minus sign. -/
def startsDigit (cs : List Char) : Bool := (splitSign cs).2.head?.any isDigit

theorem startsDigit_spelled (tidy : w.Tidy) : startsDigit (w.spelled mark) = true := by
  obtain ⟨first, rest, whole, digit⟩ := tidy.eq_cons
  rw [startsDigit, splitSign_spelled tidy, Written.chars, whole]
  exact digit

theorem float?_spelled {x : Float} (tidy : w.Tidy) (marked : mark = [] ∨ mark = ['+']) (near : nearest? w = some x)
    {text : String} (spelled : text.toList = w.spelled mark) : float? text = some x := by
  obtain ⟨first, rest, whole, digit⟩ := tidy.eq_cons
  have unsigned : (w.spelled mark).head? ≠ some '+' := by
    unfold Written.spelled
    split
    · exact nofun
    · rw [Written.chars, whole]
      rintro ⟨⟩
      cases digit
  have ordinary {words : List String} (special : words.all (fun word => !startsDigit word.toList) = true) :
      words.contains text = false := by
    rw [Bool.eq_false_iff]
    intro contained
    have starts := List.all_eq_true.1 special text (List.contains_iff_mem.1 contained)
    rw [spelled, startsDigit_spelled tidy] at starts
    cases starts
  unfold float?
  dsimp only
  split
  · rename_i same
    rw [spelled] at same
    rw [same] at unsigned
    exact absurd rfl unsigned
  · rw [String.ofList_toList, ordinary (by decide), ordinary (by decide), ordinary (by decide), spelled,
      written?_spelled tidy marked]
    simp [unsigned, near]

/-- A double in the layout of documents is read as this double. -/
theorem float?_write {l : Decimal.Layout} {b : Binary} {x : Float} (keeps : l.keepsPoint = true)
    (marked : mark = [] ∨ mark = ['+']) (marks : l.exponentMark.toList = 'e' :: mark) (read : Binary.ofFloat? x = some b) :
    float? (l.write x) = some x := by
  obtain ⟨w, tidy, spelled, near⟩ := Layout.exists_written keeps marks read
  exact float?_spelled tidy marked near spelled

end LiveControl.Yaml

namespace LiveControl.Json

open Decimal

variable {w : Decimal.Written}

theorem unsigned?_chars (tidy : w.Tidy) : unsigned? w.negative (w.chars ['+']) = some w := by
  obtain ⟨takesWhole, dropsWhole⟩ := tidy.span_whole ['+']
  obtain ⟨takesFraction, dropsFraction⟩ := tidy.span_fraction ['+']
  have leading : (w.whole.isEmpty || (decide (w.whole.length > 1) && w.whole.head? == some '0')) = false := by
    rcases tidy.leading with zero | ⟨first, rest, whole, nonzero⟩
    · rw [zero]
      rfl
    · simp [whole, nonzero]
  have fields : w = ⟨w.negative, w.whole, w.fraction, w.exponent, w.point, w.power⟩ := rfl
  simp only [unsigned?, takesWhole, dropsWhole, leading]
  have pointed := tidy.point
  have unpowered := tidy.power
  conv_rhs => rw [fields]
  clear fields
  generalize w.point = point at *
  cases point <;> cases powered : w.power <;> rw [powered] at takesFraction dropsFraction unpowered <;>
    simp only [Bool.false_eq_true, if_true, if_false, List.append_nil] at takesFraction dropsFraction
  · have fraction : w.fraction = [] := by simpa using pointed
    simp [fraction, unpowered, natOf]
  · have fraction : w.fraction = [] := by simpa using pointed
    obtain ⟨digits, first, rest, rfl, digit, takes, drops, down | up⟩ := Written.powerChars_cases ['+'] w.exponent
    · simp only [down.1, fraction]
      simp [takes, drops, ← down.2]
    · simp only [up.1, fraction]
      simp [takes, drops, ← up.2]
  · simpa [takesFraction, dropsFraction, natOf, unpowered] using pointed
  · obtain ⟨digits, first, rest, rfl, digit, takes, drops, down | up⟩ := Written.powerChars_cases ['+'] w.exponent
    · simp only [down.1] at takesFraction dropsFraction ⊢
      simpa [takesFraction, dropsFraction, takes, drops, ← down.2] using pointed
    · simp only [up.1, List.cons_append, List.nil_append] at takesFraction dropsFraction ⊢
      simpa [takesFraction, dropsFraction, takes, drops, ← up.2] using pointed

theorem written?_spelled (tidy : w.Tidy) : written? (w.spelled ['+']) = some w := by
  obtain ⟨first, rest, whole, digit⟩ := tidy.eq_cons
  have body := unsigned?_chars tidy
  unfold Written.spelled
  cases negative : w.negative <;> rw [negative] at body
  · rw [if_neg Bool.false_ne_true, written?]
    · exact body
    · intro rest same
      rw [Written.chars, whole] at same
      cases same
      cases digit
  · exact body

end LiveControl.Json
