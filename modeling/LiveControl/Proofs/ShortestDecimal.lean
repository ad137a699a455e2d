import LiveControl.Decimal.Layout
import LiveControl.Proofs.NearestDouble
import Mathlib.Algebra.Order.Field.Power
import Mathlib.Tactic.FieldSimp
import Mathlib.Tactic.LinearCombination
import Mathlib.Tactic.NormNum
import Mathlib.Tactic.Positivity

namespace LiveControl.Decimal

theorem pow_toNat {base : ℚ} (positive : base ≠ 0) (k : Int) : base ^ k * base ^ (-k).toNat = base ^ k.toNat := by
  rw [← zpow_natCast, ← zpow_natCast, ← zpow_add₀ positive]
  congr 1
  omega

theorem tenTo_toNat (k : Int) : (10 : ℚ) ^ k * tenTo (-k).toNat = tenTo k.toNat := by
  have power (n : Nat) : (tenTo n : ℚ) = 10 ^ n := Nat.cast_pow 10 n
  rw [power, power, pow_toNat (by norm_num)]

theorem twoTo_toNat (k : Int) : (2 : ℚ) ^ k * twoTo (-k).toNat = twoTo k.toNat := by
  have power (n : Nat) : (twoTo n : ℚ) = 2 ^ n := Nat.cast_pow 2 n
  rw [power, power, pow_toNat (by norm_num)]

theorem tenTo_pos (n : Nat) : 0 < tenTo n := Nat.pow_pos (by decide)

theorem twoTo_pos (n : Nat) : 0 < twoTo n := Nat.two_pow_pos n

variable {b : Binary} {k : Int} {point : Nat} {tie : Tie}

/-- What a double without its sign stands for. -/
def Binary.size (b : Binary) : ℚ := b.mantissa * 2 ^ b.exponent

namespace Scaled

theorem den_pos (b : Binary) (k : Int) : 0 < (of b k).den := Nat.mul_pos (twoTo_pos _) (tenTo_pos _)

/-- A count of quarter steps, as the grid sees it. -/
theorem quarters_eq (b : Binary) (k : Int) (n : Nat) :
    ((n * (twoTo (b.exponent - 2).toNat * tenTo (-k).toNat) : Nat) : ℚ) * 10 ^ k =
      n * 2 ^ (b.exponent - 2) * (of b k).den := by
  have twos := twoTo_toNat (b.exponent - 2)
  have tens := tenTo_toNat k
  have den : ((of b k).den : ℚ) = twoTo (-(b.exponent - 2)).toNat * tenTo k.toNat := Nat.cast_mul _ _
  rw [den, Nat.cast_mul, Nat.cast_mul, ← twos, ← tens]
  ring

theorem quarter_eq (e : Int) : (2 : ℚ) ^ (e - 2) = 2 ^ e / 4 := by
  rw [zpow_sub₀ (by norm_num)]
  norm_num

/-- Points of the grid are compared with counts of quarter steps as what they stand for. -/
theorem quarters_le_iff {n : Nat} :
    n * (twoTo (b.exponent - 2).toNat * tenTo (-k).toNat) ≤ point * (of b k).den ↔
      (n : ℚ) * 2 ^ (b.exponent - 2) ≤ point * 10 ^ k := by
  have den : (0 : ℚ) < (of b k).den := Nat.cast_pos.2 (den_pos b k)
  have tens : (0 : ℚ) < 10 ^ k := zpow_pos (by norm_num) k
  rw [← Nat.cast_le (α := ℚ), ← mul_le_mul_iff_left₀ tens, quarters_eq, Nat.cast_mul point, mul_right_comm (point : ℚ),
    mul_le_mul_iff_left₀ den]

theorem le_quarters_iff {n : Nat} :
    point * (of b k).den ≤ n * (twoTo (b.exponent - 2).toNat * tenTo (-k).toNat) ↔
      (point : ℚ) * 10 ^ k ≤ n * 2 ^ (b.exponent - 2) := by
  have den : (0 : ℚ) < (of b k).den := Nat.cast_pos.2 (den_pos b k)
  have tens : (0 : ℚ) < 10 ^ k := zpow_pos (by norm_num) k
  rw [← Nat.cast_le (α := ℚ), ← mul_le_mul_iff_left₀ tens, quarters_eq, Nat.cast_mul point, mul_right_comm (point : ℚ),
    mul_le_mul_iff_left₀ den]

end Scaled

theorem length_toDigits_spec {n : Nat} (positive : 0 < n) :
    10 ^ ((Nat.toDigits 10 n).length - 1) ≤ n ∧ n < 10 ^ (Nat.toDigits 10 n).length := by
  have some : 0 < (Nat.toDigits 10 n).length := Nat.length_toDigits_pos
  refine ⟨?_, (Nat.length_toDigits_le_iff (by decide) some).1 (Nat.le_refl _)⟩
  by_cases one : (Nat.toDigits 10 n).length - 1 = 0
  · rw [one]
    exact positive
  · have longer := mt (Nat.length_toDigits_le_iff (b := 10) (n := n) (by decide) (Nat.pos_of_ne_zero one)).2
    exact Nat.not_lt.1 (longer (by omega))

theorem twoTo_le {m n : Nat} (less : m ≤ n) : twoTo m ≤ twoTo n := Nat.pow_le_pow_right (by decide) less

theorem twoTo_le_tenTo (c : Nat) : twoTo (33 * c) ≤ tenTo (10 * c) := by
  have twos : twoTo (33 * c) = (2 ^ 33) ^ c := Nat.pow_mul 2 33 c
  have tens : tenTo (10 * c) = (10 ^ 10) ^ c := Nat.pow_mul 10 10 c
  rw [twos, tens]
  exact Nat.pow_le_pow_left (by decide) c

theorem tenTo_cast (n : Nat) : (tenTo n : ℚ) = 10 ^ (n : Int) := (Nat.cast_pow 10 n).trans (zpow_natCast _ n).symm

/-- The power of ten that a double is just below. -/
theorem magnitude_spec (filled : 0 < b.mantissa) (small : -1074 ≤ b.exponent) :
    (10 : ℚ) ^ (magnitude b - 1) ≤ b.size ∧ b.size < 10 ^ magnitude b := by
  obtain ⟨places, named⟩ : ∃ places, places = 350 := ⟨_, rfl⟩
  obtain ⟨n, numbered⟩ : ∃ n, n = b.mantissa * (twoTo b.exponent.toNat * tenTo places) / twoTo (-b.exponent).toNat :=
    ⟨_, rfl⟩
  have magnitude : magnitude b = ((Nat.toDigits 10 n).length : Nat) - (places : Int) := by
    rw [numbered, named]
    rfl
  have down : 0 < twoTo (-b.exponent).toNat := twoTo_pos _
  have room : twoTo (-b.exponent).toNat ≤ tenTo places := by
    rw [named]
    exact (twoTo_le (by omega)).trans (twoTo_le_tenTo 35)
  have positive : 0 < n := by
    rw [numbered]
    refine Nat.div_pos ?_ down
    exact room.trans ((Nat.le_mul_of_pos_left _ (twoTo_pos _)).trans (Nat.le_mul_of_pos_left _ filled))
  have scaled : ((b.mantissa * (twoTo b.exponent.toNat * tenTo places) : Nat) : ℚ) =
      b.size * 10 ^ (places : Int) * twoTo (-b.exponent).toNat := by
    rw [Binary.size, Nat.cast_mul, Nat.cast_mul, tenTo_cast, ← twoTo_toNat b.exponent]
    ring
  have least : (n : ℚ) ≤ b.size * 10 ^ (places : Int) := by
    have floor := Nat.div_mul_le_self (b.mantissa * (twoTo b.exponent.toNat * tenTo places)) (twoTo (-b.exponent).toNat)
    rw [← numbered, ← Nat.cast_le (α := ℚ), scaled, Nat.cast_mul] at floor
    exact le_of_mul_le_mul_right floor (Nat.cast_pos.2 down)
  have most : b.size * 10 ^ (places : Int) < n + 1 := by
    have ceiling := Nat.lt_div_mul_add (a := b.mantissa * (twoTo b.exponent.toNat * tenTo places)) down
    rw [← numbered, ← Nat.cast_lt (α := ℚ), scaled, Nat.cast_add, Nat.cast_mul, ← add_one_mul] at ceiling
    exact lt_of_mul_lt_mul_right ceiling (Nat.cast_nonneg _)
  obtain ⟨digits, fits⟩ := length_toDigits_spec positive
  have some : 0 < (Nat.toDigits 10 n).length := Nat.length_toDigits_pos
  have unit : (0 : ℚ) < 10 ^ (places : Int) := zpow_pos (by norm_num) _
  constructor
  · refine le_of_mul_le_mul_right ?_ unit
    rw [← zpow_add₀ (by norm_num), magnitude]
    refine le_trans ?_ least
    have lower : ((10 ^ ((Nat.toDigits 10 n).length - 1) : Nat) : ℚ) ≤ n := Nat.cast_le.2 digits
    have exponent : ((Nat.toDigits 10 n).length : Int) - places - 1 + places = ((Nat.toDigits 10 n).length - 1 : Nat) := by
      omega
    rw [exponent, zpow_natCast]
    exact_mod_cast lower
  · refine lt_of_mul_lt_mul_right ?_ unit.le
    rw [← zpow_add₀ (by norm_num), magnitude, sub_add_cancel]
    refine lt_of_lt_of_le most ?_
    have upper : ((n + 1 : Nat) : ℚ) ≤ ((10 ^ (Nat.toDigits 10 n).length : Nat) : ℚ) := Nat.cast_le.2 fits
    rw [Nat.cast_pow, ← zpow_natCast, Nat.cast_add] at upper
    exact_mod_cast upper

namespace Scaled

theorem holds_of_lt {s : Scaled} (above : s.low < point * s.den) (below : point * s.den < s.high) :
    s.holds point = true := by
  unfold holds
  split
  · exact Bool.and_eq_true_iff.2 ⟨decide_eq_true above.le, decide_eq_true below.le⟩
  · exact Bool.and_eq_true_iff.2 ⟨decide_eq_true above, decide_eq_true below⟩

theorem le_of_holds {s : Scaled} (holds : s.holds point = true) : s.low ≤ point * s.den ∧ point * s.den ≤ s.high := by
  unfold Scaled.holds at holds
  split at holds
  · exact ⟨of_decide_eq_true (Bool.and_eq_true_iff.1 holds).1, of_decide_eq_true (Bool.and_eq_true_iff.1 holds).2⟩
  · exact ⟨(of_decide_eq_true (Bool.and_eq_true_iff.1 holds).1).le,
      (of_decide_eq_true (Bool.and_eq_true_iff.1 holds).2).le⟩

theorem holds_of_pick? {s : Scaled} (picked : s.pick? tie = some point) : s.holds point = true := by
  simp only [pick?] at picked
  split at picked
  · rename_i here next
    cases picked
    split
    · exact here
    · split
      · exact next
      · exact here
  · rename_i here _
    cases picked
    exact here
  · rename_i _ next
    cases picked
    exact next
  · cases picked

theorem pick?_ne_none {s : Scaled} (here : s.holds (s.value / s.den) = true) : s.pick? tie ≠ none := by
  simp only [pick?, here]
  split <;> simp_all

theorem size_eq (b : Binary) : b.size = 4 * b.mantissa * 2 ^ (b.exponent - 2) := by
  rw [quarter_eq, Binary.size]
  ring

/-- A point that rounds to a double is within a factor of two of it. -/
theorem size_of_holds (filled : 0 < b.mantissa) (holds : (of b k).holds point = true) :
    b.size / 2 ≤ point * 10 ^ k ∧ (point : ℚ) * 10 ^ k ≤ 2 * b.size := by
  obtain ⟨low, high⟩ := le_of_holds holds
  have low : ((4 * b.mantissa - if b.lowGap then 1 else 2 : Nat) : ℚ) * 2 ^ (b.exponent - 2) ≤ point * 10 ^ k :=
    quarters_le_iff.1 low
  have high : (point : ℚ) * 10 ^ k ≤ (4 * b.mantissa + 2 : Nat) * 2 ^ (b.exponent - 2) := le_quarters_iff.1 high
  have quarter : (0 : ℚ) < 2 ^ (b.exponent - 2) := zpow_pos (by norm_num) _
  have least : (2 * b.mantissa : ℚ) ≤ (4 * b.mantissa - if b.lowGap then 1 else 2 : Nat) := by
    have few : 2 * b.mantissa ≤ 4 * b.mantissa - if b.lowGap then 1 else 2 := by split <;> omega
    exact_mod_cast few
  have most : ((4 * b.mantissa + 2 : Nat) : ℚ) ≤ 8 * b.mantissa := by
    have many : 4 * b.mantissa + 2 ≤ 8 * b.mantissa := by omega
    exact_mod_cast many
  rw [size_eq]
  constructor
  · have scaled := mul_le_mul_of_nonneg_right least quarter.le
    linarith
  · have scaled := mul_le_mul_of_nonneg_right most quarter.le
    linarith

/-- On a grid that is fine enough some point rounds to a double. -/
theorem pick?_of_fine (filled : 0 < b.mantissa) (fine : (10 : ℚ) ^ k ≤ 2 ^ (b.exponent - 2)) :
    (of b k).pick? tie ≠ none := by
  have den := den_pos b k
  have value : (of b k).value = 4 * b.mantissa * (twoTo (b.exponent - 2).toNat * tenTo (-k).toNat) := rfl
  obtain ⟨step, steps⟩ : ∃ step, step = twoTo (b.exponent - 2).toNat * tenTo (-k).toNat := ⟨_, rfl⟩
  have short : (of b k).den ≤ step := by
    have compared := @le_quarters_iff b k 1 1
    rw [Nat.one_mul, Nat.one_mul, Nat.cast_one, one_mul, one_mul, ← steps] at compared
    exact compared.2 fine
  have low : (of b k).low = (4 * b.mantissa - if b.lowGap then 1 else 2) * step := by rw [steps]; rfl
  have high : (of b k).high = (4 * b.mantissa + 2) * step := by rw [steps]; rfl
  rw [← steps] at value
  have floor := Nat.div_mul_le_self (of b k).value (of b k).den
  have ceiling := Nat.lt_div_mul_add (a := (of b k).value) den
  refine pick?_ne_none (holds_of_lt ?_ ?_)
  · have gap : (4 * b.mantissa - if b.lowGap then 1 else 2) * step + step ≤ 4 * b.mantissa * step := by
      rw [← Nat.succ_mul]
      refine Nat.mul_le_mul_right step ?_
      split <;> omega
    omega
  · have gap : (4 * b.mantissa + 2) * step = 4 * b.mantissa * step + 2 * step := Nat.add_mul ..
    omega

end Scaled

/-- The shortest decimal is a point of some grid that rounds to the double. -/
theorem shortestFrom_spec (filled : 0 < b.mantissa) {count : Nat} (some : 0 < count)
    (fine : (10 : ℚ) ^ (k + 1 - count) ≤ 2 ^ (b.exponent - 2)) :
    ∃ grid point, (Scaled.of b grid).holds point = true ∧
      shortestFrom b tie k count = ⟨dropZeros (digitsOf point), (digitsOf point).length + grid⟩ := by
  induction count generalizing k with
  | zero => exact absurd some (Nat.lt_irrefl 0)
  | succ count ih =>
    unfold shortestFrom
    split
    · rename_i point picked
      exact ⟨k, point, Scaled.holds_of_pick? picked, rfl⟩
    · rename_i missed
      have more : 0 < count := by
        refine Nat.pos_of_ne_zero fun zero => Scaled.pick?_of_fine filled ?_ missed
        subst zero
        convert fine using 2
        omega
      refine ih more ?_
      convert fine using 2
      omega

theorem shortest_spec (tie : Tie) {x : Float} {shift : Nat} (filled : 0 < b.mantissa) (encodes : b.Encodes shift x) :
    ∃ grid point, (Scaled.of b grid).holds point = true ∧
      shortest b tie = ⟨dropZeros (digitsOf point), (digitsOf point).length + grid⟩ := by
  refine shortestFrom_spec filled (by decide) ?_
  obtain ⟨low, -⟩ := magnitude_spec filled (by rw [encodes.exponent]; omega)
  have short : (4 * b.mantissa : ℚ) ≤ 10 ^ (17 : Int) := by
    have fits : 4 * b.mantissa ≤ 10 ^ 17 := by
      have fits := encodes.canonical.fits
      omega
    exact_mod_cast fits
  have seventeen : (10 : ℚ) ^ (magnitude b - 1 - 17) ≤ 2 ^ (b.exponent - 2) := by
    rw [Scaled.size_eq] at low
    rw [zpow_sub₀ (by norm_num), div_le_iff₀ (zpow_pos (by norm_num) _), mul_comm]
    exact low.trans (mul_le_mul_of_nonneg_right short (zpow_pos (by norm_num) _).le)
  exact (zpow_le_zpow_right₀ (by norm_num) (by omega)).trans seventeen

theorem zpow_two_le (c : Nat) {n : Int} (less : n ≤ (33 * c : Nat)) : (2 : ℚ) ^ n ≤ 10 ^ ((10 * c : Nat) : Int) := by
  refine (zpow_le_zpow_right₀ (by norm_num) less).trans ?_
  rw [zpow_natCast, zpow_natCast, pow_mul, pow_mul]
  exact pow_le_pow_left₀ (by norm_num) (by norm_num) c

/-- Doubles are far from the bound at which the reading of decimals gives up. -/
theorem Binary.Encodes.size_bounds {x : Float} {shift : Nat} (filled : 0 < b.mantissa) (encodes : b.Encodes shift x) :
    (10 : ℚ) ^ (-350 : Int) ≤ b.size ∧ b.size ≤ 10 ^ (350 : Int) := by
  have exponent := encodes.exponent
  have finite : shift * 2 ^ 52 + b.mantissa < 2047 * 2 ^ 52 := encodes.finite
  have some : (1 : ℚ) ≤ b.mantissa := Nat.one_le_cast.2 filled
  have fits : (b.mantissa : ℚ) ≤ 2 ^ (53 : Int) := by exact_mod_cast encodes.canonical.fits.le
  have power : (0 : ℚ) < 2 ^ b.exponent := zpow_pos (by norm_num) _
  have small : (2 : ℚ) ^ (-b.exponent) ≤ 10 ^ (350 : Int) := zpow_two_le 35 (by omega)
  have large : (2 : ℚ) ^ (53 + b.exponent) ≤ 10 ^ (350 : Int) := zpow_two_le 35 (by omega)
  rw [zpow_neg] at small
  rw [zpow_add₀ (by norm_num)] at large
  constructor
  · rw [zpow_neg]
    exact (inv_le_of_inv_le₀ power small).trans (le_mul_of_one_le_left power.le some)
  · exact (mul_le_mul_of_nonneg_right fits power.le).trans large

theorem Binary.Encodes.word {x : Float} {shift bits : Nat} {negative : Bool} (encodes : b.Encodes shift x)
    (signed : negative = b.negative) (same : shift * 2 ^ 52 + b.mantissa = bits) :
    UInt64.ofNat (if negative then twoTo 63 + bits else bits) = x.toBits := by
  rw [← UInt64.ofNat_toNat (x := x.toBits), encodes.bits, signed, same]
  refine congrArg UInt64.ofNat ?_
  split
  · rfl
  · exact (Nat.zero_add bits).symm

/-- What a written decimal stands for, without its sign. -/
def Written.size (w : Written) : ℚ := natOf (w.whole ++ w.fraction) * 10 ^ (w.exponent - w.fraction.length)

theorem isDigit_iff {c : Char} : isDigit c = true ↔ '0' ≤ c ∧ c ≤ '9' := by
  unfold isDigit digit?
  split <;> simp_all

theorem natOf_eq (cs : List Char) : natOf cs = Nat.ofDigitChars 10 cs 0 := by
  rw [Nat.ofDigitChars_eq_foldl, natOf]
  simp only [Nat.mul_comm]
  rfl

theorem natOf_concat (cs : List Char) (c : Char) : natOf (cs ++ [c]) = natOf cs * 10 + (c.toNat - 48) := by
  rw [natOf, List.foldl_append]
  rfl

theorem natOf_lt {cs : List Char} (digits : ∀ c ∈ cs, isDigit c = true) : natOf cs < 10 ^ cs.length := by
  induction cs using List.reverseRecOn with
  | nil => decide
  | append_singleton cs c ih =>
    have before := ih fun d member => digits d (List.mem_append_left _ member)
    have last : c.toNat ≤ 57 := (isDigit_iff.1 (digits c (by simp))).2
    rw [natOf_concat, List.length_append, List.length_singleton, Nat.pow_succ]
    omega

theorem zpow_ten_half (e : Int) : (10 : ℚ) ^ (e - 1) < 10 ^ e / 2 := by
  have positive : (0 : ℚ) < 10 ^ e := zpow_pos (by norm_num) e
  rw [zpow_sub_one₀ (by norm_num)]
  linarith

theorem two_mul_zpow_ten (e : Int) : 2 * (10 : ℚ) ^ e < 10 ^ (e + 1) := by
  have positive : (0 : ℚ) < 10 ^ e := zpow_pos (by norm_num) e
  rw [zpow_add_one₀ (by norm_num)]
  linarith

/-- A decimal in the interval of a double is read as that double. -/
theorem nearest?_of_holds {x : Float} {w : Written} (read : Binary.ofFloat? x = some b) (filled : 0 < b.mantissa)
    (digits : ∀ c ∈ w.whole ++ w.fraction, isDigit c = true) (holds : (Scaled.of b k).holds point = true)
    (signed : w.negative = b.negative) (same : w.size = point * 10 ^ k) : nearest? w = some x := by
  obtain ⟨shift, encodes⟩ := Binary.exists_encodes read
  obtain ⟨least, most⟩ := Scaled.size_of_holds filled holds
  obtain ⟨small, large⟩ := encodes.size_bounds filled
  rw [← same] at least most
  have under : (10 : ℚ) ^ (-351 : Int) < w.size :=
    ((zpow_ten_half (-350)).trans_le (div_le_div_of_nonneg_right small (by norm_num))).trans_le least
  have above : w.size < (10 : ℚ) ^ (351 : Int) :=
    most.trans_lt ((mul_le_mul_of_nonneg_left large (by norm_num)).trans_lt (two_mul_zpow_ten 350))
  have size : w.size = natOf (w.whole ++ w.fraction) * 10 ^ (w.exponent - w.fraction.length) := rfl
  have count : (w.whole ++ w.fraction).length = w.whole.length + w.fraction.length := List.length_append
  have short := natOf_lt digits
  unfold nearest?
  rw [count] at short
  generalize natOf (w.whole ++ w.fraction) = significand at size short ⊢
  generalize w.exponent - (w.fraction.length : Int) = exponent at size ⊢
  have tens : (0 : ℚ) < 10 ^ exponent := zpow_pos (by norm_num) _
  have some : 0 < significand := by
    refine Nat.pos_of_ne_zero fun zero => ?_
    have positive : (0 : ℚ) < 10 ^ (-351 : Int) := zpow_pos (by norm_num) _
    rw [zero, Nat.cast_zero, zero_mul] at size
    linarith
  have notAbove : exponent < 351 := by
    refine (zpow_lt_zpow_iff_right₀ (a := (10 : ℚ)) (by norm_num)).1 (lt_of_le_of_lt ?_ above)
    rw [size]
    exact le_mul_of_one_le_left tens.le (Nat.one_le_cast.2 some)
  have notBelow : -351 < (w.whole.length + w.fraction.length : Nat) + exponent := by
    refine (zpow_lt_zpow_iff_right₀ (a := (10 : ℚ)) (by norm_num)).1 (under.trans ?_)
    rw [size, zpow_add₀ (by norm_num), zpow_natCast]
    exact mul_lt_mul_of_pos_right (by exact_mod_cast short) tens
  have bits : nearestBits (significand * tenTo exponent.toNat) (tenTo (-exponent).toNat) =
      shift * 2 ^ 52 + b.mantissa := by
    rw [← nearestBits_of_holds encodes holds]
    refine nearestBits_congr (tenTo_pos _) (tenTo_pos _) ?_
    rw [← Nat.cast_inj (R := ℚ)]
    push_cast
    rw [← tenTo_toNat exponent, ← tenTo_toNat k]
    linear_combination (tenTo (-exponent).toNat * tenTo (-k).toNat : ℚ) * (same.symm.trans size).symm
  have far : ¬((400 + (w.whole.length + w.fraction.length : Nat) : Int) < exponent) := by omega
  have near : ¬(exponent < -(400 + (w.whole.length + w.fraction.length : Nat) : Int)) := by omega
  simp only [if_neg some.ne', if_neg far, if_neg near, bits, if_pos encodes.finite, encodes.word signed rfl,
    Double.ofBits_toBits]

theorem nearest?_of_zero {x : Float} {w : Written} (read : Binary.ofFloat? x = some b) (blank : b.mantissa = 0)
    (signed : w.negative = b.negative) (zero : natOf (w.whole ++ w.fraction) = 0) : nearest? w = some x := by
  obtain ⟨shift, encodes⟩ := Binary.exists_encodes read
  have least : shift = 0 := encodes.canonical.full.resolve_left (by omega)
  have none : shift * 2 ^ 52 + b.mantissa = 0 := by rw [least, blank, Nat.zero_mul]
  have finite : 0 < infiniteBits := Nat.mul_pos (by decide) (twoTo_pos 52)
  unfold nearest?
  simp only [if_pos zero, if_pos finite, encodes.word signed none, Double.ofBits_toBits]

/-- Digits as characters. -/
def digitChars (digits : List Nat) : List Char := digits.map fun d => Char.ofNat (48 + d)

theorem digitChar_spec : ∀ d < 10, isDigit (Char.ofNat (48 + d)) = true ∧ ((Char.ofNat (48 + d)) = '0' → d = 0) := by
  decide

theorem isDigit_of_mem_digitChars {digits : List Nat} (small : ∀ d ∈ digits, d < 10) {c : Char}
    (member : c ∈ digitChars digits) : isDigit c = true := by
  obtain ⟨d, listed, rfl⟩ := List.mem_map.1 member
  exact (digitChar_spec d (small d listed)).1

theorem isDigit_of_mem_toDigits {n : Nat} {c : Char} (member : c ∈ Nat.toDigits 10 n) : '0' ≤ c ∧ c ≤ '9' :=
  Bool.and_eq_true_iff.1 (Nat.isDigit_of_mem_toDigits (by decide) (by decide) member)
    |>.imp of_decide_eq_true of_decide_eq_true

theorem digitChars_digitsOf (n : Nat) : digitChars (digitsOf n) = Nat.toDigits 10 n := by
  rw [digitChars, digitsOf, List.map_map]
  refine (List.map_congr_left fun c member => ?_).trans (List.map_id _)
  have low : 48 ≤ c.toNat := (isDigit_of_mem_toDigits member).1
  show Char.ofNat (48 + (c.toNat - 48)) = c
  rw [Nat.add_sub_cancel' low, Char.ofNat_toNat]

theorem digitsOf_lt {n d : Nat} (member : d ∈ digitsOf n) : d < 10 := by
  obtain ⟨c, listed, rfl⟩ := List.mem_map.1 member
  have high : c.toNat ≤ 57 := (isDigit_of_mem_toDigits listed).2
  omega

theorem natOf_digitsOf (n : Nat) : natOf (digitChars (digitsOf n)) = n := by
  rw [digitChars_digitsOf, natOf_eq, Nat.ofDigitChars_ten_toDigits]

theorem digitsOf_eq_cons {n : Nat} (positive : 0 < n) : ∃ first rest, digitsOf n = first :: rest ∧ first ≠ 0 := by
  cases digits : digitsOf n with
  | nil =>
    have none := natOf_digitsOf n
    rw [digits] at none
    exact absurd none (Nat.ne_of_lt positive)
  | cons first rest =>
    refine ⟨first, rest, rfl, ?_⟩
    rintro rfl
    have small : ∀ d ∈ rest, d < 10 := fun d member => digitsOf_lt (n := n) (digits ▸ List.mem_cons_of_mem 0 member)
    have less := natOf_lt fun c => isDigit_of_mem_digitChars small (c := c)
    have whole : natOf (digitChars rest) = n := by
      have whole := natOf_digitsOf n
      rwa [digits] at whole
    have length : (Nat.toDigits 10 n).length = rest.length + 1 := by
      rw [← digitChars_digitsOf, digits, digitChars, List.length_map, List.length_cons]
    obtain ⟨least, -⟩ := length_toDigits_spec positive
    rw [length, Nat.add_sub_cancel] at least
    rw [whole, digitChars, List.length_map] at less
    omega

/-- The zeros that are dropped can be put back. -/
theorem exists_dropZeros (digits : List Nat) :
    ∃ zeros, digits = dropZeros digits ++ List.replicate zeros 0 := by
  refine ⟨(digits.reverse.takeWhile (· == 0)).length, ?_⟩
  have zeros : digits.reverse.takeWhile (· == 0) = List.replicate (digits.reverse.takeWhile (· == 0)).length 0 :=
    List.eq_replicate_iff.2 ⟨rfl, fun d member => eq_of_beq (List.all_eq_true.1 List.all_takeWhile d member)⟩
  have whole := List.takeWhile_append_dropWhile (p := (· == 0)) (l := digits.reverse)
  rw [dropZeros, ← List.reverse_replicate, ← zeros, ← List.reverse_append, whole, List.reverse_reverse]

/-- Digits as they are written: each below ten, and the first one not zero. -/
structure Digits.Proper (d : Digits) : Prop where
  small : ∀ digit ∈ d.digits, digit < 10
  leading : ∃ first rest, d.digits = first :: rest ∧ first ≠ 0

theorem proper_dropZeros {n : Nat} (positive : 0 < n) (place : Int) :
    Digits.Proper ⟨dropZeros (digitsOf n), place⟩ := by
  obtain ⟨zeros, whole⟩ := exists_dropZeros (digitsOf n)
  constructor
  · intro d member
    exact digitsOf_lt (n := n) (whole ▸ List.mem_append_left _ member)
  · obtain ⟨first, rest, digits, leading⟩ := digitsOf_eq_cons positive
    cases dropped : dropZeros (digitsOf n) with
    | nil =>
      rw [dropped, List.nil_append, digits] at whole
      exact absurd (List.eq_of_mem_replicate (whole ▸ List.mem_cons_self)) leading
    | cons head tail =>
      rw [dropped, digits, List.cons_append, List.cons.injEq] at whole
      exact ⟨head, tail, rfl, whole.1 ▸ leading⟩

theorem natOf_append_zeros (cs : List Char) (zeros : Nat) :
    natOf (cs ++ List.replicate zeros '0') = natOf cs * 10 ^ zeros := by
  rw [natOf_eq, natOf_eq, Nat.ofDigitChars_append, Nat.ofDigitChars_replicate_zero, Nat.mul_comm]

theorem digitChars_append (digits more : List Nat) : digitChars (digits ++ more) = digitChars digits ++ digitChars more :=
  List.map_append

theorem digitChars_zeros (zeros : Nat) : digitChars (List.replicate zeros 0) = List.replicate zeros '0' :=
  List.map_replicate

/-- What digits around a point stand for. -/
def Digits.size (d : Digits) : ℚ := natOf (digitChars d.digits) * 10 ^ (d.point - d.digits.length)

theorem size_dropZeros (n : Nat) :
    Digits.size ⟨dropZeros (digitsOf n), (digitsOf n).length + k⟩ = n * 10 ^ k := by
  obtain ⟨zeros, whole⟩ := exists_dropZeros (digitsOf n)
  have number : n = natOf (digitChars (dropZeros (digitsOf n))) * 10 ^ zeros := by
    rw [← natOf_append_zeros, ← digitChars_zeros, ← digitChars_append, ← whole, natOf_digitsOf]
  have length : (digitsOf n).length = (dropZeros (digitsOf n)).length + zeros := by
    conv_lhs => rw [whole, List.length_append, List.length_replicate]
  have place : ((digitsOf n).length + k - (dropZeros (digitsOf n)).length : Int) = zeros + k := by omega
  rw [Digits.size, place, zpow_add₀ (by norm_num), ← mul_assoc]
  congr 1
  conv_rhs => rw [number]
  push_cast
  rw [zpow_natCast]

/-- The shortest decimal of a double is a proper one and lies in the interval of the double. -/
theorem exists_shortest (tie : Tie) {x : Float} (read : Binary.ofFloat? x = some b) (filled : 0 < b.mantissa) :
    (shortest b tie).Proper ∧
      ∃ grid point, (Scaled.of b grid).holds point = true ∧ (shortest b tie).size = point * 10 ^ grid := by
  obtain ⟨shift, encodes⟩ := Binary.exists_encodes read
  obtain ⟨grid, point, holds, found⟩ := shortest_spec tie filled encodes
  have positive : 0 < point := by
    obtain ⟨least, -⟩ := Scaled.size_of_holds filled holds
    refine Nat.pos_of_ne_zero fun zero => ?_
    have size : 0 < b.size := mul_pos (Nat.cast_pos.2 filled) (zpow_pos (by norm_num) _)
    rw [zero, Nat.cast_zero, zero_mul] at least
    linarith
  rw [found]
  exact ⟨proper_dropZeros positive _, grid, point, holds, size_dropZeros point⟩

end LiveControl.Decimal
