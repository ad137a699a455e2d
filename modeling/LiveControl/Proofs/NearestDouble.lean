import LiveControl.Decimal.Reading
import LiveControl.Proofs.DoubleDistance
import Mathlib.Tactic.Linarith
import Mathlib.Tactic.Ring

namespace LiveControl

namespace Double

open Float.Model Float.Model.UnpackedFloat

theorem toBitVec_ofBitVec (s : BitVec 1) : (Sign.ofBitVec s).toBitVec = s := by
  revert s
  decide

theorem packComponents_unpack (word : BitVec Format.binary64.numBits) :
    packComponents .binary64 (.ofBitVec (unpackSign word)) (unpackExponent word) (unpackMantissa word) = word := by
  rw [packComponents, toBitVec_ofBitVec]
  refine BitVec.eq_of_getLsbD_eq fun i inside => ?_
  have inside : i < 64 := inside
  have sign : unpackSign word = (BitVec.extractLsb 63 63 word).cast (by rfl) := rfl
  simp only [unpackMantissa, unpackExponent, sign, BitVec.getLsbD_append, BitVec.getLsbD_cast,
    BitVec.getLsbD_extractLsb]
  by_cases mantissa : i < 52
  · simp [mantissa]
  · by_cases exponent : i - 52 < 11
    · have place : 52 + (i - 52) = i := by omega
      simp [mantissa, exponent, place]
    · have place : i = 63 := by omega
      subst place
      rw [if_neg mantissa, if_neg exponent]
      rfl

/-- How a number is packed whose exponent has room. -/
theorem pack_fitting (s : Sign) {m biased : Nat} {e : Int} (positive : 0 < m) (same : (e + 1023 + 52).toNat = biased)
    (room : biased + 1 < 2 ^ 11) :
    UnpackedFloat.pack .binary64 (.finite s m e positive) =
      if m.log2 + 1 = 53 then packComponents .binary64 s (.ofNat _ biased) (.ofNat _ m)
      else packComponents .binary64 s 0#_ (.ofNat _ m) := by
  subst same
  exact if_neg (Nat.not_le.2 room)

/-- A number is packed into what it was read from; what is no number has one packing only. -/
theorem pack_read {s : Sign} {e : BitVec Format.binary64.exponentBits}
    {m : BitVec Format.binary64.mantissaBitsWithoutImplicit}
    (packed : e = -1#_ → m ≠ 0#_ → packComponents .binary64 s e m = packedNaN .binary64) :
    UnpackedFloat.pack .binary64 (read s e m) = packComponents .binary64 s e m := by
  by_cases full : e = -1#_
  · by_cases blank : m = 0#_
    · have shape : read s e m = .infinity s := (if_pos full).trans (if_pos blank)
      rw [shape, full, blank]
      rfl
    · have shape : read s e m = .notANumber := (if_pos full).trans (if_neg blank)
      rw [shape, packed full blank]
      rfl
  · by_cases small : e = 0#_
    · by_cases blank : m = 0#_
      · have shape : read s e m = .zero s := (if_neg full).trans ((if_pos small).trans (dif_pos blank))
        rw [shape, small, blank]
        rfl
      · have shape : read s e m = .finite s m.toNat _ _ := (if_neg full).trans ((if_pos small).trans (dif_neg blank))
        have few : m.toNat.log2 < 52 := (Nat.log2_lt fun zero => blank (BitVec.eq_of_toNat_eq zero)).2 m.isLt
        have kept : BitVec.ofNat _ m.toNat = m := BitVec.eq_of_toNat_eq (by simp)
        subst small
        rw [shape, pack_fitting _ _ rfl (by decide), if_neg (by omega), kept]
    · have shape : read s e m = .finite s (1#1 ++ m).toNat _ _ := (if_neg full).trans (if_neg small)
      have range : e.toNat ≠ 2047 := fun most => full (BitVec.eq_of_toNat_eq most)
      have less : e.toNat < 2048 := e.isLt
      have short : m.toNat < 2 ^ 52 := m.isLt
      have implicit : (1#1 ++ m).toNat = 2 ^ 52 + m.toNat := by
        rw [BitVec.toNat_append, ← Nat.shiftLeft_add_eq_or_of_lt m.isLt]
        rfl
      have width : (2 ^ 52 + m.toNat).log2 = 52 := (Nat.log2_eq_iff (by omega)).2 (by omega)
      have biased : ((e.toNat : Int) - (Format.binary64.exponentBias + (52 : Nat)) + 1023 + 52).toNat = e.toNat := by
        have bias : (Format.binary64.exponentBias : Int) = 1023 := rfl
        omega
      have kept : BitVec.ofNat _ (2 ^ 52 + m.toNat) = m := BitVec.eq_of_toNat_eq (by
        rw [BitVec.toNat_ofNat]
        show (2 ^ 52 + m.toNat) % 2 ^ 52 = m.toNat
        omega)
      have same : BitVec.ofNat _ e.toNat = e := BitVec.eq_of_toNat_eq (by simp)
      rw [shape, pack_fitting _ _ biased (by omega), implicit, width, if_pos rfl, kept, same]

/-- The bits of a double are those of the number that they stand for. -/
theorem pack_unpack {word : BitVec Format.binary64.numBits} (valid : Format.binary64.Valid word) :
    UnpackedFloat.pack .binary64 (unpack .binary64 word) = word := by
  have whole := packComponents_unpack word
  rw [unpack_eq_read, pack_read fun full filled => whole.trans (valid.eq_packedNaN full filled), whole]

theorem ofBits_toBits (x : Float) : Float.ofBits x.toBits = x := by
  cases x with
  | ofModel word =>
    cases word with
    | mk bits valid =>
      show Float.ofModel (Float.Model.mk
        (UInt64.ofBitVec (UnpackedFloat.pack .binary64 (UnpackedFloat.unpack .binary64 bits.toBitVec))) _) = _
      congr 2
      exact congrArg UInt64.ofBitVec (pack_unpack valid)

theorem toNat_unpackExponent (word : BitVec Format.binary64.numBits) :
    (unpackExponent word).toNat = word.toNat / 2 ^ 52 % 2 ^ 11 := by
  rw [unpackExponent, BitVec.toNat_cast, BitVec.extractLsb_toNat, Nat.shiftRight_eq_div_pow]
  rfl

theorem exponent_of_isFinite {x : Float} (finite : x.isFinite = true) : x.toBits.toNat / 2 ^ 52 % 2 ^ 11 ≠ 2047 := by
  cases x with
  | ofModel word =>
    cases word with
    | mk bits valid =>
      intro full
      have shape : (unpack .binary64 bits.toBitVec).isFinite = true := finite
      have most : @unpackExponent .binary64 bits.toBitVec = -1#_ :=
        BitVec.eq_of_toNat_eq ((toNat_unpackExponent _).trans full)
      rw [unpack_eq_read, read, if_pos most] at shape
      by_cases blank : @unpackMantissa .binary64 bits.toBitVec = 0#_
      · rw [if_pos blank] at shape
        cases shape
      · rw [if_neg blank] at shape
        cases shape

end Double

namespace Decimal

theorem Binary.exists_of_isFinite {x : Float} (finite : x.isFinite = true) : ∃ b, ofFloat? x = some b := by
  have exponent : x.toBits.toNat / twoTo 52 % twoTo 11 ≠ 2047 := Double.exponent_of_isFinite finite
  simp only [ofFloat?, if_neg exponent]
  split
  · exact ⟨_, rfl⟩
  · exact ⟨_, rfl⟩

/-- Within half a step of a whole number, at a half only if it is even, a fraction is rounded to it. -/
theorem Tie.round_eq {num den m : Nat} (low : 2 * m * den ≤ 2 * num + den) (high : 2 * num ≤ (2 * m + 1) * den)
    (decided : m % 2 = 0 ∨ 2 * m * den < 2 * num + den ∧ 2 * num < (2 * m + 1) * den) (positive : 0 < den) :
    Tie.toEven.round num den = m := by
  obtain ⟨q, r, split, short, quotient, remainder⟩ : ∃ q r, num = q * den + r ∧ r < den ∧ num / den = q ∧ num % den = r :=
    ⟨num / den, num % den, by rw [Nat.mul_comm, Nat.div_add_mod], Nat.mod_lt num positive, rfl, rfl⟩
  have close : m = q ∨ m = q + 1 := by
    have upper : m < q + 2 := by
      by_contra above
      have far : (q + 2) * den ≤ m * den := Nat.mul_le_mul_right den (by omega)
      have spread : (q + 2) * den = q * den + 2 * den := by ring
      have doubled : 2 * m * den = 2 * (m * den) := by ring
      omega
    have lower : q ≤ m := by
      by_contra below
      have far : (m + 1) * den ≤ q * den := Nat.mul_le_mul_right den (by omega)
      have spread : (m + 1) * den = m * den + den := by ring
      have doubled : (2 * m + 1) * den = 2 * (m * den) + den := by ring
      omega
    omega
  rw [round, roundsUp, quotient, remainder]
  rcases close with rfl | rfl
  · have doubled : 2 * m * den = 2 * (m * den) := by ring
    have next : (2 * m + 1) * den = 2 * (m * den) + den := by ring
    by_cases half : 2 * r = den
    · have even : ¬m % 2 = 1 := by omega
      simp [half, even]
    · have below : ¬den < 2 * r := by omega
      simp [half, below]
  · have doubled : 2 * (q + 1) * den = 2 * (q * den) + 2 * den := by ring
    have next : (2 * (q + 1) + 1) * den = 2 * (q * den) + 3 * den := by ring
    by_cases half : 2 * r = den
    · have odd : q % 2 = 1 := by omega
      simp [half, odd]
    · have above : den < 2 * r := by omega
      simp [half, above]

theorem Tie.round_mul (tie : Tie) {c : Nat} (positive : 0 < c) (num den : Nat) :
    tie.round (c * num) (c * den) = tie.round num den := by
  have same : tie.roundsUp (num / den) (c * (num % den)) (c * den) = tie.roundsUp (num / den) (num % den) den := by
    have half : 2 * (c * (num % den)) = c * den ↔ 2 * (num % den) = den := by
      rw [Nat.mul_left_comm, Nat.mul_right_inj (Nat.ne_of_gt positive)]
    have above : c * den < 2 * (c * (num % den)) ↔ den < 2 * (num % den) := by
      rw [Nat.mul_left_comm 2, Nat.mul_lt_mul_left positive]
    simp only [roundsUp, half, above]
  rw [round, round, Nat.mul_div_mul_left _ _ positive, Nat.mul_mod_mul_left, same]

/-- The nearest double depends on the number alone, and not on how it is written as a fraction. -/
theorem nearestBits_mul {c : Nat} (positive : 0 < c) (num den : Nat) :
    nearestBits (c * num) (c * den) = nearestBits num den := by
  simp only [nearestBits, Nat.mul_assoc, Nat.mul_div_mul_left _ _ positive, Tie.round_mul _ positive]

theorem nearestBits_congr {num den num' den' : Nat} (positive : 0 < den) (positive' : 0 < den')
    (same : num * den' = num' * den) : nearestBits num den = nearestBits num' den' := by
  rw [← nearestBits_mul positive' num den, ← nearestBits_mul positive num' den', Nat.mul_comm den' num, same,
    Nat.mul_comm den num', Nat.mul_comm den' den]

/-- What a mantissa and a count of bits rounded away may be in a double: the mantissa is full unless no bits
were rounded away. -/
structure Canonical (mantissa shift : Nat) : Prop where
  fits : mantissa < 2 ^ 53
  full : 2 ^ 52 ≤ mantissa ∨ shift = 0

/-- How far below a double a number may be, in quarters of a step. Below a power of two the steps are half as
long. -/
def lowRoom (mantissa shift : Nat) : Nat := if mantissa = 2 ^ 52 ∧ 0 < shift then 1 else 2

theorem log2_div_eq {units den k : Nat} (positive : 0 < den) (low : 2 ^ k * den ≤ units)
    (high : units < 2 ^ (k + 1) * den) : (units / den).log2 = k := by
  have low := (Nat.le_div_iff_mul_le positive).2 low
  have high := (Nat.div_lt_iff_lt_mul positive).2 high
  exact (Nat.log2_eq_iff (Nat.ne_of_gt (Nat.lt_of_lt_of_le (Nat.two_pow_pos k) low))).2 ⟨low, high⟩

/-- How many bits a number of 53 bits, in steps of a power of two, is rounded by. -/
theorem log2_div_of_steps {units den step s : Nat} (positive : 0 < den) (steps : step = den * 2 ^ s)
    (low : 2 ^ 52 * step ≤ units) (high : units < 2 ^ 53 * step) : (units / den).log2 - 52 = s := by
  rw [log2_div_eq (k := s + 52) positive, Nat.add_sub_cancel]
  · calc 2 ^ (s + 52) * den = 2 ^ 52 * step := by rw [steps]; ring
      _ ≤ units := low
  · calc units < 2 ^ 53 * step := high
      _ = 2 ^ (s + 52 + 1) * den := by rw [steps]; ring

theorem log2_div_le {units den : Nat} (positive : 0 < den) (high : units < 2 ^ 53 * den) :
    (units / den).log2 - 52 = 0 := by
  have high := (Nat.div_lt_iff_lt_mul positive).2 high
  by_cases zero : units / den = 0
  · rw [zero]
    rfl
  · have short := (Nat.log2_lt zero).2 high
    omega

theorem nearestBits_of_round {num den shift mantissa : Nat} (kept : (num * twoTo 1074 / den).log2 - 52 = shift)
    (rounded : Tie.toEven.round (num * twoTo 1074) (den * 2 ^ shift) = mantissa) :
    nearestBits num den = shift * 2 ^ 52 + mantissa := by
  subst kept rounded
  rfl

/-- So near below a power of two, the mantissa is rounded up to that power, and the next exponent begins. -/
theorem nearestBits_below_power {num den step s : Nat} (positive : 0 < den) (steps : step = den * 2 ^ s)
    (low : (4 * 2 ^ 52 - 1) * (2 * step) ≤ 4 * (num * twoTo 1074)) (small : num * twoTo 1074 < 2 ^ 53 * step) :
    nearestBits num den = (s + 1) * 2 ^ 52 + 2 ^ 52 := by
  have carry : s * 2 ^ 52 + 2 ^ 53 = (s + 1) * 2 ^ 52 + 2 ^ 52 := by omega
  have room : 0 < step := steps ▸ Nat.mul_pos positive (Nat.two_pow_pos s)
  refine .trans (nearestBits_of_round (log2_div_of_steps positive steps (by omega) small) ?_) carry
  rw [← steps]
  exact Tie.round_eq (by omega) (by omega) (.inl rfl) room

/-- A number in the interval of a double has that double as the nearest one. The number is given in units of
the least double above zero, a step is the distance from the double to the next one. -/
theorem nearestBits_eq {num den step mantissa shift : Nat} (positive : 0 < den)
    (canonical : Canonical mantissa shift) (steps : step = den * 2 ^ shift)
    (low : (4 * mantissa - lowRoom mantissa shift) * step ≤ 4 * (num * twoTo 1074))
    (high : 4 * (num * twoTo 1074) ≤ (4 * mantissa + 2) * step)
    (decided : mantissa % 2 = 0 ∨ (4 * mantissa - lowRoom mantissa shift) * step < 4 * (num * twoTo 1074) ∧
      4 * (num * twoTo 1074) < (4 * mantissa + 2) * step) :
    nearestBits num den = shift * 2 ^ 52 + mantissa := by
  have room : 0 < step := steps ▸ Nat.mul_pos positive (Nat.two_pow_pos shift)
  obtain ⟨fits, full⟩ := canonical
  have most : (4 * mantissa + 2) * step ≤ (4 * 2 ^ 53 - 2) * step := Nat.mul_le_mul_right step (by omega)
  have above : (4 * mantissa + 2) * step = 4 * (mantissa * step) + 2 * step := by ring
  by_cases large : 2 ^ 52 * step ≤ num * twoTo 1074 ∨ shift = 0
  · have least : 4 * (mantissa * step) ≤ (4 * mantissa - lowRoom mantissa shift) * step + 2 * step := by
      have few : lowRoom mantissa shift ≤ 2 := by
        unfold lowRoom
        split <;> omega
      calc 4 * (mantissa * step) = 4 * mantissa * step := by ring
        _ ≤ (4 * mantissa - lowRoom mantissa shift + 2) * step := Nat.mul_le_mul_right step (by omega)
        _ = _ := by ring
    refine nearestBits_of_round ?_ ?_ <;> generalize num * twoTo 1074 = units at low high decided large ⊢
    · have bounded : units < 2 ^ 53 * step := by omega
      rcases large with large | rfl
      · exact log2_div_of_steps positive steps large bounded
      · exact log2_div_le positive (by rwa [steps, Nat.pow_zero, Nat.mul_one] at bounded)
    · have doubled : 2 * mantissa * step = 2 * (mantissa * step) := by ring
      have next : (2 * mantissa + 1) * step = 2 * (mantissa * step) + step := by ring
      rw [← steps]
      exact Tie.round_eq (by omega) (by omega) (by omega) room
  · obtain ⟨small, some⟩ := not_or.1 large
    have power : mantissa = 2 ^ 52 := by
      have full := full.resolve_right some
      by_contra more
      have least : (4 * 2 ^ 52 + 2) * step ≤ (4 * mantissa - lowRoom mantissa shift) * step := by
        refine Nat.mul_le_mul_right step ?_
        rw [lowRoom, if_neg fun both => more both.1]
        omega
      omega
    obtain ⟨s, rfl⟩ := Nat.exists_eq_add_one_of_ne_zero some
    have halves : step = 2 * (den * 2 ^ s) := by rw [steps]; ring
    rw [lowRoom, if_pos ⟨power, Nat.succ_pos s⟩, power, halves] at low
    rw [power]
    exact nearestBits_below_power positive rfl low (by omega)

/-- A finite double and its bits: the mantissa, how many bits were rounded away from it, and the sign. -/
structure Binary.Encodes (b : Binary) (shift : Nat) (x : Float) : Prop where
  exponent : b.exponent = shift - 1074
  canonical : Canonical b.mantissa shift
  lowGap : b.lowGap = true ↔ b.mantissa = 2 ^ 52 ∧ 0 < shift
  finite : shift * 2 ^ 52 + b.mantissa < infiniteBits
  bits : x.toBits.toNat = (if b.negative then twoTo 63 else 0) + (shift * 2 ^ 52 + b.mantissa)

theorem twoTo_add_two (n : Nat) : twoTo (n + 2) = 4 * twoTo n := by
  show 2 ^ (n + 2) = 4 * 2 ^ n
  ring

theorem Binary.exists_encodes {x : Float} {b : Binary} (read : ofFloat? x = some b) : ∃ shift, b.Encodes shift x := by
  obtain ⟨sign, biased, fraction, whole, one, small, short⟩ : ∃ sign biased fraction : Nat,
      x.toBits.toNat = sign * 2 ^ 63 + (biased * 2 ^ 52 + fraction) ∧ sign ≤ 1 ∧ biased < 2 ^ 11 ∧ fraction < 2 ^ 52 :=
    ⟨x.toBits.toNat / 2 ^ 63, x.toBits.toNat / 2 ^ 52 % 2 ^ 11, x.toBits.toNat % 2 ^ 52, by
      have word : x.toBits.toNat < 2 ^ 64 := x.toBits.toNat_lt
      omega⟩
  have negative : x.toBits.toNat / twoTo 63 = sign := by
    show x.toBits.toNat / 2 ^ 63 = sign
    omega
  have exponent : x.toBits.toNat / twoTo 52 % twoTo 11 = biased := by
    show x.toBits.toNat / 2 ^ 52 % 2 ^ 11 = biased
    omega
  have mantissa : x.toBits.toNat % twoTo 52 = fraction := by
    show x.toBits.toNat % 2 ^ 52 = fraction
    omega
  have signed : (if (sign == 1) = true then twoTo 63 else 0) = sign * 2 ^ 63 := by
    rcases Nat.le_one_iff_eq_zero_or_eq_one.1 one with rfl | rfl <;> rfl
  simp only [ofFloat?, negative, exponent, mantissa] at read
  have infinite : biased ≠ 2047 := by
    rintro rfl
    cases read
  rw [if_neg infinite] at read
  by_cases subnormal : biased = 0
  · rw [if_pos subnormal] at read
    cases read
    have fits : fraction < 2 ^ 53 := by omega
    refine ⟨0, ⟨rfl, ⟨fits, .inr rfl⟩, iff_of_false Bool.false_ne_true fun both => Nat.lt_irrefl 0 both.2,
      ?_, ?_⟩⟩
    · show 0 * 2 ^ 52 + fraction < 2047 * 2 ^ 52
      omega
    · rw [signed, whole, subnormal]
  · rw [if_neg subnormal] at read
    cases read
    have implicit : twoTo 52 = 2 ^ 52 := rfl
    have largest : infiniteBits = 2047 * twoTo 52 := rfl
    have fits : fraction + twoTo 52 < 2 ^ 53 := by omega
    have full : 2 ^ 52 ≤ fraction + twoTo 52 := by omega
    have stands : (biased : Int) - 1075 = (biased - 1 : Nat) - 1074 := by omega
    refine ⟨biased - 1, ⟨stands, ⟨fits, .inl full⟩, ?_, ?_, ?_⟩⟩
    · have power : fraction = 0 ↔ fraction + twoTo 52 = 2 ^ 52 := by omega
      have above : biased > 1 ↔ 0 < biased - 1 := by omega
      exact Bool.and_eq_true_iff.trans (and_congr (beq_iff_eq.trans power) (decide_eq_true_iff.trans above))
    · show (biased - 1) * 2 ^ 52 + (fraction + twoTo 52) < infiniteBits
      omega
    · rw [signed, whole]
      show _ = sign * 2 ^ 63 + ((biased - 1) * 2 ^ 52 + (fraction + twoTo 52))
      omega

/-- A point of a grid that rounds to a double has that double as the nearest one. -/
theorem nearestBits_of_holds {b : Binary} {x : Float} {shift point : Nat} {k : Int} (encodes : b.Encodes shift x)
    (holds : (Scaled.of b k).holds point = true) :
    nearestBits (point * tenTo k.toNat) (tenTo (-k).toNat) = shift * 2 ^ 52 + b.mantissa := by
  have tens (n : Nat) : 0 < tenTo n := Nat.pow_pos (by decide)
  have twos (n : Nat) : 0 < twoTo n := Nat.two_pow_pos n
  -- Both sides of each comparison, brought to the units of the least double.
  have powers : twoTo (b.exponent - 2).toNat * twoTo 1076 = twoTo shift * twoTo (-(b.exponent - 2)).toNat := by
    have exponent := encodes.exponent
    simp only [twoTo, Nat.pow_eq, ← Nat.pow_add]
    congr 1
    omega
  have bound (c : Nat) : c * (twoTo (b.exponent - 2).toNat * tenTo (-k).toNat) * twoTo 1076 =
      twoTo (-(b.exponent - 2)).toNat * (c * (tenTo (-k).toNat * 2 ^ shift)) := by
    calc _ = c * tenTo (-k).toNat * (twoTo (b.exponent - 2).toNat * twoTo 1076) := by ring
      _ = c * tenTo (-k).toNat * (twoTo shift * twoTo (-(b.exponent - 2)).toNat) := by rw [powers]
      _ = twoTo (-(b.exponent - 2)).toNat * (c * (tenTo (-k).toNat * twoTo shift)) := by ring
  have value : point * (twoTo (-(b.exponent - 2)).toNat * tenTo k.toNat) * twoTo 1076 =
      twoTo (-(b.exponent - 2)).toNat * (4 * (point * tenTo k.toNat * twoTo 1074)) := by
    have units : twoTo 1076 = 4 * twoTo 1074 := twoTo_add_two 1074
    rw [units]
    ring
  have compare {c d e f : Nat} (left : c * twoTo 1076 = twoTo (-(b.exponent - 2)).toNat * d)
      (right : e * twoTo 1076 = twoTo (-(b.exponent - 2)).toNat * f) : (c ≤ e ↔ d ≤ f) ∧ (c < e ↔ d < f) := by
    rw [← Nat.mul_le_mul_right_iff (twos 1076), left, right, Nat.mul_le_mul_left_iff (twos _),
      ← Nat.mul_lt_mul_right (twos 1076), left, right, Nat.mul_lt_mul_left (twos _)]
    exact ⟨Iff.rfl, Iff.rfl⟩
  have gap : (if b.lowGap then 1 else 2) = lowRoom b.mantissa shift := if_congr encodes.lowGap rfl rfl
  have low := compare (bound (4 * b.mantissa - lowRoom b.mantissa shift)) value
  have high := compare value (bound (4 * b.mantissa + 2))
  simp only [Scaled.holds, Scaled.of, gap] at holds
  split at holds
  · rename_i even
    rw [Bool.and_eq_true, decide_eq_true_eq, decide_eq_true_eq, low.1, high.1] at holds
    exact nearestBits_eq (tens _) encodes.canonical rfl holds.1 holds.2 (.inl (eq_of_beq even))
  · rw [Bool.and_eq_true, decide_eq_true_eq, decide_eq_true_eq, low.2, high.2] at holds
    exact nearestBits_eq (tens _) encodes.canonical rfl (Nat.le_of_lt holds.1) (Nat.le_of_lt holds.2) (.inr holds)

end Decimal
end LiveControl
