namespace LiveControl.Double

open Float.Model Float.Model.UnpackedFloat

/-- The number that stands in a word with the given sign, exponent and mantissa. -/
def read {spec : Format} (s : Sign) (exponent : BitVec spec.exponentBits)
    (mantissa : BitVec spec.mantissaBitsWithoutImplicit) : UnpackedFloat :=
  if exponent = -1#_ then
    if mantissa = 0#_ then .infinity s else .notANumber
  else if exponent = 0#_ then
    if blank : mantissa = 0#_ then .zero s
    else .finite s mantissa.toNat (exponent.toNat - (spec.exponentBias + spec.mantissaBitsWithoutImplicit) + 1)
      (by simpa [BitVec.toNat_pos, BitVec.pos_iff_ne_zero])
  else .finite s (1#1 ++ mantissa).toNat
    (exponent.toNat - (spec.exponentBias + spec.mantissaBitsWithoutImplicit)) (by simp)

theorem unpack_eq_read {spec : Format} (word : BitVec spec.numBits) :
    unpack spec word =
      read (.ofBitVec (unpackSign word)) (unpackExponent word) (unpackMantissa word) :=
  rfl

/-- What kind of number is read does not depend on the sign. -/
theorem read_cases {spec : Format} (exponent : BitVec spec.exponentBits)
    (mantissa : BitVec spec.mantissaBitsWithoutImplicit) :
    (exponent = -1#_ ∧ mantissa ≠ 0#_ ∧ ∀ s, read s exponent mantissa = .notANumber) ∨
      (∀ s, read s exponent mantissa = .infinity s) ∨ (∀ s, read s exponent mantissa = .zero s) ∨
      ∃ m e positive, ∀ s, read s exponent mantissa = .finite s m e positive := by
  by_cases full : exponent = -1#_
  · by_cases blank : mantissa = 0#_
    · exact Or.inr (Or.inl fun s => (if_pos full).trans (if_pos blank))
    · exact Or.inl ⟨full, blank, fun s => (if_pos full).trans (if_neg blank)⟩
  · by_cases small : exponent = 0#_
    · by_cases blank : mantissa = 0#_
      · exact Or.inr (Or.inr (Or.inl fun s => (if_neg full).trans ((if_pos small).trans (dif_pos blank))))
      · exact Or.inr (Or.inr (Or.inr
          ⟨_, _, _, fun s => (if_neg full).trans ((if_pos small).trans (dif_neg blank))⟩))
    · exact Or.inr (Or.inr (Or.inr ⟨_, _, _, fun s => (if_neg full).trans (if_neg small)⟩))

/-- The sign is read apart from the rest, so it is gone once it is dropped. -/
theorem abs_read {spec : Format} (s t : Sign) (exponent : BitVec spec.exponentBits)
    (mantissa : BitVec spec.mantissaBitsWithoutImplicit) :
    (read s exponent mantissa).abs = (read t exponent mantissa).abs := by
  rcases read_cases exponent mantissa with
    ⟨-, -, kind⟩ | kind | kind | ⟨m, e, positive, kind⟩ <;> rw [kind, kind] <;> rfl

theorem abs_unpack_packComponents {spec : Format} (s t : Sign) (exponent : BitVec spec.exponentBits)
    (mantissa : BitVec spec.mantissaBitsWithoutImplicit) :
    (unpack spec (packComponents spec s exponent mantissa)).abs =
      (unpack spec (packComponents spec t exponent mantissa)).abs := by
  rw [unpack_eq_read, unpack_eq_read, unpackExponent_packComponents, unpackExponent_packComponents,
    unpackMantissa_packComponents, unpackMantissa_packComponents]
  exact abs_read ..

/-- Which components a finite number is packed into does not depend on its sign, and an exponent without
room goes with a mantissa that is zero. -/
theorem pack_finite (spec : Format) (m : Nat) (e : Int) : ∃ exponent mantissa,
    (exponent = -1#_ → mantissa = 0#_) ∧
      ∀ s positive, UnpackedFloat.pack spec (.finite s m e positive) = packComponents spec s exponent mantissa := by
  generalize biased : (e + spec.exponentBias + spec.mantissaBitsWithoutImplicit).toNat = b
  -- The three cases of packing: too large, normal, subnormal.
  by_cases crowded : 2 ^ spec.exponentBits ≤ b + 1
  · refine ⟨-1#_, 0#_, fun _ => rfl, fun s positive => ?_⟩
    exact if_pos (biased ▸ crowded)
  · by_cases normal : m.log2 + 1 = spec.mantissaBits
    · refine ⟨.ofNat _ b, .ofNat _ m, fun full => absurd ?_ crowded, fun s positive => ?_⟩
      · have top : b % 2 ^ spec.exponentBits = 2 ^ spec.exponentBits - 1 := by
          rw [← BitVec.toNat_ofNat, full, BitVec.neg_one_eq_allOnes, BitVec.toNat_allOnes]
        have below := Nat.mod_le b (2 ^ spec.exponentBits)
        omega
      · subst biased
        exact (if_neg crowded).trans (if_pos normal)
    · refine ⟨0#_, .ofNat _ m, fun full => ?_, fun s positive => ?_⟩
      · have top := congrArg BitVec.toNat full
        rw [BitVec.neg_one_eq_allOnes, BitVec.toNat_allOnes, BitVec.toNat_zero] at top
        have room : 1 < 2 ^ spec.exponentBits := Nat.one_lt_two_pow (Nat.ne_of_gt spec.he)
        omega
      · subst biased
        exact (if_neg crowded).trans (if_neg normal)

/-- Numbers that differ in their sign alone are packed alike but for the sign bit. -/
theorem abs_unpack_pack {x y : UnpackedFloat} (same : x.abs = y.abs) (spec : Format) :
    (unpack spec (UnpackedFloat.pack spec x)).abs = (unpack spec (UnpackedFloat.pack spec y)).abs := by
  cases x with
  | notANumber => cases y with
    | notANumber => rfl
    | infinity | zero | finite => cases same
  | infinity s => cases y with
    | infinity t => exact abs_unpack_packComponents ..
    | notANumber | zero | finite => cases same
  | zero s => cases y with
    | zero t => exact abs_unpack_packComponents ..
    | notANumber | infinity | finite => cases same
  | finite s m e positive => cases y with
    | finite t n f positive' =>
      obtain ⟨-, rfl, rfl⟩ := UnpackedFloat.finite.inj same
      obtain ⟨exponent, mantissa, -, packed⟩ := pack_finite spec m e
      rw [packed, packed]
      exact abs_unpack_packComponents ..
    | notANumber | infinity | zero => cases same

theorem roundWithAccuracy_cases (spec : Format) (mantissa : Nat) (exponent : Int) (accuracy : Accuracy) :
    (∀ s, roundWithAccuracy spec s mantissa exponent accuracy = .zero s) ∨
      ∃ m e positive, ∀ s, roundWithAccuracy spec s mantissa exponent accuracy = .finite s m e positive := by
  let shifted := shiftToTargetExponent spec mantissa exponent accuracy
  by_cases blank : (shiftToTargetExponent spec shifted.1.roundedMantissa shifted.2 .exact).1.mantissa = 0
  · exact Or.inl fun s => dif_pos blank
  · exact Or.inr ⟨_, _, Nat.pos_of_ne_zero blank, fun s => dif_neg blank⟩

theorem abs_roundWithAccuracy (spec : Format) (s t : Sign) (mantissa : Nat) (exponent : Int)
    (accuracy : Accuracy) :
    (roundWithAccuracy spec s mantissa exponent accuracy).abs =
      (roundWithAccuracy spec t mantissa exponent accuracy).abs := by
  rcases roundWithAccuracy_cases spec mantissa exponent accuracy with zero | ⟨m, e, positive, finite⟩
  · rw [zero, zero]
    rfl
  · rw [finite, finite]
    rfl

theorem abs_normalize_neg (spec : Format) (mantissa exponent : Int) :
    (normalize spec (-mantissa) exponent .positive).abs = (normalize spec mantissa exponent .positive).abs := by
  unfold UnpackedFloat.normalize
  rcases Int.lt_trichotomy mantissa 0 with negative | zero | positive
  · rw [Int.compare_eq_gt.2 (show 0 < -mantissa by omega), Int.compare_eq_lt.2 negative]
    exact abs_roundWithAccuracy ..
  · simp [zero]
  · rw [Int.compare_eq_lt.2 (show -mantissa < 0 by omega), Int.compare_eq_gt.2 positive, Int.neg_neg]
    exact abs_roundWithAccuracy ..

theorem sub_finite (spec : Format) (s t : Sign) (m n : Nat) (e f : Int) (positive : 0 < m) (positive' : 0 < n) :
    UnpackedFloat.sub spec (.finite s m e positive) (.finite t n f positive') =
      normalize spec (s.apply (decreaseExponent m e (min e f)).1 - t.apply (decreaseExponent n f (min e f)).1)
        (min e f) .positive :=
  rfl

theorem abs_sub_comm_unpacked (spec : Format) (x y : UnpackedFloat) :
    (UnpackedFloat.sub spec x y).abs = (UnpackedFloat.sub spec y x).abs := by
  cases x with
  | notANumber => cases y <;> rfl
  | infinity s => cases y with
    | infinity t => cases s <;> cases t <;> rfl
    | notANumber | zero | finite => rfl
  | zero s => cases y with
    | zero t => cases s <;> cases t <;> rfl
    | notANumber | infinity | finite => rfl
  | finite s m e positive => cases y with
    | notANumber | infinity | zero => rfl
    | finite t n f positive' =>
      rw [sub_finite, sub_finite, Int.min_comm f e, ← Int.neg_sub, abs_normalize_neg]

theorem abs_sub_comm (x y : Float) : (x - y).abs = (y - x).abs := by
  show Float.ofModel (Float.Model.pack _) = Float.ofModel (Float.Model.pack _)
  congr 2
  exact abs_unpack_pack (abs_sub_comm_unpacked _ _ _) _

theorem isNaN_read {spec : Format} (s : Sign) {exponent : BitVec spec.exponentBits}
    {mantissa : BitVec spec.mantissaBitsWithoutImplicit} (room : exponent = -1#_ → mantissa = 0#_) :
    (read s exponent mantissa).isNaN = false := by
  rcases read_cases exponent mantissa with
    ⟨full, filled, -⟩ | kind | kind | ⟨m, e, positive, kind⟩
  · exact absurd (room full) filled
  all_goals
    rw [kind]
    rfl

/-- Packing may overflow into an infinity, but it makes no number into something else. -/
theorem isNaN_unpack_pack (x : UnpackedFloat) :
    (unpack .binary64 (UnpackedFloat.pack .binary64 x)).isNaN = x.isNaN := by
  cases x with
  | notANumber => rfl
  | infinity s => cases s <;> rfl
  | zero s => cases s <;> rfl
  | finite s m e positive =>
    obtain ⟨exponent, mantissa, room, packed⟩ := pack_finite .binary64 m e
    rw [packed, unpack_eq_read, unpackExponent_packComponents, unpackMantissa_packComponents]
    exact isNaN_read _ room

theorem isNaN_roundWithAccuracy (spec : Format) (s : Sign) (mantissa : Nat) (exponent : Int)
    (accuracy : Accuracy) : (roundWithAccuracy spec s mantissa exponent accuracy).isNaN = false := by
  rcases roundWithAccuracy_cases spec mantissa exponent accuracy with zero | ⟨m, e, positive, finite⟩
  · rw [zero]
    rfl
  · rw [finite]
    rfl

theorem isNaN_normalize (spec : Format) (mantissa exponent : Int) (zero : Sign) :
    (normalize spec mantissa exponent zero).isNaN = false := by
  unfold UnpackedFloat.normalize
  split
  · exact isNaN_roundWithAccuracy ..
  · rfl
  · exact isNaN_roundWithAccuracy ..

/-- From a finite double everything has a distance but what is not a number. -/
theorem isNaN_abs_sub {x : Float} (finite : x.isFinite = true) (y : Float) :
    (x - y).abs.isNaN = y.isNaN := by
  have whole : (UnpackedFloat.sub .binary64 x.toModel.unpack y.toModel.unpack).isNaN =
      y.toModel.unpack.isNaN := by
    have notWhole : x.toModel.unpack.isFinite = true := finite
    cases first : x.toModel.unpack with
    | notANumber | infinity =>
      rw [first] at notWhole
      cases notWhole
    | zero s => cases y.toModel.unpack with
      | zero t => cases s <;> cases t <;> rfl
      | notANumber | infinity | finite => rfl
    | finite => cases y.toModel.unpack with
      | notANumber | infinity | zero => rfl
      | finite => exact isNaN_normalize ..
  have dropped (u : UnpackedFloat) : u.abs.isNaN = u.isNaN := by cases u <;> rfl
  show (unpack .binary64 (UnpackedFloat.pack .binary64 (unpack .binary64 (UnpackedFloat.pack .binary64
    (UnpackedFloat.sub .binary64 x.toModel.unpack y.toModel.unpack))).abs)).isNaN = _
  rw [isNaN_unpack_pack, dropped, isNaN_unpack_pack, whole]
  rfl

theorem lt_iff {x y : Float} :
    x < y ↔ x.toModel.unpack.compare y.toModel.unpack = some .lt := by
  show decide (x.toModel.unpack.lt y.toModel.unpack = true) = true ↔ _
  simp [UnpackedFloat.lt]

theorem le_iff {x y : Float} :
    x ≤ y ↔ (x.toModel.unpack.compare y.toModel.unpack).any Ordering.isLE = true := by
  show decide (x.toModel.unpack.le y.toModel.unpack = true) = true ↔ _
  rw [decide_eq_true_iff]
  rfl

theorem compare_swap (x y : UnpackedFloat) : y.compare x = (x.compare y).map Ordering.swap := by
  cases x with
  | notANumber => cases y <;> rfl
  | infinity s => cases y with
    | infinity t => cases s <;> cases t <;> rfl
    | notANumber => cases s <;> rfl
    | zero | finite => cases s <;> rfl
  | zero s => cases y with
    | infinity t => cases t <;> rfl
    | finite t => cases t <;> rfl
    | notANumber | zero => rfl
  | finite s m e positive => cases y with
    | infinity t => cases t <;> rfl
    | notANumber => rfl
    | zero => cases s <;> rfl
    | finite t n f positive' =>
      have order : (compare f e).then (compare n m) = ((compare e f).then (compare m n)).swap := by
        rw [Ordering.swap_then, ← Std.OrientedOrd.eq_swap, ← Std.OrientedOrd.eq_swap]
      cases s with
      | positive => cases t with
        | positive => exact congrArg some order
        | negative => rfl
      | negative => cases t with
        | positive => rfl
        | negative => exact congrArg (fun o : Ordering => some o.swap) order

theorem compare_notANumber (x : UnpackedFloat) : x.compare .notANumber = none := by
  cases x <;> rfl

theorem isSome_compare {x y : UnpackedFloat} (hx : x.isNaN = false) (hy : y.isNaN = false) :
    (x.compare y).isSome = true := by
  cases x with
  | notANumber => cases hx
  | infinity s => cases y with
    | notANumber => cases hy
    | infinity | zero | finite => cases s <;> rfl
  | zero s => cases y with
    | notANumber => cases hy
    | infinity t => cases t <;> rfl
    | finite t => cases t <;> rfl
    | zero => rfl
  | finite s => cases y with
    | notANumber => cases hy
    | infinity t => cases t <;> rfl
    | zero => cases s <;> rfl
    | finite t => cases s <;> cases t <;> rfl

theorem not_lt_of_isNaN {x y : Float} (h : y.isNaN = true) : ¬ x < y := by
  have shape : y.toModel.unpack.isNaN = true := h
  rw [lt_iff]
  cases second : y.toModel.unpack with
  | notANumber =>
    rw [compare_notANumber]
    intro below
    cases below
  | infinity | zero | finite =>
    rw [second] at shape
    cases shape

theorem not_le_of_isNaN {x y : Float} (h : x.isNaN = true) : ¬ x ≤ y := by
  have shape : x.toModel.unpack.isNaN = true := h
  rw [le_iff]
  cases first : x.toModel.unpack with
  | notANumber =>
    intro below
    cases below
  | infinity | zero | finite =>
    rw [first] at shape
    cases shape

/-- Of two numbers that are not below each other the other way, one is at most the other. -/
theorem le_of_not_lt {x y : Float} (hx : x.isNaN = false) (hy : y.isNaN = false) (h : ¬ x < y) : y ≤ x := by
  have some := isSome_compare (x := x.toModel.unpack) (y := y.toModel.unpack) hx hy
  rw [lt_iff] at h
  rw [le_iff, compare_swap]
  obtain ⟨order, eq⟩ := Option.isSome_iff_exists.1 some
  rw [eq] at h ⊢
  cases order <;> simp_all

theorem le_of_lt {x y : Float} (h : x < y) : x ≤ y := by
  rw [lt_iff] at h
  rw [le_iff, h]
  rfl

theorem isNaN_of_isFinite {x : Float} (finite : x.isFinite = true) : x.isNaN = false := by
  have shape : x.toModel.unpack.isFinite = true := finite
  show x.toModel.unpack.isNaN = false
  cases first : x.toModel.unpack with
  | notANumber =>
    rw [first] at shape
    cases shape
  | infinity | zero | finite => rfl

theorem abs_sub_self {x : Float} (finite : x.isFinite = true) : (x - x).abs = 0.0 := by
  have none : UnpackedFloat.sub .binary64 x.toModel.unpack x.toModel.unpack = .zero .positive := by
    have shape : x.toModel.unpack.isFinite = true := finite
    cases first : x.toModel.unpack with
    | notANumber | infinity =>
      rw [first] at shape
      cases shape
    | zero s => cases s <;> rfl
    | finite s m e positive =>
      rw [sub_finite, Int.sub_self]
      rfl
  show Float.ofModel (Float.Model.pack (unpack .binary64 (UnpackedFloat.pack .binary64
    (UnpackedFloat.sub .binary64 x.toModel.unpack x.toModel.unpack))).abs) = _
  rw [none]
  rfl

theorem isNaN_abs_sub_self {x : Float} (wild : x.isFinite = false) : (x - x).abs.isNaN = true := by
  have none : UnpackedFloat.sub .binary64 x.toModel.unpack x.toModel.unpack = .notANumber := by
    have shape : x.toModel.unpack.isFinite = false := wild
    cases first : x.toModel.unpack with
    | notANumber => rfl
    | infinity s => cases s <;> rfl
    | zero | finite =>
      rw [first] at shape
      cases shape
  show (unpack .binary64 (UnpackedFloat.pack .binary64 (unpack .binary64 (UnpackedFloat.pack .binary64
    (UnpackedFloat.sub .binary64 x.toModel.unpack x.toModel.unpack))).abs)).isNaN = true
  rw [none]
  rfl

/-- No double, not even an infinity, has a distance to itself that is above a positive number. -/
theorem not_lt_abs_sub_self {y : Float} (positive : ¬ y ≤ 0.0) (x : Float) : ¬ y < (x - x).abs := by
  cases finite : x.isFinite with
  | true =>
    rw [abs_sub_self finite]
    exact fun below => positive (le_of_lt below)
  | false => exact not_lt_of_isNaN (isNaN_abs_sub_self finite)

end LiveControl.Double
