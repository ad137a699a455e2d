import LiveControl.Decimal.Shortest

/-!
Reading decimals. Two readings are kept apart: `scaled` takes as many digits as a 64-bit word holds
and scales them by one power of ten at a time, so it may miss the nearest double of a long decimal by
one place; `nearest` rounds once and is exact.
-/

namespace LiveControl.Decimal

/-- The value of a digit character. -/
def digit? (c : Char) : Option Nat :=
  if '0' ≤ c ∧ c ≤ '9' then some (c.toNat - 48) else none

def isDigit (c : Char) : Bool := (digit? c).isSome

/-- The number that a list of digit characters spells. -/
def natOf (cs : List Char) : Nat :=
  cs.foldl (fun n c => n * 10 + (c.toNat - 48)) 0

/-- A written decimal, taken apart: sign, digits before and after the point, exponent. `point` and
`power` say whether the point and the exponent were written. -/
structure Written where
  negative : Bool
  whole : List Char
  fraction : List Char
  exponent : Int
  point : Bool
  power : Bool

/-- The digits of a significand as they are taken up, and how many were left out. -/
structure Intake where
  significand : Nat
  omitted : Nat

/-- Takes up one digit unless the significand would outgrow 64 bits; after the first digit left out
all further ones are left out. -/
def Intake.digit (i : Intake) (c : Char) : Intake :=
  let next := i.significand * 10 + (c.toNat - 48)
  if i.omitted = 0 ∧ next < UInt64.size then ⟨next, 0⟩ else ⟨i.significand, i.omitted + 1⟩

/-- `x * 10 ^ -n`, in steps of at most 308 places. -/
def scaleDown (x : Float) (n : Nat) : Float :=
  if n ≤ 308 then x / Float.ofScientific 1 false n
  else if x == 0.0 then x
  else scaleDown (x / Float.ofScientific 1 false 308) (n - 308)
termination_by n

/-- The double that digits taken up into a word and scaled by powers of ten give, unless it is too
large for a double. -/
def scaled? (w : Written) : Option Float :=
  let whole := w.whole.foldl Intake.digit ⟨0, 0⟩
  let all := w.fraction.foldl Intake.digit ⟨whole.significand, 0⟩
  let taken := w.fraction.length - all.omitted
  let exponent : Int := whole.omitted - taken + w.exponent
  let x := Float.ofNat all.significand
  let magnitude :=
    if exponent < 0 then some (scaleDown x (-exponent).toNat)
    else if exponent ≤ 308 then
      let y := x * Float.ofScientific 1 false exponent.toNat
      if y.isInf then none else some y
    else if x == 0.0 then some x
    else none
  magnitude.map fun y => if w.negative then -y else y

/-- `num / den` as a whole number. -/
def Tie.round (tie : Tie) (num den : Nat) : Nat :=
  if tie.roundsUp (num / den) (num % den) den then num / den + 1 else num / den

/-- The bits of the double nearest to `num / den`. The least double above zero is the unit; of a number with
more than 53 bits in that unit, `shift` bits are rounded away. The bits count the doubles from zero on, so a
mantissa that is rounded up to the next power of two runs on into the next exponent. -/
def nearestBits (num den : Nat) : Nat :=
  let units := num * twoTo 1074
  let shift := (units / den).log2 - 52
  shift * twoTo 52 + Tie.toEven.round units (den * twoTo shift)

/-- The bits of infinity; those of every finite double without a sign are less. -/
def infiniteBits : Nat := 2047 * twoTo 52

/-- The double nearest to a written decimal, unless it is too large for a double. -/
def nearest? (w : Written) : Option Float :=
  let significand := natOf (w.whole ++ w.fraction)
  let exponent : Int := w.exponent - w.fraction.length
  let bound : Int := 400 + (w.whole.length + w.fraction.length : Nat)
  let bits :=
    if significand = 0 then 0
    else if bound < exponent then infiniteBits
    else if exponent < -bound then 0
    else nearestBits (significand * tenTo exponent.toNat) (tenTo (-exponent).toNat)
  if bits < infiniteBits then
    some (Float.ofBits (UInt64.ofNat (if w.negative then twoTo 63 + bits else bits)))
  else none

end LiveControl.Decimal
