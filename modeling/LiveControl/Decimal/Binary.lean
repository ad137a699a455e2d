namespace LiveControl.Decimal

def twoTo (n : Nat) : Nat := Nat.pow 2 n

def tenTo (n : Nat) : Nat := Nat.pow 10 n

/-- The exact value of a finite double. `lowGap` says that the double below is only half as far away
as the double above, which happens at the powers of two. -/
structure Binary where
  negative : Bool
  mantissa : Nat
  exponent : Int
  lowGap : Bool

/-- The exact value of a double, unless it is an infinity or not a number. -/
def Binary.ofFloat? (x : Float) : Option Binary :=
  let bits := x.toBits.toNat
  let negative := bits / twoTo 63 == 1
  let biased : Nat := bits / twoTo 52 % twoTo 11
  let fraction : Nat := bits % twoTo 52
  if biased = 2047 then none
  else if biased = 0 then some ⟨negative, fraction, -1074, false⟩
  else some ⟨negative, fraction + twoTo 52, (biased : Int) - 1075, fraction == 0 && biased > 1⟩

/-- The whole part of a finite double, rounded towards zero. -/
def Binary.truncate (b : Binary) : Int :=
  let magnitude : Nat :=
    if 0 ≤ b.exponent then b.mantissa * twoTo b.exponent.toNat else b.mantissa / twoTo (-b.exponent).toNat
  if b.negative then -(magnitude : Int) else magnitude

/-- The 64-bit integer nearest to zero from a double: fractions are cut off, values out of range and
infinities become the bound on their side, and not-a-number becomes zero. -/
def truncateInt64 (x : Float) : Int64 :=
  if x.isNaN then 0
  else match Binary.ofFloat? x with
    | none => if x < 0.0 then Int64.minValue else Int64.maxValue
    | some b =>
      let n := b.truncate
      if n < Int64.minValue.toInt then Int64.minValue
      else if Int64.maxValue.toInt < n then Int64.maxValue
      else Int64.ofInt n

/-- The double nearest to a 64-bit integer. -/
def ofInt64 (n : Int64) : Float := Float.ofInt n.toInt

end LiveControl.Decimal
