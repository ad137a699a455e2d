import LiveControl.Decimal.Binary

/-!
The shortest decimal of a double. Among the decimals that lie in the interval of reals that round to
the double, one with the fewest significant digits is taken, and of those the nearest. When two are
equally near, `Tie` decides.
-/

namespace LiveControl.Decimal

/-- What becomes of a value half-way between two neighbours on a grid of decimals. -/
inductive Tie
  | toEven
  | away
  deriving DecidableEq, Repr

/-- Whether a value with quotient `q` and remainder `r` by `den` goes to the upper neighbour. -/
def Tie.roundsUp (tie : Tie) (q r den : Nat) : Bool :=
  if 2 * r = den then (match tie with | .toEven => q % 2 == 1 | .away => true)
  else den < 2 * r

/-- A positive decimal: the number `0.d1 d2 d3 ... * 10 ^ (point)` with significant digits `d1 ...`,
where `point` counts the digits before the decimal point. -/
structure Digits where
  digits : List Nat
  point : Int
  deriving DecidableEq, Repr

/-- The decimal digits of a number, most significant first. -/
def digitsOf (n : Nat) : List Nat :=
  (Nat.toDigits 10 n).map fun c => c.toNat - 48

/-- The digits without the zeros at their end. -/
def dropZeros (digits : List Nat) : List Nat :=
  (digits.reverse.dropWhile (· == 0)).reverse

/-- `num / den` as a grid sees it: the interval, the value and the grid step are scaled so that the
grid is the whole numbers, and one common denominator serves all three. -/
structure Scaled where
  low : Nat
  value : Nat
  high : Nat
  den : Nat
  closed : Bool

/-- A double with its interval, seen from the grid of multiples of `10 ^ k`. Quarter units of the
mantissa make the ends of the interval whole numbers. -/
def Scaled.of (b : Binary) (k : Int) : Scaled :=
  let shift := b.exponent - 2
  let up := twoTo shift.toNat * tenTo (-k).toNat
  let den := twoTo (-shift).toNat * tenTo k.toNat
  let m := 4 * b.mantissa
  ⟨(m - if b.lowGap then 1 else 2) * up, m * up, (m + 2) * up, den, b.mantissa % 2 == 0⟩

/-- Whether a point of the grid rounds to the double. -/
def Scaled.holds (s : Scaled) (point : Nat) : Bool :=
  if s.closed then s.low ≤ point * s.den && point * s.den ≤ s.high
  else s.low < point * s.den && point * s.den < s.high

/-- The point of the grid that rounds to the double, the nearer one if both neighbours do. -/
def Scaled.pick? (s : Scaled) (tie : Tie) : Option Nat :=
  let q := s.value / s.den
  let r := s.value % s.den
  match s.holds q, s.holds (q + 1) with
  | true, true => some (if r = 0 then q else if tie.roundsUp q r s.den then q + 1 else q)
  | true, false => some q
  | false, true => some (q + 1)
  | false, false => none

/-- The number of digits before the point of a positive double: the least `p` with value below `10 ^ p`. -/
def magnitude (b : Binary) : Int :=
  let up := twoTo b.exponent.toNat * tenTo 350
  let down := twoTo (-b.exponent).toNat
  (Nat.toDigits 10 (b.mantissa * up / down)).length - 350

/-- The shortest decimal of a positive double, from the first grid of at most `count` ever finer
ones that has a point in the interval. Seventeen digits always suffice. -/
def shortestFrom (b : Binary) (tie : Tie) (k : Int) : Nat → Digits
  | 0 => ⟨[], 0⟩
  | count + 1 =>
    match (Scaled.of b k).pick? tie with
    | some d =>
      let ds := digitsOf d
      ⟨dropZeros ds, ds.length + k⟩
    | none => shortestFrom b tie (k - 1) count

/-- The shortest decimal of a positive double. -/
def shortest (b : Binary) (tie : Tie) : Digits :=
  shortestFrom b tie (magnitude b - 1) 20

end LiveControl.Decimal
