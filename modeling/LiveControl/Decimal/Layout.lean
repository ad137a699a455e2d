import LiveControl.Decimal.Shortest

namespace LiveControl.Decimal

/-- How the shortest digits of a double are laid out as text. -/
structure Layout where
  tie : Tie
  /-- The first digit's exponents that are written positionally. -/
  positional : Int → Bool
  /-- Whether a whole number ends in `.0`. -/
  keepsPoint : Bool
  /-- What stands between the digits and an exponent that is not negative. -/
  exponentMark : String
  notANumber : String
  infinity : String

def digitText (digits : List Nat) : String :=
  String.ofList (digits.map fun d => Char.ofNat (48 + d))

/-- Digits around a decimal point that stands after `point` digits. -/
def Digits.positional (d : Digits) (keepsPoint : Bool) : String :=
  let count := d.digits.length
  if d.point ≤ 0 then
    "0." ++ digitText (List.replicate (-d.point).toNat 0 ++ d.digits)
  else if (count : Int) ≤ d.point then
    digitText (d.digits ++ List.replicate (d.point.toNat - count) 0) ++ if keepsPoint then ".0" else ""
  else
    digitText (d.digits.take d.point.toNat) ++ "." ++ digitText (d.digits.drop d.point.toNat)

/-- One digit, a point if more digits follow, and the exponent of the first digit. -/
def Digits.scientific (d : Digits) (mark : String) : String :=
  let exponent := d.point - 1
  let tail := d.digits.drop 1
  digitText (d.digits.take 1) ++ (if tail.isEmpty then "" else "." ++ digitText tail) ++
    (if exponent < 0 then "e-" ++ toString (-exponent).toNat else mark ++ toString exponent.toNat)

/-- The text of a double in a layout. -/
def Layout.write (l : Layout) (x : Float) : String :=
  match Binary.ofFloat? x with
  | none => if x.isNaN then l.notANumber else if x < 0.0 then "-" ++ l.infinity else l.infinity
  | some b =>
    let sign := if b.negative then "-" else ""
    let body :=
      if b.mantissa = 0 then if l.keepsPoint then "0.0" else "0"
      else
        let d := shortest b l.tie
        if l.positional (d.point - 1) then d.positional l.keepsPoint else d.scientific l.exponentMark
    sign ++ body

/-- Numbers in documents: positional for exponents from -5 to 15, always with a point or an exponent. -/
def documentLayout : Layout :=
  ⟨.toEven, fun e => -5 ≤ e && e ≤ 15, true, "e+", "null", "null"⟩

/-- Numbers in messages: always positional, whole numbers without a point. -/
def messageLayout : Layout :=
  ⟨.away, fun _ => true, false, "e", "NaN", "inf"⟩

/-- The text of a finite double with `places` digits after the point; a half goes to the even neighbour. -/
def fixed (places : Nat) (x : Float) : String :=
  match Binary.ofFloat? x with
  | none => messageLayout.write x
  | some b =>
    let num := b.mantissa * twoTo b.exponent.toNat * tenTo places
    let den := twoTo (-b.exponent).toNat
    let q := num / den
    let rounded := if Tie.toEven.roundsUp q (num % den) den then q + 1 else q
    let ds := digitsOf rounded
    let padded := List.replicate (places + 1 - ds.length) 0 ++ ds
    let whole := padded.length - places
    (if b.negative then "-" else "") ++ digitText (padded.take whole) ++
      (if places = 0 then "" else "." ++ digitText (padded.drop whole))

end LiveControl.Decimal
