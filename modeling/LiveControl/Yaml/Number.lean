import LiveControl.Decimal.Binary
import LiveControl.Decimal.Reading
import LiveControl.Text.HexDigit

/-!
Numbers as plain scalars. Which texts are numbers decides both what a scalar means and which texts
have to be quoted so that they stay texts.
-/

namespace LiveControl.Yaml

/-- A sign in front of a text, if there is one, and the text without it. -/
def splitSign : List Char → Option Char × List Char
  | '+' :: rest => (some '+', rest)
  | '-' :: rest => (some '-', rest)
  | cs => (none, cs)

/-- Takes a decimal apart: an optional sign, digits around an optional point, at least one of them, and
an optional exponent. -/
def written? (cs : List Char) : Option Decimal.Written := do
  let (sign, cs) := splitSign cs
  let whole := cs.takeWhile Decimal.isDigit
  let cs := cs.dropWhile Decimal.isDigit
  let (point, cs) := match cs with
    | '.' :: rest => (true, rest)
    | _ => (false, cs)
  let fraction := if point then cs.takeWhile Decimal.isDigit else []
  let cs := if point then cs.dropWhile Decimal.isDigit else cs
  if whole.isEmpty && fraction.isEmpty then none
  let (power, cs) := match cs with
    | 'e' :: rest | 'E' :: rest => (true, rest)
    | _ => (false, cs)
  let (down, cs) := if power then splitSign cs else (none, cs)
  let digits := cs.takeWhile Decimal.isDigit
  if power != !digits.isEmpty || !(cs.dropWhile Decimal.isDigit).isEmpty then none
  let size : Int := Decimal.natOf digits
  some ⟨sign == some '-', whole, fraction, if down == some '-' then -size else size, point, power⟩

/-- The double that a plain scalar means: a decimal in range, an infinity or not-a-number. One plus
sign may stand in front, except before not-a-number. -/
def float? (text : String) : Option Float :=
  let cs := text.toList
  let unsigned := match cs with
    | '+' :: rest => rest
    | _ => cs
  if cs.head? = some '+' && (splitSign unsigned).1.isSome then none
  else if [".inf", ".Inf", ".INF"].contains (String.ofList unsigned) then some (1.0 / 0.0)
  else if ["-.inf", "-.Inf", "-.INF"].contains text then some (-(1.0 / 0.0))
  else if [".nan", ".NaN", ".NAN"].contains text then some (0.0 / 0.0)
  else written? unsigned >>= Decimal.nearest?

/-- Two or more digits, perhaps behind a sign, of which the first is zero. They are no number. -/
def isPaddedDigits (text : String) : Bool :=
  match (splitSign text.toList).2 with
  | '0' :: d :: rest => (d :: rest).all Decimal.isDigit
  | _ => false

def digitIn? (base : Nat) (c : Char) : Option Nat := (Text.hexValue? c).filter fun n => n < base

/-- The number that digits of a base spell. -/
def natIn? (base : Nat) (cs : List Char) : Option Nat :=
  if cs.isEmpty then none
  else cs.foldlM (fun n c => (digitIn? base c).map fun d => n * base + d) 0

/-- Whether a text is a whole number of at most 128 bits in base 16, 8 or 2. Those in base 10 are
decimals anyway. -/
def isBasedInteger (text : String) : Bool :=
  let (sign, cs) := splitSign text.toList
  let base? := match cs with
    | '0' :: 'x' :: rest => some (16, rest)
    | '0' :: 'o' :: rest => some (8, rest)
    | '0' :: 'b' :: rest => some (2, rest)
    | _ => none
  match base? with
  | none => false
  | some (base, digits) =>
    match natIn? base digits with
    | none => false
    | some n => if sign == some '-' then n ≤ Decimal.twoTo 127 else n < Decimal.twoTo 128

end LiveControl.Yaml
