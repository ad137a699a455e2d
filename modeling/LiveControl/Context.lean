import LiveControl.Json.Basic
import LiveControl.Text.Blank
import LiveControl.Decimal.Reading

namespace LiveControl.Bag

/-- A text entry without its outer blanks; a blank one counts as absent. -/
def text? (bag : Bag) (key : String) : Option String :=
  (bag.get? key).bind Json.str? |>.bind Text.trimmed?

theorem text?_eq_some_iff {bag : Bag} {key s : String} :
    bag.text? key = some s ↔ ∃ text, bag.get? key = some (.str text) ∧ s = Text.trim text ∧ s ≠ "" := by
  simp only [text?, Option.bind_eq_some_iff, Text.trimmed?_eq_some_iff]
  constructor
  · rintro ⟨text, ⟨value, found, isText⟩, trimmed, filled⟩
    cases value <;> cases isText
    exact ⟨text, found, trimmed, filled⟩
  · rintro ⟨text, found, trimmed, filled⟩
    exact ⟨text, ⟨.str text, found, rfl⟩, trimmed, filled⟩

/-- A number of 32 bits as digits, optionally after a plus sign. -/
def uint32OfText? (s : String) : Option UInt32 :=
  let cs := s.toList
  let digits := match cs with
    | '+' :: rest => rest
    | _ => cs
  if digits.isEmpty || !digits.all Decimal.isDigit then none
  else
    let n := Decimal.natOf digits
    if n < UInt32.size then some (UInt32.ofNat n) else none

/-- A number of 32 bits, written as a whole number or as a text with digits. -/
def uint32? (bag : Bag) (key : String) : Option UInt32 :=
  match bag.get? key with
  | some (.int n) => if 0 ≤ n ∧ n < UInt32.size then some (UInt32.ofNat n.toNat) else none
  | some (.str s) => uint32OfText? (Text.trim s)
  | _ => none

end LiveControl.Bag
