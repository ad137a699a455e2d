import LiveControl.Text.CaseTable

namespace LiveControl.Text

/-- The lowercase of one character away from its neighbours. -/
def lowerChar (c : Char) : List Char :=
  if c.toNat < 0x80 then [c.toLower]
  else if c.toNat = 0x130 then [Char.ofNat 0x69, Char.ofNat 0x307]
  else match CaseTable.lowerRuns.findSome? (·.lower? c.toNat) with
    | some n => [Char.ofNat n]
    | none => [c]

/-- Whether the nearest character that is not case-ignorable is a cased one. -/
def meetsCased (cs : List Char) : Bool :=
  match cs.dropWhile fun c => CaseTable.covers CaseTable.ignorableRanges c.toNat with
  | [] => false
  | c :: _ => CaseTable.covers CaseTable.casedRanges c.toNat

/-- Lowercase of the text `cs` that follows the text whose reverse is `before`. A capital sigma is
final when the word has letters before it and none after it. -/
def lowerAfter (before : List Char) : List Char → List Char
  | [] => []
  | c :: rest =>
    let lowered :=
      if c.toNat = 0x3A3 then
        if meetsCased before && !meetsCased rest then [Char.ofNat 0x3C2] else [Char.ofNat 0x3C3]
      else lowerChar c
    lowered ++ lowerAfter (c :: before) rest

/-- The lowercase of a text in all scripts. -/
def lowercase (s : String) : String :=
  String.ofList (lowerAfter [] s.toList)

end LiveControl.Text
