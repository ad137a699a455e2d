namespace LiveControl.Text

/-- The text with A to Z replaced by a to z. -/
def asciiLower (s : String) : String :=
  String.ofList (s.toList.map Char.toLower)

/-- Equality up to the case of A to Z. -/
def eqIgnoringCase (a b : String) : Bool :=
  asciiLower a == asciiLower b

@[simp] theorem toList_asciiLower (s : String) :
    (asciiLower s).toList = s.toList.map Char.toLower := by
  simp [asciiLower]

@[simp] theorem asciiLower_asciiLower (s : String) : asciiLower (asciiLower s) = asciiLower s := by
  apply String.toList_injective
  simp only [toList_asciiLower, List.map_map]
  refine List.map_congr_left fun c _ => ?_
  show c.toLower.toLower = c.toLower
  unfold Char.toLower
  grind

theorem eqIgnoringCase_iff {a b : String} : eqIgnoringCase a b = true ↔ asciiLower a = asciiLower b := by
  simp [eqIgnoringCase]

end LiveControl.Text
