import LiveControl.Json.Parser
import LiveControl.Json.Printer

namespace LiveControl.Json

namespace Reader

theorem hexValue?_hexDigit : ∀ n < 16, Text.hexValue? (hexDigit n) = some n := by decide

variable {keeping : Keeping} {b : Builder}

theorem foldlM_short {letters : List Char} {c d : Char} (short : shortEscape? d = some c) (named : d ≠ 'u') :
    ['\\', d].foldlM (step keeping) ⟨.text (some letters), b⟩ = some ⟨.text (some (c :: letters)), b⟩ := by
  simp [List.foldlM, step, within, escaping, short, named]

/-- A control character without a short escape is read from its four digits. -/
theorem foldlM_digits {letters : List Char} {c : Char} (control : c.toNat < 0x20) :
    ['\\', 'u', '0', '0', hexDigit (c.toNat / 16), hexDigit (c.toNat % 16)].foldlM (step keeping)
      ⟨.text (some letters), b⟩ = some ⟨.text (some (c :: letters)), b⟩ := by
  have zero : Text.hexValue? '0' = some 0 := by decide
  have high := hexValue?_hexDigit (c.toNat / 16) (by omega)
  have low := hexValue?_hexDigit (c.toNat % 16) (by omega)
  have value : c.toNat / 16 * 16 + c.toNat % 16 = c.toNat := by omega
  have plain : ¬(0xD800 ≤ c.toNat ∧ c.toNat ≤ 0xDBFF) ∧ ¬(0xDC00 ≤ c.toNat ∧ c.toNat ≤ 0xDFFF) := by omega
  simp [List.foldlM, step, within, escaping, zero, high, low, afterUnit, value, plain]

/-- A character is read from the way in which it stands inside quotes. -/
theorem foldlM_escaped (letters : List Char) (c : Char) :
    (escaped c).foldlM (step keeping) ⟨.text (some letters), b⟩ = some ⟨.text (some (c :: letters)), b⟩ := by
  unfold escaped
  split
  case h_8 _ quote backslash _ _ _ _ _ =>
    split
    · rename_i control
      exact foldlM_digits control
    · rename_i printable
      simp only [List.foldlM, step, within, if_neg quote, if_neg backslash, if_neg printable]
      rfl
  all_goals
    rename_i code
    have short : c = Char.ofNat c.toNat := (Char.ofNat_toNat c).symm
    exact foldlM_short (by rw [short, code]; rfl) (by decide)

theorem foldlM_flatMap_escaped (letters cs : List Char) :
    (cs.flatMap escaped).foldlM (step keeping) ⟨.text (some letters), b⟩ =
      some ⟨.text (some (cs.reverse ++ letters)), b⟩ := by
  induction cs generalizing letters with
  | nil => rfl
  | cons c cs ih =>
    rw [List.flatMap_cons, List.foldlM_append, foldlM_escaped]
    simp [ih]

/-- A text between quotes is the token of that text. -/
theorem foldlM_quoted (s : String) :
    (quoted s).toList.foldlM (step keeping) ⟨.between, b⟩ = emit keeping b (.text (some s)) .between := by
  rw [quoted, String.toList_ofList, List.cons_append, List.foldlM_cons]
  show ((s.toList.flatMap escaped ++ ['\x22']).foldlM (step keeping) ⟨.text (some []), b⟩) = _
  rw [List.foldlM_append, foldlM_flatMap_escaped]
  simp [List.foldlM, step, within]

/-- A list takes a name where a value may stand in it. -/
theorem foldlM_name {expect : Expect} (awaits : expect = .value ∨ expect = .valueOrEnd) (done : List Json)
    (name : String) :
    (quoted name).toList.foldlM (step keeping) ⟨.between, ⟨[.arr done], expect⟩⟩ =
      some ⟨.between, ⟨[.arr done], .rest (.str name)⟩⟩ := by
  rw [foldlM_quoted]
  cases keeping <;> rcases awaits with rfl | rfl <;> rfl

/-- Behind the bracket stands the whole list, with the names that were read before. -/
theorem foldlM_compactItems {names : List String} (filled : names ≠ []) {expect : Expect} {done : List Json}
    (awaits : expect = .value ∨ expect = .valueOrEnd) :
    ((compactItems (names.map .str)).toList ++ [']']).foldlM (step keeping) ⟨.between, ⟨[.arr done], expect⟩⟩ =
      some ⟨.between, ⟨[], .rest (.arr (done.reverse ++ names.map .str))⟩⟩ := by
  induction names generalizing done expect with
  | nil => exact absurd rfl filled
  | cons name names ih =>
    cases names with
    | nil =>
      have whole : done.reverse ++ [Json.str name] = (Json.str name :: done).reverse := List.reverse_cons.symm
      rw [List.map_singleton, whole, List.foldlM_append]
      show ((quoted name).toList.foldlM (step keeping) _ >>= _) = _
      rw [foldlM_name awaits]
      rfl
    | cons next names =>
      have whole : done.reverse ++ (name :: next :: names).map Json.str =
          (Json.str name :: done).reverse ++ (next :: names).map Json.str := by simp
      have items : (compactItems ((name :: next :: names).map Json.str)).toList =
          (quoted name).toList ++ ',' :: (compactItems ((next :: names).map Json.str)).toList := by
        show (quoted name ++ "," ++ compactItems ((next :: names).map Json.str)).toList = _
        simp
      rw [whole, items, List.append_assoc, List.foldlM_append, foldlM_name awaits]
      exact ih nofun (.inl rfl)

end Reader

theorem toList_compact_ofNames (names : List String) :
    (compact (ofNames names)).toList = '[' :: ((compactItems (names.map .str)).toList ++ [']']) := by
  show ("[" ++ compactItems (names.map .str) ++ "]").toList = _
  simp

/-- A list of names is read back from its text, whatever the characters in the names. -/
theorem parse?_compact_ofNames (names : List String) : parse? (compact (ofNames names)) = some (ofNames names) := by
  rw [parse?, parseKeeping, toList_compact_ofNames]
  cases names with
  | nil => rfl
  | cons name names =>
    show (List.foldlM (Reader.step .asBag) ⟨.between, ⟨[.arr []], .valueOrEnd⟩⟩ _ >>= _) = _
    rw [Reader.foldlM_compactItems (List.cons_ne_nil name names) (.inr rfl)]
    rfl

end LiveControl.Json
