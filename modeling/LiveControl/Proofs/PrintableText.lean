import LiveControl.Proofs.ScalarTokens

namespace LiveControl.Yaml

variable {cs word : List Char}

/-- A text without characters that reading turns into others. -/
theorem spots?_ofList (printable : ∀ c ∈ cs, isPrintable c = true) :
    spots? (String.ofList cs) = some ((⟨0, 0, 0⟩ : Pos).spots cs) := by
  have kept : withOneBreak cs = cs := by
    induction cs with
    | nil => rfl
    | cons c cs ih =>
      have first := printable c List.mem_cons_self
      have carriage : c.toNat ≠ 0x0D := fun same => by simp [isPrintable, same] at first
      have nextLine : c.toNat ≠ 0x85 := fun same => by simp [isPrintable, same] at first
      unfold withOneBreak
      rw [if_neg carriage, if_neg nextLine, ih fun d member => printable d (List.mem_cons_of_mem c member)]
  have allowed : cs.all isAllowed = true := by
    refine List.all_eq_true.2 fun c member => ?_
    have printable := printable c member
    simp only [isPrintable, isAllowed, Bool.or_eq_true, Bool.and_eq_true, beq_iff_eq, decide_eq_true_eq] at printable ⊢
    omega
  simp only [spots?, String.toList_ofList, allowed, kept, if_true]
  rfl

theorem all_pad (indent : Nat) : (pad indent).all isPrintable = true := List.all_eq_true.2 fun _ member =>
  List.eq_of_mem_replicate member ▸ rfl

theorem all_closed (printable : cs.all isPrintable = true) : (closed cs).all isPrintable = true := by
  unfold closed
  split
  · exact printable
  · rw [List.all_append, printable]
    rfl

theorem all_literalLines (indent : Nat) (fresh : Bool) (printable : cs.all isPrintable = true) :
    (literalLines indent fresh cs).all isPrintable = true := by
  induction cs generalizing fresh with
  | nil => rfl
  | cons c cs ih =>
    obtain ⟨first, more⟩ := Bool.and_eq_true_iff.1 (List.all_cons.symm.trans printable)
    rw [literalLines]
    split
    · rw [List.all_cons, first, ih _ more]
      rfl
    · split <;> simp [all_pad, first, ih _ more]

theorem all_singleQuotedFrom (indent : Nat) (afterEnd : Bool) (printable : cs.all isPrintable = true) :
    (singleQuotedFrom indent afterEnd cs).all isPrintable = true := by
  have quote : isPrintable '\x27' = true := rfl
  induction cs generalizing afterEnd with
  | nil => cases afterEnd <;> simp [singleQuotedFrom, all_pad, quote]
  | cons c cs ih =>
    obtain ⟨first, more⟩ := Bool.and_eq_true_iff.1 (List.all_cons.symm.trans printable)
    rw [singleQuotedFrom]
    split
    · rw [List.all_cons, first, ih _ more]
      rfl
    · split <;> split <;> simp [all_pad, first, quote, ih _ more]

theorem all_literalHeader (filled : cs ≠ []) (printable : ∀ c ∈ cs, isPrintable c = true) :
    (literalHeader cs).all isPrintable = true := by
  obtain ⟨chomp, header, -⟩ := exists_chomp filled printable
  rw [header, indentMark]
  cases hidesIndent cs <;> cases chomp <;> rfl

theorem Spelled.all {indent : Nat} {style : Style} (spelled : Spelled indent word style cs) : cs.all isPrintable = true := by
  have quotes : isPrintable '\x22' = true ∧ isPrintable '\x27' = true := ⟨rfl, rfl⟩
  have kept {cs : List Char} (clean : needsEscapes cs = false) : cs.all isPrintable = true := by
    have printable := (Bool.or_eq_false_iff.1 clean).1
    exact List.all_eq_true.2 fun c member => by simpa using List.any_eq_false.1 printable c member
  cases spelled with
  | literal lines fits =>
    simp only [fitsLiteral, Bool.not_eq_true', Bool.or_eq_false_iff] at fits
    have printable := kept fits.1
    have header := all_literalHeader (List.ne_nil_of_mem lines) (List.all_eq_true.1 printable)
    have lineEnd : isPrintable '\n' = true := rfl
    simp [header, lineEnd, all_literalLines indent true printable]
  | double =>
    have inner : (word.flatMap escaped).all isPrintable = true := List.all_eq_true.2 fun c member => by
      obtain ⟨d, -, member⟩ := List.mem_flatMap.1 member
      exact (tame_escaped member).printable
    simp [doubleQuoted, inner, quotes]
  | single line fits =>
    simp only [fitsSingleQuotes, Bool.not_eq_true', Bool.or_eq_false_iff] at fits
    simp [singleQuoted, quotes, all_singleQuotedFrom indent false (kept fits.1)]
  | plain fits => exact List.all_eq_true.2 fun c member => (fits.tame c member).printable

theorem all_scalarText (indent : Nat) (text : String) : (scalarText indent text).all isPrintable = true :=
  (spelled_scalarText indent text).all

theorem all_closed_scalarText (indent : Nat) (text : String) : (closed (scalarText indent text)).all isPrintable = true :=
  all_closed (all_scalarText indent text)

theorem all_tableField (entry : String × String) : (tableField entry).all isPrintable = true := by
  have marks : isPrintable '?' = true ∧ isPrintable ':' = true ∧ isPrintable ' ' = true := ⟨rfl, rfl, rfl⟩
  unfold tableField
  dsimp only
  split <;> simp [marks, all_scalarText, all_closed_scalarText]

end LiveControl.Yaml
