import LiveControl.Proofs.ScalarTokens

namespace LiveControl.Yaml

variable {cs ds : List Char} {c : Char}

theorem bytes_append : Pos.bytes (cs ++ ds) = Pos.bytes cs + Pos.bytes ds := by
  induction cs with
  | nil => simp [Pos.bytes]
  | cons c cs ih => rw [List.cons_append, Pos.bytes, ih, Pos.bytes, Nat.add_assoc]

theorem bytes_nil : Pos.bytes [] = 0 := rfl

theorem bytes_cons : Pos.bytes (c :: cs) = c.utf8Size + Pos.bytes cs := rfl

theorem bytes_toList (text : String) : Pos.bytes text.toList = text.utf8ByteSize := by
  have whole (cs : List Char) : (String.ofList cs).utf8ByteSize = Pos.bytes cs := by
    induction cs with
    | nil => rfl
    | cons c cs ih => simp [String.ofList_cons, String.utf8ByteSize_append, ih, Pos.bytes, String.utf8ByteSize_singleton]
  rw [← whole, String.ofList_toList]

theorem utf8Size_upperHexDigit : ∀ n < 16, (upperHexDigit n).utf8Size = 1 := by decide

theorem bytes_upperHex (n count : Nat) : Pos.bytes (upperHex n count) = count := by
  induction count generalizing n with
  | zero => rfl
  | succ count ih =>
    have digit := utf8Size_upperHexDigit (n % 16) (Nat.mod_lt _ (by decide))
    rw [upperHex, bytes_append, ih]
    simp [Pos.bytes, digit]

theorem utf8Size_shortLetter {n : Nat} (short : shortLetter? n = some c) : c.utf8Size = 1 := by
  unfold shortLetter? at short
  split at short <;> cases short <;> rfl

theorem bytes_escaped (c : Char) : Pos.bytes (escaped c) ≤ 6 * c.utf8Size := by
  have some := c.utf8Size_pos
  have back : '\\'.utf8Size = 1 := rfl
  have x : 'x'.utf8Size = 1 := rfl
  have u : 'u'.utf8Size = 1 := rfl
  cases short : shortLetter? c.toNat with
  | some letter =>
    have one := utf8Size_shortLetter short
    simp only [escaped, short, bytes_cons, bytes_nil, back, one]
    omega
  | none =>
    simp only [escaped, short]
    split
    · simp only [bytes_cons, bytes_nil]
      omega
    · rename_i unprintable
      split
      · simp only [bytes_cons, bytes_upperHex, back, x]
        omega
      · split
        · simp only [bytes_cons, bytes_upperHex, back, u]
          omega
        · -- Whatever is past the four digits is printable.
          refine absurd ?_ unprintable
          simp only [isPrintable, Bool.or_eq_true, decide_eq_true_eq]
          omega

theorem bytes_doubleQuoted (cs : List Char) : Pos.bytes (doubleQuoted cs) ≤ 6 * Pos.bytes cs + 2 := by
  have quote : '\x22'.utf8Size = 1 := rfl
  have inner : Pos.bytes (cs.flatMap escaped) ≤ 6 * Pos.bytes cs := by
    induction cs with
    | nil => exact Nat.le_refl _
    | cons c cs ih =>
      have first := bytes_escaped c
      rw [List.flatMap_cons, bytes_append, bytes_cons]
      omega
  rw [doubleQuoted, bytes_cons, bytes_append, bytes_cons, bytes_nil, quote]
  omega

theorem bytes_singleQuoted (indent : Nat) (line : ∀ c ∈ cs, isLineEnd c = false) :
    Pos.bytes (singleQuoted indent cs) ≤ 2 * Pos.bytes cs + 2 := by
  have quote : '\x27'.utf8Size = 1 := rfl
  have inner : Pos.bytes (singleQuotedFrom indent false cs) ≤ 2 * Pos.bytes cs + 1 := by
    induction cs with
    | nil => exact Nat.le_refl _
    | cons c cs ih =>
      have ih := ih fun d member => line d (List.mem_cons_of_mem c member)
      rw [singleQuotedFrom, if_neg (Bool.eq_false_iff.1 (line c List.mem_cons_self)), if_neg Bool.false_ne_true,
        List.nil_append, bytes_append, bytes_cons]
      split
      · subst c
        rw [bytes_cons, bytes_cons, bytes_nil, quote]
        omega
      · rw [bytes_cons, bytes_nil]
        omega
  rw [singleQuoted, bytes_cons, quote]
  omega

theorem inside_singleQuoted {indent : Nat} (line : ∀ c ∈ cs, isLineEnd c = false) :
    ∀ d ∈ singleQuoted indent cs, isBreak d = false := by
  have inner : ∀ d ∈ singleQuotedFrom indent false cs, isBreak d = false := by
    induction cs with
    | nil => simp [singleQuotedFrom, isBreak]
    | cons c cs ih =>
      have ih := ih fun d member => line d (List.mem_cons_of_mem c member)
      have inside := line c List.mem_cons_self
      rw [singleQuotedFrom, if_neg (Bool.eq_false_iff.1 inside), if_neg Bool.false_ne_true, List.nil_append]
      intro d member
      rcases List.mem_append.1 member with member | member
      · split at member
        · simp only [List.mem_cons, List.not_mem_nil, or_false, or_self] at member
          subst d
          rfl
        · obtain rfl := List.mem_singleton.1 member
          exact noBreak_of_noLineEnd inside
      · exact ih d member
  intro d member
  rcases List.mem_cons.1 member with rfl | member
  · rfl
  · exact inner d member

end LiveControl.Yaml
