import LiveControl.Proofs.PlacedText

namespace LiveControl.Yaml

variable {p : Pos} {cs tail : List Char} {c : Char}

theorem noBreak_of_noLineEnd (inside : isLineEnd c = false) : isBreak c = false := by
  simp only [isLineEnd, Bool.or_eq_false_iff] at inside
  exact inside.1.1

/-- A character that may stand within a line as it is. -/
structure Tame (c : Char) : Prop where
  printable : isPrintable c = true
  inside : isLineEnd c = false

theorem Tame.noBreak (tame : Tame c) : isBreak c = false := noBreak_of_noLineEnd tame.inside

theorem eq_space_of_isBlank (printable : isPrintable c = true) (blank : isBlank c = true) : c = ' ' := by
  simp only [isPrintable, isBlank, Bool.or_eq_true, Bool.and_eq_true, beq_iff_eq, decide_eq_true_eq] at printable blank
  refine Char.toNat_inj.1 ?_
  show c.toNat = 0x20
  omega

/-- Blanks that a word is followed by on its line. -/
def Gap.spaces (count : Nat) : Gap := ⟨List.replicate count ' ', [], false, true⟩

theorem Gap.meaning_spaces (count : Nat) : (Gap.spaces count).meaning = List.replicate count ' ' := rfl

theorem Gap.blank_spaces (count : Nat) : (Gap.spaces count).blank ' ' = Gap.spaces (count + 1) := rfl

/-- Markers between documents stand at the start of a line. -/
theorem not_atBoundary (inner : 0 < p.column) (rest : List Spot) : atBoundary (p.spot c :: rest) = false := by
  have column : (p.column == 0) = false := beq_eq_false_iff_ne.2 (Nat.ne_of_gt inner)
  have marker (m : Char) : atMarker m (p.spot c :: rest) = false := by
    unfold atMarker
    split
    · rename_i same
      cases same
      simp [Pos.spot, column]
    · rfl
  rw [atBoundary, marker, marker, Bool.or_false]

/-- A colon within a plain scalar is followed by something. -/
theorem endsPlain_inside (p : Pos) (tail : List Char) {before : Char} (quiet : hasIndicatorAfter before (c :: cs) = false) :
    endsPlain false (p.spot c) ((p.next c).spots (cs ++ tail)) = false := by
  simp only [hasIndicatorAfter, Bool.or_eq_false_iff] at quiet
  obtain ⟨⟨colon, -⟩, -⟩ := quiet
  simp only [endsPlain, Bool.false_and, Bool.or_false]
  by_cases isColon : c = ':'
  · subst isColon
    cases cs with
    | nil => cases colon
    | cons d cs =>
      have goesOn : (isBlank d || isLineEnd d) = false := by simpa [goesOnWithGap] using colon
      have gap : (isBlank d || isBreak d) = false := by
        simp only [isLineEnd, Bool.or_eq_false_iff] at goesOn ⊢
        exact ⟨goesOn.1, goesOn.2.1.1⟩
      rw [List.cons_append, Pos.spots_cons]
      simpa [atGap, Pos.spot] using gap
  · simp [Pos.spot, isColon]

/-- The words of a plain scalar, with what is between them. -/
theorem plainFrom_words {floor : Nat} {before : Char} {text : List Char} {count : Nat}
    (tame : ∀ c ∈ cs, Tame c) (quiet : hasIndicatorAfter before cs = false) (filled : cs ≠ [])
    (tight : cs.getLast? ≠ some ' ') (blank : 0 < count → isBlank before = true ∧ floor ≤ p.column ∧ 0 < p.column)
    (deep : floor ≤ p.column + 1) :
    plainFrom false floor text (.spaces count) (p.spots (cs ++ tail)) =
      plainFrom false floor (cs.reverse ++ (List.replicate count ' ' ++ text)) .none ((p.after cs).spots tail) := by
  induction cs generalizing p before text count with
  | nil => exact absurd rfl filled
  | cons c cs ih =>
    have here := tame c List.mem_cons_self
    have later := fun d member => tame d (List.mem_cons_of_mem c member)
    have quieter : hasIndicatorAfter c cs = false := by
      simp only [hasIndicatorAfter, Bool.or_eq_false_iff] at quiet
      exact quiet.2
    have column : (p.next c).column = p.column + 1 := by rw [Pos.next_inside here.noBreak]
    rw [List.cons_append, Pos.spots_cons, plainFrom, if_neg (by simp [Pos.spot, here.noBreak])]
    by_cases space : isBlank c = true
    · obtain rfl := eq_space_of_isBlank here.printable space
      have more : cs ≠ [] := by
        rintro rfl
        exact tight rfl
      have tighter : cs.getLast? ≠ some ' ' := by rwa [List.getLast?_cons_of_ne_nil more] at tight
      rw [if_pos (by simpa [Pos.spot] using space), if_neg (by simp [Pos.spot]), show (p.spot ' ').char = ' ' from rfl,
        Gap.blank_spaces, ih later quieter more tighter (fun _ => ⟨rfl, by omega⟩) (by omega)]
      simp [List.replicate_succ]
    · have inside : (p.spot c).char = c := rfl
      have goesOn :
          ((!(Gap.spaces count).isNone) && endsAfterGap false floor (p.spot c) ((p.next c).spots (cs ++ tail))) = false := by
        rcases Nat.eq_zero_or_pos count with rfl | some
        · rfl
        · obtain ⟨spaced, deep, inner⟩ := blank some
          have comment : c ≠ '#' := by
            rintro rfl
            simp only [hasIndicatorAfter, spaced, Bool.true_or, Bool.and_true, Bool.or_eq_false_iff] at quiet
            exact absurd quiet.1.2 (by decide)
          rw [endsAfterGap, not_atBoundary inner]
          simp [Pos.spot, comment, Nat.not_lt.2 deep]
      have ends := endsPlain_inside p tail quiet
      rw [if_neg (by simpa [Pos.spot] using space), goesOn, if_neg Bool.false_ne_true,
        if_neg (show ¬strayColon false _ _ = true from Bool.false_ne_true), ends, if_neg Bool.false_ne_true, inside,
        Gap.meaning_spaces]
      cases cs with
      | nil => rfl
      | cons d cs =>
        have again : plainFrom false floor (c :: (List.replicate count ' ' ++ text)) (.spaces 0)
              ((p.next c).spots (d :: cs ++ tail)) = _ :=
          ih later quieter (List.cons_ne_nil d cs) tight (fun none => absurd none (Nat.lt_irrefl 0)) (by omega)
        refine again.trans ?_
        simp

/-- What a text is that reads back when it is written plain. -/
structure FitsPlain (cs : List Char) : Prop where
  filled : cs ≠ []
  tame : ∀ c ∈ cs, Tame c
  front : cs.head? ≠ some ' '
  back : cs.getLast? ≠ some ' '
  starts : startsIndicator cs = false
  quiet : hasIndicatorAfter 'a' cs = false

theorem FitsPlain.of_fitsPlain (filled : cs ≠ []) (fits : fitsPlain cs = true) : FitsPlain cs := by
  simp only [fitsPlain, needsEscapes, hasLooseEnd, Bool.not_eq_true', Bool.or_eq_false_iff] at fits
  obtain ⟨⟨⟨⟨⟨⟨printable, -⟩, lines⟩, front, back⟩, indicator⟩, -⟩, -⟩ := fits
  cases cs with
  | nil => exact absurd rfl filled
  | cons c cs =>
    have starts : startsIndicator (c :: cs) = false := (Bool.or_eq_false_iff.1 indicator).1
    have quiet : hasIndicatorAfter c cs = false := (Bool.or_eq_false_iff.1 indicator).2
    have colon : (c == ':' && goesOnWithGap cs) = false := by
      simp only [startsIndicator, Bool.or_eq_false_iff] at starts
      by_cases isColon : c = ':'
      · subst isColon
        simpa using starts.2
      · simp [isColon]
    refine ⟨List.cons_ne_nil c cs, fun d member => ⟨?_, ?_⟩, ?_, ?_, starts, ?_⟩
    · simpa using List.any_eq_false.1 printable d member
    · simpa using List.any_eq_false.1 lines d member
    · rintro ⟨⟩
      cases front
    · intro last
      rw [last] at back
      cases back
    · have comment : (c == '#' && (isBlank 'a' || isLineEnd 'a')) = false := Bool.and_false _
      simp only [hasIndicatorAfter, colon, comment, quiet, Bool.or_false]

section Ends

variable {floor indent : Nat} {text : List Char}

theorem plainFrom_pad {gap : Gap} (crossed : gap.crossed = true) :
    plainFrom false floor text gap (p.spots (pad indent ++ tail)) =
      plainFrom false floor text gap ((p.after (pad indent)).spots tail) := by
  induction indent generalizing p with
  | zero => rfl
  | succ indent ih =>
    have step : plainFrom false floor text gap (p.spots (' ' :: (pad indent ++ tail))) =
        plainFrom false floor text gap ((p.next ' ').spots (pad indent ++ tail)) := by
      rw [Pos.spots_cons, plainFrom]
      simp [Pos.spot, isBreak, isBlank, Gap.blank, crossed]
    exact step.trans ih

/-- A plain scalar ends before less indentation on the next line. -/
theorem plainFrom_lineEnd (p : Pos) (text : List Char) (less : indent < floor) (onward : Onward tail) :
    plainFrom false floor text .none (p.spots ('\n' :: (pad indent ++ tail))) =
      some (text.reverse, true, (⟨p.line + 1, indent, indent⟩ : Pos).spots tail) := by
  rw [Pos.spots_cons, Pos.next_break rfl, plainFrom, if_pos (show isBreak (p.spot '\n').char = true from rfl),
    plainFrom_pad rfl, after_pad, Nat.zero_add]
  cases tail with
  | nil => rfl
  | cons c tail =>
    have front := onward c rfl
    simp only [passedOver, Bool.or_eq_false_iff] at front
    obtain ⟨⟨⟨inside, blank⟩, -⟩, -⟩ := front
    rw [Pos.spots_cons, plainFrom]
    simp [Pos.spot, inside, blank, Gap.isNone, Gap.lineEnd, endsAfterGap, less]

/-- A plain scalar ends before a colon with a gap behind it. -/
theorem plainFrom_colon (p : Pos) (floor : Nat) (text : List Char) (gap : atGap ((p.next ':').spots tail) = true) :
    plainFrom false floor text .none (p.spots (':' :: tail)) = some (text.reverse, false, p.spots (':' :: tail)) := by
  rw [Pos.spots_cons, plainFrom]
  simp [Pos.spot, isBreak, isBlank, strayColon, endsPlain, gap, Gap.isNone, Gap.none]

end Ends

theorem FitsPlain.plainFrom_eq (tail : List Char) {floor : Nat} (fits : FitsPlain cs) (deep : floor ≤ p.column + 1) :
    plainFrom false floor [] .none (p.spots (cs ++ tail)) =
      plainFrom false floor cs.reverse .none ((p.after cs).spots tail) := by
  have nothing : Gap.spaces 0 = .none := rfl
  have words : plainFrom false floor [] (.spaces 0) (p.spots (cs ++ tail)) = _ :=
    plainFrom_words fits.tame fits.quiet fits.filled fits.back (fun none => absurd none (Nat.lt_irrefl 0)) deep
  simpa [nothing] using words

end LiveControl.Yaml
