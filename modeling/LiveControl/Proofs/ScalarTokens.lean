import LiveControl.Proofs.LiteralScalar

namespace LiveControl.Yaml

variable {p : Pos} {cs tail : List Char} {c : Char}

/-- How a text is written. -/
def scalarStyle (text : String) : Style :=
  let cs := text.toList
  if cs.contains '\n' then if fitsLiteral cs then .literal else .quoted
  else if !meansOther text && fitsPlain cs then .plain
  else .quoted

/-- How the text `cs` may stand in a block whose lines are indented so far. -/
inductive Spelled (indent : Nat) (cs : List Char) : Style → List Char → Prop where
  | literal (lines : '\n' ∈ cs) (fits : fitsLiteral cs = true) :
    Spelled indent cs .literal (literalHeader cs ++ '\n' :: literalLines indent true cs)
  | double : Spelled indent cs .quoted (doubleQuoted cs)
  | single (line : '\n' ∉ cs) (fits : fitsSingleQuotes cs = true) : Spelled indent cs .quoted (singleQuoted indent cs)
  | plain (fits : FitsPlain cs) : Spelled indent cs .plain cs

theorem spelled_scalarText (indent : Nat) (text : String) :
    Spelled indent text.toList (scalarStyle text) (scalarText indent text) := by
  unfold scalarText scalarStyle
  by_cases lines : text.toList.contains '\n' = true
  · simp only [lines, if_true]
    split
    · exact .literal (List.contains_iff_mem.1 lines) ‹_›
    · exact .double
  · have line : '\n' ∉ text.toList := fun member => lines (List.contains_iff_mem.2 member)
    simp only [lines, Bool.false_eq_true, if_false]
    split
    · rename_i plain
      obtain ⟨means, fits⟩ := Bool.and_eq_true_iff.1 plain
      refine .plain (.of_fitsPlain ?_ fits)
      intro nothing
      obtain rfl := String.toList_eq_nil_iff.1 nothing
      cases means
    · split
      · exact .single line ‹_›
      · exact .double

namespace Layout

variable {l : Layout} {after : List Spot}

/-- A character that starts no marker between documents and no directive. -/
def Unmarked (p : Pos) (c : Char) : Prop := 0 < p.column ∨ c ≠ '%' ∧ c ≠ '-' ∧ c ≠ '.'

theorem not_atMarker (after : List Spot) (unmarked : Unmarked p c) :
    atMarker '-' (p.spot c :: after) = false ∧ atMarker '.' (p.spot c :: after) = false := by
  rcases unmarked with inner | ⟨-, dash, dot⟩
  · have outer := not_atBoundary (c := c) inner after
    exact Bool.or_eq_false_iff.1 outer
  · have marker {m : Char} (other : c ≠ m) : atMarker m (p.spot c :: after) = false := by
      unfold atMarker
      split
      · rename_i same
        cases same
        simp [Pos.spot, other]
      · rfl
    exact ⟨marker dash, marker dot⟩

theorem token_eq_inner (unmarked : Unmarked p c) : l.token (p.spot c) after = l.inner (p.spot c) after := by
  have directive : ¬(((p.spot c).column = 0 && (p.spot c).char = '%') = true) := by
    rcases unmarked with inner | ⟨percent, -, -⟩
    · simp [Pos.spot, Nat.ne_of_gt inner]
    · simp [Pos.spot, percent]
  obtain ⟨dash, dot⟩ := not_atMarker after unmarked
  simp only [token, if_neg directive, dash, dot, Bool.false_eq_true, if_false]

theorem inner_literal (block : l.outer = []) : l.inner (p.spot '|') after = l.blockText false after := by
  simp [inner, Pos.spot, isFlow, block]

/-- A plain text starts with none of the characters that mean something else there. -/
theorem inner_plain (block : l.outer = []) (starts : startsIndicator (c :: cs) = false) (word : isBlank c = false)
    (inside : isBreak c = false) :
    l.inner (p.spot c) ((p.next c).spots (cs ++ tail)) = l.plain (p.spot c) ((p.next c).spots (cs ++ tail)) := by
  obtain ⟨leading, spaced⟩ := Bool.or_eq_false_iff.1 starts
  have gap : ['?', ':', '-'].contains c = true → atGap ((p.next c).spots (cs ++ tail)) = false := by
    intro doubtful
    rw [doubtful, Bool.true_and] at spaced
    cases cs with
    | nil => cases spaced
    | cons d cs =>
      have goesOn : (isBlank d || isLineEnd d) = false := by simpa [goesOnWithGap] using spaced
      obtain ⟨word, inside⟩ := Bool.or_eq_false_iff.1 goesOn
      have within : isBreak d = false := noBreak_of_noLineEnd inside
      rw [List.cons_append, Pos.spots_cons]
      simp [atGap, Pos.spot, word, within]
  have notLeading : c ∉ leadingIndicators := by simpa using leading
  simp only [leadingIndicators, List.mem_cons, List.not_mem_nil, or_false, not_or] at notLeading
  have block : l.isFlow = false := by simp [isFlow, block]
  unfold inner
  dsimp only [Pos.spot]
  split
  case h_11 =>
    by_cases doubtful : ['?', ':', '-'].contains c = true
    · have noGap := gap doubtful
      have spelled : c = '?' ∨ c = ':' ∨ c = '-' := by simpa using doubtful
      rcases spelled with rfl | rfl | rfl <;> simp [noGap, block, startsPlain]
    · have spelled : ¬(c = '?' ∨ c = ':' ∨ c = '-') := by simpa using doubtful
      simp only [not_or] at spelled
      simp [block, startsPlain, spelled, notLeading, word, inside, isFlowIndicator]
  all_goals simp_all

/-- No key has to stand where the candidate does. -/
def Free (l : Layout) : Prop := l.candidate.any Candidate.required = false

theorem forget_eq (free : l.Free) : l.forget = some { l with candidate := none } := by
  rw [forget, if_neg (Bool.eq_false_iff.1 free)]

/-- The text with a note of where a key may start. -/
def noted (l : Layout) (place : Spot) : Layout :=
  if l.keyOk then { l with candidate := some ⟨place, l.count, !l.isFlow && l.floor == place.column + 1⟩ } else l

@[simp] theorem noted_outer (place : Spot) : (l.noted place).outer = l.outer := by
  unfold noted
  split <;> rfl

@[simp] theorem noted_columns (place : Spot) : (l.noted place).columns = l.columns := by
  unfold noted
  split <;> rfl

theorem note_eq (free : l.Free) (place : Spot) : l.note place = some (l.noted place) := by
  unfold note noted
  split
  · rw [forget_eq free]
    rfl
  · rfl

theorem token_double (free : l.Free) (inner : 0 < p.column) :
    l.token (p.spot '\x22') ((p.next '\x22').spots (cs.flatMap escaped ++ '\x22' :: tail)) =
      some ((l.noted (p.spot '\x22')).take (.scalar .quoted (String.ofList cs)) false
        ((p.after (doubleQuoted cs)).spots tail)) := by
  have further : 0 < (p.next '\x22').column := Nat.succ_pos p.column
  have read : quotedFrom true [] (.text (.spaces 0)) ((p.next '\x22').spots (cs.flatMap escaped ++ '\x22' :: tail)) = _ :=
    quotedFrom_double further
  have nothing : Gap.spaces 0 = .none := rfl
  rw [nothing] at read
  rw [token_eq_inner (.inl inner)]
  show l.quoted true _ _ = _
  rw [quoted, note_eq free]
  simp only [Option.bind_eq_bind, Option.bind_some, read]
  rfl

theorem token_single (free : l.Free) (inner : 0 < p.column) {indent : Nat} (indented : 0 < indent)
    (fits : fitsSingleQuotes cs = true) (line : '\n' ∉ cs) (ends : tail.head? ≠ some '\x27') :
    l.token (p.spot '\x27') ((p.next '\x27').spots (singleQuotedFrom indent false cs ++ tail)) =
      some ((l.noted (p.spot '\x27')).take (.scalar .quoted (String.ofList cs)) false
        ((p.after (singleQuoted indent cs)).spots tail)) := by
  have further : 0 < (p.next '\x27').column := Nat.succ_pos p.column
  simp only [fitsSingleQuotes, needsEscapes, Bool.not_eq_true', Bool.or_eq_false_iff] at fits
  obtain ⟨⟨printable, spaceEnd⟩, endSpace⟩ := fits
  have printable : ∀ c ∈ cs, isPrintable c = true ∧ c ≠ '\n' := fun c member =>
    ⟨by simpa using List.any_eq_false.1 printable c member, fun same => line (same ▸ member)⟩
  have read : quotedFrom false [] (.text (pendingGap false []))
      ((p.next '\x27').spots (singleQuotedFrom indent false cs ++ tail)) = _ :=
    quotedFrom_single indented printable spaceEnd endSpace (fun other => absurd other Bool.false_ne_true)
      (fun _ _ some => absurd rfl some) (fun _ => further) ends
  have nothing : pendingGap false [] = .none := rfl
  rw [nothing] at read
  rw [token_eq_inner (.inl inner)]
  show l.quoted false _ _ = _
  rw [quoted, note_eq free]
  simp only [Option.bind_eq_bind, Option.bind_some, read]
  rfl

theorem token_literal (block : l.outer = []) (free : l.Free) (inner : 0 < p.column) {text : String} {rest : List Spot}
    (read : blockText? false l.floor ((p.next '|').spots cs) = some (text, rest)) :
    l.token (p.spot '|') ((p.next '|').spots cs) = some ({ l with candidate := none }.take (.scalar .literal text) true rest) := by
  have floor : ({ l with candidate := none } : Layout).floor = l.floor := rfl
  rw [token_eq_inner (.inl inner), inner_literal block, blockText, forget_eq free]
  simp only [Option.bind_eq_bind, Option.bind_some, floor, read]
  rfl

theorem token_plain (block : l.outer = []) (free : l.Free) (unmarked : Unmarked p c) (fits : FitsPlain (c :: cs))
    (deep : l.floor ≤ p.column + 1) {text : List Char} {crossed : Bool} {rest : List Spot}
    (ends : plainFrom false l.floor (c :: cs).reverse .none ((p.after (c :: cs)).spots tail) = some (text, crossed, rest)) :
    l.token (p.spot c) ((p.next c).spots (cs ++ tail)) =
      some ((l.noted (p.spot c)).take (.scalar .plain (String.ofList text)) crossed rest) := by
  have first := fits.tame c List.mem_cons_self
  have inside : isBreak c = false := first.noBreak
  have word : isBlank c = false := by
    refine Bool.eq_false_iff.2 fun blank => fits.front ?_
    rw [eq_space_of_isBlank first.printable blank]
    rfl
  have flow : (l.noted (p.spot c)).isFlow = false := by simp [isFlow, block]
  have floor : (l.noted (p.spot c)).floor = l.floor := by rw [floor, noted_columns, floor]
  have read := fits.plainFrom_eq tail deep
  rw [List.cons_append, Pos.spots_cons] at read
  rw [token_eq_inner unmarked, inner_plain block fits.starts word inside, plain, note_eq free]
  simp only [Option.bind_eq_bind, Option.bind_some, flow, floor, read, ends]

end Layout

end LiveControl.Yaml
