import LiveControl.Proofs.ScalarTokens

namespace LiveControl.Yaml

variable {p q : Pos} {cs ds tail word : List Char} {c : Char} {k : Nat}

theorem Pos.line_le_after : p.line ≤ (p.after cs).line := by
  induction cs generalizing p with
  | nil => exact Nat.le_refl _
  | cons c cs ih =>
    refine Nat.le_trans ?_ (ih (p := p.next c))
    unfold Pos.next
    split
    · exact Nat.le_succ _
    · exact Nat.le_refl _

theorem closed_eq (cs : List Char) : closed cs = cs ++ lastEnd cs := by
  unfold closed lastEnd
  split <;> simp

theorem getLast?_literalLines (indent : Nat) (fresh : Bool) (cs : List Char) :
    (literalLines indent fresh cs).getLast? = cs.getLast? := by
  induction cs generalizing fresh with
  | nil => rfl
  | cons c cs ih =>
    rw [literalLines]
    split
    · rw [List.getLast?_cons, ih, List.getLast?_cons]
    · rw [List.getLast?_append_cons, List.getLast?_cons, ih, List.getLast?_cons]

theorem getLast?_singleQuoted (indent : Nat) (cs : List Char) : (singleQuoted indent cs).getLast? = some '\x27' := by
  have inside (afterEnd : Bool) : (singleQuotedFrom indent afterEnd cs).getLast? = some '\x27' := by
    induction cs generalizing afterEnd with
    | nil => rw [singleQuotedFrom, List.getLast?_concat]
    | cons c cs ih =>
      rw [singleQuotedFrom]
      split
      · rw [List.getLast?_cons, ih, Option.getD_some]
      · rw [List.getLast?_append, List.getLast?_append, ih]
        rfl
  rw [singleQuoted, List.getLast?_cons, inside, Option.getD_some]

/-- A literal block ends with a line. -/
theorem exists_break (filled : word ≠ []) (printable : ∀ c ∈ word, isPrintable c = true) (indent : Nat) :
    ∃ front last, literalLines indent true word ++ lastEnd word = front ++ [last] ∧ isBreak last = true := by
  obtain ⟨front, last, rfl⟩ := (List.eq_nil_or_concat' word).resolve_left filled
  by_cases ends : isLineEnd last = true
  · have lines := getLast?_literalLines indent true (front ++ [last])
    rw [List.getLast?_concat] at lines
    obtain ⟨before, lines⟩ := List.getLast?_eq_some_iff.1 lines
    have kept : lastEnd (front ++ [last]) = [] := by simp [lastEnd, ends]
    exact ⟨before, last, by rw [kept, List.append_nil, lines], isBreak_of_isLineEnd (printable last (by simp)) ends⟩
  · have added : lastEnd (front ++ [last]) = ['\n'] := by simp [lastEnd, ends]
    exact ⟨_, '\n', by rw [added], rfl⟩

theorem Pos.column_after_break {last : Char} (breaks : isBreak last = true) : (p.after (cs ++ [last])).column = 0 := by
  rw [Pos.after_append, Pos.after_cons, Pos.after_nil, Pos.next_break breaks]

namespace Layout

variable {columns columns' : List Nat} {tokens tokens' result opening : List Token} {keyOk keyOk' : Bool}
  {candidate : Option Candidate} {rest : List Spot} {token : Token}

/-- A layout outside of flow collections. -/
def block (columns : List Nat) (tokens : List Token) (keyOk : Bool) (candidate : Option Candidate) (rest : List Spot) :
    Layout :=
  ⟨rest, keyOk, tokens, tokens.length, columns, candidate, []⟩

/-- A key may have started on an earlier line, where none had to. -/
def Past (p : Pos) (candidate : Option Candidate) : Prop := ∀ c ∈ candidate, c.required = false ∧ c.start.line < p.line

theorem past_none : Past p none := nofun

theorem Past.later (past : Past p candidate) (later : p.line ≤ q.line) : Past q candidate := fun c given =>
  ⟨(past c given).1, Nat.lt_of_lt_of_le (past c given).2 later⟩

theorem Past.free (past : Past p candidate) : (block columns tokens keyOk candidate rest).Free := by
  cases candidate with
  | none => rfl
  | some c => exact (past c rfl).1

theorem tokensWith_nil {fuel : Nat} (skip : toToken false keyOk' false rest = (keyOk, [])) :
    (block columns tokens keyOk' candidate rest).tokensWith (fuel + 1) =
      (block columns tokens keyOk candidate []).closeAll.forget.map fun l => l.tokens.reverse := by
  have skip : toToken (block columns tokens keyOk' candidate rest).isFlow
      (block columns tokens keyOk' candidate rest).keyOk false (block columns tokens keyOk' candidate rest).rest =
        (keyOk, []) := skip
  rw [tokensWith, skip]
  rfl

theorem tokensWith_cons {fuel : Nat} (skip : toToken false keyOk' false rest = (keyOk, p.spots (c :: cs))) :
    (block columns tokens keyOk' candidate rest).tokensWith (fuel + 1) =
      (((block columns tokens keyOk candidate (p.spots (c :: cs))).closeWhile fun column => p.column < column).token
        (p.spot c) ((p.next c).spots cs)).bind (tokensWith fuel) := by
  have skip : toToken (block columns tokens keyOk' candidate rest).isFlow
      (block columns tokens keyOk' candidate rest).keyOk false (block columns tokens keyOk' candidate rest).rest =
        (keyOk, p.spots (c :: cs)) := skip
  rw [tokensWith, skip, Pos.spots_cons]
  rfl

/-- No block collection ends before a text within the innermost one. -/
theorem closeWhile_within (within : ∀ column ∈ columns.head?, column ≤ p.column) :
    (block columns tokens keyOk candidate rest).closeWhile (fun column => p.column < column) =
      block columns tokens keyOk candidate rest := by
  cases columns with
  | nil => rfl
  | cons column columns =>
    have goesOn : ¬p.column < column := Nat.not_lt.2 (within column rfl)
    simp [closeWhile, isFlow, block, goesOn]

theorem closeWhile_cons {ends : Nat → Bool} {column : Nat} (closes : ends column = true) :
    (block (column :: columns) tokens keyOk candidate rest).closeWhile ends =
      (block columns (.blockEnd :: tokens) keyOk candidate rest).closeWhile ends := by
  have shift (n : Nat) :
      List.replicate (n + 1) Token.blockEnd ++ tokens = List.replicate n .blockEnd ++ .blockEnd :: tokens := by
    rw [List.replicate_succ', List.append_assoc]
    rfl
  simp only [closeWhile, isFlow, block, List.takeWhile_cons_of_pos closes, List.dropWhile_cons_of_pos closes,
    List.map_const', List.length_cons, shift, List.isEmpty_nil, Bool.not_true, Bool.false_eq_true, if_false, mk.injEq,
    and_self, and_true, true_and]
  omega

/-- From a place on, the layout of the text `cs` comes to its end with all its tokens. -/
def Yields (columns : List Nat) (tokens : List Token) (keyOk : Bool) (p : Pos) (cs : List Char) (result : List Token) :
    Prop :=
  ∀ (keyOk' : Bool) (candidate : Option Candidate) (rest : List Spot) (fuel : Nat), Past p candidate →
    toToken false keyOk' false rest = (keyOk, p.spots cs) → cs.length < fuel →
      (block columns tokens keyOk' candidate rest).tokensWith fuel = some result

theorem yields_end : Yields [] tokens keyOk p [] tokens.reverse := by
  intro before candidate rest fuel past skip enough
  obtain ⟨fuel, rfl⟩ := Nat.exists_eq_succ_of_ne_zero (Nat.ne_of_gt enough)
  have free : (block [] tokens keyOk candidate []).closeAll.Free := past.free
  rw [tokensWith_nil skip, forget_eq free]
  rfl

/-- Where a text ends, or stands further out than the innermost block collection, the collection has ended. -/
theorem Yields.close {column : Nat} (out : cs = [] ∨ p.column < column)
    (yields : Yields columns (.blockEnd :: tokens) keyOk p cs result) : Yields (column :: columns) tokens keyOk p cs result := by
  intro before candidate rest fuel past skip enough
  have same := yields before candidate rest fuel past skip enough
  obtain ⟨fuel, rfl⟩ := Nat.exists_eq_succ_of_ne_zero (Nat.ne_of_gt (Nat.zero_lt_of_lt enough))
  cases cs with
  | nil => rwa [tokensWith_nil skip, closeAll, closeWhile_cons rfl, ← closeAll, ← tokensWith_nil skip]
  | cons c cs =>
    have closes : p.column < column := out.resolve_left (List.cons_ne_nil c cs)
    rwa [tokensWith_cons skip, closeWhile_cons (decide_eq_true closes), ← tokensWith_cons skip]

/-- One token with the text that it is behind. -/
theorem Yields.step (within : ∀ column ∈ columns.head?, column ≤ p.column)
    (next : ∀ candidate, Past p candidate → ∃ after candidate' rest,
      (block columns tokens keyOk candidate (p.spots (c :: cs))).token (p.spot c) ((p.next c).spots cs) =
          some (block columns' tokens' after candidate' rest) ∧
        Past q candidate' ∧ toToken false after false rest = (keyOk', q.spots ds))
    (shorter : ds.length ≤ cs.length) (yields : Yields columns' tokens' keyOk' q ds result) :
    Yields columns tokens keyOk p (c :: cs) result := by
  intro before candidate rest fuel past skip enough
  obtain ⟨fuel, rfl⟩ := Nat.exists_eq_succ_of_ne_zero (Nat.ne_of_gt (Nat.zero_lt_of_lt enough))
  obtain ⟨after, candidate', rest', taken, past', skip'⟩ := next candidate past
  rw [tokensWith_cons skip, closeWhile_within within, taken]
  refine yields after candidate' rest' fuel past' skip' ?_
  rw [List.length_cons] at enough
  omega

/-- What is noted of a word that is no key stands behind the next line end on an earlier line. -/
theorem exists_noted (tokens : List Token) (keyOk : Bool) (rest : List Spot) (c : Char)
    (deep : ∀ column ∈ columns.head?, column < p.column) (later : p.line < q.line) (past : Past p candidate) :
    ∃ candidate', (block columns tokens keyOk candidate rest).noted (p.spot c) =
        block columns tokens keyOk candidate' rest ∧ Past q candidate' := by
  cases keyOk with
  | false => exact ⟨candidate, rfl, past.later later.le⟩
  | true =>
    refine ⟨_, rfl, fun candidate given => ?_⟩
    obtain rfl := Option.mem_some.1 given
    refine ⟨?_, later⟩
    cases columns with
    | nil => rfl
    | cons column columns =>
      have other : column ≠ p.column := Nat.ne_of_lt (deep column rfl)
      simp [isFlow, block, floor, Pos.spot, other]

/-- A scalar with the line end behind it. -/
theorem Yields.scalar {style : Style} {text : String} {crossed : Bool} {left : List Spot}
    (deep : ∀ column ∈ columns.head?, column < p.column)
    (takes : ∀ l : Layout, l.outer = [] → l.columns = columns → l.Free →
      l.token (p.spot c) ((p.next c).spots cs) = some ((l.noted (p.spot c)).take (.scalar style text) crossed left))
    (later : p.line < q.line) (skip : toToken false crossed false left = (true, q.spots ds)) (shorter : ds.length ≤ cs.length)
    (yields : Yields columns (.scalar style text :: tokens) true q ds result) :
    Yields columns tokens keyOk p (c :: cs) result := by
  refine Yields.step (fun column first => (deep column first).le) (fun candidate past => ?_) shorter yields
  obtain ⟨candidate', noted, past'⟩ := exists_noted tokens keyOk (p.spots (c :: cs)) c deep later past
  refine ⟨crossed, candidate', left, ?_, past', skip⟩
  rw [takes _ rfl rfl past.free, noted]
  rfl

section Scalars

variable {column : Nat} (deep : column < p.column)
include deep

theorem yields_plain (fits : FitsPlain word) (less : k ≤ column) (onward : Onward tail)
    (yields : ∀ q : Pos, q.column = k →
      Yields (column :: columns) (.scalar .plain (String.ofList word) :: tokens) true q tail result) :
    Yields (column :: columns) tokens keyOk p (word ++ '\n' :: (pad k ++ tail)) result := by
  cases word with
  | nil => exact absurd rfl fits.filled
  | cons c cs =>
    have ends := plainFrom_lineEnd (p.after (c :: cs)) (c :: cs).reverse (Nat.lt_succ_of_le less) onward
    rw [List.reverse_reverse] at ends
    refine Yields.scalar (q := ⟨(p.after (c :: cs)).line + 1, k, k⟩) (fun _ first => Option.some.inj first ▸ deep) ?_
      (Nat.lt_succ_of_le Pos.line_le_after) (toToken_onward onward) (by simp; omega) (yields _ rfl)
    intro l outer columns free
    have floor : l.floor = column + 1 := by rw [Layout.floor, columns]
    refine token_plain outer free (.inl (Nat.zero_lt_of_lt deep)) fits ?_ ?_
    · omega
    · rwa [floor]

theorem yields_double (onward : Onward tail)
    (yields : ∀ q : Pos, q.column = k →
      Yields (column :: columns) (.scalar .quoted (String.ofList word) :: tokens) true q tail result) :
    Yields (column :: columns) tokens keyOk p (doubleQuoted word ++ '\n' :: (pad k ++ tail)) result := by
  refine Yields.scalar (q := ⟨(p.after (doubleQuoted word)).line + 1, k, k⟩) (fun _ first => Option.some.inj first ▸ deep)
    ?_ (Nat.lt_succ_of_le Pos.line_le_after) (show toToken false false false _ = _ from toToken_lineEnd onward k)
    (by simp; omega) (yields _ rfl)
  intro l outer columns free
  have read : l.token _ ((p.next '\x22').spots (word.flatMap escaped ++ '\x22' :: '\n' :: (pad k ++ tail))) = _ :=
    token_double free (Nat.zero_lt_of_lt deep)
  simpa using read

theorem yields_single {indent : Nat} (indented : 0 < indent) (fits : fitsSingleQuotes word = true) (line : '\n' ∉ word)
    (onward : Onward tail)
    (yields : ∀ q : Pos, q.column = k →
      Yields (column :: columns) (.scalar .quoted (String.ofList word) :: tokens) true q tail result) :
    Yields (column :: columns) tokens keyOk p (singleQuoted indent word ++ '\n' :: (pad k ++ tail)) result := by
  refine Yields.scalar (q := ⟨(p.after (singleQuoted indent word)).line + 1, k, k⟩)
    (fun _ first => Option.some.inj first ▸ deep) ?_ (Nat.lt_succ_of_le Pos.line_le_after)
    (show toToken false false false _ = _ from toToken_lineEnd onward k) (by simp; omega) (yields _ rfl)
  intro l outer columns free
  exact token_single free (Nat.zero_lt_of_lt deep) indented fits line (by simp)

theorem yields_literal (filled : word ≠ []) (fits : fitsLiteral word = true) (less : k ≤ column) (onward : Onward tail)
    (yields : ∀ q : Pos, q.column = k →
      Yields (column :: columns) (.scalar .literal (String.ofList word) :: tokens) true q tail result) :
    Yields (column :: columns) tokens keyOk p
      (literalHeader word ++ '\n' :: (literalLines (column + 2) true word ++ (lastEnd word ++ (pad k ++ tail)))) result := by
  have printable : ∀ c ∈ word, isPrintable c = true := by
    simp only [fitsLiteral, needsEscapes, Bool.not_eq_true', Bool.or_eq_false_iff] at fits
    exact fun c member => by simpa using List.any_eq_false.1 fits.1.1 c member
  obtain ⟨header, starts, read⟩ := blockText?_literal (p.next '|') filled printable (Nat.succ_pos column)
    (Nat.lt_succ_of_le less) onward
  obtain ⟨front, last, ends, breaks⟩ := exists_break filled printable (column + 2)
  rw [starts, List.cons_append]
  refine Yields.step
    (q := ((p.next '|').after (header ++ '\n' :: (literalLines (column + 2) true word ++ lastEnd word))).after (pad k))
    (fun _ first => Option.some.inj first ▸ deep.le)
    (fun candidate past => ⟨true, none, _, ?_, past_none, toToken_pad onward k⟩) (by simp; omega) (yields _ ?_)
  · exact token_literal rfl past.free (Nat.zero_lt_of_lt deep) read
  · rw [ends, ← List.cons_append, ← List.append_assoc, after_pad, Pos.column_after_break breaks, Nat.zero_add]

/-- A scalar in any of its forms, with the line end behind it. -/
theorem yields_spelled {style : Style} (spelled : Spelled (column + 2) word style cs) (less : k ≤ column)
    (onward : Onward tail)
    (yields : ∀ q : Pos, q.column = k →
      Yields (column :: columns) (.scalar style (String.ofList word) :: tokens) true q tail result) :
    Yields (column :: columns) tokens keyOk p (closed cs ++ (pad k ++ tail)) result := by
  have closing {last : Char} (ends : cs.getLast? = some last) (inside : isLineEnd last = false) :
      closed cs ++ (pad k ++ tail) = cs ++ '\n' :: (pad k ++ tail) := by
    simp [closed, ends, inside]
  cases spelled with
  | literal lines fits =>
    have filled : word ≠ [] := List.ne_nil_of_mem lines
    have same : (literalHeader word ++ '\n' :: literalLines (column + 2) true word).getLast? = word.getLast? := by
      obtain ⟨front, last, rfl⟩ := (List.eq_nil_or_concat' word).resolve_left filled
      rw [List.getLast?_append_cons, List.getLast?_cons, getLast?_literalLines, List.getLast?_concat, Option.getD_some]
    have closing : closed (literalHeader word ++ '\n' :: literalLines (column + 2) true word) ++ (pad k ++ tail) =
        literalHeader word ++ '\n' :: (literalLines (column + 2) true word ++ (lastEnd word ++ (pad k ++ tail))) := by
      rw [closed_eq, lastEnd, same, ← lastEnd]
      simp
    rw [closing]
    exact yields_literal deep filled fits less onward yields
  | double =>
    rw [closing (List.getLast?_concat : ('\x22' :: word.flatMap escaped ++ ['\x22']).getLast? = some '\x22') rfl]
    exact yields_double deep onward yields
  | single line fits =>
    rw [closing (getLast?_singleQuoted _ word) rfl]
    exact yields_single deep (Nat.succ_pos _) fits line onward yields
  | plain fits =>
    obtain ⟨front, last, rfl⟩ := (List.eq_nil_or_concat' cs).resolve_left fits.filled
    rw [closing List.getLast?_concat (fits.tame last (by simp)).inside]
    exact yields_plain deep fits less onward yields

theorem yields_scalarText (text : String) (less : k ≤ column) (onward : Onward tail)
    (yields : ∀ q : Pos, q.column = k →
      Yields (column :: columns) (.scalar (scalarStyle text) text :: tokens) true q tail result) :
    Yields (column :: columns) tokens keyOk p (closed (scalarText (column + 2) text) ++ (pad k ++ tail)) result := by
  refine yields_spelled deep (spelled_scalarText (column + 2) text) less onward ?_
  rwa [String.ofList_toList]

end Scalars

end Layout
end LiveControl.Yaml
