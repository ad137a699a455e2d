import LiveControl.Proofs.QuotedScalar
import Mathlib.Data.List.Basic

namespace LiveControl.Yaml

variable {p : Pos} {cs ds tail word : List Char} {c e : Char} {indent k : Nat}

/-- A text of whole lines. -/
inductive Lines : List Char → Prop where
  | nil : Lines []
  | line {word rest : List Char} {e : Char} (inside : ∀ c ∈ word, isLineEnd c = false) (ends : isLineEnd e = true)
    (more : Lines rest) : Lines (word ++ e :: rest)

theorem Lines.append (lines : Lines cs) (more : Lines ds) : Lines (cs ++ ds) := by
  induction lines with
  | nil => exact more
  | line inside ends _ ih =>
    rw [List.append_assoc]
    exact .line inside ends ih

/-- A text is some lines and what stands on a last line without an end. -/
theorem exists_lines (cs : List Char) :
    ∃ front word, cs = front ++ word ∧ Lines front ∧ ∀ c ∈ word, isLineEnd c = false := by
  induction cs with
  | nil => exact ⟨[], [], rfl, .nil, nofun⟩
  | cons c cs ih =>
    obtain ⟨front, word, rfl, lines, inside⟩ := ih
    by_cases ends : isLineEnd c = true
    · exact ⟨c :: front, word, rfl, (.line nofun ends lines : Lines ([] ++ c :: front)), inside⟩
    · cases lines with
      | nil => exact ⟨[], c :: word, rfl, .nil, List.forall_mem_cons.2 ⟨Bool.eq_false_iff.2 ends, inside⟩⟩
      | @line first rest e within lineEnd more =>
        exact ⟨c :: first ++ e :: rest, word, rfl,
          .line (List.forall_mem_cons.2 ⟨Bool.eq_false_iff.2 ends, within⟩) lineEnd more, inside⟩

/-- What indents a line of a block, unless there is nothing on it. -/
def lineMargin (indent : Nat) (word : List Char) : List Char := if word.isEmpty then [] else pad indent

theorem literalLines_inside (inside : ∀ c ∈ word, isLineEnd c = false) :
    literalLines indent false (word ++ cs) = word ++ literalLines indent false cs := by
  induction word with
  | nil => rfl
  | cons c word ih =>
    rw [List.cons_append, literalLines, if_neg (Bool.eq_false_iff.1 (inside c List.mem_cons_self))]
    simp [ih fun d member => inside d (List.mem_cons_of_mem c member)]

theorem literalLines_fresh (inside : ∀ c ∈ word, isLineEnd c = false) (ends : ∀ c ∈ cs.head?, isLineEnd c = true) :
    literalLines indent true (word ++ cs) = lineMargin indent word ++ (word ++ literalLines indent false cs) := by
  cases word with
  | nil =>
    cases cs with
    | nil => rfl
    | cons c cs => simp [literalLines, lineMargin, ends c rfl]
  | cons c word =>
    rw [List.cons_append, literalLines, if_neg (Bool.eq_false_iff.1 (inside c List.mem_cons_self)),
      literalLines_inside fun d member => inside d (List.mem_cons_of_mem c member)]
    rfl

theorem literalLines_line (inside : ∀ c ∈ word, isLineEnd c = false) (ends : isLineEnd e = true) :
    literalLines indent true (word ++ e :: cs) = lineMargin indent word ++ (word ++ e :: literalLines indent true cs) := by
  rw [literalLines_fresh inside fun c first => by cases first; exact ends, literalLines, if_pos ends]

theorem literalLines_append (lines : Lines cs) :
    literalLines indent true (cs ++ ds) = literalLines indent true cs ++ literalLines indent true ds := by
  induction lines with
  | nil => rfl
  | line inside ends _ ih =>
    rw [List.append_assoc, List.cons_append, literalLines_line inside ends, literalLines_line inside ends, ih]
    simp

theorem linesOf_line (p : Pos) (cs : List Char) (inside : ∀ c ∈ word, isBreak c = false) (ends : isBreak e = true) :
    linesOf (p.spots (word ++ e :: cs)) = p.spots (word ++ [e]) :: linesOf ((p.after (word ++ [e])).spots cs) := by
  induction word generalizing p with
  | nil =>
    rw [List.nil_append, Pos.spots_cons, linesOf, if_pos (show isBreak (p.spot e).char = true from ends)]
    simp [Pos.spots_cons]
  | cons c word ih =>
    rw [List.cons_append, Pos.spots_cons, linesOf,
      if_neg (show ¬isBreak (p.spot c).char = true from Bool.eq_false_iff.1 (inside c List.mem_cons_self)),
      ih (p.next c) fun d member => inside d (List.mem_cons_of_mem c member)]
    simp [Pos.spots_cons]

theorem flatten_linesOf (spots : List Spot) : (linesOf spots).flatten = spots := by
  induction spots with
  | nil => rfl
  | cons s spots ih =>
    unfold linesOf
    split
    · simp [ih]
    · split
      · rename_i none
        rw [none] at ih
        simp [← ih]
      · rename_i some
        rw [some] at ih
        simp [← ih]

theorem leadingSpaces_eq (limit : Nat) (line : List Spot) :
    leadingSpaces limit line = (((line.map Spot.char).take limit).takeWhile (· == ' ')).length := by
  rw [leadingSpaces, ← List.map_take, List.takeWhile_map, List.length_map]
  rfl

theorem leadingSpaces_pad : leadingSpaces indent (p.spots (pad indent ++ cs)) = indent := by
  have front : (pad indent ++ cs).take indent = pad indent := List.take_left' List.length_replicate
  rw [leadingSpaces_eq, Pos.map_char_spots, front, pad, List.takeWhile_replicate, if_pos (beq_self_eq_true ' '),
    List.length_replicate]

/-- Less indentation shows where something else than a blank starts. -/
theorem leadingSpaces_word {limit : Nat} {s : Spot} {line : List Spot} (least : indent ≤ limit) (word : s.char ≠ ' ') :
    leadingSpaces limit (p.spots (pad indent) ++ s :: line) = indent := by
  have blanks : ∀ d ∈ pad indent, (d == ' ') = true := fun d member => beq_iff_eq.2 (List.eq_of_mem_replicate member)
  have none : ((s.char :: line.map Spot.char).take (limit - indent)).takeWhile (· == ' ') = [] := by
    cases limit - indent with
    | zero => rfl
    | succ more => simp [word]
  have length : (pad indent).length = indent := List.length_replicate
  rw [leadingSpaces_eq, List.map_append, Pos.map_char_spots, List.map_cons, List.take_append, length,
    List.take_of_length_le (by omega), List.takeWhile_append_of_pos blanks, none, List.append_nil, length]

theorem drop_pad : (p.spots (pad indent ++ cs)).drop indent = (p.after (pad indent)).spots cs := by
  have length : (p.spots (pad indent)).length = indent := by rw [Pos.length_spots, pad, List.length_replicate]
  rw [Pos.spots_append, List.drop_left' length]

namespace BlockBody

/-- What has been taken up, latest first. -/
def taken (b : BlockBody) : List Char := b.emptyEnds ++ (b.lastEnd ++ b.text)

theorem line_literal (b : BlockBody) (inside : ∀ c ∈ word, isBreak c = false) (ends : isBreak e = true) :
    ∃ blank, b.line false (p.spots (word ++ [e])) = ⟨word.reverse ++ b.taken, [e], [], blank⟩ := by
  have words : (word ++ [e]).filter (fun c => !isBreak c) = word := by
    rw [List.filter_append, List.filter_eq_self.2 fun c member => by rw [inside c member]; rfl]
    simp [ends]
  have breaks : (word ++ [e]).filter isBreak = [e] := by
    rw [List.filter_append, List.filter_eq_nil_iff.2 fun c member => by rw [inside c member]; exact Bool.false_ne_true]
    simp [ends]
  refine ⟨(b.line false (p.spots (word ++ [e]))).startsBlank, ?_⟩
  simp only [line, Pos.map_char_spots, words, breaks, Bool.false_and, Bool.false_eq_true, if_false, taken]

end BlockBody

variable {b : BlockBody} {more : List (List Spot)}

/-- A line with text is taken up without its indentation. -/
theorem blockBody?_text (p : Pos) (indent : Nat) (b : BlockBody) (filled : word ≠ [])
    (inside : ∀ c ∈ word, isBreak c = false) (ends : isBreak e = true) :
    ∃ blank, ∀ more, blockBody? false indent b (p.spots (pad indent ++ (word ++ [e])) :: more) =
      blockBody? false indent ⟨word.reverse ++ b.taken, [e], [], blank⟩ more := by
  obtain ⟨blank, taken⟩ := b.line_literal (p := p.after (pad indent)) inside ends
  refine ⟨blank, fun more => ?_⟩
  cases word with
  | nil => exact absurd rfl filled
  | cons c word =>
    rw [blockBody?, leadingSpaces_pad, drop_pad, ← taken, List.cons_append, Pos.spots_cons]
    simp [Pos.spot, inside c List.mem_cons_self]

theorem blockBody?_empty (ends : isBreak e = true) :
    blockBody? false indent b (p.spots [e] :: more) =
      blockBody? false indent { b with emptyEnds := e :: b.emptyEnds } more := by
  have blank : e ≠ ' ' := by
    rintro rfl
    cases ends
  have spaces : leadingSpaces indent (p.spots (pad 0) ++ [p.spot e]) = 0 := leadingSpaces_word (Nat.zero_le _) blank
  rw [Pos.spots_cons, Pos.spots_nil, blockBody?, show leadingSpaces indent [p.spot e] = 0 from spaces]
  simp [Pos.spot, ends]

/-- Whole lines are taken up as they are. -/
theorem blockBody?_lines (p : Pos) (indent : Nat) (lines : Lines cs) (printable : ∀ c ∈ cs, isPrintable c = true)
    (b : BlockBody) :
    ∃ after : BlockBody, after.taken = cs.reverse ++ b.taken ∧ ∀ tail,
      blockBody? false indent b (linesOf (p.spots (literalLines indent true cs ++ tail))) =
        blockBody? false indent after (linesOf ((p.after (literalLines indent true cs)).spots tail)) := by
  induction lines generalizing p b with
  | nil => exact ⟨b, rfl, fun _ => rfl⟩
  | @line word rest e inside ends more ih =>
    have breaks : isBreak e = true := isBreak_of_isLineEnd (printable e (by simp)) ends
    have within : ∀ c ∈ word, isBreak c = false := fun c member => noBreak_of_noLineEnd (inside c member)
    have later : ∀ c ∈ rest, isPrintable c = true := fun c member => printable c (by simp [member])
    rw [literalLines_line inside ends]
    by_cases filled : word = []
    · subst filled
      obtain ⟨after, taken, reads⟩ := ih (p.next e) later { b with emptyEnds := e :: b.emptyEnds }
      refine ⟨after, ?_, fun tail => ?_⟩
      · rw [taken]
        simp [BlockBody.taken]
      · have line := linesOf_line p (literalLines indent true rest ++ tail) (List.forall_mem_nil _) breaks
        refine (congrArg (blockBody? false indent b) line).trans ?_
        exact (blockBody?_empty breaks).trans (reads tail)
    · obtain ⟨blank, line⟩ := blockBody?_text p indent b filled within breaks
      obtain ⟨after, taken, reads⟩ :=
        ih (p.after (pad indent ++ (word ++ [e]))) later ⟨word.reverse ++ b.taken, [e], [], blank⟩
      have margin : lineMargin indent word = pad indent := if_neg (by simpa using filled)
      have whole : ∀ c ∈ pad indent ++ word, isBreak c = false := fun c member =>
        (List.mem_append.1 member).elim isBreak_pad (within c)
      refine ⟨after, ?_, fun tail => ?_⟩
      · rw [taken]
        simp [BlockBody.taken]
      · have lines := linesOf_line p (literalLines indent true rest ++ tail) whole breaks
        have split : lineMargin indent word ++ (word ++ e :: literalLines indent true rest) ++ tail =
            pad indent ++ word ++ e :: (literalLines indent true rest ++ tail) := by
          rw [margin]
          simp
        have place : p.after (lineMargin indent word ++ (word ++ e :: literalLines indent true rest)) =
            (p.after (pad indent ++ (word ++ [e]))).after (literalLines indent true rest) := by
          rw [margin, ← Pos.after_append]
          simp
        rw [split, lines, place, ← reads, ← line]
        simp only [List.append_assoc]

theorem exists_linesOf (front spots : List Spot) (s : Spot) (inside : ∀ t ∈ front ++ [s], isBreak t.char = false) :
    ∃ line others, linesOf (front ++ s :: spots) = (front ++ s :: line) :: others := by
  induction front with
  | nil =>
    have here : isBreak s.char = false := inside s (by simp)
    rw [List.nil_append, linesOf, if_neg (Bool.eq_false_iff.1 here)]
    split
    · exact ⟨[], [], rfl⟩
    · exact ⟨_, _, rfl⟩
  | cons t front ih =>
    obtain ⟨line, others, lines⟩ := ih fun u member => inside u (List.mem_cons_of_mem t member)
    have here : isBreak t.char = false := inside t (by simp)
    rw [List.cons_append, linesOf, if_neg (Bool.eq_false_iff.1 here), lines]
    exact ⟨line, others, rfl⟩

theorem linesOf_inside {spots : List Spot} (filled : spots ≠ []) (inside : ∀ t ∈ spots, isBreak t.char = false) :
    linesOf spots = [spots] := by
  induction spots with
  | nil => exact absurd rfl filled
  | cons t spots ih =>
    rw [linesOf, if_neg (Bool.eq_false_iff.1 (inside t List.mem_cons_self))]
    by_cases last : spots = []
    · rw [last]
      rfl
    · rw [ih last fun u member => inside u (List.mem_cons_of_mem t member)]

theorem isBreak_of_mem_spots (inside : ∀ c ∈ cs, isBreak c = false) {t : Spot} (member : t ∈ p.spots cs) :
    isBreak t.char = false := by
  refine inside t.char ?_
  rw [← @Pos.map_char_spots p cs]
  exact List.mem_map_of_mem member

/-- A block ends before a line with less indentation. -/
theorem blockBody?_end (less : k < indent) (onward : Onward tail) :
    blockBody? false indent b (linesOf (p.spots (pad k ++ tail))) = some (b, linesOf (p.spots (pad k ++ tail))) := by
  cases tail with
  | nil =>
    rw [List.append_nil]
    by_cases blank : k = 0
    · subst blank
      rfl
    · have filled : p.spots (pad k) ≠ [] := by
        rw [← List.length_pos_iff, Pos.length_spots, pad, List.length_replicate]
        exact Nat.pos_of_ne_zero blank
      have short : (p.spots (pad k)).length ≤ k := by rw [Pos.length_spots, pad, List.length_replicate]
      have spaces : leadingSpaces indent (p.spots (pad k)) = k := by
        rw [leadingSpaces_eq, Pos.map_char_spots, pad, List.take_of_length_le (by rw [List.length_replicate]; exact less.le),
          List.takeWhile_replicate, if_pos (beq_self_eq_true ' '), List.length_replicate]
      rw [linesOf_inside filled fun t => isBreak_of_mem_spots fun c => isBreak_pad, blockBody?, spaces,
        List.drop_eq_nil_iff.2 short]
  | cons c tail =>
    have front := onward c rfl
    simp only [passedOver, Bool.or_eq_false_iff] at front
    obtain ⟨⟨⟨inside, blank⟩, -⟩, -⟩ := front
    have space : c ≠ ' ' := by
      rintro rfl
      cases blank
    have tab : c ≠ '\t' := by
      rintro rfl
      cases blank
    rw [Pos.spots_append, Pos.spots_cons]
    obtain ⟨line, others, lines⟩ := exists_linesOf (p.spots (pad k)) (((p.after (pad k)).next c).spots tail)
      ((p.after (pad k)).spot c) fun t member => by
        rcases List.mem_append.1 member with member | member
        · exact isBreak_of_mem_spots (fun c => isBreak_pad) member
        · exact List.mem_singleton.1 member ▸ inside
    have spaces : leadingSpaces indent (p.spots (pad k) ++ (p.after (pad k)).spot c :: line) = k :=
      leadingSpaces_word less.le space
    have length : (p.spots (pad k)).length = k := by rw [Pos.length_spots, pad, List.length_replicate]
    rw [lines, blockBody?, spaces, List.drop_left' length]
    simp [Pos.spot, inside, tab, less]

/-- A block whose last line with text is the last one of all. -/
theorem blockBody?_lastLine (lines : Lines cs) (printable : ∀ c ∈ cs, isPrintable c = true) (filled : word ≠ [])
    (inside : ∀ c ∈ word, isBreak c = false) (ends : isBreak e = true) (less : k < indent) (onward : Onward tail) :
    ∃ blank, blockBody? false indent ⟨[], [], [], false⟩
        (linesOf (p.spots (literalLines indent true cs ++ (pad indent ++ (word ++ e :: (pad k ++ tail)))))) =
      some (⟨word.reverse ++ cs.reverse, [e], [], blank⟩,
        linesOf ((p.after (literalLines indent true cs ++ (pad indent ++ (word ++ [e])))).spots (pad k ++ tail))) := by
  obtain ⟨before, taken, reads⟩ := blockBody?_lines p indent lines printable ⟨[], [], [], false⟩
  obtain ⟨blank, line⟩ := blockBody?_text (p.after (literalLines indent true cs)) indent before filled inside ends
  have whole : ∀ c ∈ pad indent ++ word, isBreak c = false := fun c member =>
    (List.mem_append.1 member).elim isBreak_pad (inside c)
  have split := linesOf_line (p.after (literalLines indent true cs)) (pad k ++ tail) whole ends
  simp only [List.append_assoc] at split
  have nothing : BlockBody.taken ⟨[], [], [], false⟩ = [] := rfl
  refine ⟨blank, ?_⟩
  rw [reads, split, line, taken, nothing, List.append_nil, blockBody?_end less onward,
    @Pos.after_append p (literalLines indent true cs)]

theorem blockBody?_wholeLines (lines : Lines cs) (printable : ∀ c ∈ cs, isPrintable c = true) (less : k < indent)
    (onward : Onward tail) :
    ∃ body : BlockBody, body.taken = cs.reverse ∧ blockBody? false indent ⟨[], [], [], false⟩
        (linesOf (p.spots (literalLines indent true cs ++ (pad k ++ tail)))) =
      some (body, linesOf ((p.after (literalLines indent true cs)).spots (pad k ++ tail))) := by
  obtain ⟨body, taken, reads⟩ := blockBody?_lines p indent lines printable ⟨[], [], [], false⟩
  exact ⟨body, taken.trans (List.append_nil _), (reads _).trans (blockBody?_end less onward)⟩

def Chomp.mark : Chomp → List Char
  | .clip => []
  | .strip => ['-']
  | .keep => ['+']

/-- Whether the first line of a text does not show the indentation of its block. -/
def hidesIndent (cs : List Char) : Bool := cs.head?.any fun c => isSpace c || isLineEnd c

def indentMark (cs : List Char) : List Char := if hidesIndent cs then ['2'] else []

/-- What ends the last line of a block, if the text itself does not. -/
def lastEnd (cs : List Char) : List Char := if cs.getLast?.any isLineEnd then [] else ['\n']

theorem Lines.getLast (lines : Lines cs) : ∀ c ∈ cs.getLast?, isLineEnd c = true := by
  induction lines with
  | nil => exact nofun
  | @line word rest e inside ends more ih =>
    intro c last
    cases rest with
    | nil =>
      obtain rfl : e = c := by simpa using last
      exact ends
    | cons d rest => exact ih c (by simpa [List.getLast?_append, List.getLast?_cons] using last)

theorem literalHeader_text (inside : isLineEnd c = false) :
    literalHeader (cs ++ [c]) = '|' :: (indentMark (cs ++ [c]) ++ Chomp.strip.mark) := by
  unfold literalHeader
  rw [List.reverse_append]
  cases cs.reverse <;> simp [inside, indentMark, hidesIndent, Chomp.mark]

theorem literalHeader_line (inside : isLineEnd c = false) (ends : isLineEnd e = true) :
    literalHeader (cs ++ [c] ++ [e]) = '|' :: (indentMark (cs ++ [c] ++ [e]) ++ Chomp.clip.mark) := by
  unfold literalHeader
  rw [List.reverse_append, List.reverse_append]
  simp [inside, ends, indentMark, hidesIndent, Chomp.mark]

theorem literalHeader_lines (ends : isLineEnd e = true) (before : ∀ c ∈ cs.getLast?, isLineEnd c = true) :
    literalHeader (cs ++ [e]) = '|' :: (indentMark (cs ++ [e]) ++ Chomp.keep.mark) := by
  unfold literalHeader
  rw [List.reverse_append]
  rcases List.eq_nil_or_concat' cs with rfl | ⟨cs, c, rfl⟩
  · simp [ends, indentMark, hidesIndent, Chomp.mark]
  · have more : isLineEnd c = true := before c (by simp)
    simp [ends, more, indentMark, hidesIndent, Chomp.mark]

/-- However deep the block of a text is indented, it is taken up as the text. -/
def TakenUp (chomp : Chomp) (cs : List Char) : Prop :=
  ∀ (p : Pos) (indent : Nat) {k : Nat} {tail : List Char}, k < indent → Onward tail →
    ∃ body : BlockBody, body.result chomp = cs ∧
      blockBody? false indent ⟨[], [], [], false⟩
          (linesOf (p.spots (literalLines indent true cs ++ (lastEnd cs ++ (pad k ++ tail))))) =
        some (body, linesOf ((p.after (literalLines indent true cs ++ lastEnd cs)).spots (pad k ++ tail)))

theorem takenUp_keep (lines : Lines cs) (printable : ∀ c ∈ cs, isPrintable c = true) (closing : lastEnd cs = []) :
    TakenUp .keep cs := by
  intro p indent k tail less onward
  obtain ⟨body, taken, reads⟩ := blockBody?_wholeLines (p := p) lines printable less onward
  exact ⟨body, List.reverse_eq_iff.2 taken, by simpa [closing] using reads⟩

theorem takenUp_clip (lines : Lines cs) (printable : ∀ c ∈ cs, isPrintable c = true) (filled : word ≠ [])
    (inside : ∀ c ∈ word, isLineEnd c = false) (ends : isLineEnd e = true) (breaks : isBreak e = true) :
    TakenUp .clip (cs ++ (word ++ [e])) := by
  intro p indent k tail less onward
  have within : ∀ c ∈ word, isBreak c = false := fun c member => noBreak_of_noLineEnd (inside c member)
  obtain ⟨blank, reads⟩ := blockBody?_lastLine (p := p) lines printable filled within breaks less onward
  have text : literalLines indent true (cs ++ (word ++ [e])) =
      literalLines indent true cs ++ (pad indent ++ (word ++ [e])) := by
    rw [literalLines_append lines, literalLines_line inside ends, lineMargin, if_neg (by simpa using filled)]
    simp [literalLines]
  have closing : lastEnd (cs ++ (word ++ [e])) = [] := by simp [lastEnd, ends]
  refine ⟨_, ?_, by rw [text, closing]; simpa using reads⟩
  simp [BlockBody.result]

theorem takenUp_strip (lines : Lines cs) (printable : ∀ c ∈ cs, isPrintable c = true) (filled : word ≠ [])
    (inside : ∀ c ∈ word, isLineEnd c = false) : TakenUp .strip (cs ++ word) := by
  intro p indent k tail less onward
  have within : ∀ c ∈ word, isBreak c = false := fun c member => noBreak_of_noLineEnd (inside c member)
  obtain ⟨blank, reads⟩ := blockBody?_lastLine (p := p) (e := '\n') lines printable filled within rfl less onward
  have text : literalLines indent true (cs ++ word) = literalLines indent true cs ++ (pad indent ++ word) := by
    have fresh : literalLines indent true (word ++ []) = _ := literalLines_fresh inside nofun
    rw [List.append_nil] at fresh
    rw [literalLines_append lines, fresh, lineMargin, if_neg (by simpa using filled)]
    simp [literalLines]
  have closing : lastEnd (cs ++ word) = ['\n'] := by
    obtain ⟨front, last, rfl⟩ := (List.eq_nil_or_concat' word).resolve_left filled
    simp [lastEnd, inside last (by simp)]
  refine ⟨_, ?_, by rw [text, closing]; simpa using reads⟩
  simp [BlockBody.result]

/-- A block is taken up as the text that it was made of, with what its header says about the end. -/
theorem exists_chomp (filled : cs ≠ []) (printable : ∀ c ∈ cs, isPrintable c = true) :
    ∃ chomp : Chomp, literalHeader cs = '|' :: (indentMark cs ++ chomp.mark) ∧ TakenUp chomp cs := by
  obtain ⟨before, last, rfl⟩ := (List.eq_nil_or_concat' cs).resolve_left filled
  obtain ⟨front, word, rfl, lines, inside⟩ := exists_lines before
  have earlier : ∀ c ∈ front, isPrintable c = true := fun c member => printable c (by simp [member])
  by_cases ends : isLineEnd last = true
  · rcases List.eq_nil_or_concat' word with rfl | ⟨word, c, rfl⟩
    · -- Nothing but line ends, or more than one of them at the end: all are kept.
      rw [List.append_nil] at printable ⊢
      have whole : Lines (front ++ [last]) := lines.append (.line nofun ends .nil : Lines ([] ++ [last]))
      exact ⟨.keep, literalHeader_lines ends lines.getLast, takenUp_keep whole printable (by simp [lastEnd, ends])⟩
    · have breaks := isBreak_of_isLineEnd (printable last (by simp)) ends
      refine ⟨.clip, ?_, ?_⟩
      · rw [← List.append_assoc]
        exact literalHeader_line (inside c (by simp)) ends
      · rw [List.append_assoc]
        exact takenUp_clip lines earlier (by simp) inside ends breaks
  · have within := Bool.eq_false_iff.2 ends
    refine ⟨.strip, literalHeader_text within, ?_⟩
    rw [List.append_assoc]
    refine takenUp_strip lines earlier (by simp) fun c member => ?_
    exact (List.mem_append.1 member).elim (inside c) fun member => List.mem_singleton.1 member ▸ within

/-- The indentation that a header gives. -/
def givenIndent (cs : List Char) : Option Nat := if hidesIndent cs then some 2 else none

theorem blockHeader?_mark (cs : List Char) (chomp : Chomp) :
    blockHeader? (p.spots (indentMark cs ++ chomp.mark ++ '\n' :: tail)) =
      some (⟨chomp, givenIndent cs⟩, (p.after (indentMark cs ++ chomp.mark ++ ['\n'])).spots tail) := by
  unfold indentMark givenIndent
  cases hidesIndent cs <;> cases chomp <;>
    simp only [Chomp.mark, if_true, Bool.false_eq_true, if_false, List.nil_append, List.cons_append, List.append_nil,
      Pos.spots_cons] <;>
    rfl

/-- The first line of a block shows its indentation, unless it starts with a blank or a line end itself. -/
theorem shownIndent?_word {least : Nat} (deep : least ≤ indent) (inside : isBreak c = false) (word : isBlank c = false) :
    shownIndent? least (linesOf (p.spots (pad indent ++ c :: cs))) = some indent := by
  have space : c ≠ ' ' := by
    rintro rfl
    cases word
  have tab : c ≠ '\t' := by
    rintro rfl
    cases word
  rw [Pos.spots_append, Pos.spots_cons]
  obtain ⟨line, others, lines⟩ := exists_linesOf (p.spots (pad indent)) (((p.after (pad indent)).next c).spots cs)
    ((p.after (pad indent)).spot c) fun t member => by
      rcases List.mem_append.1 member with member | member
      · exact isBreak_of_mem_spots (fun c => isBreak_pad) member
      · exact List.mem_singleton.1 member ▸ inside
  have length : (p.spots (pad indent)).length = indent := by rw [Pos.length_spots, pad, List.length_replicate]
  have spaces : leadingSpaces (p.spots (pad indent) ++ (p.after (pad indent)).spot c :: line).length
      (p.spots (pad indent) ++ (p.after (pad indent)).spot c :: line) = indent :=
    leadingSpaces_word (by rw [List.length_append, length]; omega) space
  rw [lines, shownIndent?, spaces]
  simp only [List.drop_left' length, Pos.spot, tab, inside, if_false, Bool.false_eq_true]
  rw [Nat.max_eq_left deep]

theorem shownIndent?_literal (p : Pos) (indent least : Nat) (tail : List Char) (filled : cs ≠ [])
    (printable : ∀ c ∈ cs, isPrintable c = true) (shows : hidesIndent cs = false) (deep : least ≤ indent) :
    shownIndent? least (linesOf (p.spots (literalLines indent true cs ++ tail))) = some indent := by
  cases cs with
  | nil => exact absurd rfl filled
  | cons c cs =>
    obtain ⟨space, inside⟩ : isSpace c = false ∧ isLineEnd c = false := Bool.or_eq_false_iff.1 shows
    have word : isBlank c = false := by
      rw [Bool.eq_false_iff]
      intro blank
      obtain rfl := eq_space_of_isBlank (printable c List.mem_cons_self) blank
      cases space
    rw [literalLines, if_neg (Bool.eq_false_iff.1 inside), if_pos rfl, List.append_assoc, List.cons_append]
    exact shownIndent?_word deep (noBreak_of_noLineEnd inside) word

/-- A text of several lines reads back from a literal block. -/
theorem blockText?_literal (p : Pos) {floor : Nat} (filled : cs ≠ []) (printable : ∀ c ∈ cs, isPrintable c = true)
    (positive : 0 < floor) (less : k < floor) (onward : Onward tail) :
    ∃ header, literalHeader cs = '|' :: header ∧
      blockText? false floor
          (p.spots (header ++ '\n' :: (literalLines (floor + 1) true cs ++ (lastEnd cs ++ (pad k ++ tail))))) =
        some (String.ofList cs, (p.after (header ++ '\n' :: (literalLines (floor + 1) true cs ++ lastEnd cs))).spots
          (pad k ++ tail)) := by
  obtain ⟨chomp, header, reads⟩ := exists_chomp filled printable
  refine ⟨indentMark cs ++ chomp.mark, header, ?_⟩
  have place : p.after (indentMark cs ++ chomp.mark ++ '\n' :: (literalLines (floor + 1) true cs ++ lastEnd cs)) =
      (p.after (indentMark cs ++ chomp.mark ++ ['\n'])).after (literalLines (floor + 1) true cs ++ lastEnd cs) := by
    rw [← Pos.after_append]
    simp
  rw [place, blockText?, blockHeader?_mark]
  generalize p.after (indentMark cs ++ chomp.mark ++ ['\n']) = q
  obtain ⟨body, result, reads⟩ := reads q (floor + 1) (Nat.lt_succ_of_lt less) onward
  cases hides : hidesIndent cs with
  | true =>
    have indent : floor - 1 + 2 = floor + 1 := by omega
    simp [givenIndent, hides, indent, reads, result, flatten_linesOf]
  | false =>
    have shown := shownIndent?_literal q (floor + 1) (max floor 1) (lastEnd cs ++ (pad k ++ tail)) filled printable
      hides (by omega)
    simp [givenIndent, hides, shown, reads, result, flatten_linesOf]

end LiveControl.Yaml
