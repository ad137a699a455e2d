import LiveControl.Proofs.PlainScalar
import Mathlib.Tactic.Ring

namespace LiveControl.Yaml

variable {p : Pos} {cs tail text : List Char} {c : Char}

theorem hexValue?_upperHexDigit : ∀ n < 16, Text.hexValue? (upperHexDigit n) = some n := by decide

/-- Hexadecimal digits add up to the number they write, as long as more of them follow. -/
theorem quotedFrom_upperHex (count value n more : Nat) :
    quotedFrom true text (.code value (count + (more + 1))) (p.spots (upperHex n count ++ tail)) =
      quotedFrom true text (.code (value * 16 ^ count + n % 16 ^ count) (more + 1))
        ((p.after (upperHex n count)).spots tail) := by
  induction count generalizing p n more tail with
  | zero => simp [upperHex, Nat.mod_one]
  | succ count ih =>
    have whole : value * 16 ^ (count + 1) + n % 16 ^ (count + 1) =
        (value * 16 ^ count + n / 16 % 16 ^ count) * 16 + n % 16 := by
      rw [Nat.pow_succ, Nat.mul_comm (16 ^ count) 16, Nat.mod_mul]
      ring
    have left : count + 1 + (more + 1) = count + (more + 1 + 1) := by omega
    have digit := hexValue?_upperHexDigit (n % 16) (Nat.mod_lt n (by decide))
    rw [upperHex, List.append_assoc, left, ih, Pos.after_append, whole, List.singleton_append, Pos.spots_cons,
      quotedFrom]
    simp [Pos.spot, digit]

theorem coded?_toNat (c : Char) : coded? c.toNat = some c := by
  rw [coded?, if_pos (show c.toNat.isValidChar from c.valid), Char.ofNat_toNat]

/-- All digits of a code read as the character. -/
theorem quotedFrom_code (count : Nat) (fits : c.toNat < 16 ^ (count + 1)) :
    quotedFrom true text (.code 0 (count + 1)) (p.spots (upperHex c.toNat (count + 1) ++ tail)) =
      quotedFrom true (c :: text) (.text .none) ((p.after (upperHex c.toNat (count + 1))).spots tail) := by
  have digit := hexValue?_upperHexDigit (c.toNat % 16) (Nat.mod_lt _ (by decide))
  have front : quotedFrom true text (.code 0 (count + 1)) (p.spots (upperHex (c.toNat / 16) count ++
      upperHexDigit (c.toNat % 16) :: tail)) = _ := quotedFrom_upperHex count 0 (c.toNat / 16) 0
  have small : c.toNat / 16 % 16 ^ count = c.toNat / 16 :=
    Nat.mod_eq_of_lt (Nat.div_lt_of_lt_mul (by rwa [Nat.mul_comm, ← Nat.pow_succ]))
  have value : c.toNat / 16 * 16 + c.toNat % 16 = c.toNat := by omega
  rw [Nat.zero_mul, Nat.zero_add, small] at front
  rw [upperHex, List.append_assoc, List.singleton_append, front, Pos.after_append, Pos.spots_cons, quotedFrom]
  simp [Pos.spot, digit, value, coded?_toNat]

theorem shortLetter?_spec {n : Nat} {letter : Char} (short : shortLetter? n = some letter) :
    isBreak letter = false ∧ escapeDigits? letter = none ∧ escape? letter = some (Char.ofNat n) := by
  unfold shortLetter? at short
  split at short <;> cases short <;> exact ⟨rfl, rfl, rfl⟩

theorem of_shortLetter?_none (plain : shortLetter? c.toNat = none) :
    isBreak c = false ∧ c ≠ '\x22' ∧ c ≠ '\\' := by
  refine ⟨?_, ?_, ?_⟩
  · rw [Bool.eq_false_iff]
    intro ends
    simp only [isBreak, Bool.or_eq_true, beq_iff_eq] at ends
    rcases ends with (ends | ends) | ends <;> rw [ends] at plain <;> cases plain
  · rintro rfl
    cases plain
  · rintro rfl
    cases plain

theorem quotedFrom_backslash {count : Nat} (inner : 0 < p.column) :
    quotedFrom true text (.text (.spaces count)) (p.spots ('\\' :: tail)) =
      quotedFrom true (List.replicate count ' ' ++ text) .escape ((p.next '\\').spots tail) := by
  rw [Pos.spots_cons, quotedFrom, not_atBoundary inner]
  rfl

theorem quotedFrom_letter {letter : Char} (inside : isBreak letter = false) (digits : escapeDigits? letter = none)
    (meant : escape? letter = some c) :
    quotedFrom true text .escape (p.spots (letter :: tail)) =
      quotedFrom true (c :: text) (.text .none) ((p.next letter).spots tail) := by
  rw [Pos.spots_cons, quotedFrom]
  simp [Pos.spot, inside, digits, meant]

theorem quotedFrom_digits {letter : Char} {count : Nat} (inside : isBreak letter = false)
    (digits : escapeDigits? letter = some (count + 1)) (fits : c.toNat < 16 ^ (count + 1)) :
    quotedFrom true text .escape (p.spots (letter :: (upperHex c.toNat (count + 1) ++ tail))) =
      quotedFrom true (c :: text) (.text .none)
        (((p.next letter).after (upperHex c.toNat (count + 1))).spots tail) := by
  rw [Pos.spots_cons, quotedFrom]
  simp only [Pos.spot, inside, digits, Bool.false_eq_true, if_false]
  exact quotedFrom_code count fits

/-- A character written as its code reads back. -/
theorem quotedFrom_coded {letter : Char} {count more : Nat} (inner : 0 < p.column)
    (inside : isBreak letter = false) (digits : escapeDigits? letter = some (more + 1))
    (fits : c.toNat < 16 ^ (more + 1)) :
    quotedFrom true text (.text (.spaces count))
        (p.spots ('\\' :: letter :: upperHex c.toNat (more + 1) ++ tail)) =
      quotedFrom true (c :: (List.replicate count ' ' ++ text)) (.text .none)
        ((p.after ('\\' :: letter :: upperHex c.toNat (more + 1))).spots tail) := by
  rw [List.cons_append, List.cons_append, quotedFrom_backslash inner, quotedFrom_digits inside digits fits]
  rfl

/-- A character other than a blank reads back from the way in which it stands between double quotes. -/
theorem quotedFrom_escaped {count : Nat} (inner : 0 < p.column) (word : c ≠ ' ') :
    quotedFrom true text (.text (.spaces count)) (p.spots (escaped c ++ tail)) =
      quotedFrom true (c :: (List.replicate count ' ' ++ text)) (.text .none) ((p.after (escaped c)).spots tail) := by
  cases short : shortLetter? c.toNat with
  | some letter =>
    obtain ⟨inside, digits, meant⟩ := shortLetter?_spec short
    rw [Char.ofNat_toNat] at meant
    simp only [escaped, short, List.cons_append, List.nil_append]
    rw [quotedFrom_backslash inner, quotedFrom_letter inside digits meant]
    rfl
  | none =>
    simp only [escaped, short]
    split
    · rename_i printable
      obtain ⟨inside, quote, backslash⟩ := of_shortLetter?_none short
      have blank : ¬isBlank c = true := fun blank => word (eq_space_of_isBlank printable blank)
      rw [List.singleton_append, Pos.spots_cons, quotedFrom, not_atBoundary inner, Gap.meaning_spaces]
      simp [Pos.spot, inside, blank, quote, backslash]
    · split
      · rename_i small
        exact quotedFrom_coded inner rfl rfl (by omega)
      · split
        · rename_i small
          exact quotedFrom_coded inner rfl rfl (by omega)
        · have valid : c.toNat < 0xD800 ∨ 0xDFFF < c.toNat ∧ c.toNat < 0x110000 := c.valid
          exact quotedFrom_coded inner rfl rfl (by omega)

theorem tame_upperHexDigit : ∀ n < 16, isPrintable (upperHexDigit n) = true ∧ isLineEnd (upperHexDigit n) = false := by
  decide

theorem tame_upperHex {n count : Nat} (member : c ∈ upperHex n count) : Tame c := by
  induction count generalizing n with
  | zero => cases member
  | succ count ih =>
    rcases List.mem_append.1 member with member | last
    · exact ih member
    · obtain rfl := List.mem_singleton.1 last
      have digit := tame_upperHexDigit (n % 16) (Nat.mod_lt n (by decide))
      exact ⟨digit.1, digit.2⟩

theorem tame_shortLetter {n : Nat} (short : shortLetter? n = some c) : Tame c := by
  unfold shortLetter? at short
  split at short <;> cases short <;> exact ⟨rfl, rfl⟩

/-- What stands between double quotes stands on one line. -/
theorem tame_escaped {d : Char} (member : d ∈ escaped c) : Tame d := by
  have backslash : Tame '\\' := ⟨rfl, rfl⟩
  cases short : shortLetter? c.toNat with
  | some letter =>
    simp only [escaped, short, List.mem_cons, List.not_mem_nil, or_false] at member
    rcases member with rfl | rfl
    · exact backslash
    · exact tame_shortLetter short
  | none =>
    simp only [escaped, short] at member
    split at member
    · rename_i printable
      obtain rfl := List.mem_singleton.1 member
      refine ⟨printable, ?_⟩
      have feed : d.toNat ≠ 0x0D := fun same => by rw [same] at short; cases short
      have next : d.toNat ≠ 0x85 := fun same => by rw [same] at short; cases short
      simp [isLineEnd, (of_shortLetter?_none short).1, feed, next]
    · have coded {letter : Char} (tame : Tame letter) {count : Nat}
          (member : d ∈ '\\' :: letter :: upperHex c.toNat count) : Tame d := by
        rcases List.mem_cons.1 member with rfl | member
        · exact backslash
        · rcases List.mem_cons.1 member with rfl | member
          · exact tame
          · exact tame_upperHex member
      split at member
      · exact coded ⟨rfl, rfl⟩ member
      · split at member
        · exact coded ⟨rfl, rfl⟩ member
        · exact coded ⟨rfl, rfl⟩ member

theorem column_after (tame : ∀ c ∈ cs, Tame c) : (p.after cs).column = p.column + cs.length := by
  rw [Pos.after_line fun c member => (tame c member).noBreak]

theorem escaped_space : escaped ' ' = [' '] := by decide

/-- A text reads back from between double quotes. -/
theorem quotedFrom_double {count : Nat} (inner : 0 < p.column) :
    quotedFrom true text (.text (.spaces count)) (p.spots (cs.flatMap escaped ++ '\x22' :: tail)) =
      some (text.reverse ++ (List.replicate count ' ' ++ cs), (p.after (cs.flatMap escaped ++ ['\x22'])).spots tail) := by
  induction cs generalizing p text count with
  | nil =>
    rw [List.flatMap_nil, List.nil_append, Pos.spots_cons, quotedFrom, not_atBoundary inner]
    simp [Pos.spot, isBreak, isBlank, Gap.meaning_spaces]
  | cons c cs ih =>
    rw [List.flatMap_cons, List.append_assoc]
    by_cases space : c = ' '
    · subst space
      have step : quotedFrom true text (.text (.spaces count)) (p.spots (' ' :: (cs.flatMap escaped ++ '\x22' :: tail))) =
          quotedFrom true text (.text (.spaces (count + 1))) ((p.next ' ').spots (cs.flatMap escaped ++ '\x22' :: tail)) := by
        rw [Pos.spots_cons, quotedFrom]
        rfl
      have further : 0 < (p.next ' ').column := Nat.succ_pos p.column
      rw [escaped_space, List.singleton_append, step, ih further]
      simp [List.replicate_succ']
    · have further : 0 < (p.after (escaped c)).column := by
        rw [column_after fun d => tame_escaped]
        omega
      have step : quotedFrom true text _ (p.spots (escaped c ++ (cs.flatMap escaped ++ '\x22' :: tail))) =
          quotedFrom true (c :: (List.replicate count ' ' ++ text)) (.text (.spaces 0)) _ := quotedFrom_escaped inner space
      refine (step.trans (ih further)).trans ?_
      simp [Pos.after_append]

theorem hasPair_cons_eq_false {p q : Char → Bool} :
    hasPair p q (c :: cs) = false ↔ (∀ d ∈ cs.head?, p c = true → q d = false) ∧ hasPair p q cs = false := by
  cases cs with
  | nil => simp [hasPair]
  | cons d cs => simp [hasPair]

theorem isBreak_of_isLineEnd (printable : isPrintable c = true) (lineEnd : isLineEnd c = true) : isBreak c = true := by
  simp only [isPrintable, isLineEnd, isBreak, Bool.or_eq_true, Bool.and_eq_true, beq_iff_eq, decide_eq_true_eq] at *
  omega

/-- The gap before a further character of a single-quoted text: blanks on a line, line ends between lines. -/
def pendingGap (afterEnd : Bool) (pending : List Char) : Gap :=
  if afterEnd then ⟨[], pending, true, true⟩ else ⟨pending, [], false, true⟩

theorem meaning_pendingGap {afterEnd : Bool} {pending : List Char} (kept : afterEnd = true → '\n' ∉ pending) :
    (pendingGap afterEnd pending).meaning = pending := by
  cases afterEnd with
  | false => rfl
  | true =>
    have kept := kept rfl
    simp only [pendingGap, Gap.meaning, if_true, Bool.not_true, Bool.false_eq_true, if_false]
    split
    · rename_i single
      exact absurd (List.mem_reverse.1 (single ▸ List.mem_cons_self)) kept
    · rename_i first
      exact absurd (List.mem_reverse.1 (first ▸ List.mem_cons_self)) kept
    · exact List.reverse_reverse pending

/-- The indentation behind a line end is no part of the text. -/
theorem quotedFrom_pad (indent : Nat) (pending : List Char) :
    quotedFrom false text (.text (pendingGap true pending)) (p.spots (pad indent ++ tail)) =
      quotedFrom false text (.text (pendingGap true pending)) ((p.after (pad indent)).spots tail) := by
  induction indent generalizing p with
  | zero => rfl
  | succ indent ih =>
    have step : quotedFrom false text (.text (pendingGap true pending)) (p.spots (' ' :: (pad indent ++ tail))) =
        quotedFrom false text (.text (pendingGap true pending)) ((p.next ' ').spots (pad indent ++ tail)) := by
      rw [Pos.spots_cons, quotedFrom]
      rfl
    exact step.trans ih

/-- What indents a further line of a single-quoted text. -/
def margin (indent : Nat) (afterEnd : Bool) : List Char := if afterEnd then pad indent else []

theorem quotedFrom_margin (tail : List Char) {indent : Nat} {afterEnd : Bool} {pending : List Char} (indented : 0 < indent)
    (inner : afterEnd = false → 0 < p.column) :
    0 < (p.after (margin indent afterEnd)).column ∧
      quotedFrom false text (.text (pendingGap afterEnd pending)) (p.spots (margin indent afterEnd ++ tail)) =
        quotedFrom false text (.text (pendingGap afterEnd pending)) ((p.after (margin indent afterEnd)).spots tail) := by
  cases afterEnd with
  | false => exact ⟨inner rfl, rfl⟩
  | true =>
    refine ⟨?_, quotedFrom_pad indent pending⟩
    rw [margin, if_pos rfl, after_pad]
    exact Nat.add_pos_right p.column indented

/-- How a character of a word stands between single quotes. -/
def singled (c : Char) : List Char := if c = '\x27' then ['\x27', '\x27'] else [c]

section Single

variable {indent : Nat} {afterEnd : Bool} {pending : List Char}

theorem quotedFrom_close (inner : 0 < p.column) (kept : afterEnd = true → '\n' ∉ pending)
    (ends : tail.head? ≠ some '\x27') :
    quotedFrom false text (.text (pendingGap afterEnd pending)) (p.spots ('\x27' :: tail)) =
      some (text.reverse ++ pending.reverse, (p.next '\x27').spots tail) := by
  rw [Pos.spots_cons, quotedFrom, not_atBoundary inner, meaning_pendingGap kept]
  cases tail with
  | nil => simp [Pos.spot, isBreak, isBlank]
  | cons c tail =>
    have other : c ≠ '\x27' := fun same => ends (same ▸ rfl)
    rw [Pos.spots_cons]
    simp [Pos.spot, isBreak, isBlank, other]

theorem quotedFrom_inside (inner : 0 < p.column) (kept : afterEnd = true → '\n' ∉ pending) (inside : isBreak c = false)
    (word : isBlank c = false) :
    quotedFrom false text (.text (pendingGap afterEnd pending)) (p.spots (singled c ++ tail)) =
      quotedFrom false (c :: (pending ++ text)) (.text (pendingGap false [])) ((p.after (singled c)).spots tail) := by
  unfold singled
  by_cases quote : c = '\x27'
  · subst quote
    rw [if_pos rfl, List.cons_append, List.cons_append, List.nil_append, Pos.spots_cons, Pos.spots_cons, quotedFrom,
      not_atBoundary inner, meaning_pendingGap kept]
    rfl
  · have nothing : Gap.none = pendingGap false [] := rfl
    rw [if_neg quote, List.singleton_append, Pos.spots_cons, quotedFrom, not_atBoundary inner, meaning_pendingGap kept]
    simp [Pos.spot, inside, word, quote, nothing]

theorem tame_singled (tame : Tame c) {d : Char} (member : d ∈ singled c) : Tame d := by
  unfold singled at member
  split at member
  · rename_i quote
    simp only [List.mem_cons, List.not_mem_nil, or_false, or_self] at member
    exact member ▸ quote ▸ tame
  · exact List.mem_singleton.1 member ▸ tame

theorem quotedFrom_break (ends : isBreak c = true) (nothing : afterEnd = false → pending = []) :
    quotedFrom false text (.text (pendingGap afterEnd pending)) (p.spots (c :: tail)) =
      quotedFrom false text (.text (pendingGap true (c :: pending))) ((p.next c).spots tail) := by
  rw [Pos.spots_cons, quotedFrom_lineEnd ends]
  cases afterEnd with
  | false =>
    rw [nothing rfl]
    rfl
  | true => rfl

theorem quotedFrom_space :
    quotedFrom false text (.text (pendingGap false pending)) (p.spots (' ' :: tail)) =
      quotedFrom false text (.text (pendingGap false (' ' :: pending))) ((p.next ' ').spots tail) := by
  rw [Pos.spots_cons, quotedFrom]
  rfl

theorem singleQuotedFrom_word (inside : isLineEnd c = false) :
    singleQuotedFrom indent afterEnd (c :: cs) =
      margin indent afterEnd ++ (singled c ++ singleQuotedFrom indent false cs) := by
  rw [singleQuotedFrom, if_neg (Bool.eq_false_iff.1 inside)]
  rfl

theorem quotedFrom_word (indented : 0 < indent) (inner : afterEnd = false → 0 < p.column)
    (kept : afterEnd = true → '\n' ∉ pending) (tame : Tame c) (space : c ≠ ' ') :
    0 < (p.after (margin indent afterEnd ++ singled c)).column ∧
      quotedFrom false text (.text (pendingGap afterEnd pending)) (p.spots (margin indent afterEnd ++ (singled c ++ tail))) =
        quotedFrom false (c :: (pending ++ text)) (.text (pendingGap false []))
          ((p.after (margin indent afterEnd ++ singled c)).spots tail) := by
  have word : isBlank c = false := Bool.eq_false_iff.2 fun blank => space (eq_space_of_isBlank tame.printable blank)
  obtain ⟨settled, margins⟩ := quotedFrom_margin (singled c ++ tail) indented inner
  rw [Pos.after_append]
  refine ⟨?_, margins.trans (quotedFrom_inside settled kept tame.noBreak word)⟩
  rw [column_after fun d => tame_singled tame]
  exact Nat.add_pos_left settled _

/-- A text reads back from between single quotes, if no blank stands next to a line end in it. -/
theorem quotedFrom_single (indented : 0 < indent) (printable : ∀ c ∈ cs, isPrintable c = true ∧ c ≠ '\n')
    (spaceEnd : hasPair isSpace isLineEnd cs = false) (endSpace : hasPair isLineEnd isSpace cs = false)
    (kept : afterEnd = true → '\n' ∉ pending)
    (front : ∀ c ∈ cs.head?, if afterEnd then isSpace c = false else pending ≠ [] → isLineEnd c = false)
    (inner : afterEnd = false → 0 < p.column) (ends : tail.head? ≠ some '\x27') :
    quotedFrom false text (.text (pendingGap afterEnd pending)) (p.spots (singleQuotedFrom indent afterEnd cs ++ tail)) =
      some (text.reverse ++ (pending.reverse ++ cs), (p.after (singleQuotedFrom indent afterEnd cs)).spots tail) := by
  induction cs generalizing p text afterEnd pending with
  | nil =>
    obtain ⟨settled, margins⟩ := quotedFrom_margin ('\x27' :: tail) indented inner
    show quotedFrom false text _ (p.spots ((margin indent afterEnd ++ ['\x27']) ++ tail)) =
      some (_, (p.after (margin indent afterEnd ++ ['\x27'])).spots tail)
    rw [List.append_assoc, List.singleton_append, margins, quotedFrom_close settled kept ends, Pos.after_append,
      List.append_nil]
    rfl
  | cons c cs ih =>
    obtain ⟨here, notFeed⟩ := printable c List.mem_cons_self
    have later := fun d member => printable d (List.mem_cons_of_mem c member)
    obtain ⟨lineEndNext, spaceEndLater⟩ := hasPair_cons_eq_false.1 spaceEnd
    obtain ⟨spaceNext, endSpaceLater⟩ := hasPair_cons_eq_false.1 endSpace
    by_cases lineEnd : isLineEnd c = true
    · have nothing : afterEnd = false → pending = [] := by
        rintro rfl
        by_contra some
        have inside := front c rfl some
        rw [lineEnd] at inside
        cases inside
      have keeps : '\n' ∉ c :: pending := by
        refine fun member => (List.mem_cons.1 member).elim (fun same => notFeed same.symm) fun member => ?_
        cases afterEnd with
        | false =>
          rw [nothing rfl] at member
          cases member
        | true => exact kept rfl member
      have unfolded : singleQuotedFrom indent afterEnd (c :: cs) = c :: singleQuotedFrom indent true cs := by
        rw [singleQuotedFrom, if_pos lineEnd]
      rw [unfolded]
      have step : quotedFrom false text _ (p.spots (c :: (singleQuotedFrom indent true cs ++ tail))) = _ :=
        quotedFrom_break (isBreak_of_isLineEnd here lineEnd) nothing
      refine (step.trans (ih later spaceEndLater endSpaceLater (fun _ => keeps) (fun d first => spaceNext d first lineEnd)
        nofun)).trans ?_
      simp
    · rw [singleQuotedFrom_word (Bool.eq_false_iff.2 lineEnd)]
      by_cases space : c = ' '
      · subst space
        have within : afterEnd = false := by
          cases afterEnd with
          | false => rfl
          | true => cases front ' ' rfl
        subst within
        refine (quotedFrom_space.trans (ih later spaceEndLater endSpaceLater nofun (fun d first _ => lineEndNext d first rfl)
          fun _ => Nat.succ_pos p.column)).trans ?_
        simp [margin, singled]
      · obtain ⟨further, step⟩ := quotedFrom_word indented inner kept ⟨here, Bool.eq_false_iff.2 lineEnd⟩ space
        rw [List.append_assoc, List.append_assoc]
        refine (step.trans (ih later spaceEndLater endSpaceLater nofun (fun _ _ => nofun) fun _ => further)).trans ?_
        simp [Pos.after_append]

end Single

end LiveControl.Yaml
