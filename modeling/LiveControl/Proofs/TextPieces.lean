import LiveControl.Text.AsciiCase
import LiveControl.Text.Blank

namespace LiveControl.Text

/-- There is no blank at either end. -/
def Snug (cs : List Char) : Prop :=
  (∀ c ∈ cs.head?, isBlank c = false) ∧ ∀ c ∈ cs.getLast?, isBlank c = false

/-- A list lies between blanks within another. -/
structure Within (core cs : List Char) (before after : List Char) : Prop where
  split : cs = before ++ core ++ after
  before_blank : ∀ c ∈ before, isBlank c = true
  after_blank : ∀ c ∈ after, isBlank c = true

theorem not_of_head?_dropWhile {α : Type} {p : α → Bool} {xs : List α} {x : α}
    (first : (xs.dropWhile p).head? = some x) : p x = false := by
  have stop := List.head?_dropWhile_not p xs
  rw [first] at stop
  simpa using stop

theorem all_takeWhile {α : Type} {p : α → Bool} {xs : List α} {x : α} (member : x ∈ xs.takeWhile p) : p x = true :=
  List.all_eq_true.1 List.all_takeWhile x member

theorem exists_within_trimChars (cs : List Char) :
    Snug (trimChars cs) ∧ ∃ before after, Within (trimChars cs) cs before after := by
  let inner := cs.dropWhile isBlank
  let after := (inner.reverse.takeWhile isBlank).reverse
  have trimmed : trimChars cs = (inner.reverse.dropWhile isBlank).reverse := rfl
  have ends : inner = trimChars cs ++ after := by
    rw [trimmed, ← List.reverse_append, List.takeWhile_append_dropWhile, List.reverse_reverse]
  refine ⟨⟨fun c first => ?_, fun c last => ?_⟩, cs.takeWhile isBlank, after, ?_, fun c => all_takeWhile, ?_⟩
  · have first : inner.head? = some c := by
      rw [ends, List.head?_append, Option.mem_def.1 first, Option.some_or]
    exact not_of_head?_dropWhile first
  · rw [trimmed, List.getLast?_reverse] at last
    exact not_of_head?_dropWhile last
  · rw [List.append_assoc, ← ends]
    exact (List.takeWhile_append_dropWhile ..).symm
  · exact fun c member => all_takeWhile (List.mem_reverse.1 member)

theorem dropWhile_of_head? {xs : List Char} (first : ∀ c ∈ xs.head?, isBlank c = false) :
    xs.dropWhile isBlank = xs := by
  cases xs with
  | nil => rfl
  | cons c rest => exact List.dropWhile_cons_of_neg (by simp [first c rfl])

/-- What lies between blanks and is snug is what a text is trimmed to. -/
theorem Within.trimChars_eq {core cs before after : List Char} (within : Within core cs before after)
    (snug : Snug core) : trimChars cs = core := by
  obtain ⟨rfl, leading, trailing⟩ := within
  obtain ⟨first, last⟩ := snug
  rw [trimChars, dropEndWhile, List.append_assoc, List.dropWhile_append_of_pos leading]
  cases core with
  | nil =>
    have passed : (after ++ ([] : List Char)).dropWhile isBlank = ([] : List Char).dropWhile isBlank :=
      List.dropWhile_append_of_pos trailing
    have none_left : after.dropWhile isBlank = [] := by simpa using passed
    rw [List.nil_append, none_left]
    rfl
  | cons c rest =>
    have starts : (c :: rest ++ after).dropWhile isBlank = c :: rest ++ after :=
      dropWhile_of_head? (by simpa using first)
    have backwards : ∀ d ∈ (c :: rest).reverse.head?, isBlank d = false := by
      rwa [List.head?_reverse]
    have trailing : ∀ d ∈ after.reverse, isBlank d = true := by simpa using trailing
    rw [starts, List.reverse_append, List.dropWhile_append_of_pos trailing, dropWhile_of_head? backwards,
      List.reverse_reverse]

theorem trimChars_trimChars (cs : List Char) : trimChars (trimChars cs) = trimChars cs := by
  have snug := (exists_within_trimChars cs).1
  have whole : Within (trimChars cs) (trimChars cs) [] [] := ⟨by simp, nofun, nofun⟩
  exact whole.trimChars_eq snug

/-- Blanks put around a text are trimmed away again. -/
theorem trimChars_between {before after : List Char} (cs : List Char) (leading : ∀ c ∈ before, isBlank c = true)
    (trailing : ∀ c ∈ after, isBlank c = true) : trimChars (before ++ cs ++ after) = trimChars cs := by
  obtain ⟨snug, inner, outer, split, left, right⟩ := exists_within_trimChars cs
  have within : Within (trimChars cs) (before ++ cs ++ after) (before ++ inner) (outer ++ after) := by
    refine ⟨?_, ?_, ?_⟩
    · have around : before ++ cs ++ after = before ++ (inner ++ trimChars cs ++ outer) ++ after := by rw [← split]
      rw [around]
      simp only [List.append_assoc]
    · exact List.forall_mem_append.2 ⟨leading, left⟩
    · exact List.forall_mem_append.2 ⟨right, trailing⟩
  exact within.trimChars_eq snug

/-- A trimmed text starts with the first character of the text that is no blank. -/
theorem head?_trimChars (cs : List Char) : (trimChars cs).head? = cs.find? fun c => !isBlank c := by
  obtain ⟨snug, before, after, split, leading, trailing⟩ := exists_within_trimChars cs
  have passed : before.find? (fun c => !isBlank c) = none := by simpa using leading
  have stopped : after.find? (fun c => !isBlank c) = none := by simpa using trailing
  conv => rhs; rw [split, List.append_assoc, List.find?_append, passed, Option.none_or, List.find?_append]
  cases core : trimChars cs with
  | nil => exact stopped.symm
  | cons c rest =>
    have shown : isBlank c = false := snug.1 c (by rw [core]; rfl)
    rw [List.find?_cons_of_pos (by simp [shown])]
    rfl

@[simp] theorem toList_trim (s : String) : (trim s).toList = trimChars s.toList := by
  rw [trim, String.toList_ofList]

@[simp] theorem trim_trim (s : String) : trim (trim s) = trim s := by
  rw [trim, toList_trim, trimChars_trimChars]
  rfl

theorem isBlankText_iff {s : String} : isBlankText s = true ↔ trim s = "" := by
  rw [← String.toList_inj, toList_trim, String.toList_empty, ← List.head?_eq_none_iff, head?_trimChars]
  simp [isBlankText]

theorem trimmed?_trim (s : String) : trimmed? (trim s) = trimmed? s := by
  rw [trimmed?, trimmed?, trim_trim]

variable {mark : Char}

/-- Something put before a text without the mark goes to its first piece. -/
theorem exists_pieces_append_left {before : List Char} (free : mark ∉ before) (cs : List Char) :
    ∃ first others, pieces mark cs = first :: others ∧ pieces mark (before ++ cs) = (before ++ first) :: others := by
  induction before with
  | nil =>
    cases cut : pieces mark cs with
    | nil =>
      unfold pieces at cut
      repeat' split at cut
      all_goals cases cut
    | cons first others => exact ⟨first, others, rfl, cut⟩
  | cons c before ih =>
    have apart : c ≠ mark := fun same => free (same ▸ List.mem_cons_self)
    obtain ⟨first, others, cut, cut'⟩ := ih fun member => free (List.mem_cons_of_mem _ member)
    refine ⟨first, others, cut, ?_⟩
    rw [List.cons_append, pieces, if_neg apart, cut']
    rfl

/-- Something put behind a text without the mark goes to its last piece. -/
theorem exists_pieces_append_right {after : List Char} (free : mark ∉ after) (cs : List Char) :
    ∃ others last, pieces mark cs = others ++ [last] ∧ pieces mark (cs ++ after) = others ++ [last ++ after] := by
  induction cs with
  | nil =>
    obtain ⟨first, others, cut, cut'⟩ := exists_pieces_append_left free []
    cases cut
    exact ⟨[], [], rfl, by simpa using cut'⟩
  | cons c cs ih =>
    obtain ⟨others, last, cut, cut'⟩ := ih
    by_cases same : c = mark
    · refine ⟨[] :: others, last, ?_, ?_⟩
      · rw [pieces, if_pos same, cut]
        rfl
      · rw [List.cons_append, pieces, if_pos same, cut']
        rfl
    · rw [List.cons_append, pieces, pieces, if_neg same, if_neg same, cut, cut']
      cases others with
      | nil => exact ⟨[], c :: last, rfl, rfl⟩
      | cons first others => exact ⟨(c :: first) :: others, last, rfl, rfl⟩

theorem pieces_of_free {cs : List Char} (free : mark ∉ cs) : pieces mark cs = [cs] := by
  obtain ⟨first, others, cut, cut'⟩ := exists_pieces_append_left free []
  cases cut
  simpa using cut'

theorem not_mem_of_mem_pieces {cs part : List Char} (cut : part ∈ pieces mark cs) : mark ∉ part := by
  induction cs generalizing part with
  | nil =>
    obtain rfl := List.mem_singleton.1 cut
    exact List.not_mem_nil
  | cons c cs ih =>
    by_cases same : c = mark
    · rw [pieces, if_pos same] at cut
      rcases List.mem_cons.1 cut with rfl | later
      · exact List.not_mem_nil
      · exact ih later
    · have apart : mark ∉ [c] := by simpa using Ne.symm same
      obtain ⟨first, others, before, here⟩ := exists_pieces_append_left apart cs
      rw [before] at ih
      rw [← List.singleton_append, here] at cut
      rcases List.mem_cons.1 cut with rfl | later
      · exact List.not_mem_append apart (ih List.mem_cons_self)
      · exact ih (List.mem_cons_of_mem _ later)

/-- Pieces without the mark that are joined by it are the pieces of what they make. -/
theorem pieces_intercalate {parts : List (List Char)} (filled : parts ≠ []) (free : ∀ part ∈ parts, mark ∉ part) :
    pieces mark (List.intercalate [mark] parts) = parts := by
  induction parts with
  | nil => exact absurd rfl filled
  | cons part parts ih =>
    obtain ⟨here, later⟩ := List.forall_mem_cons.1 free
    cases parts with
    | nil =>
      rw [List.intercalate_singleton]
      exact pieces_of_free here
    | cons next rest =>
      obtain ⟨first, others, cut, cut'⟩ :=
        exists_pieces_append_left here (mark :: List.intercalate [mark] (next :: rest))
      rw [pieces, if_pos rfl, ih nofun later] at cut
      cases cut
      rw [List.intercalate_cons_cons, List.append_assoc, List.singleton_append, cut', List.append_nil]

theorem pieces_join {parts : List String} (filled : parts ≠ []) (free : ∀ part ∈ parts, ',' ∉ part.toList) :
    pieces ',' (String.intercalate "," parts).toList = parts.map String.toList := by
  rw [String.toList_intercalate]
  exact pieces_intercalate (by simpa using filled) (by simpa using free)

theorem not_mem_blanks {blanks : List Char} (solid : isBlank mark = false) (blank : ∀ c ∈ blanks, isBlank c = true) :
    mark ∉ blanks := by
  intro member
  rw [blank mark member] at solid
  cases solid

/-- A text that is trimmed first has, but for blanks around them, the same pieces. -/
theorem map_trimChars_pieces (solid : isBlank mark = false) (cs : List Char) :
    (pieces mark (trimChars cs)).map trimChars = (pieces mark cs).map trimChars := by
  obtain ⟨-, before, after, split, leading, trailing⟩ := exists_within_trimChars cs
  obtain ⟨first, rest, cut, cut'⟩ := exists_pieces_append_left (not_mem_blanks solid leading) (trimChars cs ++ after)
  obtain ⟨others, last, core, core'⟩ := exists_pieces_append_right (not_mem_blanks solid trailing) (trimChars cs)
  have none : ∀ c ∈ ([] : List Char), isBlank c = true := nofun
  have left : trimChars (before ++ first) = trimChars first := by
    simpa using trimChars_between first leading none
  have right : trimChars (last ++ after) = trimChars last := by
    simpa using trimChars_between last none trailing
  rw [← List.append_assoc, ← split] at cut'
  rw [cut', core, List.map_cons, left, ← List.map_cons, ← cut, core']
  simp only [List.map_append, List.map_cons, List.map_nil, right]

theorem toLower_of_not_isUpper {c : Char} (small : c.isUpper = false) : c.toLower = c := by
  have outside : ¬(65 ≤ c.val ∧ c.val ≤ 90) := of_decide_eq_false small
  exact dif_neg outside

/-- The letters a to z stand 32 places behind A to Z. -/
theorem toNat_toLower {c : Char} (upper : c.isUpper = true) :
    65 ≤ c.toNat ∧ c.toNat ≤ 90 ∧ c.toLower.toNat = c.toNat + 32 := by
  have inside : 65 ≤ c.val ∧ c.val ≤ 90 := of_decide_eq_true upper
  have low : 65 ≤ c.toNat := by simpa [UInt32.le_iff_toNat_le] using inside.1
  have high : c.toNat ≤ 90 := by simpa [UInt32.le_iff_toNat_le] using inside.2
  have moved : c.toLower.val = c.val + 32 := congrArg Char.val (dif_pos inside)
  have val : c.val.toNat = c.toNat := rfl
  refine ⟨low, high, ?_⟩
  show c.toLower.val.toNat = _
  rw [moved, UInt32.toNat_add, val]
  simp
  omega

theorem isLower_iff {c : Char} : c.isLower = true ↔ 97 ≤ c.toNat ∧ c.toNat ≤ 122 := by
  have spelled : c.isLower = (decide (97 ≤ c.val) && decide (c.val ≤ 122)) := rfl
  simp [spelled, UInt32.le_iff_toNat_le]

/-- Only a letter has another case. -/
theorem toLower_eq_iff {c d : Char} (caseless : d.isAlpha = false) : c.toLower = d ↔ c = d := by
  have apart : d.isUpper = false ∧ d.isLower = false := Bool.or_eq_false_iff.1 caseless
  cases upper : c.isUpper with
  | false => rw [toLower_of_not_isUpper upper]
  | true =>
    constructor
    · rintro rfl
      obtain ⟨low, high, moved⟩ := toNat_toLower upper
      have lower : c.toLower.isLower = true := isLower_iff.2 (by omega)
      exact absurd lower (by simp [apart.2])
    · rintro rfl
      exact absurd upper (by simp [apart.1])

theorem isBlank_toLower (c : Char) : isBlank c.toLower = isBlank c := by
  cases upper : c.isUpper with
  | false => rw [toLower_of_not_isUpper upper]
  | true =>
    obtain ⟨low, high, moved⟩ := toNat_toLower upper
    unfold isBlank
    rw [moved]
    grind

theorem asciiLower_eq_self_iff {s : String} : asciiLower s = s ↔ ∀ c ∈ s.toList, c.isUpper = false := by
  constructor
  · intro same c member
    have fixed : s.toList.map Char.toLower = s.toList.map id := by
      rw [← toList_asciiLower, same, List.map_id]
    have stays : c.toLower = c := List.map_inj_left.1 fixed c member
    refine Bool.eq_false_iff.2 fun upper => ?_
    have moved := (toNat_toLower upper).2.2
    rw [stays] at moved
    omega
  · intro small
    apply String.toList_injective
    rw [toList_asciiLower]
    exact (List.map_congr_left fun c member => toLower_of_not_isUpper (small c member)).trans (List.map_id _)

theorem asciiLower_eq_empty_iff {s : String} : asciiLower s = "" ↔ s = "" := by
  rw [← String.toList_inj, toList_asciiLower, ← String.toList_inj, String.toList_empty, List.map_eq_nil_iff]

theorem snug_map_toLower {cs : List Char} (snug : Snug cs) : Snug (cs.map Char.toLower) := by
  obtain ⟨first, last⟩ := snug
  constructor
  · simpa [isBlank_toLower] using first
  · simpa [isBlank_toLower] using last

theorem trimChars_map_toLower (cs : List Char) : trimChars (cs.map Char.toLower) = (trimChars cs).map Char.toLower := by
  obtain ⟨snug, before, after, split, leading, trailing⟩ := exists_within_trimChars cs
  have blank {blanks : List Char} (all : ∀ c ∈ blanks, isBlank c = true) :
      ∀ c ∈ blanks.map Char.toLower, isBlank c = true := by
    simpa [isBlank_toLower] using all
  refine Within.trimChars_eq ⟨?_, blank leading, blank trailing⟩ (snug_map_toLower snug)
  rw [← List.map_append, ← List.map_append, ← split]

theorem asciiLower_trim (s : String) : asciiLower (trim s) = trim (asciiLower s) := by
  apply String.toList_injective
  simp only [toList_asciiLower, toList_trim, trimChars_map_toLower]

theorem pieces_map_toLower (caseless : mark.isAlpha = false) (cs : List Char) :
    pieces mark (cs.map Char.toLower) = (pieces mark cs).map (List.map Char.toLower) := by
  induction cs with
  | nil => rfl
  | cons c cs ih =>
    rw [List.map_cons, pieces, pieces]
    by_cases same : c = mark
    · rw [if_pos ((toLower_eq_iff caseless).2 same), if_pos same, ih]
      rfl
    · rw [if_neg (mt (toLower_eq_iff caseless).1 same), if_neg same, ih]
      cases pieces mark cs <;> rfl

end LiveControl.Text
