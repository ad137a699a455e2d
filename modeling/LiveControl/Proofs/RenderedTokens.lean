import LiveControl.Proofs.EntrySteps
import LiveControl.Proofs.KeyLength
import LiveControl.Proofs.NumberText
import LiveControl.Proofs.PrintableText

namespace LiveControl.Yaml

variable {p q : Pos} {cs ds tail word : List Char} {c : Char} {k : Nat}

/-- A scalar starts with what is not passed over. -/
theorem Spelled.onward {indent : Nat} {style : Style} (spelled : Spelled indent word style cs) : Onward (cs ++ tail) := by
  cases spelled with
  | literal | double | single => exact fun c first => Option.some.inj first ▸ rfl
  | plain fits =>
    cases cs with
    | nil => exact absurd rfl fits.filled
    | cons c cs =>
      intro d first
      obtain rfl : c = d := Option.some.inj first
      have printable := (fits.tame c List.mem_cons_self).printable
      have inside := (fits.tame c List.mem_cons_self).noBreak
      have starts := fits.starts
      simp only [startsIndicator, Bool.or_eq_false_iff] at starts
      have comment : c ≠ '#' := by
        rintro rfl
        exact absurd starts.1 (by decide)
      have mark : c ≠ byteOrderMark := by
        rintro rfl
        cases printable
      have blank : isBlank c = false := Bool.eq_false_iff.2 fun blank => fits.front (by
        rw [eq_space_of_isBlank printable blank]
        rfl)
      simp [passedOver, inside, blank, comment, mark]

theorem onward_closed (indent : Nat) (text : String) : Onward (closed (scalarText indent text) ++ tail) := by
  rw [closed_eq, List.append_assoc]
  exact (spelled_scalarText indent text).onward

theorem not_hasIndicatorAfter {before : Char} (absent : ∀ c ∈ cs, c ≠ ':' ∧ c ≠ '#') :
    hasIndicatorAfter before cs = false := by
  induction cs generalizing before with
  | nil => rfl
  | cons c cs ih =>
    obtain ⟨colon, comment⟩ := absent c List.mem_cons_self
    simp [hasIndicatorAfter, colon, comment, ih fun d member => absent d (List.mem_cons_of_mem c member)]

/-- What a number is written with is no indicator. -/
def Numeral (c : Char) : Prop := Tame c ∧ c ≠ ' ' ∧ c ≠ ':' ∧ c ≠ '#'

theorem numeral_of_isDigit (digit : Decimal.isDigit c = true) : Numeral c := by
  have codes : 48 ≤ c.toNat ∧ c.toNat ≤ 57 := Decimal.isDigit_iff.1 digit
  refine ⟨⟨?_, ?_⟩, ?_, ?_, ?_⟩
  · simp only [isPrintable, Bool.or_eq_true, Bool.and_eq_true, decide_eq_true_eq]
    omega
  · simp only [isLineEnd, isBreak, Bool.or_eq_false_iff, beq_eq_false_iff_ne]
    omega
  all_goals
    rintro rfl
    exact absurd digit (by decide)

theorem FitsPlain.of_number {w : Decimal.Written} (tidy : w.Tidy) : FitsPlain (w.spelled []) := by
  have numeral {c : Char} (member : c ∈ w.spelled []) : Numeral c := by
    rcases tidy.of_mem_spelled member with digit | mark
    · exact numeral_of_isDigit digit
    · simp only [List.mem_cons, List.not_mem_nil, or_false] at mark
      rcases mark with rfl | rfl | rfl <;> exact ⟨⟨rfl, rfl⟩, by decide, by decide, by decide⟩
  refine ⟨Decimal.Written.spelled_ne_nil tidy, fun c member => (numeral member).1, fun first => ?_, fun last => ?_,
    ?_, ?_⟩
  · exact (numeral (List.mem_of_mem_head? first)).2.1 rfl
  · exact (numeral (List.mem_of_getLast? last)).2.1 rfl
  · obtain ⟨first, rest, whole, digit⟩ := tidy.eq_cons
    have other {cs : List Char} (marks : cs.all (fun c => !Decimal.isDigit c) = true) : cs.contains first = false := by
      rw [Bool.eq_false_iff]
      intro member
      have noDigit := List.all_eq_true.1 marks first (List.contains_iff_mem.1 member)
      rw [digit] at noDigit
      cases noDigit
    have numeral := numeral_of_isDigit digit
    have word : isBlank first = false := Bool.eq_false_iff.2 fun blank =>
      numeral.2.1 (eq_space_of_isBlank numeral.1.printable blank)
    unfold Decimal.Written.spelled Decimal.Written.chars
    rw [whole]
    split
    · have front : leadingIndicators.contains '-' = false := by decide
      rw [startsIndicator, front]
      simp [goesOnWithGap, word, numeral.1.inside]
    · have front : leadingIndicators.contains first = false := other (by decide)
      have middle : ['?', ':', '-'].contains first = false := other (by decide)
      rw [List.cons_append, startsIndicator, front, middle]
      rfl
  · exact not_hasIndicatorAfter fun c member => (numeral member).2.2

theorem fitsPlain_number {x : Float} (finite : x.isFinite = true) : FitsPlain (numberLayout.write x).toList := by
  obtain ⟨b, read⟩ := Decimal.Binary.exists_of_isFinite finite
  obtain ⟨w, tidy, spelled, -⟩ := Decimal.Layout.exists_written (l := numberLayout) rfl rfl read
  rw [spelled]
  exact .of_number tidy

def scalarToken (text : String) : Token := .scalar (scalarStyle text) text

/-- The tokens of an entry of a table. -/
def entryTokens (entry : String × String) : List Token := [.key, scalarToken entry.1, .value, scalarToken entry.2]

/-- The text of an entry behind its indentation. -/
def entryText (entry : String × String) : List Char :=
  if entry.1.toList.any isLineEnd || 128 < entry.1.utf8ByteSize then
    '?' :: ' ' :: (closed (scalarText 4 entry.1) ++ (pad 2 ++ ':' :: ' ' :: closed (scalarText 4 entry.2)))
  else scalarText 4 entry.1 ++ ':' :: ' ' :: closed (scalarText 4 entry.2)

/-- A name that may stand in front of a line. -/
structure Named (name : String) : Prop where
  fits : FitsPlain name.toList
  reach : Pos.bytes name.toList ≤ keyReach
  unmarked : ∀ c ∈ name.toList.head?, c ≠ '%' ∧ c ≠ '-' ∧ c ≠ '.'

/-- The tokens of a value. -/
def valueTokens : Value → List Token
  | .text value => [scalarToken value]
  | .number value => [.scalar .plain (numberLayout.write value)]
  | .list [] => [.openSeq, .closeSeq]
  | .list items => items.flatMap fun item => [.item, scalarToken item]
  | .table [] => [.openMap, .closeMap]
  | .table entries => .blockMap :: (entries.flatMap entryTokens ++ [.blockEnd])

def fieldTokens (field : String × Value) : List Token :=
  .key :: .scalar .plain field.1 :: .value :: valueTokens field.2

/-- A value whose number, if it is one, is finite. -/
def Finite (value : Value) : Prop := ∀ x, value = .number x → x.isFinite = true

/-- Fields whose names may stand in front of a line and whose numbers are finite. -/
def Fit (fields : List (String × Value)) : Prop := ∀ f ∈ fields, Named f.1 ∧ Finite f.2

def fieldText (field : String × Value) : List Char := field.1.toList ++ ':' :: valueText field.2

theorem flatMap_fieldText (field : String × Value) (fields : List (String × Value)) :
    (field :: fields).flatMap fieldText = field.1.toList ++ ':' :: (valueText field.2 ++ fields.flatMap fieldText) := by
  simp [fieldText]

theorem Named.onward {field : String × Value} (named : Named field.1) (fields : List (String × Value)) :
    Onward ((field :: fields).flatMap fieldText) := by
  rw [flatMap_fieldText]
  exact (Spelled.plain named.fits : Spelled 0 field.1.toList .plain _).onward

namespace Layout

variable {columns columns' : List Nat} {tokens opening result : List Token} {keyOk : Bool}

/-- A plain key on its line. -/
theorem yields_plainKey (fits : FitsPlain word) (unmarked : ∀ c ∈ word.head?, Unmarked p c)
    (reach : Pos.bytes word ≤ keyReach) (within : ∀ column ∈ columns.head?, column ≤ p.column)
    (opened : mappingAt columns p.column = (columns', opening)) (gap : ∀ q : Pos, atGap (q.spots ds) = true)
    (skip : toToken false false false (((p.after word).next ':').spots ds) = (keyOk, q.spots tail))
    (shorter : tail.length ≤ ds.length)
    (yields : Yields columns' (.value :: .scalar .plain (String.ofList word) :: .key :: (opening ++ tokens)) keyOk q tail
      result) :
    Yields columns tokens true p (word ++ ':' :: ds) result := by
  cases word with
  | nil => exact absurd rfl fits.filled
  | cons c key =>
    refine Yields.entry within ?_ (fun d member => (fits.tame d member).noBreak) reach opened gap skip shorter yields
    intro l outer columns free
    have ends := plainFrom_colon (p.after (c :: key)) l.floor (c :: key).reverse (gap _)
    rw [List.reverse_reverse] at ends
    refine token_plain outer free (unmarked c rfl) fits ?_ ends
    rw [floor, columns]
    split
    · exact Nat.zero_le _
    · exact Nat.succ_le_succ (within _ rfl)

/-- A short key on its line, in any form, and the way to the value. -/
theorem yields_key {indent : Nat} {style : Style} (spelled : Spelled indent word style cs)
    (line : ∀ c ∈ word, isLineEnd c = false) (short : Pos.bytes word ≤ 128) (indented : 0 < indent) (deep : 0 < p.column)
    (within : ∀ column ∈ columns.head?, column ≤ p.column) (opened : mappingAt columns p.column = (columns', opening))
    (onward : Onward tail)
    (yields : ∀ q : Pos, p.column < q.column →
      Yields columns' (.value :: .scalar style (String.ofList word) :: .key :: (opening ++ tokens)) false q tail result) :
    Yields columns tokens true p (cs ++ ':' :: ' ' :: tail) result := by
  have gap (q : Pos) : atGap (q.spots (' ' :: tail)) = true := by
    rw [Pos.spots_cons]
    rfl
  have further (inside : ∀ c ∈ cs, isBreak c = false) : p.column < ((((p.after cs).next ':').after (pad 1))).column := by
    rw [after_pad, Pos.next_inside rfl, Pos.after_line inside]
    dsimp only
    omega
  cases spelled with
  | literal lines => exact absurd (line '\n' lines) (by decide)
  | plain fits =>
    exact yields_plainKey fits (fun _ _ => .inl deep) (short.trans (by decide)) within opened gap (toToken_pad onward 1)
      (by simp) (yields _ (further fun d member => (fits.tame d member).noBreak))
  | double =>
    have inside : ∀ d ∈ doubleQuoted word, isBreak d = false := by
      intro d member
      simp only [doubleQuoted, List.mem_cons, List.mem_append, List.mem_flatMap, List.not_mem_nil, or_false] at member
      rcases member with rfl | ⟨c, -, member⟩ | rfl
      · rfl
      · exact (tame_escaped member).noBreak
      · rfl
    refine Yields.entry within ?_ inside ?_ opened gap (toToken_pad onward 1) (by simp) (yields _ (further inside))
    · intro l outer columns free
      rw [List.append_assoc]
      exact token_double free deep
    · have bytes := bytes_doubleQuoted word
      rw [keyReach]
      exact bytes.trans (by omega)
  | single _ fits =>
    have inside : ∀ d ∈ singleQuoted indent word, isBreak d = false := inside_singleQuoted line
    refine Yields.entry within ?_ inside ?_ opened gap (toToken_pad onward 1) (by simp) (yields _ (further inside))
    · intro l outer columns free
      exact token_single free deep indented fits (fun member => absurd (line '\n' member) (by decide)) (by simp)
    · have bytes := bytes_singleQuoted indent line
      rw [keyReach]
      exact bytes.trans (by omega)

/-- The items of a list in their order, and what comes behind them. -/
theorem yields_items (items : List String) (onward : Onward tail)
    (yields : ∀ (q : Pos), q.column = 0 →
      Yields [0] ((items.flatMap fun item => [.item, scalarToken item]).reverse ++ tokens) true q tail result) :
    ∀ p : Pos, p.column = 0 → Yields [0] tokens true p (items.flatMap sequenceItem ++ tail) result := by
  induction items generalizing tokens with
  | nil => exact yields
  | cons item items ih =>
    intro p first
    have more : Onward (items.flatMap sequenceItem ++ tail) := by
      cases items with
      | nil => exact onward
      | cons item items => exact fun c first => Option.some.inj first ▸ rfl
    have text : (item :: items).flatMap sequenceItem ++ tail =
        '-' :: ' ' :: (closed (scalarText 2 item) ++ (pad 0 ++ (items.flatMap sequenceItem ++ tail))) := by
      simp [sequenceItem, pad]
    rw [text]
    refine yields_item first (onward_closed 2 item) fun q inside => ?_
    refine yields_scalarText (by omega) item (Nat.le_refl 0) more (ih fun q first => ?_)
    have last := yields q first
    simpa [scalarToken] using last

theorem tableField_eq (entry : String × String) : tableField entry = pad 2 ++ entryText entry := by
  unfold tableField entryText
  dsimp only
  split <;> rfl

theorem onward_entryText (entry : String × String) : Onward (entryText entry ++ tail) := by
  unfold entryText
  split
  · exact fun c first => Option.some.inj first ▸ rfl
  · rw [List.append_assoc]
    exact (spelled_scalarText 4 entry.1).onward

theorem yields_entry (entry : String × String) (second : p.column = 2) (within : ∀ column ∈ columns.head?, column ≤ 2)
    (opened : mappingAt columns 2 = ([2, 0], opening)) (less : k ≤ 2) (onward : Onward tail)
    (yields : ∀ q : Pos, q.column = k → Yields [2, 0] ((entryTokens entry).reverse ++ (opening ++ tokens)) true q tail result) :
    Yields columns tokens true p (entryText entry ++ (pad k ++ tail)) result := by
  obtain ⟨line, column, offset⟩ := p
  obtain rfl : column = 2 := second
  unfold entryText
  split
  · have text : '?' :: ' ' :: (closed (scalarText 4 entry.1) ++ (pad 2 ++ ':' :: ' ' :: closed (scalarText 4 entry.2))) ++
          (pad k ++ tail) =
        '?' :: ' ' :: (closed (scalarText 4 entry.1) ++
          (pad 2 ++ ':' :: ' ' :: (closed (scalarText 4 entry.2) ++ (pad k ++ tail)))) := by
      simp
    rw [text]
    refine yields_asked Nat.two_pos within (onward_closed 4 entry.1) opened fun q deep => ?_
    have deep : 2 < q.column := by simp [deep]
    refine yields_scalarText deep entry.1 (Nat.le_refl 2) (fun c first => Option.some.inj first ▸ rfl) fun q second => ?_
    obtain ⟨line, column, offset⟩ := q
    obtain rfl : column = 2 := second
    refine yields_answered (p := ⟨line, 2, offset⟩) Nat.two_pos (onward_closed 4 entry.2) fun q deep => ?_
    have deep : 2 < q.column := by simp [deep]
    exact yields_scalarText deep entry.2 less onward yields
  · rename_i simple
    simp only [Bool.or_eq_true, not_or, decide_eq_true_eq, Nat.not_lt, Bool.not_eq_true] at simple
    obtain ⟨line, short⟩ := simple
    rw [← bytes_toList] at short
    have text : scalarText 4 entry.1 ++ ':' :: ' ' :: closed (scalarText 4 entry.2) ++ (pad k ++ tail) =
        scalarText 4 entry.1 ++ ':' :: ' ' :: (closed (scalarText 4 entry.2) ++ (pad k ++ tail)) := by
      simp
    rw [text]
    refine yields_key (spelled_scalarText 4 entry.1) (by simpa using line) short (by decide) Nat.two_pos within opened
      (onward_closed 4 entry.2) fun q deep => ?_
    rw [String.ofList_toList]
    exact yields_scalarText deep entry.2 less onward yields

/-- The entries of a table in their order up to its end, and what comes behind it. -/
theorem yields_entries (entry : String × String) (entries : List (String × String)) (second : p.column = 2)
    (within : ∀ column ∈ columns.head?, column ≤ 2) (opened : mappingAt columns 2 = ([2, 0], opening)) (onward : Onward tail)
    (yields : ∀ q : Pos, q.column = 0 →
      Yields [0] (.blockEnd :: (((entry :: entries).flatMap entryTokens).reverse ++ (opening ++ tokens))) true q tail result) :
    Yields columns tokens true p (entryText entry ++ (entries.flatMap tableField ++ tail)) result := by
  induction entries generalizing entry columns opening tokens p with
  | nil =>
    refine yields_entry entry second within opened (Nat.zero_le 2) onward fun q first => ?_
    have last := yields q first
    exact Yields.close (.inr (by omega)) (by simpa using last)
  | cons next entries ih =>
    have text : (next :: entries).flatMap tableField ++ tail =
        pad 2 ++ (entryText next ++ (entries.flatMap tableField ++ tail)) := by
      simp [tableField_eq]
    rw [text]
    refine yields_entry entry second within opened (Nat.le_refl 2) (onward_entryText next) fun q second => ?_
    refine ih next second (by simp) rfl fun q first => ?_
    have last := yields q first
    simpa using last

section Names

variable {name : String} (named : Named name) (first : p.column = 0) (opened : mappingAt columns 0 = ([0], opening))
include named first opened

theorem yields_name (gap : ∀ q : Pos, atGap (q.spots ds) = true)
    (skip : toToken false false false (((p.after name.toList).next ':').spots ds) = (keyOk, q.spots tail))
    (shorter : tail.length ≤ ds.length)
    (yields : Yields [0] (.value :: .scalar .plain name :: .key :: (opening ++ tokens)) keyOk q tail result) :
    Yields columns tokens true p (name.toList ++ ':' :: ds) result := by
  obtain ⟨line, column, offset⟩ := p
  obtain rfl : column = 0 := first
  have within : ∀ column ∈ columns.head?, column ≤ 0 := by
    intro column outer
    cases columns with
    | nil => cases outer
    | cons other columns =>
      cases outer
      simp only [mappingAt, List.head?_cons, Option.all_some, Nat.not_lt_zero, decide_false, Bool.false_eq_true, if_false,
        Prod.mk.injEq, List.cons.injEq] at opened
      exact opened.1.1.le
  refine yields_plainKey named.fits (fun c front => .inr (named.unmarked c front)) named.reach within opened gap skip
    shorter ?_
  rwa [String.ofList_toList]

/-- A name with its value on its line. -/
theorem yields_beside (onward : Onward tail) (yields : ∀ q : Pos, 0 < q.column →
      Yields [0] (.value :: .scalar .plain name :: .key :: (opening ++ tokens)) false q tail result) :
    Yields columns tokens true p (name.toList ++ ':' :: ' ' :: tail) result := by
  refine yields_name named first opened (fun q => ?_) (toToken_pad onward 1) (Nat.le_succ _) (yields _ ?_)
  · rw [Pos.spots_cons]
    rfl
  · rw [after_pad]
    exact Nat.succ_pos _

/-- A name with its value on the lines below. -/
theorem yields_below (onward : Onward tail) (yields : ∀ q : Pos, q.column = k →
      Yields [0] (.value :: .scalar .plain name :: .key :: (opening ++ tokens)) true q tail result) :
    Yields columns tokens true p (name.toList ++ ':' :: '\n' :: (pad k ++ tail)) result := by
  refine yields_name named first opened (fun q => ?_) (toToken_lineEnd onward k) (by simp; omega) (yields _ rfl)
  rw [Pos.spots_cons]
  rfl

/-- A value behind its name, and what comes behind both. -/
theorem yields_field {value : Value} (finite : Finite value) (onward : Onward tail)
    (yields : ∀ q : Pos, q.column = 0 →
      Yields [0] ((fieldTokens (name, value)).reverse ++ (opening ++ tokens)) true q tail result) :
    Yields columns tokens true p (name.toList ++ ':' :: (valueText value ++ tail)) result := by
  have tokens (value : Value) :
      (fieldTokens (name, value)).reverse = (valueTokens value).reverse ++ [.value, .scalar .plain name, .key] := by
    simp [fieldTokens]
  rw [tokens, List.append_assoc] at yields
  match value, finite, yields with
  | .text value, _, yields =>
    have text : valueText (.text value) ++ tail = ' ' :: (closed (scalarText 2 value) ++ (pad 0 ++ tail)) := by
      simp [valueText, pad]
    rw [text]
    exact yields_beside named first opened (onward_closed 2 value) fun q deep =>
      yields_scalarText deep value (Nat.le_refl 0) onward yields
  | .number value, finite, yields =>
    have fits := fitsPlain_number (finite value rfl)
    have text : valueText (.number value) ++ tail =
        ' ' :: ((numberLayout.write value).toList ++ '\n' :: (pad 0 ++ tail)) := by
      simp [valueText, pad]
    have onward' : Onward ((numberLayout.write value).toList ++ '\n' :: (pad 0 ++ tail)) :=
      (Spelled.plain fits : Spelled 0 (numberLayout.write value).toList .plain _).onward
    rw [text]
    refine yields_beside named first opened onward' fun q deep => yields_plain deep fits (Nat.le_refl 0) onward ?_
    rwa [String.ofList_toList]
  | .list [], _, yields =>
    have front : Onward ('[' :: ']' :: '\n' :: tail) := fun c first => Option.some.inj first ▸ rfl
    exact yields_beside named first opened front fun q deep => yields_nothing .seq deep (by simp) onward yields
  | .list (item :: items), _, yields =>
    have text : valueText (.list (item :: items)) ++ tail =
        '\n' :: (pad 0 ++ ((item :: items).flatMap sequenceItem ++ tail)) := by
      simp [valueText, pad]
    rw [text]
    refine yields_below named first opened (fun c first => Option.some.inj first ▸ rfl) ?_
    exact yields_items (item :: items) onward yields
  | .table [], _, yields =>
    have front : Onward ('\x7b' :: '\x7d' :: '\n' :: tail) := fun c first => Option.some.inj first ▸ rfl
    exact yields_beside named first opened front fun q deep => yields_nothing .map deep (by simp) onward yields
  | .table (entry :: entries), _, yields =>
    have text : valueText (.table (entry :: entries)) ++ tail =
        '\n' :: (pad 2 ++ (entryText entry ++ (entries.flatMap tableField ++ tail))) := by
      simp [valueText, tableField_eq]
    rw [text]
    refine yields_below named first opened (onward_entryText entry) fun q second => ?_
    refine yields_entries entry entries second (by simp) rfl onward fun q first => ?_
    have last := yields q first
    simpa [valueTokens] using last

end Names

/-- All fields in their order, up to the end of the text. -/
theorem yields_fields (field : String × Value) (fields : List (String × Value)) (fit : Fit (field :: fields))
    (first : p.column = 0) (opened : mappingAt columns 0 = ([0], opening)) :
    Yields columns tokens true p ((field :: fields).flatMap fieldText)
      (.blockEnd :: (((field :: fields).flatMap fieldTokens).reverse ++ (opening ++ tokens))).reverse := by
  induction fields generalizing field columns opening tokens p with
  | nil =>
    obtain ⟨named, finite⟩ := fit field List.mem_cons_self
    rw [flatMap_fieldText]
    refine yields_field named first opened finite nofun fun q first => ?_
    have last : Yields [0] ((fieldTokens field).reverse ++ (opening ++ tokens)) true q [] _ :=
      Yields.close (.inl rfl) yields_end
    simpa using last
  | cons next fields ih =>
    obtain ⟨named, finite⟩ := fit field List.mem_cons_self
    have fit : Fit (next :: fields) := fun f member => fit f (List.mem_cons_of_mem field member)
    have onward := (fit next List.mem_cons_self).1.onward fields
    rw [flatMap_fieldText]
    refine yields_field named first opened finite onward fun q first => ?_
    have last : Yields [0] ((fieldTokens field).reverse ++ (opening ++ tokens)) true q _ _ := ih next fit first rfl
    simpa using last

end Layout

theorem all_fieldText {field : String × Value} (named : Named field.1) (finite : Finite field.2) :
    (fieldText field).all isPrintable = true := by
  obtain ⟨name, value⟩ := field
  have front : name.toList.all isPrintable = true :=
    List.all_eq_true.2 fun c member => (named.fits.tame c member).printable
  have marks : isPrintable ':' = true ∧ isPrintable ' ' = true ∧ isPrintable '\n' = true ∧ isPrintable '-' = true :=
    ⟨rfl, rfl, rfl, rfl⟩
  have back : (valueText value).all isPrintable = true := by
    match value with
    | .text value => simp [valueText, marks, all_closed_scalarText]
    | .number value =>
      have number : (numberLayout.write value).toList.all isPrintable = true := List.all_eq_true.2 fun c member =>
        ((fitsPlain_number (finite value rfl)).tame c member).printable
      simp [valueText, marks, number]
    | .list [] => rfl
    | .list (item :: items) => simp [valueText, marks, List.all_flatMap, sequenceItem, all_closed_scalarText]
    | .table [] => rfl
    | .table (entry :: entries) => simp [valueText, marks, List.all_flatMap, all_tableField]
  simp [fieldText, front, back, marks]

/-- The tokens of a document as it is written. -/
theorem tokens?_render {fields : List (String × Value)} (filled : fields ≠ []) (fit : Fit fields) :
    tokens? (render fields) = some (.blockMap :: (fields.flatMap fieldTokens ++ [.blockEnd])) := by
  have text : render fields = String.ofList (fields.flatMap fieldText) := rfl
  have printable : ∀ c ∈ fields.flatMap fieldText, isPrintable c = true := by
    intro c member
    obtain ⟨field, given, member⟩ := List.mem_flatMap.1 member
    exact List.all_eq_true.1 (all_fieldText (fit field given).1 (fit field given).2) c member
  obtain ⟨field, fields, rfl⟩ := List.exists_cons_of_ne_nil filled
  have onward := (fit field List.mem_cons_self).1.onward fields
  have yields : Layout.Yields [] [] true ⟨0, 0, 0⟩ ((field :: fields).flatMap fieldText) _ :=
    Layout.yields_fields field fields fit rfl rfl
  have read := yields true none _ (((field :: fields).flatMap fieldText).length + 1) Layout.past_none (toToken_onward onward)
    (Nat.lt_succ_self _)
  rw [text, tokens?, spots?_ofList printable, Option.bind_eq_bind, Option.bind_some, Pos.length_spots]
  refine read.trans ?_
  simp

end LiveControl.Yaml
