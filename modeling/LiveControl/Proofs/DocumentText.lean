import LiveControl.Proofs.NameListText
import LiveControl.Proofs.NumberText

namespace LiveControl.Json

/-- What is read of a value without parts. Of a number this is what the reading of numbers makes of its text. -/
def rereadLeaf : Json → Json
  | .str s => .str s
  | other => (word? (leaf other).toList).join.getD unreadable

mutual

/-- What is read of a value that was written. -/
def reread : Json → Json
  | .arr items => .arr (rereadItems items)
  | .obj fields => .obj (rereadFields fields)
  | other => rereadLeaf other

def rereadItems : List Json → List Json
  | [] => []
  | x :: rest => reread x :: rereadItems rest

def rereadFields : List (String × Json) → List (String × Json)
  | [] => []
  | (k, x) :: rest => (k, reread x) :: rereadFields rest

end

/-- A text of one word. -/
structure Bare (cs : List Char) : Prop where
  filled : cs ≠ []
  whole : ∀ c ∈ cs, Reader.endsWord c = false
  known : (word? cs).isSome = true

theorem endsWord_of_isDigit {c : Char} (digit : Decimal.isDigit c = true) : Reader.endsWord c = false := by
  obtain ⟨low, high⟩ := Decimal.isDigit_iff.1 digit
  have low : 48 ≤ c.toNat := low
  have high : c.toNat ≤ 57 := high
  simp only [Reader.endsWord, List.contains_eq_mem, List.mem_cons, List.not_mem_nil, or_false, decide_eq_false_iff_not]
  omega

theorem known_of_written? {cs : List Char} {w : Decimal.Written} (written : written? cs = some w) :
    (word? cs).isSome = true := by
  unfold word?
  split
  · rfl
  · split
    · rfl
    · split
      · rfl
      · rw [written]
        rfl

theorem bare_spelled {w : Decimal.Written} (tidy : w.Tidy) : Bare (w.spelled ['+']) where
  filled := Decimal.Written.spelled_ne_nil tidy
  whole c member := by
    rcases tidy.of_mem_spelled member with digit | mark
    · exact endsWord_of_isDigit digit
    · have marks : ['-', '.', 'e', '+'].all (fun c => !Reader.endsWord c) = true := by decide
      exact Bool.not_eq_true' _ ▸ List.all_eq_true.1 marks c mark
  known := known_of_written? (written?_spelled tidy)

theorem toList_toString_int (n : Int) :
    (toString n).toList = Decimal.Written.spelled ['+'] ⟨decide (n < 0), Nat.toDigits 10 n.natAbs, [], 0, false, false⟩ := by
  cases n with
  | ofNat n =>
    show (Nat.repr n).toList = _
    simp [Decimal.Written.spelled, Decimal.Written.chars]
  | negSucc n =>
    show ("-" ++ Nat.repr (n + 1)).toList = _
    simp [Decimal.Written.spelled, Decimal.Written.chars]

theorem bare_const {cs : List Char}
    (plain : (!cs.isEmpty && cs.all (fun c => !Reader.endsWord c) && (word? cs).isSome) = true) : Bare cs where
  filled := by
    rintro rfl
    cases plain
  whole c member := by
    have whole := (Bool.and_eq_true_iff.1 (Bool.and_eq_true_iff.1 plain).1).2
    exact Bool.not_eq_true' _ |>.mp (List.all_eq_true.1 whole c member)
  known := (Bool.and_eq_true_iff.1 plain).2

/-- What is neither a text nor a container is written as one word. -/
theorem bare_leaf {j : Json} (text : ∀ s, j ≠ .str s) (arr : ∀ items, j ≠ .arr items) (obj : ∀ fields, j ≠ .obj fields) :
    Bare (leaf j).toList := by
  cases j with
  | null => exact bare_const rfl
  | bool b => cases b <;> exact bare_const rfl
  | int n =>
    show Bare (toString n).toList
    rw [toList_toString_int]
    exact bare_spelled (Decimal.Written.tidy_whole _ n.natAbs)
  | float x =>
    show Bare (if x.isFinite then Decimal.documentLayout.write x else "null").toList
    split
    · rename_i finite
      obtain ⟨b, read⟩ := Decimal.Binary.exists_of_isFinite finite
      obtain ⟨w, tidy, spelled, -⟩ :=
        Decimal.Layout.exists_written rfl (show Decimal.documentLayout.exponentMark.toList = 'e' :: ['+'] from rfl) read
      rw [spelled]
      exact bare_spelled tidy
    · exact bare_const rfl
  | str s => exact absurd rfl (text s)
  | arr items => exact absurd rfl (arr items)
  | obj fields => exact absurd rfl (obj fields)

namespace Reader

variable {b : Builder} {c : Char} {rest : List Char} {frames : List Frame} {expect : Expect} {v : Json}

/-- The reader behind some characters. -/
def readFrom (r : Reader) (cs : List Char) : Option Reader := cs.foldlM (step .asWritten) r

theorem readFrom_cons (r : Reader) (c : Char) (cs : List Char) :
    r.readFrom (c :: cs) = (step .asWritten r c).bind fun r => r.readFrom cs := List.foldlM_cons

theorem readFrom_append (r : Reader) (cs ds : List Char) :
    r.readFrom (cs ++ ds) = (r.readFrom cs).bind fun r => r.readFrom ds := List.foldlM_append

theorem outside_letter (inside : endsWord c = false) : outside .asWritten b c = some ⟨.word [c], b⟩ := by
  unfold outside
  split <;> simp_all [endsWord]

/-- The letters of a word are kept until the word ends. -/
theorem readFrom_word {cs : List Char} (whole : ∀ c ∈ cs, endsWord c = false) (letters : List Char) :
    readFrom ⟨.word letters, b⟩ cs = some ⟨.word (cs.reverse ++ letters), b⟩ := by
  induction cs generalizing letters with
  | nil => rfl
  | cons c cs ih =>
    have inside := whole c List.mem_cons_self
    have next : step .asWritten ⟨.word letters, b⟩ c = some ⟨.word (c :: letters), b⟩ := by
      simp only [step, inside, Bool.false_eq_true, if_false]
    rw [readFrom_cons, next]
    refine (ih (fun c member => whole c (List.mem_cons_of_mem _ member)) (c :: letters)).trans ?_
    rw [List.reverse_cons, List.append_assoc]
    rfl

/-- A value comes next. -/
def Awaits (expect : Expect) : Prop := expect = .value ∨ expect = .valueOrEnd

/-- A word is a value once something follows that ends it. -/
theorem readFrom_bare {cs : List Char} (bare : Bare cs) (awaits : Awaits expect)
    (ends : rest.head?.any endsWord = true) :
    readFrom ⟨.between, ⟨frames, expect⟩⟩ (cs ++ rest) =
      readFrom ⟨.between, ⟨frames, .rest ((word? cs).join.getD unreadable)⟩⟩ rest := by
  obtain ⟨filled, whole, known⟩ := bare
  obtain ⟨c, rest, rfl⟩ := List.exists_cons_of_ne_nil (l := rest) (by rintro rfl; cases ends)
  have ends : endsWord c = true := ends
  cases cs with
  | nil => exact absurd rfl filled
  | cons first cs =>
    have start : step .asWritten ⟨.between, ⟨frames, expect⟩⟩ first = some ⟨.word [first], ⟨frames, expect⟩⟩ :=
      outside_letter (whole first List.mem_cons_self)
    obtain ⟨value, known⟩ := Option.isSome_iff_exists.1 known
    have letters : (cs.reverse ++ [first]).reverse = first :: cs := by simp
    have taken : endWord .asWritten ⟨frames, expect⟩ (cs.reverse ++ [first]) =
        some ⟨frames, .rest ((word? (first :: cs)).join.getD unreadable)⟩ := by
      rw [endWord, letters, known]
      cases value <;> rcases awaits with rfl | rfl <;> rfl
    rw [List.cons_append, readFrom_cons, start, Option.bind_some, readFrom_append,
      readFrom_word fun c member => whole c (List.mem_cons_of_mem _ member)]
    rw [Option.bind_some, readFrom_cons, readFrom_cons]
    simp only [step, ends, if_true, taken]
    rfl

theorem readFrom_quoted (awaits : Awaits expect) (s : String) :
    readFrom ⟨.between, ⟨frames, expect⟩⟩ ((quoted s).toList ++ rest) =
      readFrom ⟨.between, ⟨frames, .rest (.str s)⟩⟩ rest := by
  rw [readFrom_append, readFrom, foldlM_quoted]
  rcases awaits with rfl | rfl <;> rfl

theorem readFrom_key {fields : LooseFields} (awaits : expect = .key ∨ expect = .keyOrEnd) (k : String) :
    readFrom ⟨.between, ⟨.obj fields :: frames, expect⟩⟩ ((quoted k).toList ++ ':' :: ' ' :: rest) =
      readFrom ⟨.between, ⟨.field fields (some k) :: frames, .value⟩⟩ rest := by
  rw [readFrom_append, readFrom, foldlM_quoted]
  rcases awaits with rfl | rfl <;> rfl

/-- Blanks and line ends between tokens are passed over. -/
theorem readFrom_blank (depth : Nat) :
    readFrom ⟨.between, b⟩ ('\n' :: (indent depth).toList ++ rest) = readFrom ⟨.between, b⟩ rest := by
  have spaces (count : Nat) : readFrom ⟨.between, b⟩ (List.replicate count ' ' ++ rest) = readFrom ⟨.between, b⟩ rest := by
    induction count with
    | zero => rfl
    | succ count ih => exact ih
  rw [indent, String.toList_ofList]
  exact spaces (2 * depth)

theorem object?_named (fields : List (String × Json)) :
    Keeping.asWritten.object? (fields.map fun f => (some f.1, f.2)) = some (.obj fields) := by
  have named : (fields.map fun f => (some f.1, f.2)).mapM (fun f : Option String × Json => f.1.map fun key => (key, f.2)) =
      some fields := by
    induction fields with
    | nil => rfl
    | cons f fields ih => simp [List.mapM_cons, ih]
  simp only [Keeping.object?, named]

/-- Behind a value in a container there is always something that ends a word. -/
theorem ends_items (depth : Nat) (items : List Json) :
    ((indentedItems depth items).toList ++ '\n' :: rest).head?.any endsWord = true := by
  cases items with
  | nil => rfl
  | cons x items => simp [indentedItems, endsWord]

theorem ends_fields (depth : Nat) (fields : List (String × Json)) :
    ((indentedFields depth fields).toList ++ '\n' :: rest).head?.any endsWord = true := by
  cases fields with
  | nil => rfl
  | cons f fields => simp [indentedFields, endsWord]

mutual

/-- What is written of a value is read as that value, but for numbers, in whatever it stands. -/
theorem readFrom_indented {rest : List Char} {frames : List Frame} {expect : Expect} (depth : Nat) (j : Json)
    (awaits : Awaits expect) (ends : rest.head?.any endsWord = true) :
    readFrom ⟨.between, ⟨frames, expect⟩⟩ ((indented depth j).toList ++ rest) =
      readFrom ⟨.between, ⟨frames, .rest (reread j)⟩⟩ rest := by
  match j with
  | .arr [] =>
    rw [indented, reread, rereadItems]
    rcases awaits with rfl | rfl <;> rfl
  | .arr (x :: items) =>
    have text : (indented depth (.arr (x :: items))).toList ++ rest = '[' :: ('\n' :: (indent (depth + 1)).toList ++
        ((indented (depth + 1) x).toList ++ ((indentedItems (depth + 1) items).toList ++
          '\n' :: ((indent depth).toList ++ ']' :: rest)))) := by
      simp [indented]
    have opened : step .asWritten ⟨.between, ⟨frames, expect⟩⟩ '[' = some ⟨.between, ⟨.arr [] :: frames, .valueOrEnd⟩⟩ := by
      rcases awaits with rfl | rfl <;> rfl
    rw [text, readFrom_cons, opened, Option.bind_some, readFrom_blank,
      readFrom_indented (depth + 1) x (.inr rfl) (ends_items _ _), readFrom_indentedItems, reread, rereadItems]
    rfl
  | .obj [] =>
    rw [indented, reread, rereadFields]
    rcases awaits with rfl | rfl <;> rfl
  | .obj ((k, x) :: fields) =>
    have text : (indented depth (.obj ((k, x) :: fields))).toList ++ rest = '\x7b' :: ('\n' :: (indent (depth + 1)).toList ++
        ((quoted k).toList ++ ':' :: ' ' :: ((indented (depth + 1) x).toList ++
          ((indentedFields (depth + 1) fields).toList ++ '\n' :: ((indent depth).toList ++ '\x7d' :: rest))))) := by
      simp [indented]
    have opened : step .asWritten ⟨.between, ⟨frames, expect⟩⟩ '\x7b' = some ⟨.between, ⟨.obj [] :: frames, .keyOrEnd⟩⟩ := by
      rcases awaits with rfl | rfl <;> rfl
    rw [text, readFrom_cons, opened, Option.bind_some, readFrom_blank, readFrom_key (.inr rfl),
      readFrom_indented (depth + 1) x (.inl rfl) (ends_fields _ _), reread, rereadFields]
    exact readFrom_indentedFields depth fields [] k
  | .str s =>
    rw [indented, reread]
    · exact readFrom_quoted awaits s
    all_goals exact nofun
  | .null => exact readFrom_bare (bare_leaf (j := .null) nofun nofun nofun) awaits ends
  | .bool b => exact readFrom_bare (bare_leaf (j := .bool b) nofun nofun nofun) awaits ends
  | .int n => exact readFrom_bare (bare_leaf (j := .int n) nofun nofun nofun) awaits ends
  | .float x => exact readFrom_bare (bare_leaf (j := .float x) nofun nofun nofun) awaits ends

theorem readFrom_indentedItems {rest : List Char} {frames : List Frame} {v : Json} (depth : Nat) (items done : List Json) :
    readFrom ⟨.between, ⟨.arr done :: frames, .rest v⟩⟩
        ((indentedItems (depth + 1) items).toList ++ '\n' :: ((indent depth).toList ++ ']' :: rest)) =
      readFrom ⟨.between, ⟨frames, .rest (.arr (done.reverse ++ v :: rereadItems items))⟩⟩ rest := by
  match items with
  | [] =>
    have whole : done.reverse ++ [v] = (v :: done).reverse := List.reverse_cons.symm
    rw [indentedItems, rereadItems, whole]
    exact readFrom_blank depth
  | x :: items =>
    have text : (indentedItems (depth + 1) (x :: items)).toList ++ '\n' :: ((indent depth).toList ++ ']' :: rest) =
        ',' :: ('\n' :: (indent (depth + 1)).toList ++ ((indented (depth + 1) x).toList ++
          ((indentedItems (depth + 1) items).toList ++ '\n' :: ((indent depth).toList ++ ']' :: rest)))) := by
      simp [indentedItems]
    have next : step .asWritten ⟨.between, ⟨.arr done :: frames, .rest v⟩⟩ ',' =
        some ⟨.between, ⟨.arr (v :: done) :: frames, .value⟩⟩ := rfl
    rw [text, readFrom_cons, next, Option.bind_some, readFrom_blank,
      readFrom_indented (depth + 1) x (.inl rfl) (ends_items _ _), readFrom_indentedItems depth items (v :: done),
      rereadItems, List.reverse_cons, List.append_assoc]
    rfl

theorem readFrom_indentedFields {rest : List Char} {frames : List Frame} {v : Json} (depth : Nat)
    (fields done : List (String × Json)) (k : String) :
    readFrom ⟨.between, ⟨.field (done.map fun f => (some f.1, f.2)) (some k) :: frames, .rest v⟩⟩
        ((indentedFields (depth + 1) fields).toList ++ '\n' :: ((indent depth).toList ++ '\x7d' :: rest)) =
      readFrom ⟨.between, ⟨frames, .rest (.obj (done.reverse ++ (k, v) :: rereadFields fields))⟩⟩ rest := by
  match fields with
  | [] =>
    have whole : ((some k, v) :: done.map fun f => (some f.1, f.2)).reverse =
        (done.reverse ++ [(k, v)]).map fun f => (some f.1, f.2) := by simp
    have closed : step .asWritten ⟨.between, ⟨.field (done.map fun f => (some f.1, f.2)) (some k) :: frames, .rest v⟩⟩
        '\x7d' = some ⟨.between, ⟨frames, .rest (.obj (done.reverse ++ [(k, v)]))⟩⟩ := by
      show (Builder.behind frames (Keeping.asWritten.object?
        ((some k, v) :: done.map fun f => (some f.1, f.2)).reverse)).map _ = _
      rw [whole, object?_named]
      rfl
    rw [indentedFields, rereadFields]
    refine (readFrom_blank depth).trans ?_
    rw [readFrom_cons, closed, Option.bind_some]
  | (l, x) :: fields =>
    have text : (indentedFields (depth + 1) ((l, x) :: fields)).toList ++ '\n' :: ((indent depth).toList ++ '\x7d' :: rest) =
        ',' :: ('\n' :: (indent (depth + 1)).toList ++ ((quoted l).toList ++ ':' :: ' ' :: ((indented (depth + 1) x).toList ++
          ((indentedFields (depth + 1) fields).toList ++ '\n' :: ((indent depth).toList ++ '\x7d' :: rest))))) := by
      simp [indentedFields]
    have next :
        step .asWritten ⟨.between, ⟨.field (done.map fun f => (some f.1, f.2)) (some k) :: frames, .rest v⟩⟩ ',' =
          some ⟨.between, ⟨.obj (((k, v) :: done).map fun f => (some f.1, f.2)) :: frames, .key⟩⟩ := rfl
    rw [text, readFrom_cons, next, Option.bind_some, readFrom_blank, readFrom_key (.inl rfl),
      readFrom_indented (depth + 1) x (.inl rfl) (ends_fields _ _), readFrom_indentedFields depth fields ((k, v) :: done) l,
      rereadFields, List.reverse_cons, List.append_assoc]
    rfl

end

end Reader

/-- A written document is read as the document, but for its numbers. -/
theorem parseRaw?_pretty (j : Json) : parseRaw? (j.pretty ++ "\n") = some (reread j) := by
  have read : Reader.readFrom ⟨.between, ⟨[], .value⟩⟩ ((indented 0 j).toList ++ ['\n']) =
      Reader.readFrom ⟨.between, ⟨[], .rest (reread j)⟩⟩ ['\n'] :=
    Reader.readFrom_indented 0 j (.inl rfl) rfl
  rw [parseRaw?, parseKeeping, String.toList_append]
  show Option.bind (Reader.readFrom _ _) _ = _
  rw [pretty]
  exact congrArg (Option.bind · _) read

end LiveControl.Json
