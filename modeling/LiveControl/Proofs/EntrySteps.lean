import LiveControl.Proofs.BlockSteps

namespace LiveControl.Yaml.Layout

variable {p q : Pos} {cs ds tail key : List Char} {c : Char} {k : Nat} {columns columns' : List Nat}
  {tokens opening result : List Token} {keyOk keyOk' : Bool} {candidate : Option Candidate} {rest : List Spot}

/-- The columns of the open collections around an entry of a mapping that starts at a column, and the token that
opens the mapping if it is the first one. -/
def mappingAt (columns : List Nat) (column : Nat) : List Nat × List Token :=
  if columns.head?.all (· < column) then (column :: columns, [.blockMap]) else (columns, [])

theorem insertAt_block (columns : List Nat) (front : List Token) (token : Token) (keyOk : Bool) (rest : List Spot) :
    (block columns (front ++ tokens) keyOk candidate rest).insertAt tokens.length token =
      block columns (front ++ token :: tokens) keyOk candidate rest := by
  have behind : (front ++ tokens).length - tokens.length = front.length := by simp
  have count : (front ++ tokens).length + 1 = (front ++ token :: tokens).length := by
    simp only [List.length_append, List.length_cons]
    omega
  simp only [insertAt, block, behind, count, List.take_left, List.drop_left]

theorem openAt_block (front : List Token) (keyOk : Bool) (candidate : Option Candidate) (rest : List Spot) {column : Nat}
    (opened : mappingAt columns column = (columns', opening)) :
    (block columns (front ++ tokens) keyOk candidate rest).openAt column tokens.length .blockMap =
      block columns' (front ++ (opening ++ tokens)) keyOk candidate rest := by
  have floor : (block columns (front ++ tokens) keyOk candidate rest).floor ≤ column ↔
      columns.head?.all (· < column) = true := by
    cases columns with
    | nil => simp [Layout.floor, block]
    | cons innermost _ => exact Nat.succ_le_iff.trans decide_eq_true_iff.symm
  unfold mappingAt at opened
  unfold openAt
  split at opened
  · rename_i deeper
    cases opened
    have opens : ¬(block columns (front ++ tokens) keyOk candidate rest).floor > column := Nat.not_lt.2 (floor.2 deeper)
    rw [if_neg (by simpa [isFlow, block] using opens)]
    exact insertAt_block _ front .blockMap keyOk rest
  · rename_i inside
    cases opened
    rw [if_pos]
    · rfl
    · have outside := Nat.not_le.1 (mt floor.1 inside)
      simpa [isFlow, block] using outside

theorem token_colon {l : Layout} (block : l.outer = []) (inner : 0 < p.column) (gap : atGap rest = true) :
    l.token (p.spot ':') rest = l.colon (p.spot ':') rest := by
  have flow : l.isFlow = false := by simp [isFlow, block]
  rw [token_eq_inner (.inl inner)]
  simp [Layout.inner, Pos.spot, gap]

/-- A colon gives the scalar before it away as a key. -/
theorem colon_near {scalar : Token} {key : Candidate} {place : Spot} {left : List Spot} (near : key.isLate place = false)
    (position : key.position = tokens.length) (opened : mappingAt columns key.start.column = (columns', opening)) :
    (block columns (scalar :: tokens) keyOk (some key) rest).colon place left =
      some (block columns' (.value :: scalar :: .key :: (opening ++ tokens)) false none left) := by
  have found : (block columns (scalar :: tokens) keyOk (some key) rest).candidate.filter (fun c => !c.isLate place) =
      some key := by
    simp [block, near]
  have inserted : (block columns (scalar :: tokens) keyOk none rest).insertAt tokens.length .key =
      block columns ([scalar, .key] ++ tokens) keyOk none rest := insertAt_block columns [scalar] .key keyOk rest
  unfold colon
  rw [found]
  show some ((((block columns (scalar :: tokens) keyOk none rest).insertAt key.position .key).openAt key.start.column
    key.position .blockMap).take .value false left) = _
  rw [position, inserted, openAt_block _ _ _ _ opened]
  rfl

theorem exists_candidate (columns : List Nat) (tokens : List Token) (candidate : Option Candidate) (rest : List Spot)
    (place : Spot) : ∃ required, (block columns tokens true candidate rest).noted place =
    block columns tokens true (some ⟨place, tokens.length, required⟩) rest :=
  ⟨_, rfl⟩

/-- A key on its line, with the colon behind it and the way to the value. -/
theorem Yields.entry {style : Style} {text : String} (within : ∀ column ∈ columns.head?, column ≤ p.column)
    (takes : ∀ l : Layout, l.outer = [] → l.columns = columns → l.Free →
      l.token (p.spot c) ((p.next c).spots (key ++ ':' :: ds)) =
        some ((l.noted (p.spot c)).take (.scalar style text) false ((p.after (c :: key)).spots (':' :: ds))))
    (line : ∀ d ∈ c :: key, isBreak d = false) (reach : Pos.bytes (c :: key) ≤ keyReach)
    (opened : mappingAt columns p.column = (columns', opening)) (gap : ∀ q : Pos, atGap (q.spots ds) = true)
    (skip : toToken false false false (((p.after (c :: key)).next ':').spots ds) = (keyOk, q.spots tail))
    (shorter : tail.length ≤ ds.length)
    (yields : Yields columns' (.value :: .scalar style text :: .key :: (opening ++ tokens)) keyOk q tail result) :
    Yields columns tokens true p (c :: (key ++ ':' :: ds)) result := by
  intro before candidate rest fuel past there enough
  simp only [List.length_cons, List.length_append] at enough
  obtain ⟨fuel, rfl⟩ : ∃ n, fuel = n + 2 := ⟨fuel - 2, by omega⟩
  have place : p.after (c :: key) = ⟨p.line, p.column + (key.length + 1), p.offset + Pos.bytes (c :: key)⟩ :=
    Pos.after_line line
  have behind : ∀ column ∈ columns.head?, column ≤ (p.after (c :: key)).column := fun column first => by
    rw [place]
    exact (within column first).trans (Nat.le_add_right _ _)
  rw [tokensWith_cons there, closeWhile_within within, takes _ rfl rfl past.free]
  obtain ⟨required, noted⟩ := exists_candidate columns tokens candidate (p.spots (c :: (key ++ ':' :: ds))) (p.spot c)
  rw [noted, Option.bind_some]
  show Layout.tokensWith (fuel + 1) (block columns (.scalar style text :: tokens) false (some _) _) = _
  rw [tokensWith_cons (toToken_onward (fun _ first => Option.some.inj first ▸ rfl)), closeWhile_within behind,
    token_colon rfl (by rw [place]; exact Nat.succ_pos _) (gap _), colon_near ?near rfl opened]
  · exact yields false none _ fuel past_none skip (by omega)
  case near =>
    rw [place]
    simp [Candidate.isLate, Pos.spot, reach]

section Marks

variable {column : Nat}

theorem not_atMarker_of_second {m d : Char} {s : Spot} (other : d ≠ m) : atMarker m (s :: p.spots (d :: cs)) = false := by
  rw [Pos.spots_cons]
  cases cs with
  | nil => rfl
  | cons e cs =>
    rw [Pos.spots_cons]
    simp [atMarker, Pos.spot, other]

theorem indicator_block {opening token : Token} {place : Spot} {left : List Spot} (past : Past p candidate)
    (opened : (block columns tokens true candidate rest).openAt place.column tokens.length opening =
      block columns' tokens' true candidate rest) :
    (block columns tokens true candidate rest).indicator opening token true place left =
      some (block columns' (token :: tokens') true none left) := by
  unfold indicator
  have opened : (block columns tokens true candidate rest).openAt place.column
      (block columns tokens true candidate rest).count opening = block columns' tokens' true candidate rest := opened
  rw [opened, forget_eq past.free]
  rfl

/-- The minus in front of an item, where its sequence needs no tokens around it. -/
theorem yields_item (first : p.column = 0) (onward : Onward tail)
    (yields : ∀ q : Pos, q.column = 2 → Yields [0] (.item :: tokens) true q tail result) :
    Yields [0] tokens true p ('-' :: ' ' :: tail) result := by
  refine Yields.step (q := (p.next '-').next ' ') (fun _ inside => Option.some.inj inside ▸ Nat.zero_le _)
    (fun candidate past => ⟨true, none, _, ?_, past_none, toToken_pad onward 1⟩) (Nat.le_succ _) (yields _ ?_)
  · have dash : atMarker '-' (p.spot '-' :: (p.next '-').spots (' ' :: tail)) = false := not_atMarker_of_second (by decide)
    have dot : atMarker '.' (p.spot '-' :: (p.next '-').spots (' ' :: tail)) = false := not_atMarker_of_second (by decide)
    have percent : ¬(((p.spot '-').column = 0 && (p.spot '-').char = '%') = true) := by simp [Pos.spot]
    simp only [token, if_neg percent, dash, dot, Bool.false_eq_true, if_false]
    exact indicator_block past (by simp [openAt, isFlow, block, Layout.floor, Pos.spot, first])
  · rw [Pos.next_inside rfl, Pos.next_inside rfl, first]

/-- The question mark in front of a key. -/
theorem yields_asked (deep : 0 < p.column) (within : ∀ column ∈ columns.head?, column ≤ p.column) (onward : Onward tail)
    (opened : mappingAt columns p.column = (columns', opening))
    (yields : ∀ q : Pos, q.column = p.column + 2 → Yields columns' (.key :: (opening ++ tokens)) true q tail result) :
    Yields columns tokens true p ('?' :: ' ' :: tail) result := by
  refine Yields.step (q := (p.next '?').next ' ') within
    (fun candidate past => ⟨true, none, _, ?_, past_none, toToken_pad onward 1⟩) (Nat.le_succ _) (yields _ ?_)
  · rw [token_eq_inner (.inl deep)]
    exact indicator_block past (openAt_block [] _ _ _ opened)
  · rw [Pos.next_inside rfl, Pos.next_inside rfl]

/-- A colon too far from any key is the start of a value. -/
theorem colon_far {left : List Spot} (past : Past p candidate) (opened : mappingAt columns p.column = (columns', opening)) :
    (block columns tokens true candidate rest).colon (p.spot ':') left =
      some (block columns' (.value :: (opening ++ tokens)) true none left) := by
  have lost : (block columns tokens true candidate rest).candidate.filter (fun c => !c.isLate (p.spot ':')) = none := by
    cases candidate with
    | none => rfl
    | some c =>
      have late : c.isLate (p.spot ':') = true := by simp [Candidate.isLate, Pos.spot, (past c rfl).2]
      simp [block, late]
  have opens : (block columns tokens true none rest).openAt p.column tokens.length .blockMap =
      block columns' (opening ++ tokens) true none rest := openAt_block [] true none rest opened
  unfold colon
  rw [lost, forget_eq past.free]
  exact congrArg (fun l => some (l.take .value true left)) opens

/-- A colon on a line of its own. -/
theorem yields_answered (deep : 0 < p.column) (onward : Onward tail)
    (yields : ∀ q : Pos, q.column = p.column + 2 → Yields (p.column :: columns) (.value :: tokens) true q tail result) :
    Yields (p.column :: columns) tokens true p (':' :: ' ' :: tail) result := by
  refine Yields.step (q := (p.next ':').next ' ') (fun _ inside => (Option.some.inj inside).ge)
    (fun candidate past => ⟨true, none, _, ?_, past_none, toToken_pad onward 1⟩) (Nat.le_succ _) (yields _ ?_)
  · have opened : mappingAt (p.column :: columns) p.column = (p.column :: columns, []) := by simp [mappingAt]
    rw [token_colon rfl deep (by rw [Pos.spots_cons]; rfl)]
    exact colon_far past opened
  · rw [Pos.next_inside rfl, Pos.next_inside rfl]

/-- A token within brackets. -/
theorem tokensWith_flow {l : Layout} {fuel : Nat} (flow : l.isFlow = true) (spots : l.rest = p.spots (c :: cs))
    (onward : Onward (c :: cs)) :
    l.tokensWith (fuel + 1) = (l.token (p.spot c) ((p.next c).spots cs)).bind (tokensWith fuel) := by
  obtain ⟨_, keyOk, tokens, count, columns, candidate, outer⟩ := l
  obtain rfl := spots
  have stay (ends : Nat → Bool) :
      Layout.closeWhile ⟨p.spots (c :: cs), keyOk, tokens, count, columns, candidate, outer⟩ ends =
        ⟨p.spots (c :: cs), keyOk, tokens, count, columns, candidate, outer⟩ := by
    rw [closeWhile, if_pos flow]
  rw [tokensWith, toToken_onward onward]
  rw [Pos.spots_cons] at stay ⊢
  exact congrArg (fun l => (Layout.token l _ _).bind (tokensWith fuel)) (stay _)

/-- The brackets around a collection without entries, with their tokens. -/
inductive Brackets : Char → Char → Token → Token → Prop where
  | seq : Brackets '[' ']' .openSeq .closeSeq
  | map : Brackets '\x7b' '\x7d' .openMap .closeMap

/-- A list or a table without entries. -/
theorem yields_nothing {front back : Char} {opens closes : Token} (brackets : Brackets front back opens closes)
    (deep : 0 < p.column) (within : ∀ column ∈ columns.head?, column ≤ p.column) (onward : Onward tail)
    (yields : ∀ q : Pos, q.column = 0 → Yields columns (closes :: opens :: tokens) true q tail result) :
    Yields columns tokens false p (front :: back :: '\n' :: tail) result := by
  intro before candidate rest fuel past there enough
  simp only [List.length_cons] at enough
  obtain ⟨fuel, rfl⟩ : ∃ n, fuel = n + 2 := ⟨fuel - 2, by omega⟩
  have inner : 0 < (p.next front).column := by cases brackets <;> exact Nat.succ_pos _
  have goesOn : Onward (back :: '\n' :: tail) := by cases brackets <;> exact fun _ first => Option.some.inj first ▸ rfl
  have opened : (block columns tokens false candidate (p.spots (front :: back :: '\n' :: tail))).token (p.spot front)
      ((p.next front).spots (back :: '\n' :: tail)) =
        some ⟨(p.next front).spots (back :: '\n' :: tail), true, opens :: tokens, tokens.length + 1, columns, none,
          [candidate]⟩ := by
    rw [token_eq_inner (.inl deep)]
    cases brackets <;> rfl
  have closed : Layout.token ⟨(p.next front).spots (back :: '\n' :: tail), true, opens :: tokens, tokens.length + 1, columns,
        none, [candidate]⟩ ((p.next front).spot back) (((p.next front).next back).spots ('\n' :: tail)) =
      some (block columns (closes :: opens :: tokens) false candidate (((p.next front).next back).spots ('\n' :: tail))) := by
    rw [token_eq_inner (.inl inner)]
    cases brackets <;> rfl
  have later : p.line ≤ (p.after [front, back]).line := Pos.line_le_after
  rw [tokensWith_cons there, closeWhile_within within, opened, Option.bind_some, tokensWith_flow rfl rfl goesOn, closed,
    Option.bind_some]
  exact yields _ rfl false candidate _ fuel (past.later (Nat.le_succ_of_le later)) (toToken_lineEnd onward 0) (by omega)

end Marks

end LiveControl.Yaml.Layout
