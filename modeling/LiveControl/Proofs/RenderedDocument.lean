import LiveControl.Proofs.RenderedTokens
import LiveControl.Yaml.Document

namespace LiveControl.Yaml

namespace Reader

/-- What is left to read, with all that is known as before. -/
def behind (r : Reader) (rest : List Token) : Reader := { r with rest }

@[simp] theorem rest_behind (r : Reader) (rest : List Token) : (r.behind rest).rest = rest := rfl

end Reader

/-- Tokens that neither name a node nor say what kind it is. -/
def Bare (tokens : List Token) : Prop :=
  ∀ t ∈ tokens.head?, (∀ name, t ≠ .alias name) ∧ (∀ name, t ≠ .anchor name) ∧ ∀ handle text, t ≠ .tag handle text

namespace Reading

variable {r : Reader} {rest tokens : List Token} {fuel : Nat} {block loose : Bool}

theorem run_properties (bare : Bare rest) : properties.run (r.behind rest) = some (⟨none, none⟩, r.behind rest) := by
  cases rest with
  | nil => rfl
  | cons t rest =>
    obtain ⟨-, anchor, tag⟩ := bare t rfl
    cases t <;> first | rfl | exact absurd rfl (anchor _) | exact absurd rfl (tag _ _)

theorem run_next : next?.run r = some (r.rest.head?, r) := rfl

theorem run_advance {t : Token} : advance.run (r.behind (t :: rest)) = some ((), r.behind rest) := rfl

theorem run_node (bare : Bare rest) :
    (node (fuel + 1) block loose).run (r.behind rest) = (content fuel block loose ⟨none, none⟩).run (r.behind rest) := by
  have next : (r.behind rest).rest.head? = rest.head? := rfl
  rw [node]
  simp only [StateT.run_bind, run_next, Option.bind_eq_bind, Option.bind_some, next]
  split
  · rename_i name given
    exact absurd rfl ((bare _ given).1 name)
  · simp only [StateT.run_bind, run_properties bare, Option.bind_eq_bind, Option.bind_some]
    exact Option.bind_fun_some _

theorem run_scalar {style : Style} {text : String} :
    (node (fuel + 2) block loose).run (r.behind (.scalar style text :: rest)) =
      some (.scalar style none text, r.behind rest) := by
  rw [run_node (fun t first => by cases first; exact ⟨nofun, nofun, nofun⟩), content]
  cases loose <;> rfl

theorem run_noItems :
    (node (fuel + 3) block loose).run (r.behind (.openSeq :: .closeSeq :: rest)) = some (.seq [], r.behind rest) := by
  rw [run_node (fun t first => by cases first; exact ⟨nofun, nofun, nofun⟩), content]
  cases loose <;> rfl

theorem run_noFields :
    (node (fuel + 3) block loose).run (r.behind (.openMap :: .closeMap :: rest)) = some (.map [], r.behind rest) := by
  rw [run_node (fun t first => by cases first; exact ⟨nofun, nofun, nofun⟩), content]
  cases loose <;> rfl

/-- The items of a sequence that stands without tokens around it. -/
theorem run_items (texts : List String) (ends : rest.head? ≠ some .item) (enough : texts.length + 3 ≤ fuel)
    (done : List Node) :
    (items fuel true done).run (r.behind ((texts.flatMap fun text => [.item, scalarToken text]) ++ rest)) =
      some (done.reverse ++ texts.map fun text => .scalar (scalarStyle text) none text, r.behind rest) := by
  induction texts generalizing fuel done with
  | nil =>
    obtain ⟨fuel, rfl⟩ : ∃ n, fuel = n + 1 := ⟨fuel - 1, by omega⟩
    have next : (r.behind rest).rest.head? = rest.head? := rfl
    rw [items, List.flatMap_nil, List.nil_append]
    simp only [StateT.run_bind, run_next, Option.bind_eq_bind, Option.bind_some, next]
    simp
  | cons text texts ih =>
    rw [List.length_cons] at enough
    obtain ⟨fuel, rfl⟩ : ∃ n, fuel = n + 3 := ⟨fuel - 3, by omega⟩
    rw [items]
    simp only [StateT.run_bind, run_next, Option.bind_eq_bind, Option.bind_some]
    show (do items (fuel + 2) true ((← node (fuel + 2) true false) :: done) : Reading (List Node)).run
      (r.behind (scalarToken text :: ((texts.flatMap fun text => [.item, scalarToken text]) ++ rest))) = _
    rw [StateT.run_bind, scalarToken, run_scalar, Option.bind_eq_bind, Option.bind_some, ih (by omega)]
    simp

/-- Tokens that are read as a node behind a name, when another field or the end comes next. -/
structure Reads (tokens : List Token) (n : Node) : Prop where
  starts : ∃ t ∈ tokens.head?, endsEntry false (some t) = false
  run (fuel : Nat) (r : Reader) (rest : List Token) : tokens.length + 5 ≤ fuel → rest.head? ≠ some .item →
    (node fuel true true).run (r.behind (tokens ++ rest)) = some (n, r.behind rest)

/-- The tokens of a field whose name is a scalar. -/
def pairTokens {α : Type} (style : α → Style) (name : α → String) (value : α → List Token) (x : α) : List Token :=
  .key :: .scalar (style x) (name x) :: .value :: value x

/-- The fields of a mapping in their order, up to its end. -/
theorem run_fields {α : Type} (style : α → Style) (name : α → String) (value : α → List Token) (meant : α → Node)
    (xs : List α) (reads : ∀ x ∈ xs, Reads (value x) (meant x))
    (enough : (xs.flatMap (pairTokens style name value)).length + 5 ≤ fuel) (done : List (Node × Node)) :
    (fields fuel done).run (r.behind (xs.flatMap (pairTokens style name value) ++ .blockEnd :: rest)) =
      some (done.reverse ++ xs.map fun x => (.scalar (style x) none (name x), meant x), r.behind rest) := by
  induction xs generalizing fuel done with
  | nil =>
    obtain ⟨fuel, rfl⟩ : ∃ n, fuel = n + 1 := ⟨fuel - 1, by omega⟩
    rw [fields, List.map_nil, List.append_nil]
    rfl
  | cons x xs ih =>
    obtain ⟨⟨t, first, starts⟩, read⟩ := reads x List.mem_cons_self
    simp only [List.flatMap_cons, pairTokens, List.length_append, List.length_cons] at enough
    obtain ⟨fuel, rfl⟩ : ∃ n, fuel = n + 3 := ⟨fuel - 3, by omega⟩
    have text : (x :: xs).flatMap (pairTokens style name value) ++ .blockEnd :: rest =
        .key :: .scalar (style x) (name x) :: .value ::
          (value x ++ (xs.flatMap (pairTokens style name value) ++ .blockEnd :: rest)) := by
      simp [pairTokens]
    have ends : (xs.flatMap (pairTokens style name value) ++ Token.blockEnd :: rest).head? ≠ some .item := by
      cases xs <;> exact nofun
    have done := ih (fun y member => reads y (List.mem_cons_of_mem x member)) (show _ ≤ fuel + 2 by omega)
      ((.scalar (style x) none (name x), meant x) :: done)
    rw [text]
    generalize xs.flatMap (pairTokens style name value) ++ Token.blockEnd :: rest = more at *
    have read := read (fuel + 2) r more (by omega) ends
    have within : (value x ++ more).head? = some t := by rw [List.head?_append, first, Option.some_or]
    have key : endsEntry false (some (.scalar (style x) (name x))) = false := rfl
    rw [fields]
    simp only [StateT.run_bind, run_next, run_advance, run_scalar, Reader.rest_behind, Option.bind_eq_bind, Option.bind_some,
      List.head?_cons, key, within, starts, Bool.false_eq_true, if_false, read, done]
    simp

end Reading

def scalarNode (text : String) : Node := .scalar (scalarStyle text) none text

/-- What a value is read as. -/
def valueNode : Value → Node
  | .text value => scalarNode value
  | .number value => .scalar .plain none (numberLayout.write value)
  | .list items => .seq (items.map scalarNode)
  | .table entries => .map (entries.map fun e => (scalarNode e.1, scalarNode e.2))

def documentNode (fields : List (String × Value)) : Node :=
  .map (fields.map fun f => (.scalar .plain none f.1, valueNode f.2))

namespace Reading

variable {r : Reader} {rest tokens : List Token} {fuel : Nat} {block loose : Bool}

theorem reads_scalar (style : Style) (text : String) : Reads [.scalar style text] (.scalar style none text) where
  starts := ⟨_, rfl, rfl⟩
  run fuel r rest enough _ := by
    obtain ⟨fuel, rfl⟩ : ∃ n, fuel = n + 2 := ⟨fuel - 2, by omega⟩
    exact run_scalar

theorem run_blockMap {read : List (Node × Node)}
    (fields : (fields fuel []).run (r.behind tokens) = some (read, r.behind rest)) :
    (node (fuel + 2) true loose).run (r.behind (.blockMap :: tokens)) = some (.map read, r.behind rest) := by
  rw [run_node (fun t first => by cases first; exact ⟨nofun, nofun, nofun⟩), content]
  simp only [StateT.run_bind, run_next, Reader.rest_behind, Option.bind_eq_bind, Option.bind_some, List.head?_cons]
  cases loose <;> simp [run_advance, fields]

theorem run_sequence {read : List Node}
    (items : (items fuel true []).run (r.behind (.item :: tokens)) = some (read, r.behind rest)) :
    (node (fuel + 2) block true).run (r.behind (.item :: tokens)) = some (.seq read, r.behind rest) := by
  rw [run_node (fun t first => by cases first; exact ⟨nofun, nofun, nofun⟩), content]
  simp only [StateT.run_bind, run_next, Reader.rest_behind, Option.bind_eq_bind, Option.bind_some, List.head?_cons, items]
  rfl

theorem reads_value (value : Value) : Reads (valueTokens value) (valueNode value) := by
  match value with
  | .text value => exact reads_scalar _ value
  | .number value => exact reads_scalar _ _
  | .list [] =>
    refine ⟨⟨_, rfl, rfl⟩, fun fuel r rest enough _ => ?_⟩
    obtain ⟨fuel, rfl⟩ : ∃ n, fuel = n + 3 := ⟨fuel - 3, by omega⟩
    exact run_noItems
  | .list (item :: items) =>
    refine ⟨⟨_, rfl, rfl⟩, fun fuel r rest enough ends => ?_⟩
    simp only [valueTokens, List.length_flatMap, List.length_cons, List.length_nil, List.map_const', List.sum_replicate,
      smul_eq_mul] at enough
    obtain ⟨fuel, rfl⟩ : ∃ n, fuel = n + 2 := ⟨fuel - 2, by omega⟩
    exact run_sequence (run_items (item :: items) ends (by rw [List.length_cons]; omega) [])
  | .table [] =>
    refine ⟨⟨_, rfl, rfl⟩, fun fuel r rest enough _ => ?_⟩
    obtain ⟨fuel, rfl⟩ : ∃ n, fuel = n + 3 := ⟨fuel - 3, by omega⟩
    exact run_noFields
  | .table (entry :: entries) =>
    refine ⟨⟨_, rfl, rfl⟩, fun fuel r rest enough _ => ?_⟩
    obtain ⟨fuel, rfl⟩ : ∃ n, fuel = n + 2 := ⟨fuel - 2, by omega⟩
    have length : (valueTokens (.table (entry :: entries))).length = ((entry :: entries).flatMap entryTokens).length + 2 := by
      simp [valueTokens, Nat.add_assoc]
    have enough : ((entry :: entries).flatMap entryTokens).length + 5 ≤ fuel := by omega
    have read : (fields fuel []).run (r.behind ((entry :: entries).flatMap entryTokens ++ .blockEnd :: rest)) =
        some ((entry :: entries).map fun e => (scalarNode e.1, scalarNode e.2), r.behind rest) :=
      run_fields (fun e : String × String => scalarStyle e.1) Prod.fst (fun e => [scalarToken e.2]) (fun e => scalarNode e.2)
        (entry :: entries) (fun e _ => reads_scalar _ e.2) enough []
    have text : valueTokens (.table (entry :: entries)) ++ rest =
        .blockMap :: ((entry :: entries).flatMap entryTokens ++ .blockEnd :: rest) := by
      simp [valueTokens]
    rw [text]
    exact run_blockMap read

end Reading

/-- A reader in front of a document, where nothing but the standard handles is known. -/
def beginning : Reader := ⟨[], standardHandles, [], 0, []⟩

theorem run_root_unmarked (r : Reader) :
    (Reading.root false).run r = (Reading.node (4 * r.rest.length + 4) true false).run r := by
  -- Any reading in place of the one that spends the fuel, so that the fuel is not counted out.
  have general (m : Nat → Reading Node) : (do
      let tokens := (← get).rest
      if false && lacksNode tokens then return .empty
      m (4 * tokens.length + 4) : Reading Node).run r = (m (4 * r.rest.length + 4)).run r := rfl
  exact general fun fuel => Reading.node fuel true false

theorem run_root (fields : List (String × Value)) :
    (Reading.root false).run (beginning.behind (.blockMap :: (fields.flatMap fieldTokens ++ [.blockEnd]))) =
      some (documentNode fields, beginning.behind []) := by
  have length : 4 * (Token.blockMap :: (fields.flatMap fieldTokens ++ [.blockEnd])).length + 4 =
      4 * (fields.flatMap fieldTokens).length + 10 + 2 := by
    simp only [List.length_cons, List.length_append, List.length_nil]
    omega
  have read {fuel : Nat} (enough : (fields.flatMap fieldTokens).length + 5 ≤ fuel) :
      (Reading.fields fuel []).run (beginning.behind (fields.flatMap fieldTokens ++ [.blockEnd])) =
        some (fields.map fun f => (.scalar .plain none f.1, valueNode f.2), beginning.behind []) :=
    Reading.run_fields (fun _ => .plain) Prod.fst (fun field => valueTokens field.2) (fun field => valueNode field.2) fields
      (fun field _ => Reading.reads_value field.2) enough []
  rw [run_root_unmarked, Reader.rest_behind, length, Reading.run_blockMap (read (by omega))]
  rfl

theorem ofTokens?_blockMap {tokens : List Token} {root : Node}
    (read : (Reading.root false).run (beginning.behind (.blockMap :: tokens)) = some (root, beginning.behind [])) :
    ofTokens? (.blockMap :: tokens) = some ⟨root, []⟩ := by
  unfold ofTokens?
  generalize Reading.root = reading at read ⊢
  have start : (reading false).run ⟨.blockMap :: tokens, [].filterMap Directive.handle? ++ standardHandles, [], 0, []⟩ =
      some (root, beginning.behind []) := read
  show ((reading false).run ⟨.blockMap :: tokens, [].filterMap Directive.handle? ++ standardHandles, [], 0, []⟩).bind _ = _
  rw [start]
  simp [beginning, Reader.behind, Reader.document]

/-- A document as it is written is read as the values it was written for. -/
theorem document?_render {fields : List (String × Value)} (filled : fields ≠ []) (fit : Fit fields) :
    document? (render fields) = some ⟨documentNode fields, []⟩ := by
  rw [document?, tokens?_render filled fit, Option.bind_eq_bind, Option.bind_some]
  exact ofTokens?_blockMap (run_root fields)

end LiveControl.Yaml
