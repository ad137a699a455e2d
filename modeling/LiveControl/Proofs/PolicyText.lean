import LiveControl.Policy.Document
import LiveControl.Proofs.DocumentRoundTrip
import LiveControl.Proofs.DocumentText
import LiveControl.Proofs.RenderedDocument

namespace LiveControl

open Yaml

namespace Yaml

theorem Named.of_check {name : String} (check : (!name.toList.isEmpty && fitsPlain name.toList &&
    name.utf8ByteSize ≤ keyReach && name.toList.head?.all fun c => c ≠ '%' && c ≠ '-' && c ≠ '.') = true) : Named name := by
  simp only [Bool.and_eq_true, Bool.not_eq_true', List.isEmpty_eq_false_iff, decide_eq_true_eq, Option.all_eq_true] at check
  obtain ⟨⟨⟨filled, fits⟩, reach⟩, front⟩ := check
  exact ⟨.of_fitsPlain filled fits, by rwa [bytes_toList], fun c first =>
    ⟨(front c first).1.1, (front c first).1.2, (front c first).2⟩⟩

end Yaml

namespace Json

theorem reread_ofSet (s : NameSet) : reread (ofSet s) = ofSet s := by
  have texts (names : List String) : rereadItems (names.map .str) = names.map .str := by
    induction names with
    | nil => rfl
    | cons name names ih => exact congrArg (Json.str name :: ·) ih
  exact congrArg Json.arr (texts s.toList)

theorem reread_ofTable_str (t : Table String) : reread (ofTable .str t) = ofTable .str t := by
  have texts (entries : List (String × String)) :
      rereadFields (entries.map fun e => (e.1, .str e.2)) = entries.map fun e => (e.1, .str e.2) := by
    induction entries with
    | nil => rfl
    | cons e entries ih => exact congrArg ((e.1, Json.str e.2) :: ·) ih
  exact congrArg Json.obj (texts t.toList)

/-- What a document gives under a name, if it has fields. -/
def given? (j : Json) (name : String) : Option (Option Json) := j.fields?.bind fun fields => single? fields name

end Json

namespace Policy

variable {p : Policy} {d : Document}

/-- The fields of the document of a policy. -/
def written (p : Policy) : List (String × Value) := [
  ("sdk_gate_env", .text p.gateVariable),
  ("tactical_mode", .text p.tacticalMode.text),
  ("strict_bundle", .list p.strict.toList),
  ("fallback_actions", .table p.fallbacks.toList),
  ("symbol_bindings", .table p.bindings.toList),
  ("float_epsilon", .number p.epsilon),
  ("critical_symbols_key", .text p.criticalKey),
  ("dependency_disabled_key", .text p.disabledKey)]

theorem toYaml_eq (p : Policy) : p.toYaml = render p.written := rfl

theorem named_of_mem {name : String} (given : name ∈ settingNames) : Named name := by
  revert name
  simp only [settingNames, List.forall_mem_cons]
  refine ⟨.of_check ?_, .of_check ?_, .of_check ?_, .of_check ?_, .of_check ?_, .of_check ?_, .of_check ?_,
    .of_check ?_, nofun⟩ <;> decide

theorem fit_written (finite : p.epsilon.isFinite = true) : Fit p.written := by
  intro field given
  have name : field.1 ∈ settingNames := List.mem_map_of_mem given
  refine ⟨named_of_mem name, fun x number => ?_⟩
  simp only [written, List.mem_cons, List.not_mem_nil, or_false] at given
  rcases given with rfl | rfl | rfl | rfl | rfl | rfl | rfl | rfl <;> cases number
  exact finite

theorem nameSet?_valueNode (s : NameSet) : nameSet? d (valueNode (.list s.toList)) = some s := by
  have items : (s.toList.map scalarNode).mapM d.text? = some s.toList := Json.mapM_map_of_inverse fun _ _ => rfl
  show ((s.toList.map scalarNode).mapM d.text?).map NameSet.ofList = some s
  rw [items, Option.map_some, NameSet.ofList_toList]

theorem textTable?_valueNode (t : Table String) : textTable? d (valueNode (.table t.toList)) = some t := by
  have entries : (t.toList.map fun e => (scalarNode e.1, scalarNode e.2)).mapM
      (fun f => do some (← d.text? f.1, ← d.text? f.2)) = some t.toList := Json.mapM_map_of_inverse fun _ _ => rfl
  show (do
    let entries ← (t.toList.map fun e => (scalarNode e.1, scalarNode e.2)).mapM fun f => do
      some (← d.text? f.1, ← d.text? f.2)
    some (Table.ofList entries)) = some t
  rw [entries]
  exact congrArg some (Table.ofList_toList t)

theorem mode?_valueNode (mode : Mode) : mode? d (valueNode (.text mode.text)) = some mode :=
  Vocabulary.Lawful.find?_name mode

theorem float?_valueNode {x : Float} (finite : x.isFinite = true) : float? d (valueNode (.number x)) = some x := by
  obtain ⟨b, read⟩ := Decimal.Binary.exists_of_isFinite finite
  exact Yaml.float?_write (l := numberLayout) rfl (.inl rfl) rfl read

/-- What a document gives under a name. -/
def given (fields : List (String × Value)) (name : String) : Option Node :=
  ((fields.map fun f => (f.1, valueNode f.2)).find? fun f => f.1 == name).map Prod.snd

/-- The policy of settings as they are written. -/
theorem ofSettings?_written (finite : p.epsilon.isFinite = true) : ofSettings? d (given p.written) = some p := by
  have gate : given p.written "sdk_gate_env" = some (valueNode (.text p.gateVariable)) := rfl
  have mode : given p.written "tactical_mode" = some (valueNode (.text p.tacticalMode.text)) := rfl
  have strict : given p.written "strict_bundle" = some (valueNode (.list p.strict.toList)) := rfl
  have fallbacks : given p.written "fallback_actions" = some (valueNode (.table p.fallbacks.toList)) := rfl
  have bindings : given p.written "symbol_bindings" = some (valueNode (.table p.bindings.toList)) := rfl
  have epsilon : given p.written "float_epsilon" = some (valueNode (.number p.epsilon)) := rfl
  have critical : given p.written "critical_symbols_key" = some (valueNode (.text p.criticalKey)) := rfl
  have disabled : given p.written "dependency_disabled_key" = some (valueNode (.text p.disabledKey)) := rfl
  have text (text : String) : d.text? (valueNode (.text text)) = some text := rfl
  simp only [ofSettings?, gate, mode, strict, fallbacks, bindings, epsilon, critical, disabled, text, mode?_valueNode,
    nameSet?_valueNode, textTable?_valueNode, float?_valueNode finite, Option.bind_eq_bind, Option.bind_some]

/-- The fields of a document under their names. -/
theorem mapM_text?_documentNode (fields : List (String × Value)) :
    (fields.map fun f => (.scalar .plain none f.1, valueNode f.2)).mapM
        (fun f : Node × Node => do some (← d.text? f.1, f.2)) =
      some (fields.map fun f => (f.1, valueNode f.2)) := by
  have named : fields.map (fun f => ((.scalar .plain none f.1, valueNode f.2) : Node × Node)) =
      (fields.map fun f => (f.1, valueNode f.2)).map fun e => (.scalar .plain none e.1, e.2) := by
    rw [List.map_map]
    rfl
  rw [named]
  exact Json.mapM_map_of_inverse fun _ _ => rfl

/-- A policy reads back from its text. -/
theorem ofYaml?_toYaml (finite : p.epsilon.isFinite = true) : ofYaml? p.toYaml = some p := by
  have once : (settingNames.any fun name =>
      1 < ((p.written.map fun f => (f.1, valueNode f.2)).filter fun f => f.1 == name).length) = false := by
    have names (name : String) : ((p.written.map fun f => (f.1, valueNode f.2)).filter fun f => f.1 == name).length =
        (settingNames.filter fun other => other == name).length := by
      have given : settingNames = p.written.map Prod.fst := rfl
      rw [given, List.filter_map, List.filter_map, List.length_map, List.length_map]
      rfl
    simp only [names]
    decide
  have document : document? (render p.written) = _ := document?_render (List.cons_ne_nil _ _) (fit_written finite)
  have root : (documentNode p.written).fields? = some (p.written.map fun f => (.scalar .plain none f.1, valueNode f.2)) := rfl
  have settings := ofSettings?_written (d := ⟨documentNode p.written, []⟩) finite
  rw [toYaml_eq, ofYaml?, document, Option.bind_eq_bind, Option.bind_some, ofDocument?]
  dsimp only
  rw [root, Option.bind_eq_bind, Option.bind_some, mapM_text?_documentNode, Option.bind_eq_bind, Option.bind_some,
    if_neg (Bool.eq_false_iff.1 once)]
  exact settings

/-- The document of a policy with anything in place of its number. -/
def documentWith (p : Policy) (number : Json) : Json := .obj [
  ("sdk_gate_env", .str p.gateVariable),
  ("tactical_mode", .ofWord p.tacticalMode),
  ("strict_bundle", .ofSet p.strict),
  ("fallback_actions", .ofTable .str p.fallbacks),
  ("symbol_bindings", .ofTable .str p.bindings),
  ("float_epsilon", number),
  ("critical_symbols_key", .str p.criticalKey),
  ("dependency_disabled_key", .str p.disabledKey)]

theorem toJson_eq (p : Policy) : p.toJson = p.documentWith (.ofFloat p.epsilon) := rfl

theorem ofJson?_documentWith {x : Float} (finite : x.isFinite = true) :
    ofJson? (p.documentWith (.ofFloat x)) = some { p with epsilon := x } :=
  ofJson?_toJson (p := { p with epsilon := x }) finite

theorem reread_toJson (p : Policy) : Json.reread p.toJson = p.documentWith (Json.reread (.ofFloat p.epsilon)) := by
  have word : Json.reread (.ofWord p.tacticalMode) = .ofWord p.tacticalMode := rfl
  simp only [toJson, documentWith, Json.reread, Json.rereadLeaf, Json.rereadFields, word, Json.reread_ofSet,
    Json.reread_ofTable_str]

/-- The document of a policy is read back with all its fields, save that the number is what the reading of
numbers makes of its text. -/
theorem parseRaw?_toJson (p : Policy) : ∃ read, Json.parseRaw? (p.toJson.pretty ++ "\n") = some read ∧
    ∀ name ≠ "float_epsilon", read.given? name = p.toJson.given? name := by
  refine ⟨_, Json.parseRaw?_pretty p.toJson, fun name other => ?_⟩
  have skipped : ("float_epsilon" == name) = false := beq_eq_false_iff_ne.2 other.symm
  rw [reread_toJson, toJson_eq]
  simp [documentWith, Json.given?, Json.fields?, Json.single?, List.filter_cons, skipped]

theorem documentWith_inj {q : Policy} {x y : Json} (same : p.documentWith x = q.documentWith y) (z : Json) :
    p.documentWith z = q.documentWith z := by
  simp only [documentWith, Json.obj.injEq, List.cons.injEq, Prod.mk.injEq, true_and, and_true] at same ⊢
  exact ⟨same.1, same.2.1, same.2.2.1, same.2.2.2.1, same.2.2.2.2.1, same.2.2.2.2.2.2⟩

/-- Before and behind the number stands what the other settings say. -/
theorem exists_pretty_documentWith (p : Policy) : ∃ front back : String, ∀ x : Float, x.isFinite = true →
    (p.documentWith (.ofFloat x)).pretty = front ++ (Decimal.documentLayout.write x ++ back) := by
  refine ⟨"\x7b\n" ++ Json.indent 1 ++ Json.quoted "sdk_gate_env" ++ ": " ++ Json.indented 1 (.str p.gateVariable) ++
    Json.indentedFields 1 [("tactical_mode", .ofWord p.tacticalMode), ("strict_bundle", .ofSet p.strict),
      ("fallback_actions", .ofTable .str p.fallbacks), ("symbol_bindings", .ofTable .str p.bindings)] ++
    (",\n" ++ Json.indent 1 ++ Json.quoted "float_epsilon" ++ ": "),
    Json.indentedFields 1 [("critical_symbols_key", .str p.criticalKey),
      ("dependency_disabled_key", .str p.disabledKey)] ++ ("\n" ++ Json.indent 0 ++ "\x7d"), fun x finite => ?_⟩
  have number : Json.indented 1 (.ofFloat x) = Decimal.documentLayout.write x := by
    simp [Json.ofFloat, finite, Json.indented, Json.leaf]
  simp only [Json.pretty, documentWith, Json.indented, Json.indentedFields, number, String.append_assoc,
    String.append_empty]

theorem write_injective {x y : Float} (finite : x.isFinite = true) (finite' : y.isFinite = true)
    (same : Decimal.documentLayout.write x = Decimal.documentLayout.write y) : x = y := by
  have read {x : Float} (finite : x.isFinite = true) : Yaml.float? (Decimal.documentLayout.write x) = some x := by
    obtain ⟨b, read⟩ := Decimal.Binary.exists_of_isFinite finite
    exact Yaml.float?_write (l := Decimal.documentLayout) rfl (.inr rfl) rfl read
  exact Option.some.inj ((read finite).symm.trans (same ▸ read finite'))

/-- Policies whose documents are one text are one policy. -/
theorem eq_of_pretty_eq {q : Policy} (finite : p.epsilon.isFinite = true) (finite' : q.epsilon.isFinite = true)
    (same : p.toJson.pretty = q.toJson.pretty) : p = q := by
  have reread : Json.reread p.toJson = Json.reread q.toJson := by
    have parsed := Json.parseRaw?_pretty p.toJson
    rw [same, Json.parseRaw?_pretty] at parsed
    exact (Option.some.inj parsed).symm
  rw [reread_toJson, reread_toJson] at reread
  have fields := documentWith_inj reread
  have equal : p = { q with epsilon := p.epsilon } := by
    have decoded := congrArg ofJson? (fields (.ofFloat p.epsilon))
    rw [ofJson?_documentWith finite, ofJson?_documentWith finite] at decoded
    exact Option.some.inj decoded
  obtain ⟨front, back, pretty⟩ := exists_pretty_documentWith q
  have text : p.toJson = q.documentWith (.ofFloat p.epsilon) := by
    rw [equal]
    rfl
  rw [text, toJson_eq q, pretty _ finite, pretty _ finite'] at same
  have number := write_injective finite finite' ((String.append_left_inj back).1 ((String.append_right_inj front).1 same))
  rw [equal, number]

end Policy
end LiveControl
