import LiveControl.FileTree
import LiveControl.Policy
import LiveControl.Yaml.Document
import LiveControl.Yaml.Printer

/-!
Policies as documents in files. A document gives some of the settings, the others keep their defaults;
a missing or blank file gives none. What is read leniently on the one hand, since any scalar is a text,
is checked on the other: a setting may be given once, and its value must have its shape.
-/

namespace LiveControl.Policy

open Yaml

/-- A list of texts as a set. -/
def nameSet? (d : Document) (node : Node) : Option NameSet := do
  let items ← (d.follow node).items?
  (items.mapM d.text?).map NameSet.ofList

/-- A mapping of texts as a table; of entries with one key the last counts. -/
def textTable? (d : Document) (node : Node) : Option (Table String) := do
  let fields ← (d.follow node).fields?
  let entries ← fields.mapM fun f => do some (← d.text? f.1, ← d.text? f.2)
  some (Table.ofList entries)

/-- The tag that makes a literal block count as a number. -/
def floatTag : String := "tag:yaml.org,2002:float"

def float? (d : Document) (node : Node) : Option Float :=
  match d.follow node with
  | .scalar .plain _ text => Yaml.float? text
  | .scalar .literal (some tag) text => if tag = floatTag then Yaml.float? text else none
  | _ => none

/-- A mode is named by a scalar, or by a local tag before nothing. -/
def mode? (d : Document) (node : Node) : Option Mode :=
  match d.follow node with
  | .scalar style tag text =>
    match tag.map String.toList with
    | some ('!' :: name) =>
      if style = .plain && (text.isEmpty || nullWords.contains text) then
        Vocabulary.find? (String.ofList name)
      else none
    | _ => Vocabulary.find? text
  | _ => none

/-- The names of the settings, in the order in which they are written. -/
def settingNames : List String := [
  "sdk_gate_env", "tactical_mode", "strict_bundle", "fallback_actions", "symbol_bindings", "float_epsilon",
  "critical_symbols_key", "dependency_disabled_key"]

/-- The policy of given settings; one that is not given keeps its default. -/
def ofSettings? (d : Document) (given : String → Option Node) : Option Policy := do
  let setting {α : Type} (name : String) (absent : α) (decode : Document → Node → Option α) : Option α :=
    match given name with
    | none => some absent
    | some node => decode d node
  some {
    gateVariable := ← setting "sdk_gate_env" standard.gateVariable Document.text?
    tacticalMode := ← setting "tactical_mode" standard.tacticalMode mode?
    strict := ← setting "strict_bundle" standard.strict nameSet?
    fallbacks := ← setting "fallback_actions" standard.fallbacks textTable?
    bindings := ← setting "symbol_bindings" standard.bindings textTable?
    epsilon := ← setting "float_epsilon" standard.epsilon float?
    criticalKey := ← setting "critical_symbols_key" standard.criticalKey Document.text?
    disabledKey := ← setting "dependency_disabled_key" standard.disabledKey Document.text? }

/-- The policy of a document: a mapping from names to settings, or nothing. Names that mean no setting
are passed over; a setting may be given once. -/
def ofDocument? (d : Document) : Option Policy := do
  let fields ← d.root.fields?
  let named ← fields.mapM fun f => do some (← d.text? f.1, f.2)
  if settingNames.any fun name => 1 < (named.filter fun f => f.1 == name).length then none
  else ofSettings? d fun name => (named.find? fun f => f.1 == name).map Prod.snd

/-- The policy of a text; what it does not give has its default. -/
def ofYaml? (text : String) : Option Policy := document? text >>= ofDocument?

/-- The document of a policy, with every setting. -/
def toYaml (p : Policy) : String := render [
  ("sdk_gate_env", .text p.gateVariable),
  ("tactical_mode", .text p.tacticalMode.text),
  ("strict_bundle", .list p.strict.toList),
  ("fallback_actions", .table p.fallbacks.toList),
  ("symbol_bindings", .table p.bindings.toList),
  ("float_epsilon", .number p.epsilon),
  ("critical_symbols_key", .text p.criticalKey),
  ("dependency_disabled_key", .text p.disabledKey)]

/-- The policy in a file. Where there is no file, or a blank one, the defaults hold. -/
def load (files : Files) (path : String) : Except Fault Policy :=
  if files.hasEntry path then
    match files.readText path with
    | .error cause => .error (.file cause)
    | .ok text =>
      if Text.isBlankText text then .ok standard
      else match ofYaml? text with
        | some policy => .ok policy
        | none => .error .malformedYaml
  else .ok standard

/-- The policy in a file, if its review finds no error. -/
def loadAccepted (files : Files) (path : String) : Except Fault Policy := load files path >>= accepted

end LiveControl.Policy
