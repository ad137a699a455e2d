import LiveControl.Yaml.Token

namespace LiveControl.Yaml

inductive Node where
  | scalar (style : Style) (tag : Option String) (text : String)
  | seq (items : List Node)
  | map (fields : List (Node × Node))
  | alias (id : Nat)
  deriving Inhabited

namespace Node

/-- What stands where nothing is written. -/
def empty : Node := .scalar .plain none ""

def text? : Node → Option String
  | .scalar _ _ text => some text
  | _ => none

/-- Whether a node is written as nothing. -/
def isEmpty : Node → Bool
  | .scalar .plain _ "" => true
  | _ => false

/-- The fields of a mapping. Nothing written is a mapping without fields. -/
def fields? (node : Node) : Option (List (Node × Node)) :=
  match node with
  | .map fields => some fields
  | _ => if node.isEmpty then some [] else none

/-- The items of a sequence. Nothing written is a sequence without items. -/
def items? (node : Node) : Option (List Node) :=
  match node with
  | .seq items => some items
  | _ => if node.isEmpty then some [] else none

end Node

/-- A document: its node, and the nodes with anchors under their numbers. Of nodes with one number the
first listed is meant. -/
structure Document where
  root : Node
  anchored : List (Nat × Node)

namespace Document

/-- The node that is meant by a node, which for an alias is the anchored one. -/
def follow (d : Document) : Node → Node
  | .alias id => ((d.anchored.find? fun a => a.1 == id).map Prod.snd).getD .empty
  | node => node

def text? (d : Document) (node : Node) : Option String := (d.follow node).text?

end Document
end LiveControl.Yaml
