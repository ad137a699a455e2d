import LiveControl.Yaml.Node

/-!
From tokens to nodes. Each function spends fuel on what lies within; no token needs more than three
pieces of it.

An anchor gets as its number how many different names there were before it. A name that is given again
gets a number again, which may be that of the latest other name; of nodes with one number the last one
counts, for all aliases. An alias means the number that its name has where it stands.
-/

namespace LiveControl.Yaml

/-- The place of a node among those with anchors: how many come before it, and the number it was given. -/
structure AnchorPlace where
  age : Nat
  number : Nat

/-- What is left to read, and what is known of tags and anchors. -/
structure Reader where
  rest : List Token
  /-- The texts that the handles of tags stand for. -/
  handles : List (String × List UInt8)
  /-- The numbers of names. -/
  numbers : List (String × Nat)
  /-- How many nodes with anchors have come so far. -/
  count : Nat
  /-- Those of them that are read. -/
  anchored : List (AnchorPlace × Node)

/-- A step of reading; it fails on tokens that make no document. -/
abbrev Reading (α : Type) := StateT Reader Option α

/-- The anchor and the tag in front of a node. -/
structure Properties where
  anchor : Option String
  tag : Option (List UInt8)

namespace Properties

def isNone (p : Properties) : Bool := p.anchor.isNone && p.tag.isNone

/-- A scalar with its properties. A tag that is no text says nothing. -/
def scalar (p : Properties) (style : Style) (text : String) : Node :=
  .scalar style (p.tag.bind fun bytes => String.fromUTF8? ⟨bytes.toArray⟩) text

end Properties

namespace Reading

def next? : Reading (Option Token) := return (← get).rest.head?

/-- Passes over one token. -/
def advance : Reading Unit := modify fun r => { r with rest := r.rest.drop 1 }

/-- The text of a tag whose handle, if it has one, has a meaning. -/
def tagText (handle : Option String) (text : List UInt8) : Reading (List UInt8) := do
  match handle with
  | none => return text
  | some name =>
    match (← get).handles.find? fun h => h.1 == name with
    | some h => return h.2 ++ text
    | none => failure

def anchor? : Reading (Option String) := do
  match ← next? with
  | some (.anchor name) => do
    advance
    return some name
  | _ => return none

def tag? : Reading (Option (List UInt8)) := do
  match ← next? with
  | some (.tag handle text) => do
    advance
    return some (← tagText handle text)
  | _ => return none

/-- The properties that come next, in either order. -/
def properties : Reading Properties := do
  let tag ← tag?
  let anchor ← anchor?
  if tag.isSome then return ⟨anchor, tag⟩
  return ⟨anchor, ← tag?⟩

/-- Gives the node that comes next its number, if it has an anchor. -/
def register (anchor : Option String) : Reading (Option AnchorPlace) := do
  match anchor with
  | none => return none
  | some name =>
    let r ← get
    let number := r.numbers.length
    set { r with
      numbers := (name, number) :: r.numbers.filter (fun n => n.1 != name)
      count := r.count + 1 }
    return some ⟨r.count, number⟩

/-- Notes a node that was given a number. -/
def complete (node : Node) : Option AnchorPlace → Reading Unit
  | none => pure ()
  | some a => modify fun r => { r with anchored := (a, node) :: r.anchored }

/-- The alias of a name. -/
def aliasOf (name : String) : Reading Node := do
  match (← get).numbers.find? fun n => n.1 == name with
  | some n => return .alias n.2
  | none => failure

/-- Whether the entry of a block collection ends before its node starts; an item may be the start of a
sequence there. -/
def endsEntry (items : Bool) : Option Token → Bool
  | some .item => items
  | some .key | some .value | some .blockEnd => true
  | _ => false

mutual

/-- Reads a node. Block collections are among what may come only in a `block`; where `loose`, the items
of a sequence may stand without tokens around them. -/
def node : Nat → Bool → Bool → Reading Node
  | 0, _, _ => failure
  | fuel + 1, block, loose => do
    match ← next? with
    | some (.alias name) => do
      advance
      aliasOf name
    | _ => do
      let p ← properties
      let place ← register p.anchor
      let node ← content fuel block loose p
      complete node place
      return node

/-- Reads a node behind its properties. Properties alone make an empty scalar. -/
def content : Nat → Bool → Bool → Properties → Reading Node
  | 0, _, _, _ => failure
  | fuel + 1, block, loose, p => do
    match ← next?, block, loose with
    | some .item, _, true => return .seq (← items fuel true [])
    | some (.scalar style text), _, _ => do
      advance
      return p.scalar style text
    | some .openSeq, _, _ => do
      advance
      return .seq (← flowItems fuel [])
    | some .openMap, _, _ => do
      advance
      return .map (← flowFields fuel [])
    | some .blockSeq, true, _ => do
      advance
      return .seq (← items fuel false [])
    | some .blockMap, true, _ => do
      advance
      return .map (← fields fuel [])
    | _, _, _ => if p.isNone then failure else return p.scalar .plain ""

/-- Reads the items of a block sequence up to its end. Without tokens around them they end before the
first token that is no item. -/
def items : Nat → Bool → List Node → Reading (List Node)
  | 0, _, _ => failure
  | fuel + 1, loose, done => do
    match ← next?, loose with
    | some .item, _ => do
      advance
      let item ← if endsEntry true (← next?) then pure .empty else node fuel true false
      items fuel loose (item :: done)
    | _, true => return done.reverse
    | some .blockEnd, false => do
      advance
      return done.reverse
    | _, _ => failure

/-- Reads the fields of a block mapping up to its end. -/
def fields : Nat → List (Node × Node) → Reading (List (Node × Node))
  | 0, _ => failure
  | fuel + 1, done => do
    match ← next? with
    | some .key => do
      advance
      let key ← if endsEntry false (← next?) then pure .empty else node fuel true true
      let value ← match ← next? with
        | some .value => do
          advance
          if endsEntry false (← next?) then pure .empty else node fuel true true
        | _ => pure .empty
      fields fuel ((key, value) :: done)
    | some .blockEnd => do
      advance
      return done.reverse
    | _ => failure

/-- Reads the items of a flow sequence up to its bracket. A pair among them is a mapping with one field;
where its key is not written behind the question mark, the token there is passed over. -/
def flowItems : Nat → List Node → Reading (List Node)
  | 0, _ => failure
  | fuel + 1, done => do
    match ← next? with
    | some .closeSeq => do
      advance
      return done.reverse
    | some .key => do
      advance
      let key ← match ← next? with
        | some .value | some .comma | some .closeSeq => do
          advance
          pure .empty
        | _ => node fuel false false
      let value ← flowValue fuel
      nextFlowItem fuel (.map [(key, value)] :: done)
    | _ => do
      let item ← node fuel false false
      nextFlowItem fuel (item :: done)

/-- Goes on behind an item of a flow sequence. -/
def nextFlowItem : Nat → List Node → Reading (List Node)
  | 0, _ => failure
  | fuel + 1, done => do
    match ← next? with
    | some .comma => do
      advance
      flowItems fuel done
    | some .closeSeq => do
      advance
      return done.reverse
    | _ => failure

/-- Reads the fields of a flow mapping up to its bracket. A node alone is a key. -/
def flowFields : Nat → List (Node × Node) → Reading (List (Node × Node))
  | 0, _ => failure
  | fuel + 1, done => do
    match ← next? with
    | some .closeMap => do
      advance
      return done.reverse
    | some .key => do
      advance
      let key ← match ← next? with
        | some .value | some .comma | some .closeMap => pure .empty
        | _ => node fuel false false
      let value ← flowValue fuel
      nextFlowField fuel ((key, value) :: done)
    | _ => do
      let key ← node fuel false false
      nextFlowField fuel ((key, .empty) :: done)

/-- Goes on behind a field of a flow mapping. -/
def nextFlowField : Nat → List (Node × Node) → Reading (List (Node × Node))
  | 0, _ => failure
  | fuel + 1, done => do
    match ← next? with
    | some .comma => do
      advance
      flowFields fuel done
    | some .closeMap => do
      advance
      return done.reverse
    | _ => failure

/-- Reads the value of a flow collection's pair, if one is written. -/
def flowValue : Nat → Reading Node
  | 0 => failure
  | fuel + 1 => do
    match ← next? with
    | some .value => do
      advance
      match ← next? with
      | some .comma | some .closeSeq | some .closeMap => return .empty
      | _ => node fuel false false
    | _ => return .empty

end

end Reading
end LiveControl.Yaml
