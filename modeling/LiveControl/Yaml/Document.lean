import LiveControl.Yaml.Collection
import LiveControl.Yaml.Layout

namespace LiveControl.Yaml

namespace Directive

/-- Whether the versions of both, or the handles of both, are the same thing to say. -/
def repeats : Directive → Directive → Bool
  | .version .., .version .. => true
  | .handle name _, .handle other _ => name == other
  | _, _ => false

/-- Whether a text of this version is read: 1.1 and 1.2 are. -/
def isKnown : Directive → Bool
  | .version major minor => major == 1 && (minor == 1 || minor == 2)
  | .handle .. => true

def handle? : Directive → Option (String × List UInt8)
  | .version .. => none
  | .handle name meaning => some (name, meaning)

end Directive

/-- The directives in front, and the tokens behind them. -/
def leadingDirectives : List Token → List Directive × List Token
  | .directive d :: rest =>
    let (ds, rest) := leadingDirectives rest
    (d :: ds, rest)
  | tokens => ([], tokens)

/-- Whether the directives of a document are known, and none says again what another one says. -/
def areFit : List Directive → Bool
  | [] => true
  | d :: ds => d.isKnown && !ds.any d.repeats && areFit ds

/-- The handles that have a meaning unless a directive gives them another one. -/
def standardHandles : List (String × List UInt8) :=
  [("!", "!".toUTF8.toList), ("!!", "tag:yaml.org,2002:".toUTF8.toList)]

/-- Whether there is no node behind a marker. -/
def lacksNode : List Token → Bool
  | [] | .directive _ :: _ | .documentStart :: _ | .documentEnd :: _ => true
  | _ => false

namespace Reading

/-- The node of a document whose directives are read. -/
def root (marked : Bool) : Reading Node := do
  let tokens := (← get).rest
  if marked && lacksNode tokens then return .empty
  node (4 * tokens.length + 4) true false

end Reading

namespace Reader

/-- The document of a root and of the nodes with anchors, of which the last one is listed first. -/
def document (r : Reader) (root : Node) : Document where
  root
  anchored :=
    (r.anchored.mergeSort fun a b => b.1.age ≤ a.1.age).map fun a => (a.1.number, a.2)

end Reader

/-- The document of tokens. -/
def ofTokens? (tokens : List Token) : Option Document := do
  let (ds, rest) := leadingDirectives tokens
  if rest.isEmpty && ds.isEmpty then return ⟨.empty, []⟩
  let marked := rest.head? == some .documentStart
  if !areFit ds || (!ds.isEmpty && !marked) then none
  let rest := if marked then rest.drop 1 else rest
  let start : Reader := ⟨rest, ds.filterMap Directive.handle? ++ standardHandles, [], 0, []⟩
  let (root, last) ← (Reading.root marked).run start
  if last.rest.all fun t => t == .documentEnd then some (last.document root) else none

/-- The document of a text. -/
def document? (text : String) : Option Document := tokens? text >>= ofTokens?

end LiveControl.Yaml
