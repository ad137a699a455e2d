import LiveControl.Json.Parser
import LiveControl.Text.AsciiCase
import LiveControl.Text.Blank

/-!
Anchors: names of places that were found in the binary. They come in four encodings: a list, a text
that holds a document with a list, a text of names between commas, and an object whose entries with
something in them count by their keys. Whatever the encoding, names are trimmed and in lowercase.
-/

namespace LiveControl.Anchors

/-- The normal form of a name; a blank one is no name. -/
def normalName? (name : String) : Option String := (Text.trimmed? name).map Text.asciiLower

def ofNames (names : List String) : NameSet := .ofList (names.filterMap normalName?)

/-- The names in a list; other values in it are passed over. -/
def ofItems (items : List Json) : NameSet := ofNames (items.filterMap Json.str?)

/-- Whether an entry of an object has something in it. -/
def isFilled : Json → Bool
  | .null => false
  | .str s => !Text.isBlankText s
  | _ => true

def ofText (text : String) : NameSet :=
  let trimmed := Text.trim text
  if trimmed.toList.head? = some '[' then
    match Json.parse? trimmed with
    | some (.arr items) => ofItems items
    | _ => .empty
  else ofNames ((Text.pieces ',' trimmed.toList).map String.ofList)

/-- The anchors that a loose value encodes; a value of any other kind encodes none. -/
def ofLoose : Json → NameSet
  | .arr items => ofItems items
  | .str text => ofText text
  | .obj fields => ofNames ((fields.filter fun f => isFilled f.2).map Prod.fst)
  | _ => .empty

/-- The anchors under an entry that may be missing. -/
def ofEntry (value : Option Json) : NameSet := (value.map ofLoose).getD .empty

end LiveControl.Anchors
