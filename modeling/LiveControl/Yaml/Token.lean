namespace LiveControl.Yaml

/-- How a scalar is written. Only a plain one can mean something else than its text. -/
inductive Style where
  | plain
  | quoted
  | literal
  | folded
  deriving DecidableEq, Repr

/-- A directive: the version of the text, or the text that a handle of tags stands for. -/
inductive Directive where
  | version (major minor : Nat)
  | handle (name : String) (meaning : List UInt8)
  deriving DecidableEq

inductive Token where
  | directive (d : Directive)
  | documentStart
  | documentEnd
  | blockSeq
  | blockMap
  /-- The end of a block collection. -/
  | blockEnd
  | openSeq
  | closeSeq
  | openMap
  | closeMap
  | comma
  /-- The minus in front of an item. -/
  | item
  | key
  | value
  | anchor (name : String)
  | alias (name : String)
  /-- A tag as bytes, behind the handle that abbreviates its front if it has one. -/
  | tag (handle : Option String) (text : List UInt8)
  | scalar (style : Style) (text : String)
  deriving DecidableEq

end LiveControl.Yaml
