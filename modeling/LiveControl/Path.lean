import LiveControl.Text.Blank

namespace LiveControl.Path

/-- The pieces of a path that name something, a step upwards included. -/
def steps (path : String) : List String :=
  ((Text.pieces '/' path.toList).map String.ofList).filter fun piece => piece ≠ "" && piece ≠ "."

/-- Whether the path insists that what it names is a directory. -/
def asksDirectory (path : String) : Bool :=
  match (Text.pieces '/' path.toList).reverse with
  | [] :: _ | ['.'] :: _ => true
  | _ => false

/-- Names that no directory can hold. -/
def isLongName (name : String) : Bool := 255 < name.utf8ByteSize

/-- Paths that are not even looked at. -/
def isLong (path : String) : Bool := 4095 < path.utf8ByteSize

/-- The name of the file: the last step, unless the path is empty or ends in a step upwards. -/
def name? (path : String) : Option String := (steps path).getLast?.filter fun step => step ≠ ".."

/-- A name without its last extension. A dot at the beginning does not start an extension. -/
def withoutExtension (name : String) : String :=
  match (name.toList.reverse.dropWhile fun c => c ≠ '.').drop 1 with
  | [] => name
  | stem => String.ofList stem.reverse

/-- The name of the file without its last extension. -/
def stem? (path : String) : Option String := (name? path).map withoutExtension

end LiveControl.Path
