import LiveControl.Table

/-!
The environment of a process: a list of texts, each a name and a value with an equals sign between them.
Nothing but the text says where the name ends, so a name that is asked for may reach into a value.
-/

namespace LiveControl

/-- The texts of an environment, in the order in which they are searched. -/
structure Environment where
  entries : List String

namespace Environment

/-- The environment that gives variables their values. -/
def ofTable (t : Table String) : Environment := ⟨t.toList.map fun e => e.1 ++ "=" ++ e.2⟩

/-- The value that a text gives a name, if it starts with the name and an equals sign. -/
def valueIn? (name entry : String) : Option String :=
  let start := name.toList ++ ['=']
  if start.isPrefixOf entry.toList then some (String.ofList (entry.toList.drop start.length)) else none

/-- The value of a variable. One without a name is never set. -/
def get? (e : Environment) (name : String) : Option String :=
  if name.isEmpty then none else e.entries.findSome? (valueIn? name)

end Environment
end LiveControl
