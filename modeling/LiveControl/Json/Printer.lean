import LiveControl.Json.Basic
import LiveControl.Decimal.Layout

namespace LiveControl.Json

def hexDigit (n : Nat) : Char := Char.ofNat (if n < 10 then 48 + n else 87 + n)

/-- How a character stands inside quotes. -/
def escaped (c : Char) : List Char :=
  match c.toNat with
  | 0x22 => ['\\', '\x22']
  | 0x5C => ['\\', '\\']
  | 0x08 => ['\\', 'b']
  | 0x09 => ['\\', 't']
  | 0x0A => ['\\', 'n']
  | 0x0C => ['\\', 'f']
  | 0x0D => ['\\', 'r']
  | n => if n < 0x20 then ['\\', 'u', '0', '0', hexDigit (n / 16), hexDigit (n % 16)] else [c]

/-- A text between quotes. -/
def quoted (s : String) : String :=
  String.ofList ('\x22' :: s.toList.flatMap escaped ++ ['\x22'])

/-- A value without parts. -/
def leaf : Json → String
  | .null => "null"
  | .bool b => if b then "true" else "false"
  | .int n => toString n
  | .float x => if x.isFinite then Decimal.documentLayout.write x else "null"
  | .str s => quoted s
  | .arr _ | .obj _ => ""

mutual

/-- The value on one line without blanks. -/
def compact : Json → String
  | .arr items => "[" ++ compactItems items ++ "]"
  | .obj fields => "\x7b" ++ compactFields fields ++ "\x7d"
  | other => leaf other

def compactItems : List Json → String
  | [] => ""
  | [x] => compact x
  | x :: y :: rest => compact x ++ "," ++ compactItems (y :: rest)

def compactFields : List (String × Json) → String
  | [] => ""
  | [(k, x)] => quoted k ++ ":" ++ compact x
  | (k, x) :: f :: rest => quoted k ++ ":" ++ compact x ++ "," ++ compactFields (f :: rest)

end

def indent (depth : Nat) : String := String.ofList (List.replicate (2 * depth) ' ')

mutual

/-- The value over several lines, its first line not indented and the others by `depth` levels at least. -/
def indented (depth : Nat) : Json → String
  | .arr [] => "[]"
  | .arr (x :: rest) =>
    "[\n" ++ indent (depth + 1) ++ indented (depth + 1) x ++ indentedItems (depth + 1) rest ++
      "\n" ++ indent depth ++ "]"
  | .obj [] => "\x7b\x7d"
  | .obj ((k, x) :: rest) =>
    "\x7b\n" ++ indent (depth + 1) ++ quoted k ++ ": " ++ indented (depth + 1) x ++
      indentedFields (depth + 1) rest ++ "\n" ++ indent depth ++ "\x7d"
  | other => leaf other

def indentedItems (depth : Nat) : List Json → String
  | [] => ""
  | x :: rest => ",\n" ++ indent depth ++ indented depth x ++ indentedItems depth rest

def indentedFields (depth : Nat) : List (String × Json) → String
  | [] => ""
  | (k, x) :: rest =>
    ",\n" ++ indent depth ++ quoted k ++ ": " ++ indented depth x ++ indentedFields depth rest

end

/-- The value over several lines. -/
def pretty (j : Json) : String := indented 0 j

end LiveControl.Json
