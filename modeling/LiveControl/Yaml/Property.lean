import LiveControl.Text.HexDigit
import LiveControl.Yaml.Spot
import LiveControl.Yaml.Token

namespace LiveControl.Yaml

def isNameChar (c : Char) : Bool := c.isAlphanum || c == '-' || c == '_'

/-- What may follow the name of an anchor. -/
def endsName (rest : List Spot) : Bool :=
  atGap rest || rest.head?.any fun s =>
    ['?', ':', ',', ']', '\x7d', '%', '@', '\x60'].contains s.char

/-- The name of an anchor. -/
def anchorName? (spots : List Spot) : Option (String × List Spot) :=
  let (name, rest) := spanChars isNameChar spots
  if name.isEmpty || !endsName rest then none else some (String.ofList name, rest)

/-- Characters of tags; a wide one may hold brackets and commas too. -/
def isTagChar (wide : Bool) (c : Char) : Bool :=
  isNameChar c || (wide && [',', '[', ']'].contains c) ||
    [';', '/', '?', ':', '@', '&', '=', '+', '$', '.', '!', '~', '*', '\x27', '(', ')'].contains c

/-- The byte that two hexadecimal digits stand for. -/
def byte? (high low : Char) : Option UInt8 := do
  some (UInt8.ofNat ((← Text.hexValue? high) * 16 + (← Text.hexValue? low)))

/-- How many bytes of a character are due behind a byte, if `due` are due before it. -/
def dueAfter? (due : Nat) (b : UInt8) : Option Nat :=
  if 0 < due then if 0x80 ≤ b && b < 0xC0 then some (due - 1) else none
  else if b < 0x80 then some 0
  else if b < 0xC0 then none
  else if b < 0xE0 then some 1
  else if b < 0xF0 then some 2
  else if b < 0xF8 then some 3
  else none

/-- The bytes of a tag. A character may be written byte by byte, each as a percent sign and two
hexadecimal digits; `due` of its bytes have yet to come. -/
def tagBytes? (wide : Bool) (due : Nat) : List Spot → Option (List UInt8 × List Spot)
  | [] => if due = 0 then some ([], []) else none
  | s :: rest =>
    if s.char = '%' then
      match rest with
      | t :: u :: behind => do
        let b ← byte? t.char u.char
        let (bytes, rest) ← tagBytes? wide (← dueAfter? due b) behind
        some (b :: bytes, rest)
      | _ => none
    else if 0 < due then none
    else if isTagChar wide s.char then do
      let (bytes, rest) ← tagBytes? wide 0 rest
      some (UInt8.ofNat s.char.toNat :: bytes, rest)
    else some ([], s :: rest)

/-- A tag reaches only up to a zero byte. -/
def untilZero (bytes : List UInt8) : List UInt8 := bytes.takeWhile fun b => b ≠ 0

/-- The text of a tag, at least one byte. -/
def tagText? (wide : Bool) (spots : List Spot) : Option (List UInt8 × List Spot) := do
  let (bytes, rest) ← tagBytes? wide 0 spots
  if bytes.isEmpty then none else some (untilZero bytes, rest)

/-- A tag: between angle brackets as a whole, else behind a handle. An exclamation mark alone is a tag
without a handle. -/
def tag? (flow : Bool) (spots : List Spot) : Option (Token × List Spot) := do
  let (tag, rest) ←
    if startsWith '<' (spots.drop 1) then do
      let (text, rest) ← tagText? true (spots.drop 2)
      if startsWith '>' rest then some (Token.tag none text, rest.drop 1) else none
    else do
      let (word, behind) := spanChars isNameChar (spots.drop 1)
      if startsWith '!' behind then do
        let (text, rest) ← tagText? false (behind.drop 1)
        some (Token.tag (some (String.ofList ('!' :: word ++ ['!']))) text, rest)
      else do
        let (bytes, rest) ← tagBytes? false 0 (spots.drop 1)
        let text := untilZero bytes
        some (if text.isEmpty then Token.tag none [0x21] else Token.tag (some "!") text, rest)
  if atGap rest || (flow && startsWith ',' rest) then some (tag, rest) else none

def skipBlanks (spots : List Spot) : List Spot := spots.dropWhile fun s => isBlank s.char

/-- The rest behind the end of a line that holds no more than a comment. -/
def lineEnd? (spots : List Spot) : Option (List Spot) :=
  let spots := skipBlanks spots
  let spots := if startsWith '#' spots then spots.dropWhile fun s => !isBreak s.char else spots
  match spots with
  | [] => some []
  | s :: rest => if isBreak s.char then some rest else none

/-- A number of a version: at most nine digits. -/
def versionPart? (spots : List Spot) : Option (Nat × List Spot) :=
  let (digits, rest) := spanChars Char.isDigit spots
  if digits.isEmpty || 9 < digits.length then none
  else some (digits.foldl (fun n c => n * 10 + (c.toNat - 48)) 0, rest)

/-- The handle that a directive gives a meaning: an exclamation mark, alone or closed by a second one. -/
def handle? (spots : List Spot) : Option (String × List Spot) :=
  if startsWith '!' spots then
    let (word, behind) := spanChars isNameChar (spots.drop 1)
    if startsWith '!' behind then some (String.ofList ('!' :: word ++ ['!']), behind.drop 1)
    else if word.isEmpty then some ("!", behind)
    else none
  else none

/-- A directive behind its percent sign, with its line end. -/
def directive? (spots : List Spot) : Option (Directive × List Spot) := do
  let (name, behind) := spanChars isNameChar spots
  if !atGap behind then none
  let (d, rest) ← match String.ofList name with
    | "YAML" => do
      let (major, rest) ← versionPart? (skipBlanks behind)
      if !startsWith '.' rest then none
      let (minor, rest) ← versionPart? (rest.drop 1)
      some (Directive.version major minor, rest)
    | "TAG" => do
      let (handle, rest) ← handle? (skipBlanks behind)
      if !rest.head?.any fun s => isBlank s.char then none
      let (meaning, rest) ← tagText? true (skipBlanks rest)
      if atGap rest then some (Directive.handle handle meaning, rest) else none
    | _ => none
  some (d, ← lineEnd? rest)

end LiveControl.Yaml
