namespace LiveControl.Text.ControlSequence

/-- What a character belongs to: ordinary text or some part of a sequence. -/
inductive Part where
  | plain
  | escape
  /-- Marks between the escape character and the one that ends its sequence. -/
  | marks
  | control
  | deviceOpening
  | deviceParameters
  | deviceMarks
  /-- What is meant for a device or an application, up to the end of the string. -/
  | body
  /-- A command to the system, which a bell ends. -/
  | command
  deriving DecidableEq

/-- Control characters that make room and nothing else. -/
def isWhite (c : Char) : Bool :=
  c = '\t' || c = '\n' || c = '\x0C' || c = '\r'

/-- Whether ordinary text shows a character. -/
def isShown (c : Char) : Bool := isWhite c || (0x20 ≤ c.toNat && c.toNat ≠ 0x7F)

/-- The end of a string, which may hide among the bytes of a longer character. -/
def endsBody (c : Char) : Bool := (String.utf8EncodeChar c).contains 0x9C

namespace Part

/-- Parts in which a white character breaks the sequence off. -/
def breaksAtWhite : Part → Bool
  | .escape | .marks | .control => true
  | _ => false

/-- The part behind the character that follows an escape character. -/
def afterEscape (c : Char) : Part :=
  if c = '[' then .control
  else if c = ']' then .command
  else if c = 'P' then .deviceOpening
  else if c = 'X' || c = '^' || c = '_' then .body
  else if ' ' ≤ c && c ≤ '/' then .marks
  else if '0' ≤ c && c ≤ '~' then .plain
  else .escape

/-- The part behind a character, within a sequence that the character does not break off. -/
def next (p : Part) (c : Char) : Part :=
  match p with
  | .plain => .plain
  | .escape => afterEscape c
  | .marks => if '0' ≤ c && c ≤ '~' then .plain else .marks
  | .control => if '@' ≤ c && c ≤ '~' then .plain else .control
  | .deviceOpening =>
    if ' ' ≤ c && c ≤ '/' then .deviceMarks
    else if '0' ≤ c && c ≤ '?' then .deviceParameters
    else if '@' ≤ c && c ≤ '~' then .body
    else .deviceOpening
  | .deviceParameters =>
    if ' ' ≤ c && c ≤ '/' then .deviceMarks
    else if '<' ≤ c && c ≤ '~' then .body
    else .deviceParameters
  | .deviceMarks => if '0' ≤ c && c ≤ '~' then .body else .deviceMarks
  | .body => if endsBody c then .plain else .body
  | .command => if c = '\x07' then .plain else .command

end Part

/-- The characters of a text that are shown, where its start belongs to `p`. An escape character begins
a sequence anywhere, and two control characters call any sequence off. -/
def shownFrom (p : Part) : List Char → List Char
  | [] => []
  | c :: rest =>
    if c = '\x1B' then shownFrom .escape rest
    else if c = '\x18' || c = '\x1A' then shownFrom .plain rest
    else if (p = .plain && isShown c) || (p.breaksAtWhite && isWhite c) then c :: shownFrom .plain rest
    else shownFrom (p.next c) rest

/-- A text without its control sequences. -/
def strip (s : String) : String := String.ofList (shownFrom .plain s.toList)

end LiveControl.Text.ControlSequence
