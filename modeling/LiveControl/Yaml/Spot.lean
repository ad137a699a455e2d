namespace LiveControl.Yaml

/-- A character with its line and its column, both counted from zero. -/
structure Spot where
  char : Char
  line : Nat
  column : Nat
  /-- How many bytes come before it on its line. -/
  offset : Nat

/-- Line ends, once every way to write the common one has become a single character. The line and
the paragraph separator keep their identity. -/
def isBreak (c : Char) : Bool := c.toNat == 0x0A || c.toNat == 0x2028 || c.toNat == 0x2029

def isBlank (c : Char) : Bool := c.toNat == 0x20 || c.toNat == 0x09

def byteOrderMark : Char := Char.ofNat 0xFEFF

/-- The characters that a text may hold at all. -/
def isAllowed (c : Char) : Bool :=
  let n := c.toNat
  n == 0x09 || n == 0x0A || n == 0x0D || (0x20 ≤ n && n ≤ 0x7E) || n == 0x85 ||
    (0xA0 ≤ n && n ≤ 0xD7FF) || (0xE000 ≤ n && n ≤ 0xFFFD) || 0x10000 ≤ n

/-- A text in which carriage returns, alone or before a line feed, and next-line characters have
become line feeds. -/
def withOneBreak : List Char → List Char
  | [] => []
  | c :: rest =>
    if c.toNat = 0x0D then
      match rest with
      | d :: more => if d.toNat = 0x0A then '\n' :: withOneBreak more else '\n' :: withOneBreak (d :: more)
      | [] => ['\n']
    else if c.toNat = 0x85 then '\n' :: withOneBreak rest
    else c :: withOneBreak rest

/-- The characters from a place on. -/
def placed (line column offset : Nat) : List Char → List Spot
  | [] => []
  | c :: rest =>
    ⟨c, line, column, offset⟩ ::
      if isBreak c then placed (line + 1) 0 0 rest
      else placed line (column + 1) (offset + c.utf8Size) rest

/-- The characters of a text, unless one is not allowed. -/
def spots? (text : String) : Option (List Spot) :=
  let chars := text.toList
  if chars.all isAllowed then some (placed 0 0 0 (withOneBreak chars)) else none

/-- Whether nothing, a blank or a line end comes first. -/
def atGap : List Spot → Bool
  | [] => true
  | s :: _ => isBlank s.char || isBreak s.char

/-- Whether `c` comes first. -/
def startsWith (c : Char) : List Spot → Bool
  | [] => false
  | s :: _ => s.char == c

/-- Whether a line starts with a marker between documents: three times `c`, then a gap. -/
def atMarker (c : Char) : List Spot → Bool
  | s :: t :: u :: rest =>
    s.column == 0 && s.char == c && t.char == c && u.char == c && atGap rest
  | _ => false

/-- Whether a line starts with either marker. -/
def atBoundary (rest : List Spot) : Bool := atMarker '-' rest || atMarker '.' rest

/-- Characters from the front as long as they satisfy `p`, and the rest. -/
def spanChars (p : Char → Bool) (spots : List Spot) : List Char × List Spot :=
  ((spots.takeWhile fun s => p s.char).map Spot.char, spots.dropWhile fun s => p s.char)

/-- Passes over blanks, comments and line ends. `keyOk` says whether a key may come next, which in a
block every new line allows. Where a key may come, tabs are not passed over, since they do not indent.
A byte order mark at the start of a line is passed over, but takes up its column. -/
def toToken (flow : Bool) (keyOk comment : Bool) : List Spot → Bool × List Spot
  | [] => (keyOk, [])
  | s :: rest =>
    if isBreak s.char then toToken flow (keyOk || !flow) false rest
    else if comment || s.char = '#' then toToken flow keyOk true rest
    else if s.char = ' ' || (s.char = '\t' && (flow || !keyOk)) ||
        (s.char = byteOrderMark && s.column = 0) then
      toToken flow keyOk false rest
    else (keyOk, s :: rest)

end LiveControl.Yaml
