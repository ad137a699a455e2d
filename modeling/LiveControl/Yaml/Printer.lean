import LiveControl.Decimal.Layout
import LiveControl.Yaml.Number
import LiveControl.Yaml.Spot

/-!
Settings as YAML text. A document is a list of fields whose values are texts, numbers, lists of texts
and tables of texts. A text is written plain when that reads back as the same text, else between single
quotes, between double quotes, or, if it has several lines, as a literal block.
-/

namespace LiveControl.Yaml

/-- What a field of a document may hold. -/
inductive Value where
  | text (value : String)
  | number (value : Float)
  | list (items : List String)
  | table (entries : List (String × String))

/-- Line ends of any kind, also those that reading turns into a line feed. -/
def isLineEnd (c : Char) : Bool := isBreak c || c.toNat == 0x0D || c.toNat == 0x85

/-- Characters that need no escape. -/
def isPrintable (c : Char) : Bool :=
  let n := c.toNat
  n == 0x0A || (0x20 ≤ n && n ≤ 0x7E) || (0xA0 ≤ n && n ≤ 0xD7FF) ||
    (0xE000 ≤ n && n ≤ 0xFFFD && n ≠ 0xFEFF) || 0x10000 ≤ n

/-- Words that mean a truth value. -/
def truthWords : List String := ["true", "True", "TRUE", "false", "False", "FALSE"]

def nullWords : List String := ["null", "Null", "NULL", "~"]

/-- Texts that mean something else when they are written plain. -/
def meansOther (text : String) : Bool :=
  text.isEmpty || truthWords.contains text || nullWords.contains text || isPaddedDigits text ||
    isBasedInteger text || (float? text).isSome

/-- Characters that mean something else than themselves at the start of a text. -/
def leadingIndicators : List Char :=
  [',', '[', ']', '\x7b', '\x7d', '#', '&', '*', '!', '|', '>', '\x27', '\x22', '%', '@', '\x60']

/-- Whether a text goes on with a gap, or ends. -/
def goesOnWithGap (cs : List Char) : Bool := cs.head?.all fun c => isBlank c || isLineEnd c

/-- Whether a text starts with an indicator; some characters are one only before a gap. -/
def startsIndicator : List Char → Bool
  | [] => false
  | c :: rest => leadingIndicators.contains c || (['?', ':', '-'].contains c && goesOnWithGap rest)

/-- Whether what follows the character `before` has an indicator within: a colon before a gap, or a
comment behind one. -/
def hasIndicatorAfter : Char → List Char → Bool
  | _, [] => false
  | before, c :: rest =>
    (c == ':' && goesOnWithGap rest) || (c == '#' && (isBlank before || isLineEnd before)) ||
      hasIndicatorAfter c rest

def hasIndicator : List Char → Bool
  | [] => false
  | c :: rest => startsIndicator (c :: rest) || hasIndicatorAfter c rest

/-- Whether some character that satisfies `p` stands right before one that satisfies `q`. -/
def hasPair (p q : Char → Bool) : List Char → Bool
  | c :: d :: rest => (p c && q d) || hasPair p q (d :: rest)
  | _ => false

def isSpace (c : Char) : Bool := c == ' '

/-- Whether either end of a text is a blank or a line end. -/
def hasLooseEnd (cs : List Char) : Bool :=
  let loose (c : Char) : Bool := isSpace c || isLineEnd c
  cs.head?.any loose || cs.getLast?.any loose

/-- Whether only double quotes keep a text: for characters that need an escape, and for blanks at the
end of a line. -/
def needsEscapes (cs : List Char) : Bool :=
  cs.any (fun c => !isPrintable c) || hasPair isSpace isLineEnd cs

/-- Whether a text on one line reads back when it is written plain. -/
def fitsPlain (cs : List Char) : Bool :=
  !(needsEscapes cs || cs.any isLineEnd || hasLooseEnd cs || hasIndicator cs ||
    ['-', '-', '-'].isPrefixOf cs || ['.', '.', '.'].isPrefixOf cs)

def fitsSingleQuotes (cs : List Char) : Bool :=
  !(needsEscapes cs || hasPair isLineEnd isSpace cs)

def fitsLiteral (cs : List Char) : Bool :=
  !(needsEscapes cs || cs.getLast?.any isSpace)

def upperHexDigit (n : Nat) : Char := Char.ofNat (if n < 10 then 48 + n else 55 + n)

/-- The last `count` hexadecimal digits of a number. -/
def upperHex (n : Nat) : Nat → List Char
  | 0 => []
  | count + 1 => upperHex (n / 16) count ++ [upperHexDigit (n % 16)]

/-- The letter that stands behind a backslash for the character with a code. -/
def shortLetter? (n : Nat) : Option Char :=
  match n with
  | 0x00 => some '0'
  | 0x07 => some 'a'
  | 0x08 => some 'b'
  | 0x09 => some 't'
  | 0x0A => some 'n'
  | 0x0B => some 'v'
  | 0x0C => some 'f'
  | 0x0D => some 'r'
  | 0x1B => some 'e'
  | 0x22 => some '\x22'
  | 0x5C => some '\\'
  | 0x85 => some 'N'
  | 0x2028 => some 'L'
  | 0x2029 => some 'P'
  | _ => none

/-- How a character stands between double quotes. -/
def escaped (c : Char) : List Char :=
  let n := c.toNat
  match shortLetter? n with
  | some letter => ['\\', letter]
  | none =>
    if isPrintable c then [c]
    else if n ≤ 0xFF then '\\' :: 'x' :: upperHex n 2
    else if n ≤ 0xFFFF then '\\' :: 'u' :: upperHex n 4
    else '\\' :: 'U' :: upperHex n 8

def doubleQuoted (cs : List Char) : List Char := '\x22' :: (cs.flatMap escaped ++ ['\x22'])

def pad (indent : Nat) : List Char := List.replicate indent ' '

/-- The text between single quotes; what follows a line end is indented. -/
def singleQuotedFrom (indent : Nat) : Bool → List Char → List Char
  | afterEnd, [] => (if afterEnd then pad indent else []) ++ ['\x27']
  | afterEnd, c :: rest =>
    if isLineEnd c then c :: singleQuotedFrom indent true rest
    else
      (if afterEnd then pad indent else []) ++
        ((if c = '\x27' then ['\x27', '\x27'] else [c]) ++ singleQuotedFrom indent false rest)

def singleQuoted (indent : Nat) (cs : List Char) : List Char := '\x27' :: singleQuotedFrom indent false cs

/-- The lines of a literal block, each line with text indented. -/
def literalLines (indent : Nat) : Bool → List Char → List Char
  | _, [] => []
  | fresh, c :: rest =>
    if isLineEnd c then c :: literalLines indent true rest
    else (if fresh then pad indent else []) ++ (c :: literalLines indent false rest)

/-- The header of a literal block: the indentation, if its first line does not show it, and whether its
end has no line end, one, or more. -/
def literalHeader (cs : List Char) : List Char :=
  let shown := cs.head?.any fun c => isSpace c || isLineEnd c
  let chomp := match cs.reverse with
    | [] => ['-']
    | [c] => if isLineEnd c then ['+'] else ['-']
    | c :: d :: _ => if !isLineEnd c then ['-'] else if isLineEnd d then ['+'] else []
  '|' :: ((if shown then ['2'] else []) ++ chomp)

/-- A text in the form that suits it. `indent` is the column of the lines of a block within it. -/
def scalarText (indent : Nat) (text : String) : List Char :=
  let cs := text.toList
  if cs.contains '\n' then
    if fitsLiteral cs then literalHeader cs ++ '\n' :: literalLines indent true cs else doubleQuoted cs
  else if !meansOther text && fitsPlain cs then cs
  else if fitsSingleQuotes cs then singleQuoted indent cs
  else doubleQuoted cs

/-- A scalar with the line end behind it, unless it ends in one. -/
def closed (cs : List Char) : List Char := if cs.getLast?.any isLineEnd then cs else cs ++ ['\n']

/-- Numbers: positional for exponents from -5 to 15, always with a point or an exponent. -/
def numberLayout : Decimal.Layout :=
  ⟨.toEven, fun e => -5 ≤ e && e ≤ 15, true, "e", ".nan", ".inf"⟩

def sequenceItem (item : String) : List Char := '-' :: ' ' :: closed (scalarText 2 item)

/-- A field of a table. A key that is long or has several lines stands behind a question mark. -/
def tableField (entry : String × String) : List Char :=
  let key := scalarText 4 entry.1
  let value := closed (scalarText 4 entry.2)
  if entry.1.toList.any isLineEnd || 128 < entry.1.utf8ByteSize then
    ' ' :: ' ' :: '?' :: ' ' :: (closed key ++ ' ' :: ' ' :: ':' :: ' ' :: value)
  else ' ' :: ' ' :: (key ++ ':' :: ' ' :: value)

def valueText : Value → List Char
  | .text value => ' ' :: closed (scalarText 2 value)
  | .number value => ' ' :: ((numberLayout.write value).toList ++ ['\n'])
  | .list [] => " []\n".toList
  | .list items => '\n' :: items.flatMap sequenceItem
  | .table [] => " \x7b\x7d\n".toList
  | .table entries => '\n' :: entries.flatMap tableField

/-- The text of a document. -/
def render (fields : List (String × Value)) : String :=
  String.ofList (fields.flatMap fun f => f.1.toList ++ ':' :: valueText f.2)

end LiveControl.Yaml
