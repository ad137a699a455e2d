import LiveControl.Text.HexDigit
import LiveControl.Yaml.Spot

namespace LiveControl.Yaml

/-- What lies between two words of a scalar, latest first: blanks, or line ends once a line is crossed. -/
structure Gap where
  blanks : List Char
  breaks : List Char
  crossed : Bool
  /-- Whether the first line end is folded. One behind a backslash is not even kept. -/
  folds : Bool

namespace Gap

def none : Gap := ⟨[], [], false, true⟩

/-- The gap after a line end behind a backslash. -/
def joined : Gap := ⟨[], [], true, false⟩

def isNone (g : Gap) : Bool := g.blanks.isEmpty && !g.crossed

/-- Blanks count only as long as no line is crossed. -/
def blank (g : Gap) (c : Char) : Gap := if g.crossed then g else { g with blanks := c :: g.blanks }

def lineEnd (g : Gap) (c : Char) : Gap := { g with blanks := [], breaks := c :: g.breaks, crossed := true }

/-- What a gap means before a further word, latest first. -/
def meaning (g : Gap) : List Char :=
  if !g.crossed then g.blanks
  else if !g.folds then g.breaks
  else match g.breaks.reverse with
    | ['\n'] => [' ']
    | '\n' :: more => more.reverse
    | all => all.reverse

end Gap

def isFlowIndicator (c : Char) : Bool := [',', '[', ']', '\x7b', '\x7d'].contains c

/-- Whether a plain scalar can start here. Of the characters that indicate something else, a minus can
start one before a word, in a block also a question mark and a colon. -/
def startsPlain (flow : Bool) : List Spot → Bool
  | [] => false
  | s :: rest =>
    if s.char = '-' then !atGap rest
    else if s.char = '?' || s.char = ':' then !flow && !atGap rest
    else
      !(isBlank s.char || isBreak s.char || isFlowIndicator s.char ||
        ['#', '&', '*', '!', '|', '>', '\x27', '\x22', '%', '@', '\x60'].contains s.char)

/-- Whether the word of a plain scalar ends before this character. -/
def endsPlain (flow : Bool) (s : Spot) (rest : List Spot) : Bool :=
  (s.char == ':' && atGap rest) || (flow && isFlowIndicator s.char)

/-- Whether a colon stands where it is neither text nor an indicator. -/
def strayColon (flow : Bool) (s : Spot) (rest : List Spot) : Bool :=
  flow && s.char == ':' && match rest with
    | t :: _ => t.char == '?' || isFlowIndicator t.char
    | [] => false

/-- Whether a plain scalar ends after a gap: at a marker, a comment or, in a block, at a line that is
indented too little. -/
def endsAfterGap (flow : Bool) (floor : Nat) (s : Spot) (rest : List Spot) : Bool :=
  (!flow && decide (s.column < floor)) || atBoundary (s :: rest) || s.char == '#'

/-- Reads a plain scalar, whose text so far is held latest first; `floor` is the least column of its
further lines. Also answers whether its end is on a new line. A tab may not indent. -/
def plainFrom (flow : Bool) (floor : Nat) (text : List Char) (gap : Gap) :
    List Spot → Option (List Char × Bool × List Spot)
  | [] => some (text.reverse, gap.crossed, [])
  | s :: rest =>
    if isBreak s.char then plainFrom flow floor text (gap.lineEnd s.char) rest
    else if isBlank s.char then
      if gap.crossed && s.char = '\t' && s.column < floor then none
      else plainFrom flow floor text (gap.blank s.char) rest
    else if !gap.isNone && endsAfterGap flow floor s rest then some (text.reverse, gap.crossed, s :: rest)
    else if strayColon flow s rest then none
    else if endsPlain flow s rest then some (text.reverse, gap.crossed, s :: rest)
    else plainFrom flow floor (s.char :: (gap.meaning ++ text)) .none rest

/-- The character that a letter behind a backslash stands for. -/
def escape? (c : Char) : Option Char :=
  let code? : Option Nat := match c with
    | '0' => some 0x00
    | 'a' => some 0x07
    | 'b' => some 0x08
    | 't' | '\t' => some 0x09
    | 'n' => some 0x0A
    | 'v' => some 0x0B
    | 'f' => some 0x0C
    | 'r' => some 0x0D
    | 'e' => some 0x1B
    | ' ' => some 0x20
    | '\x22' => some 0x22
    | '/' => some 0x2F
    | '\\' => some 0x5C
    | 'N' => some 0x85
    | '_' => some 0xA0
    | 'L' => some 0x2028
    | 'P' => some 0x2029
    | _ => none
  code?.map Char.ofNat

/-- How many hexadecimal digits follow a letter behind a backslash. -/
def escapeDigits? : Char → Option Nat
  | 'x' => some 2
  | 'u' => some 4
  | 'U' => some 8
  | _ => none

/-- The character with a code, if there is one. -/
def coded? (n : Nat) : Option Char := if n.isValidChar then some (Char.ofNat n) else none

/-- Where the reading of a quoted scalar stands: in its text after a gap, perhaps an empty one, behind
a backslash, or among hexadecimal digits. -/
inductive QuotePlace where
  | text (gap : Gap)
  | escape
  | code (value left : Nat)

/-- Reads a quoted scalar behind its opening quote; its text so far is held latest first. No marker
between documents may start a line of it. -/
def quotedFrom (double : Bool) (text : List Char) : QuotePlace → List Spot → Option (List Char × List Spot)
  | _, [] => none
  | .text gap, s :: rest =>
    if isBreak s.char then quotedFrom double text (.text (gap.lineEnd s.char)) rest
    else if isBlank s.char then quotedFrom double text (.text (gap.blank s.char)) rest
    else if atBoundary (s :: rest) then none
    else
      let text := gap.meaning ++ text
      if double then
        if s.char = '\x22' then some (text.reverse, rest)
        else if s.char = '\\' then quotedFrom double text .escape rest
        else quotedFrom double (s.char :: text) (.text .none) rest
      else if s.char = '\x27' then
        match rest with
        | t :: more =>
          if t.char = '\x27' then quotedFrom double ('\x27' :: text) (.text .none) more
          else some (text.reverse, t :: more)
        | [] => some (text.reverse, [])
      else quotedFrom double (s.char :: text) (.text .none) rest
  | .escape, s :: rest =>
    if isBreak s.char then quotedFrom double text (.text .joined) rest
    else match escapeDigits? s.char with
      | some count => quotedFrom double text (.code 0 count) rest
      | none =>
        match escape? s.char with
        | some c => quotedFrom double (c :: text) (.text .none) rest
        | none => none
  | .code value left, s :: rest =>
    match Text.hexValue? s.char with
    | none => none
    | some digit =>
      let value := value * 16 + digit
      if left ≤ 1 then
        match coded? value with
        | some c => quotedFrom double (c :: text) (.text .none) rest
        | none => none
      else quotedFrom double text (.code value (left - 1)) rest

theorem quotedFrom_lineEnd {double : Bool} {text : List Char} {gap : Gap} {s : Spot} {rest : List Spot}
    (ends : isBreak s.char = true) :
    quotedFrom double text (.text gap) (s :: rest) = quotedFrom double text (.text (gap.lineEnd s.char)) rest := by
  rw [quotedFrom, if_pos ends]

end LiveControl.Yaml
