import LiveControl.Yaml.Spot

/-!
Scalars written as an indented block of lines: literal ones keep their line ends, folded ones fold
those between two lines that do not start with a blank. A header gives the indentation, unless the
first line shows it, and says what becomes of the line ends at the end.
-/

namespace LiveControl.Yaml

/-- What becomes of the line ends behind the last line: one is kept, none, or all. -/
inductive Chomp where
  | clip
  | strip
  | keep
  deriving DecidableEq, Repr

structure BlockHeader where
  chomp : Chomp
  /-- The indentation relative to the surrounding block. -/
  indent : Option Nat

def chomp? (c : Char) : Option Chomp :=
  if c = '+' then some .keep else if c = '-' then some .strip else none

def indentDigit? (c : Char) : Option Nat :=
  if '1' ≤ c ∧ c ≤ '9' then some (c.toNat - 48) else none

/-- Takes the header up, in either order of its two parts, and the rest of its line, which may hold a
comment. What is no part of the header may not follow it. -/
def blockHeader? (spots : List Spot) : Option (BlockHeader × List Spot) :=
  let (early, spots) := match spots with
    | s :: rest => match chomp? s.char with
      | some c => (some c, rest)
      | none => (none, spots)
    | [] => (none, spots)
  let (indent, spots) := match spots with
    | s :: rest => match indentDigit? s.char with
      | some n => (some n, rest)
      | none => (none, spots)
    | [] => (none, spots)
  let (late, spots) := match early, indent, spots with
    | none, some _, s :: rest => match chomp? s.char with
      | some c => (some c, rest)
      | none => (none, spots)
    | _, _, _ => (none, spots)
  let spots := spots.dropWhile fun s => isBlank s.char
  let spots := if startsWith '#' spots then spots.dropWhile fun s => !isBreak s.char else spots
  let header : BlockHeader := ⟨(early.or late).getD .clip, indent⟩
  match spots with
  | [] => some (header, [])
  | s :: rest => if isBreak s.char then some (header, rest) else none

/-- The lines of a text, each with its end. -/
def linesOf : List Spot → List (List Spot)
  | [] => []
  | s :: rest =>
    if isBreak s.char then [s] :: linesOf rest
    else match linesOf rest with
      | [] => [[s]]
      | first :: others => (s :: first) :: others

/-- How many blanks, at most `limit`, a line starts with. -/
def leadingSpaces (limit : Nat) (line : List Spot) : Nat :=
  ((line.take limit).takeWhile fun s => s.char == ' ').length

/-- The indentation that the first lines show: that of the first line with text, but not less than
that of the empty lines before it and not less than `least`. A tab may not take part. -/
def shownIndent? (least : Nat) : List (List Spot) → Option Nat
  | [] => some least
  | line :: more =>
    let spaces := leadingSpaces line.length line
    match line.drop spaces with
    | [] => some (max spaces least)
    | s :: _ =>
      if s.char = '\t' then none
      else if isBreak s.char then shownIndent? (max spaces least) more
      else some (max spaces least)

/-- A block text as it grows, latest first: its text up to the last line with text, the end of that
line, the ends of the empty lines after it, and whether that line starts with a blank. -/
structure BlockBody where
  text : List Char
  lastEnd : List Char
  emptyEnds : List Char
  startsBlank : Bool

namespace BlockBody

/-- A further line with text, given without its indentation. -/
def line (b : BlockBody) (folds : Bool) (content : List Spot) : BlockBody :=
  let chars := content.map Spot.char
  let words := chars.filter fun c => !isBreak c
  let blank := match chars with
    | c :: _ => isBlank c
    | [] => false
  let lead :=
    if folds && b.lastEnd == ['\n'] && !b.startsBlank && !blank then
      if b.emptyEnds.isEmpty then ' ' :: b.text else b.text
    else b.lastEnd ++ b.text
  ⟨words.reverse ++ (b.emptyEnds ++ lead), chars.filter isBreak, [], blank⟩

def result (b : BlockBody) : Chomp → List Char
  | .strip => b.text.reverse
  | .clip => (b.lastEnd ++ b.text).reverse
  | .keep => (b.emptyEnds ++ (b.lastEnd ++ b.text)).reverse

end BlockBody

/-- Takes lines up as long as they are empty or indented by `indent`. -/
def blockBody? (folds : Bool) (indent : Nat) (b : BlockBody) :
    List (List Spot) → Option (BlockBody × List (List Spot))
  | [] => some (b, [])
  | line :: more =>
    let spaces := leadingSpaces indent line
    match line.drop spaces with
    | [] => some (b, line :: more)
    | s :: rest =>
      if isBreak s.char then blockBody? folds indent { b with emptyEnds := s.char :: b.emptyEnds } more
      else if spaces < indent then if s.char = '\t' then none else some (b, line :: more)
      else blockBody? folds indent (b.line folds (s :: rest)) more

/-- Reads a block text behind its indicator. `floor` is the least column of the surrounding block's
content. -/
def blockText? (folds : Bool) (floor : Nat) (spots : List Spot) : Option (String × List Spot) := do
  let (header, spots) ← blockHeader? spots
  let lines := linesOf spots
  let indent ← match header.indent with
    | some n => some (floor - 1 + n)
    | none => shownIndent? (max floor 1) lines
  let (body, others) ← blockBody? folds indent ⟨[], [], [], false⟩ lines
  some (String.ofList (body.result header.chomp), others.flatten)

end LiveControl.Yaml
