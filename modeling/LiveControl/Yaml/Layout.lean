import LiveControl.Yaml.BlockText
import LiveControl.Yaml.FoldedText
import LiveControl.Yaml.Property

/-!
From characters to tokens. Columns open and close block collections; within flow collections they mean
nothing. A key is found out by the colon behind it: where one may start, a candidate is kept until the
colon comes or another candidate takes its place. A colon on another line, or too far away, finds none.
-/

namespace LiveControl.Yaml

/-- How many bytes from the start of a key its colon may stand. -/
def keyReach : Nat := 1024

/-- Where a key may have started. -/
structure Candidate where
  start : Spot
  /-- How many tokens come before it. -/
  position : Nat
  /-- Whether only a key can stand there: in a block mapping, in the column of its keys. -/
  required : Bool

namespace Candidate

/-- Whether a colon at a place is too far away. -/
def isLate (c : Candidate) (place : Spot) : Bool :=
  c.start.line < place.line || c.start.offset + keyReach < place.offset

end Candidate

/-- A text on its way to tokens. -/
structure Layout where
  rest : List Spot
  /-- Whether a key may come next. -/
  keyOk : Bool
  /-- The tokens so far, latest first. -/
  tokens : List Token
  /-- How many tokens there are. -/
  count : Nat
  /-- The columns of the open block collections, innermost first. -/
  columns : List Nat
  candidate : Option Candidate
  /-- The candidates around each open flow collection, innermost first. -/
  outer : List (Option Candidate)

namespace Layout

def start (spots : List Spot) : Layout := ⟨spots, true, [], 0, [], none, []⟩

def isFlow (l : Layout) : Bool := !l.outer.isEmpty

/-- The least column at which something belongs to the innermost block collection's entry. -/
def floor (l : Layout) : Nat :=
  match l.columns with
  | [] => 0
  | column :: _ => column + 1

/-- Takes up a token, with what is left behind it and whether a key may come there. -/
def take (l : Layout) (token : Token) (keyOk : Bool) (rest : List Spot) : Layout :=
  { l with rest, keyOk, tokens := token :: l.tokens, count := l.count + 1 }

/-- Puts a token in behind the first `position` ones. -/
def insertAt (l : Layout) (position : Nat) (token : Token) : Layout :=
  let behind := l.count - position
  { l with tokens := l.tokens.take behind ++ token :: l.tokens.drop behind, count := l.count + 1 }

/-- Opens a block collection at a column behind the first `position` tokens, unless one is open there. -/
def openAt (l : Layout) (column position : Nat) (token : Token) : Layout :=
  if l.isFlow || column < l.floor then l
  else { l with columns := column :: l.columns }.insertAt position token

/-- Closes the innermost block collections as long as their columns satisfy `p`. -/
def closeWhile (l : Layout) (p : Nat → Bool) : Layout :=
  if l.isFlow then l
  else
    let ended := l.columns.takeWhile p
    { l with
      columns := l.columns.dropWhile p
      tokens := ended.map (fun _ => Token.blockEnd) ++ l.tokens
      count := l.count + ended.length }

def closeAll (l : Layout) : Layout := l.closeWhile fun _ => true

/-- Gives the candidate up, unless it is required. -/
def forget (l : Layout) : Option Layout :=
  if l.candidate.any Candidate.required then none else some { l with candidate := none }

/-- Notes that a key may start at a place. -/
def note (l : Layout) (place : Spot) : Option Layout :=
  if l.keyOk then do
    let l ← l.forget
    let required := !l.isFlow && l.floor == place.column + 1
    some { l with candidate := some ⟨place, l.count, required⟩ }
  else some l

/-- A colon: behind a key that it gives away, or as the start of a value on its own. -/
def colon (l : Layout) (place : Spot) (after : List Spot) : Option Layout :=
  match l.candidate.filter fun c => !c.isLate place with
  | some c =>
    let l := { l with candidate := none }.insertAt c.position .key
    some ((l.openAt c.start.column c.position .blockMap).take .value false after)
  | none => do
    let l ← l.forget
    if l.isFlow then some (l.take .value false after)
    else if l.keyOk then some ((l.openAt place.column l.count .blockMap).take .value true after)
    else none

/-- A token on lines of its own between documents. -/
def boundary (l : Layout) (token : Token) (rest : List Spot) : Option Layout := do
  some ((← l.closeAll.forget).take token false rest)

/-- A minus or a question mark in front of an entry, which in a block may open its collection. -/
def indicator (l : Layout) (opening token : Token) (keyOk : Bool) (place : Spot) (after : List Spot) :
    Option Layout := do
  if !l.isFlow && !l.keyOk then none
  let l ← (l.openAt place.column l.count opening).forget
  some (l.take token keyOk after)

def openFlow (l : Layout) (token : Token) (place : Spot) (after : List Spot) : Option Layout := do
  let l ← l.note place
  some ({ l with candidate := none, outer := l.candidate :: l.outer }.take token true after)

/-- A closing bracket. One too many closes nothing. -/
def closeFlow (l : Layout) (token : Token) (after : List Spot) : Option Layout := do
  let l ← l.forget
  let l := match l.outer with
    | [] => l
    | candidate :: outer => { l with candidate, outer }
  some (l.take token false after)

/-- A name behind its indicator. -/
def named (l : Layout) (token : String → Token) (place : Spot) (after : List Spot) : Option Layout := do
  let l ← l.note place
  let (name, rest) ← anchorName? after
  some (l.take (token name) false rest)

def tagged (l : Layout) (place : Spot) (after : List Spot) : Option Layout := do
  let l ← l.note place
  let (tag, rest) ← tag? l.isFlow (place :: after)
  some (l.take tag false rest)

def blockText (l : Layout) (folds : Bool) (after : List Spot) : Option Layout := do
  let l ← l.forget
  let (text, rest) ← blockText? folds l.floor after
  some (l.take (.scalar (if folds then .folded else .literal) text) true rest)

def quoted (l : Layout) (double : Bool) (place : Spot) (after : List Spot) : Option Layout := do
  let l ← l.note place
  let (text, rest) ← quotedFrom double [] (.text .none) after
  some (l.take (.scalar .quoted (String.ofList text)) false rest)

def plain (l : Layout) (place : Spot) (after : List Spot) : Option Layout := do
  let l ← l.note place
  let (text, crossed, rest) ← plainFrom l.isFlow l.floor [] .none (place :: after)
  some (l.take (.scalar .plain (String.ofList text)) crossed rest)

/-- Takes up the token that starts at a place within a document. -/
def inner (l : Layout) (place : Spot) (after : List Spot) : Option Layout :=
  let gapAfter := atGap after
  match place.char with
  | '[' => l.openFlow .openSeq place after
  | '\x7b' => l.openFlow .openMap place after
  | ']' => l.closeFlow .closeSeq after
  | '\x7d' => l.closeFlow .closeMap after
  | ',' => l.forget.map fun l => l.take .comma true after
  | '&' => l.named .anchor place after
  | '*' => l.named .alias place after
  | '!' => l.tagged place after
  | '\x22' => l.quoted true place after
  | '\x27' => l.quoted false place after
  | c =>
    if c = '-' && gapAfter then l.indicator .blockSeq .item true place after
    else if c = '?' && (l.isFlow || gapAfter) then l.indicator .blockMap .key (!l.isFlow) place after
    else if c = ':' && (l.isFlow || gapAfter) then l.colon place after
    else if (c = '|' || c = '>') && !l.isFlow then l.blockText (c = '>') after
    else if startsPlain l.isFlow (place :: after) then l.plain place after
    else none

/-- Takes up the token that starts at a place. -/
def token (l : Layout) (place : Spot) (after : List Spot) : Option Layout :=
  let spots := place :: after
  if place.column = 0 && place.char = '%' then do
    let (d, rest) ← directive? after
    l.boundary (.directive d) rest
  else if atMarker '-' spots then l.boundary .documentStart (spots.drop 3)
  else if atMarker '.' spots then l.boundary .documentEnd (spots.drop 3)
  else l.inner place after

/-- All tokens of a text, at most as many as there is fuel. -/
def tokensWith : Nat → Layout → Option (List Token)
  | 0, _ => none
  | fuel + 1, l =>
    let (keyOk, rest) := toToken l.isFlow l.keyOk false l.rest
    let l := { l with keyOk, rest }
    match rest with
    | [] => l.closeAll.forget.map fun l => l.tokens.reverse
    | place :: after => do
      let l := l.closeWhile fun column => place.column < column
      tokensWith fuel (← l.token place after)

end Layout

/-- The tokens of a text, unless one is not well formed. -/
def tokens? (text : String) : Option (List Token) := do
  let spots ← spots? text
  (Layout.start spots).tokensWith (spots.length + 1)

end LiveControl.Yaml
