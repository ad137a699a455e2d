import LiveControl.Json.Basic
import LiveControl.Decimal.Reading
import LiveControl.Text.HexDigit

/-!
Reading documents. Two machines run one behind the other over the characters of a text: the first
collects tokens, the second builds the value. Both take one step per character or token, so reading
a text is a fold, and a text is refused by the first step that has no successor.
-/

namespace LiveControl.Json

/-- Takes a number apart behind its minus, if it has one: digits without a leading zero, and optionally a
point with digits and an exponent with digits. -/
def unsigned? (negative : Bool) (cs : List Char) : Option Decimal.Written := do
  let whole := cs.takeWhile Decimal.isDigit
  let cs := cs.dropWhile Decimal.isDigit
  if whole.isEmpty || (whole.length > 1 && whole.head? == some '0') then none
  let (point, fraction, cs) := match cs with
    | '.' :: rest => (true, rest.takeWhile Decimal.isDigit, rest.dropWhile Decimal.isDigit)
    | _ => (false, [], cs)
  if point && fraction.isEmpty then none
  let (power, cs) := match cs with
    | 'e' :: rest | 'E' :: rest => (true, rest)
    | _ => (false, cs)
  let (down, cs) := match power, cs with
    | true, '+' :: rest => (false, rest)
    | true, '-' :: rest => (true, rest)
    | _, _ => (false, cs)
  let digits := cs.takeWhile Decimal.isDigit
  if power != !digits.isEmpty || !(cs.dropWhile Decimal.isDigit).isEmpty then none
  let size : Int := Decimal.natOf digits
  some ⟨negative, whole, fraction, if down then -size else size, point, power⟩

/-- Takes a number apart, perhaps with a minus in front. -/
def written? : List Char → Option Decimal.Written
  | '-' :: rest => unsigned? true rest
  | cs => unsigned? false cs

/-- A whole number if it is written as one and fits 64 bits, with or without sign; else a double. -/
def number (w : Decimal.Written) : Option Json :=
  let n := Decimal.natOf w.whole
  if w.point || w.power then (Decimal.scaled? w).map .float
  else if w.negative then
    if 0 < n ∧ Int64.minValue.toInt ≤ -n then some (.int (-n)) else (Decimal.scaled? w).map .float
  else if n < UInt64.size then some (.int n)
  else (Decimal.scaled? w).map .float

/-- What is written as a bare word: its value, which a number out of range does not have. -/
def word? (cs : List Char) : Option (Option Json) :=
  if cs = "null".toList then some (some .null)
  else if cs = "true".toList then some (some (.bool true))
  else if cs = "false".toList then some (some (.bool false))
  else (written? cs).map number

inductive Token where
  | openArr
  | closeArr
  | openObj
  | closeObj
  | comma
  | colon
  /-- A text between quotes. One with half a character in it has no value. -/
  | text (value : Option String)
  | word (value : Option Json)

/-- The fields of an object in which a key may lack its value. -/
abbrev LooseFields := List (Option String × Json)

/-- A container that is still open, with what it holds so far, latest first. An object is either
between fields or at the value of one. -/
inductive Frame where
  | arr (items : List Json)
  | obj (fields : LooseFields)
  | field (fields : LooseFields) (key : Option String)

/-- What may come next; `rest` carries the value that was just completed. -/
inductive Expect where
  | value
  | valueOrEnd
  | key
  | keyOrEnd
  | colon
  | rest (value : Json)

/-- The open containers, innermost first, and what may come next. -/
structure Builder where
  frames : List Frame
  expect : Expect

/-- How deep containers may be nested. -/
def depthLimit : Nat := 127

/-- How a document is read. -/
inductive Keeping where
  /-- Everything must have a value, and containers may be nested up to the limit. The fields of an
  object are put in ascending order, and of fields with one name the last is kept. -/
  | asBag
  /-- The fields of an object are kept as they are written, and what has no value is let pass, since it
  may stand where nobody looks. -/
  | asWritten

/-- What stands for a text or a number that has no value. No type of document has this form. -/
def unreadable : Json := .arr [.arr []]

namespace Keeping

/-- What is kept of a text or of a bare word. -/
def leaf? : Keeping → Option Json → Option Json
  | _, some value => some value
  | .asBag, none => none
  | .asWritten, none => some unreadable

/-- What is kept of an object. -/
def object? (keeping : Keeping) (fields : LooseFields) : Option Json :=
  match keeping, fields.mapM fun f => f.1.map fun key => (key, f.2) with
  | .asBag, some fields => some (.object fields)
  | .asWritten, some fields => some (.obj fields)
  | .asBag, none => none
  | .asWritten, none => some unreadable

def allows (depth : Nat) : Keeping → Bool
  | .asBag => depth < depthLimit
  | .asWritten => true

end Keeping

namespace Builder

def start : Builder := ⟨[], .value⟩

/-- One container more, unless there are too many. -/
def enter (keeping : Keeping) (frames : List Frame) (frame : Frame) (expect : Expect) : Option Builder :=
  if keeping.allows frames.length then some ⟨frame :: frames, expect⟩ else none

/-- The builder behind a value. -/
def behind (frames : List Frame) (value : Option Json) : Option Builder :=
  value.map fun v => ⟨frames, .rest v⟩

def step (keeping : Keeping) (b : Builder) (token : Token) : Option Builder :=
  match token, b.expect, b.frames with
  | .openArr, .value, frames | .openArr, .valueOrEnd, frames =>
    enter keeping frames (.arr []) .valueOrEnd
  | .openObj, .value, frames | .openObj, .valueOrEnd, frames => enter keeping frames (.obj []) .keyOrEnd
  | .word v, .value, frames | .word v, .valueOrEnd, frames => behind frames (keeping.leaf? v)
  | .text v, .value, frames | .text v, .valueOrEnd, frames => behind frames (keeping.leaf? (v.map .str))
  | .text k, .key, .obj fields :: frames | .text k, .keyOrEnd, .obj fields :: frames =>
    some ⟨.field fields k :: frames, .colon⟩
  | .colon, .colon, frames => some ⟨frames, .value⟩
  | .comma, .rest v, .arr items :: frames => some ⟨.arr (v :: items) :: frames, .value⟩
  | .comma, .rest v, .field fields k :: frames => some ⟨.obj ((k, v) :: fields) :: frames, .key⟩
  | .closeArr, .valueOrEnd, .arr _ :: frames => some ⟨frames, .rest (.arr [])⟩
  | .closeArr, .rest v, .arr items :: frames => some ⟨frames, .rest (.arr (v :: items).reverse)⟩
  | .closeObj, .keyOrEnd, .obj _ :: frames => some ⟨frames, .rest (.obj [])⟩
  | .closeObj, .rest v, .field fields k :: frames =>
    behind frames (keeping.object? ((k, v) :: fields).reverse)
  | _, _, _ => none

/-- The value, once no container is open any more. -/
def result? (b : Builder) : Option Json :=
  match b.frames, b.expect with
  | [], .rest v => some v
  | _, _ => none

end Builder

/-- The characters of a text so far, latest first; none once half a character is among them. -/
abbrev Letters := Option (List Char)

/-- Where the reading of characters stands. -/
inductive Place where
  | between
  | word (letters : List Char)
  | text (letters : Letters)
  | escape (letters : Letters)
  /-- Within the hexadecimal digits of an escaped character, after the high half of a pair if any. -/
  | unit (letters : Letters) (high : Option Nat) (value : Nat) (left : Nat)
  /-- After the high half of a pair, whose low half should follow as an escape. -/
  | pair (letters : Letters) (high : Nat) (backslash : Bool)

structure Reader where
  place : Place
  builder : Builder

/-- The character that a short escape stands for. -/
def shortEscape? (c : Char) : Option Char :=
  match c.toNat with
  | 0x22 => some '\x22'
  | 0x5C => some '\\'
  | 0x2F => some '/'
  | 0x62 => some (Char.ofNat 8)
  | 0x66 => some (Char.ofNat 12)
  | 0x6E => some (Char.ofNat 10)
  | 0x72 => some (Char.ofNat 13)
  | 0x74 => some (Char.ofNat 9)
  | _ => none

/-- Where reading goes on after four hexadecimal digits: a half of a pair needs its other half. -/
def afterUnit (letters : Letters) (high : Option Nat) (n : Nat) : Place :=
  match high with
  | none =>
    if 0xD800 ≤ n ∧ n ≤ 0xDBFF then .pair letters n false
    else if 0xDC00 ≤ n ∧ n ≤ 0xDFFF then .text none
    else .text (letters.map (Char.ofNat n :: ·))
  | some h =>
    if 0xDC00 ≤ n ∧ n ≤ 0xDFFF then
      .text (letters.map (Char.ofNat (0x10000 + (h - 0xD800) * 0x400 + (n - 0xDC00)) :: ·))
    else .text none

namespace Reader

def start : Reader := ⟨.between, .start⟩

def emit (keeping : Keeping) (b : Builder) (token : Token) (place : Place) : Option Reader :=
  (b.step keeping token).map fun b => ⟨place, b⟩

/-- One character between tokens. -/
def outside (keeping : Keeping) (b : Builder) (c : Char) : Option Reader :=
  match c.toNat with
  | 0x20 | 0x09 | 0x0A | 0x0D => some ⟨.between, b⟩
  | 0x22 => some ⟨.text (some []), b⟩
  | 0x5B => emit keeping b .openArr .between
  | 0x5D => emit keeping b .closeArr .between
  | 0x7B => emit keeping b .openObj .between
  | 0x7D => emit keeping b .closeObj .between
  | 0x2C => emit keeping b .comma .between
  | 0x3A => emit keeping b .colon .between
  | _ => some ⟨.word [c], b⟩

/-- Whether a character ends a bare word. -/
def endsWord (c : Char) : Bool :=
  [0x20, 0x09, 0x0A, 0x0D, 0x22, 0x5B, 0x5D, 0x7B, 0x7D, 0x2C, 0x3A].contains c.toNat

def endWord (keeping : Keeping) (b : Builder) (letters : List Char) : Option Builder := do
  let value ← word? letters.reverse
  b.step keeping (.word value)

/-- One character of a text. -/
def within (keeping : Keeping) (b : Builder) (letters : Letters) (c : Char) : Option Reader :=
  if c.toNat = 0x22 then
    emit keeping b (.text (letters.map fun cs => String.ofList cs.reverse)) .between
  else if c.toNat = 0x5C then some ⟨.escape letters, b⟩
  else if c.toNat < 0x20 then none
  else some ⟨.text (letters.map (c :: ·)), b⟩

/-- One character behind a backslash. -/
def escaping (b : Builder) (letters : Letters) (c : Char) : Option Reader :=
  if c = 'u' then some ⟨.unit letters none 0 4, b⟩
  else (shortEscape? c).map fun d => ⟨.text (letters.map (d :: ·)), b⟩

def step (keeping : Keeping) (r : Reader) (c : Char) : Option Reader :=
  let b := r.builder
  match r.place with
  | .between => outside keeping b c
  | .word letters =>
    if endsWord c then endWord keeping b letters >>= fun b => outside keeping b c
    else some ⟨.word (c :: letters), b⟩
  | .text letters => within keeping b letters c
  | .escape letters => escaping b letters c
  | .unit letters high value left => do
    let d ← Text.hexValue? c
    let n := value * 16 + d
    some ⟨if left ≤ 1 then afterUnit letters high n else .unit letters high n (left - 1), b⟩
  | .pair letters high true =>
    if c = 'u' then some ⟨.unit letters (some high) 0 4, b⟩ else escaping b none c
  | .pair letters high false =>
    if c.toNat = 0x5C then some ⟨.pair letters high true, b⟩ else within keeping b none c

/-- The value read, if the text may end here. -/
def finish (keeping : Keeping) (r : Reader) : Option Json :=
  match r.place with
  | .between => r.builder.result?
  | .word letters => endWord keeping r.builder letters >>= Builder.result?
  | _ => none

end Reader

/-- The value that a text writes, if it writes one and nothing else. -/
def parseKeeping (keeping : Keeping) (text : String) : Option Json :=
  text.toList.foldlM (Reader.step keeping) Reader.start >>= Reader.finish keeping

/-- The value of a document; its objects are bags. -/
def parse? (text : String) : Option Json := parseKeeping .asBag text

/-- The value of a document with the fields of objects as they are written. What has no value in it is
left to whoever looks for one there. -/
def parseRaw? (text : String) : Option Json := parseKeeping .asWritten text

end LiveControl.Json
