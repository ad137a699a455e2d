import LiveControl.Yaml.Layout
import LiveControl.Yaml.Printer

namespace LiveControl.Yaml

/-- Where a character stands. -/
structure Pos where
  line : Nat
  column : Nat
  offset : Nat

namespace Pos

variable {p : Pos} {c : Char} {cs ds : List Char}

def next (p : Pos) (c : Char) : Pos :=
  if isBreak c then ⟨p.line + 1, 0, 0⟩ else ⟨p.line, p.column + 1, p.offset + c.utf8Size⟩

def spot (p : Pos) (c : Char) : Spot := ⟨c, p.line, p.column, p.offset⟩

/-- The characters of a text that starts here. -/
def spots (p : Pos) (cs : List Char) : List Spot := placed p.line p.column p.offset cs

/-- Where a text that starts here ends. -/
def after (p : Pos) (cs : List Char) : Pos := cs.foldl next p

@[simp] theorem spots_nil : p.spots [] = [] := rfl

theorem spots_cons : p.spots (c :: cs) = p.spot c :: (p.next c).spots cs := by
  unfold next
  split
  · rename_i ends
    simp [spots, placed, ends, spot]
  · rename_i inside
    simp [spots, placed, inside, spot]

@[simp] theorem after_nil : p.after [] = p := rfl

@[simp] theorem after_cons : p.after (c :: cs) = (p.next c).after cs := rfl

theorem after_append : p.after (cs ++ ds) = (p.after cs).after ds := List.foldl_append

theorem spots_append : p.spots (cs ++ ds) = p.spots cs ++ (p.after cs).spots ds := by
  induction cs generalizing p with
  | nil => rfl
  | cons c cs ih => rw [List.cons_append, spots_cons, ih, spots_cons, after_cons, List.cons_append]

@[simp] theorem length_spots : (p.spots cs).length = cs.length := by
  induction cs generalizing p with
  | nil => rfl
  | cons c cs ih => rw [spots_cons, List.length_cons, ih, List.length_cons]

@[simp] theorem map_char_spots : (p.spots cs).map Spot.char = cs := by
  induction cs generalizing p with
  | nil => rfl
  | cons c cs ih => rw [spots_cons, List.map_cons, ih, spot]

theorem next_inside (inside : isBreak c = false) : p.next c = ⟨p.line, p.column + 1, p.offset + c.utf8Size⟩ := by
  simp [next, inside]

theorem next_break (ends : isBreak c = true) : p.next c = ⟨p.line + 1, 0, 0⟩ := by
  simp [next, ends]

/-- How many bytes a text takes. -/
def bytes : List Char → Nat
  | [] => 0
  | c :: cs => c.utf8Size + bytes cs

theorem after_line (inside : ∀ c ∈ cs, isBreak c = false) :
    p.after cs = ⟨p.line, p.column + cs.length, p.offset + bytes cs⟩ := by
  induction cs generalizing p with
  | nil => rfl
  | cons c cs ih =>
    rw [after_cons, next_inside (inside c List.mem_cons_self), ih fun d member => inside d (List.mem_cons_of_mem _ member)]
    simp only [bytes, List.length_cons, mk.injEq, true_and]
    omega

end Pos

/-- What no token starts with: blanks, line ends and comments, which are passed over in front of it. -/
def passedOver (c : Char) : Bool := isBreak c || isBlank c || c == '#' || c == byteOrderMark

/-- A text that is used up or goes on with a token. -/
def Onward (cs : List Char) : Prop := ∀ c ∈ cs.head?, passedOver c = false

theorem isBreak_pad {indent : Nat} {c : Char} (member : c ∈ pad indent) : isBreak c = false :=
  List.eq_of_mem_replicate member ▸ rfl

theorem bytes_pad (indent : Nat) : Pos.bytes (pad indent) = indent := by
  induction indent with
  | zero => rfl
  | succ indent ih =>
    show ' '.utf8Size + Pos.bytes (pad indent) = indent + 1
    rw [ih, Nat.add_comm]
    rfl

theorem after_pad (p : Pos) (indent : Nat) : p.after (pad indent) = ⟨p.line, p.column + indent, p.offset + indent⟩ := by
  rw [Pos.after_line fun c => isBreak_pad, bytes_pad, pad, List.length_replicate]

section Skipping

variable {p : Pos} {flow keyOk : Bool} {cs : List Char}

theorem toToken_onward (onward : Onward cs) : toToken flow keyOk false (p.spots cs) = (keyOk, p.spots cs) := by
  cases cs with
  | nil => rfl
  | cons c cs =>
    have front := onward c rfl
    simp only [passedOver, Bool.or_eq_false_iff, beq_eq_false_iff_ne] at front
    obtain ⟨⟨⟨inside, blank⟩, comment⟩, mark⟩ := front
    have space : c ≠ ' ' := by
      rintro rfl
      cases blank
    have tab : c ≠ '\t' := by
      rintro rfl
      cases blank
    simp [Pos.spots_cons, toToken, Pos.spot, inside, comment, mark, space, tab]

theorem toToken_pad (onward : Onward cs) (indent : Nat) :
    toToken flow keyOk false (p.spots (pad indent ++ cs)) = (keyOk, (p.after (pad indent)).spots cs) := by
  induction indent generalizing p with
  | zero => exact toToken_onward onward
  | succ indent ih =>
    have step : toToken flow keyOk false (p.spots (' ' :: (pad indent ++ cs))) =
        toToken flow keyOk false ((p.next ' ').spots (pad indent ++ cs)) := by
      rw [Pos.spots_cons]
      rfl
    exact step.trans ih

/-- A line end and the blanks behind it are passed over, and a key may come next in a block. -/
theorem toToken_lineEnd (onward : Onward cs) (indent : Nat) :
    toToken false keyOk false (p.spots ('\n' :: (pad indent ++ cs))) =
      (true, (⟨p.line + 1, indent, indent⟩ : Pos).spots cs) := by
  have step : toToken false keyOk false (p.spots ('\n' :: (pad indent ++ cs))) =
      toToken false true false ((⟨p.line + 1, 0, 0⟩ : Pos).spots (pad indent ++ cs)) := by
    rw [Pos.spots_cons, Pos.next_break rfl, toToken, if_pos (show isBreak (p.spot '\n').char = true from rfl),
      Bool.not_false, Bool.or_true]
  rw [step, toToken_pad onward, after_pad, Nat.zero_add]

end Skipping

end LiveControl.Yaml
