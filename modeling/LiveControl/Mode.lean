import LiveControl.Json.Decode
import LiveControl.Text.AsciiCase
import LiveControl.Text.Blank
import LiveControl.Fault

namespace LiveControl

/-- What the process is currently doing. `unknown` means that detection has no answer; it is not a
mode of its own, so it gates nothing and satisfies no gate. -/
inductive Mode where
  | unknown
  | menu
  | galactic
  | tactical
  deriving DecidableEq, Repr, Inhabited

namespace Mode

def text : Mode → String
  | .unknown => "unknown"
  | .menu => "menu"
  | .galactic => "galactic"
  | .tactical => "tactical"

instance : Vocabulary Mode := ⟨[.unknown, .menu, .galactic, .tactical], text⟩

instance : ToString Mode := ⟨text⟩

def isKnown (m : Mode) : Bool := m ≠ .unknown

/-- The mode that a person's spelling means. The two kinds of battle are both tactical. -/
def read (s : String) : Except Fault Mode :=
  match Text.asciiLower (Text.trim s) with
  | "" | "unknown" => .ok .unknown
  | "menu" => .ok .menu
  | "galactic" => .ok .galactic
  | "tactical" | "land" | "space" => .ok .tactical
  | _ => .error (.invalidMode s)

end Mode
end LiveControl
