import LiveControl.CommandLine.Grammar
import LiveControl.Text.Blank
import LiveControl.Text.ControlSequence

/-!
The help of a command: what it is for, how it is written, and its commands and options. What is said of
an option stands beside it, or below it if options are long and the room beside them is scarce. It is
written to something that is no terminal, so no control sequence is left in it, also of those that come
from the environment.
-/

namespace LiveControl.CommandLine

def pageWidth : Nat := 100

/-- The column of what is said below an option. -/
def noteColumn : Nat := 10

def blanks (count : Nat) : String := String.ofList (List.replicate count ' ')

/-- A cell that starts at a column, as do its further lines. -/
def hanging (column : Nat) (cell : String) : String :=
  String.intercalate ("\n" ++ blanks column) ((Text.pieces '\n' cell.toList).map String.ofList)

/-- A text that a terminal sets off. -/
def bold (s : String) : String := "\x1B[1m" ++ s ++ "\x1B[0m"

/-- A listed thing: its name as it is measured and as it is written, and what is said of it. -/
structure Row where
  name : String
  written : String
  note : String

/-- Two columns, the first as wide as its widest name. -/
def twoColumns (rows : List Row) : List String :=
  let width := rows.foldl (fun w r => max w r.name.length) 0
  rows.map fun r =>
    "  " ++ r.written ++ blanks (width - r.name.length) ++ "  " ++ hanging (width + 4) r.note

/-- Each note below its name. -/
def twoLines (rows : List Row) : List String :=
  rows.flatMap fun r => ["  " ++ r.written, blanks noteColumn ++ hanging noteColumn r.note]

namespace Setting

/-- How an option is written, with `mark` around the words that are written as they stand. -/
def spelled (s : Setting) (mark : String → String) : String :=
  mark ("--" ++ s.long) ++ match s.value with
    | some value => " <" ++ value ++ ">"
    | none => ""

def spelling (s : Setting) : String := s.spelled id

/-- How an option is listed: behind its short form or the space for it. -/
def listing (s : Setting) (mark : String → String) : String :=
  (match s.short with
    | some c => mark ("-" ++ c.toString) ++ ", "
    | none => "    ") ++ s.spelled mark

/-- What is said of an option, with the environment variable behind it and its value. -/
def note (env : String → Option String) (s : Setting) : String :=
  match s.envName with
  | some name => s.about ++ " [env: " ++ name ++ "=" ++ (env name).getD "" ++ "]"
  | none => s.about

/-- Options at the same place are listed by their short forms, or by their names if they have none. -/
def sortKey (s : Setting) : String :=
  match s.short with
  | some c => String.ofList [c.toLower, if c.isLower then '0' else '1']
  | none => s.long

end Setting

/-- Options with their places, in order. -/
def inPlaces (settings : List Setting) : List (Nat × Setting) := settings.zipIdx.map fun s => (s.2, s.1)

/-- The options of a command in the order in which they are listed: its own and the shared ones by the
places that they have among their like, help and version behind them. -/
def listedSettings (g : Grammar) (isProgram : Bool) : List Setting :=
  let shared := if isProgram then [] else sharedSettings
  let sorted := (inPlaces g.settings ++ inPlaces shared).mergeSort fun a b =>
    a.1 < b.1 || (a.1 == b.1 && decide (a.2.sortKey ≤ b.2.sortKey))
  sorted.map Prod.snd ++ [helpFlag, versionFlag]

/-- Whether the longest option takes more than two fifths of the page and what is said of some option
does not fit into the rest. -/
def isCrowded (env : String → Option String) (settings : List Setting) : Bool :=
  let taken := settings.foldl (fun w s => max w s.spelling.length) 0 + 12
  taken ≤ pageWidth && 2 * pageWidth < 5 * taken &&
    settings.any fun s => pageWidth - taken < (s.note env).length

def optionLines (env : String → Option String) (settings : List Setting) : List String :=
  let rows := settings.map fun s => Row.mk (s.listing id) (s.listing bold) (s.note env)
  if isCrowded env settings then twoLines rows else twoColumns rows

def aboutHelp : String := "Print this message or the help of the given subcommand(s)"

/-- A named thing in a list. -/
def namedRow (name note : String) : Row := ⟨name, bold name, note⟩

/-- The help of a command that is reached by `path`. A sequence that a value leaves open ends where the
next name is set off. -/
def helpText (env : String → Option String) (path : List String) (g : Grammar) : String :=
  let isProgram := path.length ≤ 1
  let usage := String.intercalate " " (path ++ ["[OPTIONS]"] ++
    ((g.settings.filter Setting.required).map Setting.spelling) ++
    (if g.commands.isEmpty then [] else ["<COMMAND>"]))
  let commands := if g.commands.isEmpty then []
    else ["Commands:"] ++
      twoColumns ((g.commands.map fun c => namedRow c.name c.about) ++ [namedRow "help" aboutHelp]) ++ [""]
  let options := "Options:" :: optionLines env (listedSettings g isProgram)
  Text.ControlSequence.strip
    (String.intercalate "\n" ([g.about, "", "Usage: " ++ usage, ""] ++ commands ++ options) ++ "\n")

/-- The help of asking for help, behind a command that is reached by `path`. -/
def helpOfHelp (path : List String) : String :=
  Text.ControlSequence.strip (String.intercalate "\n" ([
    aboutHelp, "", "Usage: " ++ String.intercalate " " (path ++ ["help", "[COMMAND]..."]), "",
    "Arguments:"] ++ twoColumns [namedRow "[COMMAND]..." "Print help for the subcommand(s)"]) ++ "\n")

/-- The version of a command that is reached by `path`. -/
def versionText (path : List String) : String := String.intercalate "-" path ++ " " ++ programVersion ++ "\n"

end LiveControl.CommandLine
