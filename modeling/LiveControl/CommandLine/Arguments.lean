import LiveControl.CommandLine.Help

/-!
Arguments. They are read word by word, command within command; an option may be written once behind
each command, and of a shared option the innermost one counts. What the grammar does not know stops the
reading, and so does a wish for help. A value that is a word of its own is laid aside and looked at when
the next option comes or the command is closed, so a wish for help further in comes before it.
-/

namespace LiveControl.CommandLine

/-- Why the program is not run. -/
inductive Stop where
  | misuse
  | shown (text : String)
  deriving DecidableEq

/-- The options written behind one command, each with its value, that of a flag being empty. -/
structure Level where
  name : String
  given : List (String × String)

namespace Level

def value? (l : Level) (long : String) : Option String :=
  (l.given.find? fun g => g.1 == long).map Prod.snd

end Level

/-- The command at which the reading stands, how it was reached, and the options behind it; a last one
may be laid aside. -/
structure Position where
  grammar : Grammar
  path : List String
  given : List (String × String)
  aside : Option (Setting × String)

namespace Position

variable (env : String → Option String)

/-- The options that are understood here. -/
def settings (p : Position) : List Setting :=
  p.grammar.settings ++ (if p.path.length ≤ 1 then [] else sharedSettings) ++ [helpFlag, versionFlag]

/-- Notes an option, unless it is written a second time or lacks a value that it needs. -/
def note (p : Position) (s : Setting) (value : String) : Except Stop Position :=
  if p.given.any fun g => g.1 == s.long then .error .misuse
  else if s.value.isSome && value.isEmpty && !s.mayBeEmpty then .error .misuse
  else .ok { p with given := p.given ++ [(s.long, value)] }

/-- Notes the option that is laid aside. -/
def settle (p : Position) : Except Stop Position :=
  match p.aside with
  | none => .ok p
  | some (s, value) => { p with aside := none }.note s value

/-- Takes an option in, or shows what it asks for. -/
def give (p : Position) (s : Setting) (value : String) : Except Stop Position := do
  let p ← p.settle
  if s.long = helpFlag.long then .error (.shown (helpText env p.path p.grammar))
  else if s.long = versionFlag.long then .error (.shown (versionText p.path))
  else p.note s value

/-- Notes the flags of a word such as `-j`. -/
def giveShort (p : Position) (flags : List Char) : Except Stop Position :=
  flags.foldlM (fun p c =>
    match p.settings.find? fun s => s.short == some c with
    | some s => p.give env s ""
    | none => .error .misuse) p

/-- Closes a command: what it requires has to be given, and what a variable gives has to be usable. -/
def close (p : Position) : Except Stop Level := do
  let p ← p.settle
  let absent (s : Setting) : Bool := !p.given.any fun g => g.1 == s.long
  let lacking := p.settings.any fun s => s.required && absent s
  let unusable := p.settings.any fun s =>
    absent s && !s.mayBeEmpty && (s.envName >>= env) == some ""
  if lacking || unusable then .error .misuse else .ok ⟨p.grammar.name, p.given⟩

/-- The command to which names lead. -/
def descend (p : Position) (name : String) : Option Position :=
  (p.grammar.find? name).map fun g => ⟨g, p.path ++ [name], [], none⟩

end Position

/-- The help that is asked for by naming a command. -/
def helpFor (env : String → Option String) (p : Position) : List String → Stop
  | [] => .shown (helpText env p.path p.grammar)
  | name :: rest =>
    match p.descend name with
    | some inner => helpFor env inner rest
    | none =>
      if name = "help" && !p.grammar.commands.isEmpty && rest.isEmpty then .shown (helpOfHelp p.path)
      else .misuse

/-- A long option and the value behind its equals sign, if it has one. -/
def splitEquals (word : String) : String × Option String :=
  let cs := word.toList
  let name := cs.takeWhile fun c => c ≠ '='
  match cs.drop name.length with
  | [] => (word, none)
  | _ :: value => (String.ofList name, some (String.ofList value))

/-- What a word looks like. -/
inductive Shape where
  | divider
  | long (name : String) (value : Option String)
  | short (flags : List Char)
  | word

/-- A single hyphen is a word, a double one divides options from the rest. -/
def shapeOf (word : String) : Shape :=
  match word.toList with
  | ['-', '-'] => .divider
  | '-' :: '-' :: rest =>
    let (name, value) := splitEquals (String.ofList rest)
    .long name value
  | '-' :: c :: rest => .short (c :: rest)
  | _ => .word

/-- Reads the words behind a command, for which `awaiting` may still lack its value, and closes all
commands on the way back. No command takes words of its own. -/
def levels (env : String → Option String) (p : Position) (awaiting : Option Setting) :
    List String → Except Stop (List Level)
  | [] =>
    if awaiting.isSome || !p.grammar.commands.isEmpty then .error .misuse
    else (p.close env).map fun l => [l]
  | word :: rest =>
    match awaiting, shapeOf word with
    | some s, .word => levels env { p with aside := some (s, word) } none rest
    | some _, _ => .error .misuse
    | none, .divider => if rest.isEmpty then levels env p none rest else .error .misuse
    | none, .long name value =>
      match p.settings.find? fun s => s.long == name with
      | none => .error .misuse
      | some s =>
        match s.value, value with
        | some _, some v => do levels env (← p.give env s v) none rest
        | some _, none => do levels env (← p.settle) (some s) rest
        | none, none => do levels env (← p.give env s "") none rest
        | none, some _ => .error .misuse
    | none, .short flags => do levels env (← p.giveShort env flags) none rest
    | none, .word =>
      match p.descend word with
      | some inner => do
        let deeper ← levels env inner none rest
        let here ← p.close env
        return here :: deeper
      | none =>
        if word = "help" && !p.grammar.commands.isEmpty then .error (helpFor env p rest)
        else .error .misuse

inductive Command where
  | reliability (profile session : String) (catalog : Option String)
  | compatibility (profile : String) (session status catalog : Option String)
  | operations
  | reviewPolicy
  | showPolicy
  deriving DecidableEq

/-- What the program is asked to do. -/
structure Invocation where
  policyFile : Option String
  json : Bool
  command : Command
  deriving DecidableEq

/-- The command that the innermost of the commands read stands for. -/
def commandOf? (l : Level) : Option Command :=
  match l.name with
  | "reliability" => do
    some (.reliability (← l.value? "profile") (← l.value? "session") (l.value? "catalog"))
  | "compat" => do
    some (.compatibility (← l.value? "profile") (l.value? "session") (l.value? "dependency-status")
      (l.value? "catalog"))
  | "sdk-ops" => some .operations
  | "validate" => some .reviewPolicy
  | "show" => some .showPolicy
  | _ => none

/-- What arguments ask for. The policy file of the innermost command counts, and the variable only if
none is written. -/
def invocation (env : String → Option String) (args : List String) : Except Stop Invocation := do
  let found ← levels env ⟨program, [program.name], [], none⟩ none args
  match found.getLast? >>= commandOf? with
  | none => .error .misuse
  | some command =>
    let written := found.filterMap fun l => l.value? policyFile.long
    return {
      policyFile := written.getLast?.or (policyFile.envName >>= env)
      json := found.any fun l => (l.value? asJson.long).isSome
      command }

end LiveControl.CommandLine
