import LiveControl.CommandLine.Run
import Mathlib.Tactic.ByContra

namespace LiveControl.CommandLine

theorem bind_eq_ok {ε α β : Type} {x : Except ε α} {f : α → Except ε β} {b : β} :
    x >>= f = .ok b ↔ ∃ a, x = .ok a ∧ f a = .ok b := by
  cases x with
  | error e =>
    constructor
    · intro stopped
      cases stopped
    · rintro ⟨a, stopped, -⟩
      cases stopped
  | ok a =>
    constructor
    · exact fun run => ⟨a, rfl, run⟩
    · rintro ⟨a', same, run⟩
      cases same
      exact run

/-- Reading words, up to the level of the command at which they start and the levels of the commands that
follow. -/
inductive Reads (env : String → Option String) :
    Position → Option Setting → List String → Level → List Level → Prop
  | ends {p l} (leaf : p.grammar.commands.isEmpty = true) (close : p.close env = .ok l) : Reads env p none [] l []
  | value {p s word rest l deeper} (shape : shapeOf word = .word)
      (reads : Reads env { p with aside := some (s, word) } none rest l deeper) :
      Reads env p (some s) (word :: rest) l deeper
  | divider {p word l deeper} (shape : shapeOf word = .divider) (reads : Reads env p none [] l deeper) :
      Reads env p none [word] l deeper
  | option {p p' s word name kind v rest l deeper} (shape : shapeOf word = .long name (some v))
      (found : p.settings.find? (fun s => s.long == name) = some s) (takes : s.value = some kind)
      (give : p.give env s v = .ok p') (reads : Reads env p' none rest l deeper) :
      Reads env p none (word :: rest) l deeper
  | awaits {p p' s word name kind rest l deeper} (shape : shapeOf word = .long name none)
      (found : p.settings.find? (fun s => s.long == name) = some s) (takes : s.value = some kind)
      (settle : p.settle = .ok p') (reads : Reads env p' (some s) rest l deeper) :
      Reads env p none (word :: rest) l deeper
  | flag {p p' s word name rest l deeper} (shape : shapeOf word = .long name none)
      (found : p.settings.find? (fun s => s.long == name) = some s) (takes : s.value = none)
      (give : p.give env s "" = .ok p') (reads : Reads env p' none rest l deeper) :
      Reads env p none (word :: rest) l deeper
  | flags {p p' word flags rest l deeper} (shape : shapeOf word = .short flags)
      (give : p.giveShort env flags = .ok p') (reads : Reads env p' none rest l deeper) :
      Reads env p none (word :: rest) l deeper
  | command {p inner word rest l first deeper} (shape : shapeOf word = .word) (found : p.descend word = some inner)
      (reads : Reads env inner none rest first deeper) (close : p.close env = .ok l) :
      Reads env p none (word :: rest) l (first :: deeper)

variable {env : String → Option String} {p p' : Position} {awaiting : Option Setting} {words : List String}
  {l : Level} {deeper : List Level}

theorem reads_of_levels {found : List Level} (read : levels env p awaiting words = .ok found) :
    ∃ l deeper, found = l :: deeper ∧ Reads env p awaiting words l deeper := by
  fun_induction levels env p awaiting words generalizing found with
  | case1 | case4 | case6 | case7 | case11 | case14 | case15 => cases read
  | case2 p awaiting leaf =>
    cases awaiting with
    | some s => exact absurd rfl leaf
    | none =>
      cases closed : p.close env with
      | error stop =>
        rw [closed] at read
        cases read
      | ok l =>
        rw [closed] at read
        cases read
        exact ⟨l, [], rfl, .ends (by simpa using leaf) closed⟩
  | case3 p word rest s shape ih =>
    obtain ⟨l, deeper, rfl, reads⟩ := ih read
    exact ⟨l, deeper, rfl, .value shape reads⟩
  | case5 p word rest shape last ih =>
    obtain ⟨l, deeper, rfl, reads⟩ := ih read
    obtain rfl := List.isEmpty_iff.1 last
    exact ⟨l, deeper, rfl, .divider shape reads⟩
  | case8 p word rest name s found kind v takes shape ih =>
    obtain ⟨p', give, read⟩ := bind_eq_ok.1 read
    obtain ⟨l, deeper, rfl, reads⟩ := ih p' read
    exact ⟨l, deeper, rfl, .option shape found takes give reads⟩
  | case9 p word rest name s found kind takes shape ih =>
    obtain ⟨p', settle, read⟩ := bind_eq_ok.1 read
    obtain ⟨l, deeper, rfl, reads⟩ := ih p' read
    exact ⟨l, deeper, rfl, .awaits shape found takes settle reads⟩
  | case10 p word rest name s found takes shape ih =>
    obtain ⟨p', give, read⟩ := bind_eq_ok.1 read
    obtain ⟨l, deeper, rfl, reads⟩ := ih p' read
    exact ⟨l, deeper, rfl, .flag shape found takes give reads⟩
  | case12 p word rest flags shape ih =>
    obtain ⟨p', give, read⟩ := bind_eq_ok.1 read
    obtain ⟨l, deeper, rfl, reads⟩ := ih p' read
    exact ⟨l, deeper, rfl, .flags shape give reads⟩
  | case13 p word rest shape inner found ih =>
    obtain ⟨after, readAfter, closing⟩ := bind_eq_ok.1 read
    obtain ⟨l, close, same⟩ := bind_eq_ok.1 closing
    cases same
    obtain ⟨first, deeper, rfl, reads⟩ := ih readAfter
    exact ⟨l, _, rfl, .command shape found reads close⟩

def Position.naming (file : Option String) (p : Position) : Position :=
  { p with given := (file.map (policyFile.long, ·)).toList ++ p.given }

def Level.naming (file : Option String) (l : Level) : Level :=
  { l with given := (file.map (policyFile.long, ·)).toList ++ l.given }

/-- No policy file among the options. -/
def Unnamed (given : List (String × String)) : Prop := ∀ g ∈ given, g.1 ≠ policyFile.long

/-- A step stays at its command. What it makes of a position is made by another step, under another
environment, of the position at which the policy file has been named, if only the step does not name it. -/
def Follows (t t' : Position → Except Stop Position) : Prop :=
  ∀ p p', t p = .ok p' → p'.grammar = p.grammar ∧ p'.path = p.path ∧
    (Unnamed p'.given → Unnamed p.given ∧ ∀ file, t' (p.naming file) = .ok (p'.naming file))

section Steps

variable {t t' u u' : Position → Except Stop Position}

theorem Follows.refl : Follows .ok .ok := by
  intro p p' run
  cases run
  exact ⟨rfl, rfl, fun unnamed => ⟨unnamed, fun file => rfl⟩⟩

theorem Follows.bind (first : Follows t t') (second : Follows u u') :
    Follows (fun p => t p >>= u) (fun p => t' p >>= u') := by
  intro p p'' run
  obtain ⟨p', before, after⟩ := bind_eq_ok.1 run
  obtain ⟨grammar, path, early⟩ := first p p' before
  obtain ⟨grammar', path', late⟩ := second p' p'' after
  refine ⟨grammar'.trans grammar, path'.trans path, fun unnamed => ?_⟩
  obtain ⟨unnamed', runs'⟩ := late unnamed
  obtain ⟨unnamed, runs⟩ := early unnamed'
  exact ⟨unnamed, fun file => bind_eq_ok.2 ⟨_, runs file, runs' file⟩⟩

theorem Follows.foldlM {step step' : Position → Char → Except Stop Position}
    (follows : ∀ c, Follows (step · c) (step' · c)) (flags : List Char) :
    Follows (flags.foldlM step) (flags.foldlM step') := by
  induction flags with
  | nil => exact .refl
  | cons c rest ih => exact (follows c).bind ih

theorem follows_note (s : Setting) (v : String) : Follows (·.note s v) (·.note s v) := by
  intro p p' run
  simp only [Position.note] at run
  split at run
  · cases run
  rename_i fresh
  split at run
  · cases run
  rename_i usable
  cases run
  refine ⟨rfl, rfl, fun unnamed => ?_⟩
  have other : s.long ≠ policyFile.long := unnamed (s.long, v) (by simp)
  have before : Unnamed p.given := fun g member => unnamed g (by simp [member])
  refine ⟨before, fun file => ?_⟩
  have fresh' : ¬((p.naming file).given.any fun g => g.1 == s.long) = true := by
    cases file with
    | none => exact fresh
    | some F => simpa [Position.naming, other.symm] using fresh
  show (if _ then _ else if _ then _ else _) = _
  rw [if_neg fresh', if_neg usable]
  simp [Position.naming]

theorem follows_settle : Follows Position.settle Position.settle := by
  intro p p' run
  cases aside : p.aside with
  | none =>
    obtain rfl : p = p' := by simpa [Position.settle, aside] using run
    exact ⟨rfl, rfl, fun unnamed => ⟨unnamed, fun file => by simp [Position.settle, Position.naming, aside]⟩⟩
  | some held =>
    obtain ⟨s, v⟩ := held
    have noted : { p with aside := none }.note s v = .ok p' := by simpa [Position.settle, aside] using run
    obtain ⟨grammar, path, follows⟩ := follows_note s v _ p' noted
    refine ⟨grammar, path, fun unnamed => ?_⟩
    obtain ⟨unnamed, runs⟩ := follows unnamed
    refine ⟨unnamed, fun file => ?_⟩
    rw [← runs file]
    simp [Position.settle, Position.naming, aside]

theorem follows_give {env env' : String → Option String} (s : Setting) (v : String) :
    Follows (·.give env s v) (·.give env' s v) := by
  refine follows_settle.bind ?_
  intro p p' run
  split at run
  · cases run
  rename_i noHelp
  split at run
  · cases run
  rename_i noVersion
  simp only [noHelp, noVersion, if_false]
  exact follows_note s v p p' run

theorem follows_giveShort {env env' : String → Option String} (flags : List Char) :
    Follows (·.giveShort env flags) (·.giveShort env' flags) := by
  refine .foldlM (fun c => ?_) flags
  intro p p' run
  have settings (file : Option String) : (p.naming file).settings = p.settings := rfl
  cases found : p.settings.find? fun s => s.short == some c with
  | none =>
    simp only [found] at run
    cases run
  | some s =>
    simp only [found] at run
    simp only [settings, found]
    exact follows_give s "" p p' run

end Steps

/-- A command within the program: no option of it has a variable. -/
inductive Plain : Grammar → Prop
  | command {name about settings commands} (options : ∀ s ∈ settings, s.envName = none)
      (inner : ∀ g ∈ commands, Plain g) : Plain (.command name about settings commands)

theorem Plain.leaf {name about : String} {settings : List Setting} (options : ∀ s ∈ settings, s.envName = none) :
    Plain (.command name about settings []) := .command options (List.forall_mem_nil _)

/-- A place in the grammar of the program: the policy file can be named there, and no other option has a
variable. -/
structure Position.Known (p : Position) : Prop where
  started : p.path ≠ []
  shared : policyFile ∈ p.settings
  others : ∀ s ∈ p.settings, s.envName = none ∨ s = policyFile
  inner : ∀ g ∈ p.grammar.commands, Plain g

theorem Position.Known.of_same (known : p.Known) (grammar : p'.grammar = p.grammar) (path : p'.path = p.path) :
    p'.Known := by
  have settings : p'.settings = p.settings := by rw [Position.settings, Position.settings, grammar, path]
  exact ⟨path ▸ known.started, settings ▸ known.shared, settings ▸ known.others, grammar ▸ known.inner⟩

theorem Position.Known.descend {name : String} (known : p.Known) (found : p.descend name = some p') :
    p'.Known := by
  obtain ⟨g, atName, rfl⟩ := Option.map_eq_some_iff.1 found
  obtain ⟨options, inner⟩ := known.inner g (List.mem_of_find?_eq_some atName)
  rename_i word about settings commands
  have long : ¬(p.path ++ [name]).length ≤ 1 := by simpa using known.started
  have all : Position.settings ⟨.command word about settings commands, p.path ++ [name], [], none⟩ =
      settings ++ sharedSettings ++ [helpFlag, versionFlag] := by
    rw [Position.settings, if_neg long, Grammar.settings]
  refine ⟨by simp, ?_, ?_, inner⟩
  · rw [all]
    simp [sharedSettings]
  · intro s member
    rw [all] at member
    simp only [List.mem_append, sharedSettings, List.mem_cons, List.not_mem_nil, or_false] at member
    rcases member with (own | rfl | rfl) | rfl | rfl
    · exact .inl (options s own)
    · exact .inr rfl
    · exact .inl rfl
    · exact .inl rfl
    · exact .inl rfl

/-- The variable of the policy file is set, to nothing. -/
def Blanked (env : String → Option String) : Prop := policyFile.envName >>= env = some ""

instance : Decidable (Blanked env) := inferInstanceAs (Decidable (_ = _))

/-- The environment in which no variable is set. -/
def bare : String → Option String := fun _ => none

/-- What a command requires is missing. -/
def Position.lacks (p : Position) : Bool :=
  p.settings.any fun s => s.required && !p.given.any fun g => g.1 == s.long

/-- What is not given is set to nothing by its variable. -/
def Position.emptied (env : String → Option String) (p : Position) : Bool :=
  p.settings.any fun s =>
    (!p.given.any fun g => g.1 == s.long) && !s.mayBeEmpty && (s.envName >>= env) == some ""

theorem close_of_settle (settle : p.settle = .ok p') :
    p.close env = if p'.lacks || p'.emptied env then .error .misuse else .ok ⟨p'.grammar.name, p'.given⟩ := by
  rw [Position.close, settle]
  rfl

theorem lacks_naming (file : Option String) (full : p.lacks = false) : (p.naming file).lacks = false := by
  rw [Position.lacks, List.any_eq_false] at full ⊢
  intro s member missing
  refine full s member ?_
  simp only [Bool.and_eq_true, Bool.not_eq_true', List.any_eq_false] at missing ⊢
  exact ⟨missing.1, fun g given => missing.2 g (List.mem_append_right _ given)⟩

theorem emptied_iff (known : p.Known) : p.emptied env = true ↔ Unnamed p.given ∧ Blanked env := by
  simp only [Position.emptied, List.any_eq_true, Bool.and_eq_true, Bool.not_eq_true', List.any_eq_false,
    beq_iff_eq]
  constructor
  · rintro ⟨s, member, ⟨absent, -⟩, empty⟩
    rcases known.others s member with no_variable | rfl
    · rw [no_variable] at empty
      cases empty
    · exact ⟨absent, empty⟩
  · rintro ⟨absent, empty⟩
    exact ⟨policyFile, known.shared, ⟨absent, rfl⟩, empty⟩

theorem unnamed_naming_iff {file : Option String} (unnamed : Unnamed p.given) :
    Unnamed (p.naming file).given ↔ file = none := by
  cases file with
  | none => exact iff_of_true unnamed rfl
  | some F => exact iff_of_false (fun free => free (policyFile.long, F) List.mem_cons_self rfl) nofun

theorem close_naming (env : String → Option String) (known : p.Known) (close : p.close bare = .ok l)
    (unnamed : Unnamed l.given) (file : Option String) :
    Unnamed p.given ∧ (p.naming file).close env =
      if file = none ∧ Blanked env then .error .misuse else .ok (l.naming file) := by
  obtain ⟨p', settle, -⟩ := bind_eq_ok.1 close
  rw [close_of_settle settle] at close
  split at close
  · cases close
  · rename_i usable
    cases close
    obtain ⟨grammar, path, follows⟩ := follows_settle p p' settle
    obtain ⟨unnamed', settles⟩ := follows unnamed
    have known' : (p'.naming file).Known := known.of_same grammar path
    have full : (p'.naming file).lacks = false := by
      apply lacks_naming
      simp only [Bool.or_eq_true, not_or] at usable
      simpa using usable.1
    have emptied : (p'.naming file).emptied env = true ↔ file = none ∧ Blanked env := by
      rw [emptied_iff known', unnamed_naming_iff unnamed]
    refine ⟨unnamed', ?_⟩
    rw [close_of_settle (settles file), full, Bool.false_or]
    simp only [emptied]
    rfl

/-- A step that reads on, at a position where the policy file has been named. -/
theorem step_naming {t t' : Position → Except Stop Position} {file : Option String} {after : Except Stop (List Level)}
    (follows : Follows t t') (step : t p = .ok p') (known : p.Known)
    (next : p'.Known → p'.grammar = p.grammar →
      Unnamed p'.given ∧ levels env (p'.naming file) awaiting words = after) :
    Unnamed p.given ∧ (t' (p.naming file) >>= fun q => levels env q awaiting words) = after := by
  obtain ⟨grammar, path, otherwise⟩ := follows p p' step
  obtain ⟨unnamed, read⟩ := next (known.of_same grammar path) grammar
  obtain ⟨before, steps⟩ := otherwise unnamed
  rw [steps file]
  exact ⟨before, read⟩

/-- Of the words at a place in the grammar the same is read where the policy file has been named. Where its
variable is set to nothing some command on the way stops, unless the file is named behind each of them. -/
theorem levels_naming (env : String → Option String) (reads : Reads bare p awaiting words l deeper) (known : p.Known)
    (unnamed : ∀ m ∈ l :: deeper, Unnamed m.given) (file : Option String)
    (deep : file ≠ none → p.grammar.commands.isEmpty = false) :
    Unnamed p.given ∧ levels env (p.naming file) awaiting words =
      if Blanked env then .error .misuse else .ok (l.naming file :: deeper) := by
  -- Options are only ever added, so if no level names the file in the end no position on the way does; that is
  -- carried back from the end of the words together with the reading.
  induction reads generalizing file with
  | @ends p l leaf close =>
    cases file with
    | some F =>
      rw [deep nofun] at leaf
      cases leaf
    | none =>
      obtain ⟨before, closes⟩ := close_naming env known close (unnamed l List.mem_cons_self) none
      refine ⟨before, ?_⟩
      have leaf' : (p.naming none).grammar.commands.isEmpty = true := leaf
      simp only [levels, closes, leaf']
      by_cases blanked : Blanked env <;> simp [blanked, Except.map]
  | @value p s word rest l deeper shape reads ih =>
    obtain ⟨before, read⟩ := ih ⟨known.started, known.shared, known.others, known.inner⟩ unnamed file deep
    refine ⟨before, ?_⟩
    simp only [levels, shape]
    exact read
  | @divider p word l deeper shape reads ih =>
    obtain ⟨before, read⟩ := ih known unnamed file deep
    refine ⟨before, ?_⟩
    rw [levels.eq_def]
    simp only [shape]
    exact read
  | @option p p' s word name kind v rest l deeper shape found takes give reads ih =>
    have found' : (p.naming file).settings.find? (fun s => s.long == name) = some s := found
    simp only [levels, shape, found', takes]
    exact step_naming (follows_give s v) give known fun known' same => ih known' unnamed file (same ▸ deep)
  | @awaits p p' s word name kind rest l deeper shape found takes settle reads ih =>
    have found' : (p.naming file).settings.find? (fun s => s.long == name) = some s := found
    simp only [levels, shape, found', takes]
    exact step_naming follows_settle settle known fun known' same => ih known' unnamed file (same ▸ deep)
  | @flag p p' s word name rest l deeper shape found takes give reads ih =>
    have found' : (p.naming file).settings.find? (fun s => s.long == name) = some s := found
    simp only [levels, shape, found', takes]
    exact step_naming (follows_give s "") give known fun known' same => ih known' unnamed file (same ▸ deep)
  | @flags p p' word flags rest l deeper shape give reads ih =>
    simp only [levels, shape]
    exact step_naming (follows_giveShort flags) give known fun known' same => ih known' unnamed file (same ▸ deep)
  | @command p inner word rest l first deeper shape found reads close ih =>
    obtain ⟨here, further⟩ := List.forall_mem_cons.1 unnamed
    obtain ⟨-, read⟩ := ih (known.descend found) further none (absurd rfl)
    obtain ⟨before, closes⟩ := close_naming env known close here file
    have found' : (p.naming file).descend word = some inner := found
    have same : inner.naming none = inner := rfl
    refine ⟨before, ?_⟩
    simp only [levels, shape, found']
    rw [same] at read
    rw [read, closes]
    by_cases blanked : Blanked env
    · simp only [blanked, if_true]
      rfl
    · simp only [blanked, and_false, if_false]
      rfl

theorem flags_of_shapeOf {word : String} {flags : List Char} (shape : shapeOf word = .short flags) :
    ∃ c rest, flags = c :: rest := by
  unfold shapeOf at shape
  split at shape
  · cases shape
  · cases shape
  · cases shape
    exact ⟨_, _, rfl⟩
  · cases shape

section Settling

variable {given : List (String × String)} {aside : Option (Setting × String)}

/-- The position at which other options are given, or laid aside. -/
def Position.having (p : Position) (given : List (String × String)) (aside : Option (Setting × String)) : Position :=
  { p with given := given, aside := aside }

/-- All that is read begins with settling what is laid aside. -/
theorem levels_congr (settle : (p.having given aside).settle = p.settle) :
    levels env (p.having given aside) none words = levels env p none words := by
  have settings : (p.having given aside).settings = p.settings := rfl
  have gives (s : Setting) (v : String) : (p.having given aside).give env s v = p.give env s v := by
    rw [Position.give, Position.give, settle]
  have closes : (p.having given aside).close env = p.close env := by rw [Position.close, Position.close, settle]
  have nothing : levels env (p.having given aside) none [] = levels env p none [] := by
    rw [levels, levels, closes]
    rfl
  cases words with
  | nil => exact nothing
  | cons word rest =>
    cases shape : shapeOf word with
    | divider =>
      simp only [levels, shape]
      cases rest with
      | nil => exact nothing
      | cons => rfl
    | long name value => simp only [levels, shape, settings, gives, settle]
    | short flags =>
      obtain ⟨c, more, rfl⟩ := flags_of_shapeOf shape
      have givesShort : (p.having given aside).giveShort env (c :: more) = p.giveShort env (c :: more) := by
        simp only [Position.giveShort, List.foldlM_cons, settings, gives]
      simp only [levels, shape, givesShort]
    | word =>
      have descends : (p.having given aside).descend word = p.descend word := rfl
      have helps : helpFor env (p.having given aside) rest = helpFor env p rest := by cases rest <;> rfl
      simp only [levels, shape, descends, closes, helps]
      rfl

/-- Words that can be read are misused where what is laid aside cannot be settled. -/
theorem levels_of_stuck (reads : Reads bare p none words l deeper) (known : p.Known)
    (unnamed : ∀ m ∈ deeper, Unnamed m.given) (stuck : (p.having given aside).settle = .error .misuse) :
    levels env (p.having given aside) none words = .error .misuse := by
  have settings : (p.having given aside).settings = p.settings := rfl
  have gives (s : Setting) (v : String) : (p.having given aside).give env s v = .error .misuse := by
    rw [Position.give, stuck]
    rfl
  have closes : (p.having given aside).close env = .error .misuse := by
    rw [Position.close, stuck]
    rfl
  have nothing : levels env (p.having given aside) none [] = .error .misuse := by
    rw [levels, closes]
    split <;> rfl
  cases reads with
  | ends => exact nothing
  | divider shape reads =>
    rw [levels.eq_def]
    simp only [shape]
    exact nothing
  | option shape found takes =>
    simp only [levels, shape, settings, found, takes, gives]
    rfl
  | awaits shape found takes =>
    simp only [levels, shape, settings, found, takes, stuck]
    rfl
  | flag shape found takes =>
    simp only [levels, shape, settings, found, takes, gives]
    rfl
  | flags shape give =>
    obtain ⟨c, more, rfl⟩ := flags_of_shapeOf shape
    have givesShort : (p.having given aside).giveShort env (c :: more) = .error .misuse := by
      rw [Position.giveShort, List.foldlM_cons, settings]
      cases found : p.settings.find? fun s => s.short == some c with
      | none => rfl
      | some s =>
        simp only [gives]
        rfl
    simp only [levels, shape, givesShort]
    rfl
  | @command _ inner word rest _ first deeper shape found reads close =>
    have descends : (p.having given aside).descend word = some inner := found
    obtain ⟨-, read⟩ := levels_naming env reads (known.descend found) unnamed none (absurd rfl)
    have same : inner.naming none = inner := rfl
    rw [same] at read
    simp only [levels, shape, descends, read, closes]
    split <;> rfl

end Settling

/-- Where the reading of a command line starts. -/
def Position.start : Position := ⟨program, [program.name], [], none⟩

theorem known_start : Position.start.Known where
  started := List.cons_ne_nil _ _
  shared := by simp [Position.start, Position.settings, program, Grammar.settings, sharedSettings]
  others := by
    simp [Position.start, Position.settings, program, Grammar.settings, sharedSettings, asJson, helpFlag, versionFlag,
      Setting.flag]
  inner := by
    have none_given : ∀ s ∈ ([] : List Setting), s.envName = none := List.forall_mem_nil _
    intro g member
    simp only [Position.start, program, Grammar.commands, List.mem_cons, List.not_mem_nil, or_false] at member
    rcases member with rfl | rfl | rfl | rfl
    · exact .leaf (by simp [Setting.path])
    · exact .leaf (by simp [Setting.path, dependencyStatus])
    · exact .leaf none_given
    · refine .command none_given (List.forall_mem_cons.2 ⟨.leaf none_given, ?_⟩)
      exact List.forall_mem_cons.2 ⟨.leaf none_given, List.forall_mem_nil _⟩

theorem unnamed_iff : Unnamed l.given ↔ l.value? policyFile.long = none := by
  simp [Unnamed, Level.value?]

theorem value?_naming {file : Option String} {long : String} (other : long ≠ policyFile.long) :
    (l.naming file).value? long = l.value? long := by
  cases file with
  | none => rfl
  | some F => simp [Level.naming, Level.value?, other.symm]

theorem commandOf?_naming (file : Option String) : commandOf? (l.naming file) = commandOf? l := by
  have name : (l.naming file).name = l.name := rfl
  have profile : (l.naming file).value? "profile" = l.value? "profile" := value?_naming (by decide)
  have session : (l.naming file).value? "session" = l.value? "session" := value?_naming (by decide)
  have catalog : (l.naming file).value? "catalog" = l.value? "catalog" := value?_naming (by decide)
  have status : (l.naming file).value? "dependency-status" = l.value? "dependency-status" :=
    value?_naming (by decide)
  simp only [commandOf?, name, profile, session, catalog, status]

/-- A policy file can be named: its name can stand behind an option, and the variable for it is not set to
nothing. -/
structure Nameable (env : String → Option String) (file : String) : Prop where
  shape : shapeOf file = .word
  nonempty : file ≠ ""
  unblanked : ¬Blanked env

section Naming

variable {file : String}

/-- The name of the file is laid aside until the next option comes or the command is closed. -/
theorem levels_config : levels env .start none ("--config" :: file :: words) =
    levels env .start (some policyFile) (file :: words) := by
  have shape : shapeOf "--config" = .long "config" none := rfl
  have found : Position.start.settings.find? (fun s => s.long == "config") = some policyFile := rfl
  rw [levels.eq_def]
  simp only [shape, found]
  rfl

theorem levels_word (shape : shapeOf file = .word) : levels env .start (some policyFile) (file :: words) =
    levels env (Position.start.having [] (some (policyFile, file))) none words := by
  rw [levels.eq_def]
  simp only [shape]
  rfl

theorem levels_not_word (shape : shapeOf file ≠ .word) :
    levels env .start (some policyFile) (file :: words) = .error .misuse := by
  rw [levels.eq_def]
  cases other : shapeOf file with
  | word => exact absurd other shape
  | divider | long | short => simp only [other]

variable (reads : Reads bare .start none words l deeper) (unnamed : ∀ m ∈ l :: deeper, Unnamed m.given)

include reads unnamed

theorem levels_named (env : String → Option String) (shape : shapeOf file = .word) (nonempty : file ≠ "") :
    levels env .start none ("--config" :: file :: words) =
      if Blanked env then .error .misuse else .ok (l.naming (some file) :: deeper) := by
  have filled : file.isEmpty = false := by simpa using nonempty
  have settle : ((Position.start.naming (some file)).having [] (some (policyFile, file))).settle =
      (Position.start.naming (some file)).settle := by
    simp [Position.settle, Position.having, Position.naming, Position.note, Position.start, filled]
  obtain ⟨-, read⟩ := levels_naming env reads known_start unnamed (some file) fun _ => rfl
  rw [levels_config, levels_word shape]
  exact (levels_congr settle).trans read

theorem levels_misnamed (misnamed : ¬Nameable env file) :
    levels env .start none ("--config" :: file :: words) = .error .misuse := by
  by_cases shape : shapeOf file = .word
  · by_cases nonempty : file = ""
    · have stuck : (Position.start.having [] (some (policyFile, file))).settle = .error .misuse := by
        rw [nonempty]
        rfl
      rw [levels_config, levels_word shape]
      exact levels_of_stuck reads known_start (List.forall_mem_cons.1 unnamed).2 stuck
    · have blanked : Blanked env := by
        by_contra unblanked
        exact misnamed ⟨shape, nonempty, unblanked⟩
      rw [levels_named reads unnamed env shape nonempty, if_pos blanked]
  · rw [levels_config, levels_not_word shape]

end Naming

section Asking

variable {json : Bool} {command : Command}

theorem invocation_of_levels {found : List Level} (read : levels env .start none words = .ok found)
    (last : found.getLast? >>= commandOf? = some command) :
    invocation env words = .ok {
      policyFile := (found.filterMap fun l => l.value? policyFile.long).getLast?.or (policyFile.envName >>= env)
      json := found.any fun l => (l.value? asJson.long).isSome
      command := command } := by
  rw [invocation]
  show (levels env .start none words >>= _) = _
  rw [read]
  simp only [bind, Except.bind] at last ⊢
  rw [last]
  rfl

theorem invocation_of_stop {stop : Stop} (read : levels env .start none words = .error stop) :
    invocation env words = .error stop := by
  rw [invocation]
  show (levels env .start none words >>= _) = _
  rw [read]
  rfl

theorem unnamed_of_written {found : List Level}
    (unwritten : (found.filterMap fun l => l.value? policyFile.long).getLast? = none) :
    ∀ m ∈ found, Unnamed m.given := by
  rw [List.getLast?_eq_none_iff, List.filterMap_eq_nil_iff] at unwritten
  exact fun m member => unnamed_iff.2 (unwritten m member)

/-- What words ask for that name no policy file. -/
theorem reads_of_invocation (asks : invocation bare words = .ok ⟨none, json, command⟩) :
    ∃ l deeper, Reads bare .start none words l deeper ∧ (∀ m ∈ l :: deeper, Unnamed m.given) ∧
      (l :: deeper).getLast? >>= commandOf? = some command ∧
      ((l :: deeper).any fun m => (m.value? asJson.long).isSome) = json := by
  obtain ⟨found, read, -⟩ := bind_eq_ok.1 asks
  obtain ⟨l, deeper, rfl, reads⟩ := reads_of_levels read
  cases last : (l :: deeper).getLast? >>= commandOf? with
  | none =>
    obtain ⟨_, read', asks⟩ := bind_eq_ok.1 asks
    obtain rfl := Except.ok.inj (read.symm.trans read')
    simp only [last] at asks
    cases asks
  | some found =>
    rw [invocation_of_levels read last] at asks
    obtain ⟨unwritten, same, rfl⟩ := Invocation.mk.inj (Except.ok.inj asks)
    rw [Option.or_eq_none_iff] at unwritten
    exact ⟨l, deeper, reads, unnamed_of_written unwritten.1, last, same⟩

/-- Words that name no policy file ask behind `--config` and a file for what they ask for by themselves, under
the policy of the file; if the file cannot be named they are misused. -/
theorem invocation_config (asks : invocation bare words = .ok ⟨none, json, command⟩) (file : String) :
    (Nameable env file → invocation env ("--config" :: file :: words) = .ok ⟨some file, json, command⟩) ∧
      (¬Nameable env file → invocation env ("--config" :: file :: words) = .error .misuse) := by
  obtain ⟨l, deeper, reads, unnamed, last, flag⟩ := reads_of_invocation asks
  refine ⟨fun nameable => ?_, fun misnamed => invocation_of_stop (levels_misnamed reads unnamed misnamed)⟩
  have read := levels_named reads unnamed env nameable.shape nameable.nonempty
  rw [if_neg nameable.unblanked] at read
  have last' : (l.naming (some file) :: deeper).getLast? >>= commandOf? = some command := by
    cases deeper with
    | nil => exact (commandOf?_naming (some file)).trans last
    | cons => exact last
  have json' : (l.naming (some file)).value? asJson.long = l.value? asJson.long := value?_naming (by decide)
  have further : deeper.filterMap (fun m => m.value? policyFile.long) = [] :=
    List.filterMap_eq_nil_iff.2 fun m member => unnamed_iff.1 (unnamed m (List.mem_cons_of_mem _ member))
  have written : (l.naming (some file) :: deeper).filterMap (fun m => m.value? policyFile.long) = [file] := by
    rw [List.filterMap_cons, further]
    rfl
  rw [invocation_of_levels read last', written, List.any_cons, json']
  rw [List.any_cons] at flag
  rw [flag]
  rfl

end Asking

end LiveControl.CommandLine
