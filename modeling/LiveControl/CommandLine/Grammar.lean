namespace LiveControl.CommandLine

/-- An option: a flag, or, if it has a name for its value, an option with a value. -/
structure Setting where
  long : String
  short : Option Char
  value : Option String
  required : Bool
  /-- Whether its value may be empty. A path may not. -/
  mayBeEmpty : Bool
  /-- The environment variable that gives its value where the option is not written. -/
  envName : Option String
  about : String

namespace Setting

def flag (long : String) (short : Char) (about : String) : Setting :=
  ⟨long, some short, none, false, false, none, about⟩

def path (long value : String) (required : Bool) (about : String) : Setting :=
  ⟨long, none, some value, required, false, none, about⟩

end Setting

inductive Grammar where
  | command (name about : String) (settings : List Setting) (commands : List Grammar)

namespace Grammar

def name : Grammar → String
  | .command name _ _ _ => name

def about : Grammar → String
  | .command _ about _ _ => about

def settings : Grammar → List Setting
  | .command _ _ settings _ => settings

def commands : Grammar → List Grammar
  | .command _ _ _ commands => commands

/-- The command of a name. -/
def find? (g : Grammar) (name : String) : Option Grammar := g.commands.find? fun c => c.name == name

end Grammar

def programVersion : String := "0.1.0"

def policyFile : Setting where
  long := "config"
  short := none
  value := some "CONFIG"
  required := false
  mayBeEmpty := false
  envName := some "TRAINER_CONFIG"
  about := "Trainer config file (YAML). Defaults apply when omitted or missing"

def asJson : Setting := .flag "json" 'j' "Output as JSON"

def helpFlag : Setting := .flag "help" 'h' "Print help"

def versionFlag : Setting := .flag "version" 'V' "Print version"

/-- The options that are understood behind every command. -/
def sharedSettings : List Setting := [policyFile, asJson]

def dependencyStatus : Setting where
  long := "dependency-status"
  short := none
  value := some "DEPENDENCY_STATUS"
  required := false
  mayBeEmpty := true
  envName := none
  about := "Dependency validation outcome: pass, soft_fail or hard_fail"

def program : Grammar :=
  .command "trainer" "Inspect trainer profiles offline: reliability, compatibility and SDK operations"
    sharedSettings [
      .command "reliability" "Score every action of a profile against an exported session" [
        .path "profile" "PROFILE" true "Flattened profile (JSON)",
        .path "session" "SESSION" true "Attach session snapshot (JSON)",
        .path "catalog" "CATALOG" false "External entity catalog (JSON)"] [],
      .command "compat" "Report whether a profile is ready for promotion" [
        .path "profile" "PROFILE" true "Flattened profile (JSON)",
        .path "session" "SESSION" false "Attach session snapshot (JSON); omit for a detached report",
        dependencyStatus,
        .path "catalog" "CATALOG" false "External entity catalog (JSON)"] [],
      .command "sdk-ops" "List the SDK v1 operation catalog" [] [],
      .command "config" "Inspect the trainer configuration" [] [
        .command "validate" "Validate the config for common mistakes" [] [],
        .command "show" "Print the effective config (defaults merged)" [] []]]

end LiveControl.CommandLine
