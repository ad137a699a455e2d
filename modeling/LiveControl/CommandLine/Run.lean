import LiveControl.CommandLine.Arguments
import LiveControl.CommandLine.Report

namespace LiveControl.CommandLine

/-- What a run leaves behind. It ends with 0, with 1 if the command fails, and with 2 if the arguments
ask for nothing that can be done. -/
structure Outcome where
  exit : Nat
  stdout : String
  stderr : String
  deriving DecidableEq

/-- Why a command fails. -/
inductive Failure where
  | policy (cause : Fault)
  | unreadable (what path : String) (cause : FileFault)
  | malformed (what path : String)
  | dependencyStatus (cause : Fault)
  | reviewErrors
  deriving DecidableEq

/-- The report of a failure. Of a policy file that cannot be read or understood no more is told. -/
def Failure.message : Failure → String
  | .policy (.policy text) => "failed to load config: " ++ (Fault.policy text).message
  | .policy _ => "failed to load config"
  | .unreadable what path cause => "failed to read " ++ what ++ " from " ++ path ++ ": " ++ cause.message
  | .malformed what path => "failed to parse " ++ what ++ " in " ++ path
  | .dependencyStatus cause => "invalid --dependency-status: " ++ cause.message
  | .reviewErrors => "config validation found errors"

namespace Outcome

def printed (text : String) : Outcome := ⟨0, text, ""⟩

/-- A failure after something may have been printed. -/
def failed (text : String) (failure : Failure) : Outcome :=
  ⟨1, text, linesText ["error: " ++ failure.message]⟩

def misused : Outcome :=
  ⟨2, "", linesText ["error: invalid arguments", "", "For more information, try '--help'."]⟩

def ofExcept : Except Failure String → Outcome
  | .ok text => printed text
  | .error failure => failed "" failure

end Outcome

variable {α : Type} (files : Files)

/-- The policy for a command that rates something. -/
def ratingPolicy : Option String → Except Failure Policy
  | none => .ok .standard
  | some path => (Policy.loadAccepted files path).mapError .policy

/-- The policy for a command that inspects it. -/
def inspectedPolicy : Option String → Except Failure Policy
  | none => .ok .standard
  | some path => (Policy.load files path).mapError .policy

/-- A document in a file. -/
def readDocument (what path : String) (decode : Json → Option α) : Except Failure α :=
  match files.readText path with
  | .error cause => .error (.unreadable what path cause)
  | .ok text =>
    match Json.parseRaw? text >>= decode with
    | some value => .ok value
    | none => .error (.malformed what path)

def readDocument? (what : String) (path : Option String) (decode : Json → Option α) :
    Except Failure (Option α) :=
  match path with
  | none => .ok none
  | some path => (readDocument files what path decode).map some

def readProfile (path : String) : Except Failure Profile := readDocument files "profile" path Profile.ofJson?

def readCatalog? (path : Option String) : Except Failure (Option EntityCatalog) :=
  readDocument? files "catalog" path EntityCatalog.ofJson?

def readStatus? : Option String → Except Failure (Option DependencyStatus)
  | none => .ok none
  | some text => ((DependencyStatus.read text).mapError .dependencyStatus).map some

def reliability (policyFile : Option String) (json : Bool) (profile session : String)
    (catalog : Option String) : Except Failure String := do
  let policy ← ratingPolicy files policyFile
  let profile ← readProfile files profile
  let session ← readDocument files "session" session Session.ofJson?
  let catalog ← readCatalog? files catalog
  let ratings := (Evaluator.standard policy).ratings profile session catalog
  return if json then documentText (ratingsDocument profile session ratings) else ratingsText profile ratings

def compatibility (policyFile : Option String) (json : Bool) (profile : String)
    (session status catalog : Option String) : Except Failure String := do
  let policy ← ratingPolicy files policyFile
  let profile ← readProfile files profile
  let session ← readDocument? files "session" session Session.ofJson?
  let status ← readStatus? status
  let catalog ← readCatalog? files catalog
  let report := CompatibilityReport.build (.standard policy) profile (.ofOption session) status catalog
  return if json then documentText report.toJson else compatibilityText report

def operations (json : Bool) : String :=
  let probe := (Extender.load Plugin.shipped).probe
  if json then documentText (operationsDocument probe) else operationsText probe

/-- Prints the findings of a policy's review; an error among them is a failure. -/
def reviewPolicy (policyFile : Option String) (json : Bool) : Outcome :=
  match inspectedPolicy files policyFile with
  | .error failure => .failed "" failure
  | .ok policy =>
    let text := if json then documentText (reviewDocument policy.review) else reviewText policy.review
    if policy.errors.isEmpty then .printed text else .failed text .reviewErrors

def showPolicy (policyFile : Option String) (json : Bool) : Except Failure String :=
  (inspectedPolicy files policyFile).map fun policy =>
    if json then documentText policy.toJson else policy.toYaml

def execute (i : Invocation) : Outcome :=
  match i.command with
  | .reliability profile session catalog =>
    .ofExcept (reliability files i.policyFile i.json profile session catalog)
  | .compatibility profile session status catalog =>
    .ofExcept (compatibility files i.policyFile i.json profile session status catalog)
  | .operations => .printed (operations i.json)
  | .reviewPolicy => reviewPolicy files i.policyFile i.json
  | .showPolicy => .ofExcept (showPolicy files i.policyFile i.json)

/-- A run of the program. -/
def run (env : String → Option String) (args : List String) : Outcome :=
  match invocation env args with
  | .error .misuse => .misused
  | .error (.shown text) => .printed text
  | .ok i => execute files i

end LiveControl.CommandLine
