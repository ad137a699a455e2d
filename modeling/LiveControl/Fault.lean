namespace LiveControl

/-- Why a file cannot be read. -/
inductive FileFault where
  | notFound
  | notDirectory
  | isDirectory
  | nameTooLong
  | nameWithZero
  | notText
  deriving DecidableEq, Repr

def FileFault.message : FileFault → String
  | .notFound => "No such file or directory (os error 2)"
  | .notDirectory => "Not a directory (os error 20)"
  | .isDirectory => "Is a directory (os error 21)"
  | .nameTooLong => "File name too long (os error 36)"
  | .nameWithZero => "file name contained an unexpected NUL byte"
  | .notText => "stream did not contain valid UTF-8"

/-- Whether nothing lies under a path that is answered with the fault. A path through a file leads
nowhere, and so does one that cannot be a path. -/
def FileFault.isAbsence : FileFault → Bool
  | .notFound | .notDirectory | .nameTooLong | .nameWithZero => true
  | .isDirectory | .notText => false

inductive Fault where
  | profileNotFound (id : String)
  | invalidPayload (action reason : String)
  | invalidMode (text : String)
  | invalidExecutionKind (text : String)
  | invalidHealth (text : String)
  | invalidSymbolSource (text : String)
  | invalidValueType (text : String)
  | invalidReliabilityState (text : String)
  | invalidCapabilityState (text : String)
  | invalidDependencyStatus (text : String)
  | backend (text : String)
  | cancelled
  | policy (text : String)
  | file (cause : FileFault)
  | malformedYaml
  | malformedJson
  deriving DecidableEq, Repr

/-- The report of a fault. A malformed document is reported without saying where it breaks. -/
def Fault.message : Fault → String
  | .profileNotFound id => "profile not found: " ++ id
  | .invalidPayload action reason => "invalid payload for '" ++ action ++ "': " ++ reason
  | .invalidMode text => "invalid runtime mode: " ++ text
  | .invalidExecutionKind text => "invalid execution kind: " ++ text
  | .invalidHealth text => "invalid symbol health: " ++ text
  | .invalidSymbolSource text => "invalid symbol source: " ++ text
  | .invalidValueType text => "invalid value type: " ++ text
  | .invalidReliabilityState text => "invalid reliability state: " ++ text
  | .invalidCapabilityState text => "invalid capability state: " ++ text
  | .invalidDependencyStatus text => "invalid dependency status: " ++ text
  | .backend text => "backend error: " ++ text
  | .cancelled => "operation cancelled"
  | .policy text => "config error: " ++ text
  | .file cause => cause.message
  | .malformedYaml => "malformed YAML document"
  | .malformedJson => "malformed JSON document"

end LiveControl
