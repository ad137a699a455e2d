import LiveControl.Symbol
import LiveControl.Policy

namespace LiveControl

/-- One attachment to a process. -/
structure Session where
  processId : UInt32
  processName : String
  processPath : String
  mode : Mode
  symbols : Table Symbol
  metadata : Table String
  deriving DecidableEq

namespace Session

/-- A session about which nothing but the process and its mode is known. -/
def bare (processId : UInt32) (mode : Mode) : Session := ⟨processId, "", "", mode, .empty, .empty⟩

/-- The session with a symbol under the symbol's own name. -/
def addSymbol (s : Session) (symbol : Symbol) : Session :=
  { s with symbols := s.symbols.insert symbol.name symbol }

def addMetadata (s : Session) (key value : String) : Session :=
  { s with metadata := s.metadata.insert key value }

def symbol? (s : Session) (name : String) : Option Symbol := s.symbols.get? name

/-- The actions that dependency validation disabled for this session. -/
def disabledActions (s : Session) (policy : Policy) : NameSet :=
  .ofCommaText? (s.metadata.get? policy.disabledKey)

def toJson (s : Session) : Json := .obj [
  ("process_id", .ofNat s.processId.toNat),
  ("process_name", .str s.processName),
  ("process_path", .str s.processPath),
  ("mode", .ofWord s.mode),
  ("symbols", .ofTable Symbol.toJson s.symbols),
  ("metadata", .ofTable .str s.metadata)]

def ofJson? (j : Json) : Option Session := do
  let fields ← j.fields?
  some {
    processId := ← Json.required fields "process_id" Json.uint32?
    processName := ← Json.defaulted fields "process_name" "" Json.str?
    processPath := ← Json.defaulted fields "process_path" "" Json.str?
    mode := ← Json.defaulted fields "mode" .unknown Json.word
    symbols := ← Json.defaulted fields "symbols" .empty (Json.table? Symbol.ofJson?)
    metadata := ← Json.defaulted fields "metadata" .empty (Json.table? Json.str?) }

end Session

/-- Whether a process is attached. -/
inductive Attachment where
  | attached (session : Session)
  | detached
  deriving DecidableEq

namespace Attachment

instance : Inhabited Attachment := ⟨.detached⟩

def ofOption : Option Session → Attachment
  | some s => .attached s
  | none => .detached

def session? : Attachment → Option Session
  | .attached s => some s
  | .detached => none

def isAttached (a : Attachment) : Bool := a.session?.isSome

/-- Without a session the mode is not known. -/
def mode (a : Attachment) : Mode := (a.session?.map (·.mode)).getD .unknown

/-- How the address of a symbol was found; an unreported symbol has no source. -/
def sourceOf (a : Attachment) (symbol : String) : SymbolSource :=
  ((a.session?.bind (·.symbol? symbol)).map (·.source)).getD .none

end Attachment

/-- Known entities by category. -/
structure EntityCatalog where
  categories : Table (List String)
  deriving DecidableEq

namespace EntityCatalog

def hasEntries (c : EntityCatalog) : Bool := c.categories.values.any fun names => !names.isEmpty

def toJson (c : EntityCatalog) : Json := .ofTable .ofNames c.categories

def ofJson? (j : Json) : Option EntityCatalog := (Json.table? Json.names? j).map EntityCatalog.mk

end EntityCatalog
end LiveControl
