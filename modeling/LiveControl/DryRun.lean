import LiveControl.Execution.Backend

namespace LiveControl

/-- A write that reached the table. -/
structure WriteRecord where
  action : String
  symbol : String
  value : Scalar
  deriving DecidableEq

structure DryRun where
  attachment : Attachment
  values : Table Scalar
  /-- The writes that reached the table, oldest first. -/
  writes : List WriteRecord
  /-- For each failing symbol the number of writes that still succeed. -/
  failing : Table Nat
  deriving DecidableEq

namespace DryRun

def start (attachment : Attachment) : DryRun := ⟨attachment, .empty, [], .empty⟩

def setValue (d : DryRun) (symbol : String) (value : Scalar) : DryRun :=
  { d with values := d.values.insert symbol value }

def value? (d : DryRun) (symbol : String) : Option Scalar := d.values.get? symbol

/-- Lets `allowed` more writes to a symbol succeed and all later ones fail. -/
def failAfter (d : DryRun) (symbol : String) (allowed : Nat) : DryRun :=
  { d with failing := d.failing.insert symbol allowed }

def clearFailures (d : DryRun) : DryRun := { d with failing := .empty }

/-- A write to a symbol: the outcome, and the run after it. -/
def write (d : DryRun) (action symbol : String) (value : Scalar) : Outcome × DryRun :=
  let source := d.attachment.sourceOf symbol
  match d.failing.get? symbol with
  | some 0 =>
    ((Outcome.failure ("write to '" ++ symbol ++ "' failed") "write_failed").withSource source, d)
  | budget =>
    let failing := match budget with
      | some allowed => d.failing.insert symbol (allowed - 1)
      | none => d.failing
    let done : Outcome :=
      ((Outcome.success ("'" ++ symbol ++ "' set to " ++ value.text)).withSource source).withDiagnostic
        "symbol" (.str symbol)
    (done, { d with
      values := d.values.insert symbol value
      writes := d.writes ++ [⟨action, symbol, value⟩]
      failing := failing })

/-- What a fit request does. Pins and extension operations belong elsewhere. -/
def perform (d : DryRun) (r : ExecutionRequest) : Outcome × DryRun :=
  match r.payload with
  | .memory symbol value => d.write r.action.id symbol value
  | .codePatch symbol enable => d.write r.action.id symbol (.bool enable)
  | .helper hook _ _ => (.success ("helper '" ++ hook.getD r.action.id ++ "' accepted"), d)
  | .freeze .. =>
    (.failure "freeze actions are handled by the orchestrator" "freeze_not_routed", d)
  | .sdk .. => (.failure "sdk actions require a routed backend" "sdk_not_routed", d)

/-- A request to a dry run. An unfit one is refused before anything is done. -/
def request (r : ExecutionRequest) : Query DryRun Outcome := fun d =>
  match r.envelopeFlaw? with
  | some flaw => (flaw.outcome, d)
  | none => d.perform r

/-- The value of a symbol; the declared type is not looked at. -/
def read (symbol : String) : Task DryRun Scalar := fun d =>
  match d.value? symbol with
  | some value => .ok value d
  | none => .error (.backend ("symbol '" ++ symbol ++ "' has no value")) d

/-- A dry run within a larger state, as its backend. -/
def backend {σ : Type} (part : Part σ DryRun) : Backend σ where
  session := Query.on part fun d => (d.attachment, d)
  execute r cancel := do
    cancel.check
    Query.task (Query.on part (request r))
  read symbol _ := Task.on part (read symbol)

end DryRun
end LiveControl
