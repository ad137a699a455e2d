import LiveControl.Execution.Request

namespace LiveControl

structure AuditRecord where
  profileId : String
  processId : UInt32
  action : String
  source : SymbolSource
  succeeded : Bool
  message : String
  diagnostics : Bag
  deriving DecidableEq

namespace AuditRecord

/-- The record of an outcome in an attached process. -/
def ofOutcome (profileId : String) (processId : UInt32) (action : String) (o : Outcome) : AuditRecord :=
  ⟨profileId, processId, action, o.source, o.succeeded, o.message, o.diagnostics⟩

def toJson (r : AuditRecord) : Json := .obj [
  ("profile_id", .str r.profileId),
  ("process_id", .ofNat r.processId.toNat),
  ("action_id", .str r.action),
  ("address_source", .ofWord r.source),
  ("succeeded", .bool r.succeeded),
  ("message", .str r.message),
  ("diagnostics", .ofBag r.diagnostics)]

end AuditRecord
end LiveControl
