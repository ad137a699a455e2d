import LiveControl.DryRun
import LiveControl.Extension.Extender
import LiveControl.Extension.RoutedBackend
import LiveControl.Pins
import LiveControl.UnitSheet.Editor

namespace LiveControl.Rehearsal

/-- What becomes of records that are written down. -/
inductive Keeping where
  | kept
  | dropped
  | failing
  deriving DecidableEq

/-- What stands behind the router. -/
inductive OperationServer where
  | extender
  | accepting
  | failing (fault : Fault)
  deriving DecidableEq

/-- How variants are resolved. -/
inductive VariantServer where
  | asRequested
  | fixed (resolved : String) (confidence : Float)
  | failing (fault : Fault)
  deriving DecidableEq

/-- What is on the stage before the first turn, and how its collaborators behave. -/
structure Setup where
  attachment : Attachment
  profiles : List Profile
  policy : Policy
  /-- The profile of unit edits. -/
  unitProfile : String
  values : List (String × Scalar)
  /-- Whether the router stands in front of the dry run. -/
  routed : Bool
  gateOpen : Bool
  capabilities : CapabilityMap
  /-- The bytes of every binary; without them binaries are read from files. -/
  binary : Option (List UInt8)
  files : Files
  audit : Keeping
  sink : Keeping
  pinsFail : Bool
  /-- What the guard always says, if it does not look at the capability. -/
  guard : Option Bool
  /-- The faults with which the backend answers for some actions. -/
  backendFaults : Table Fault
  operations : OperationServer
  variants : VariantServer
  /-- Whether resolving a variant cancels the turn. -/
  variantsCancel : Bool
  capabilityFault : Option Fault

/-- Everything that a rehearsal can change, the turn's token included. -/
structure World where
  dryRun : DryRun
  pins : Pins
  extender : Extender
  audit : List AuditRecord
  sink : List (OperationRequest × OperationResult)
  cancelled : Bool
  /-- The size of the write log at which a successful request cancels the turn. -/
  writeLimit : Option Nat
  /-- The number of reads at which a read cancels the turn. -/
  readLimit : Option Nat
  /-- The reads of this turn. -/
  reads : Nat
  /-- The ids given to edits so far. -/
  edits : Nat

namespace World

def start (setup : Setup) : World where
  dryRun := setup.values.foldl (fun d v => d.setValue v.1 v.2) (.start setup.attachment)
  pins := .empty
  extender := .load Plugin.shipped
  audit := []
  sink := []
  cancelled := false
  writeLimit := none
  readLimit := none
  reads := 0
  edits := 0

def dryRunPart : Part World DryRun where
  get := World.dryRun
  set d w := { w with dryRun := d }

def pinsPart : Part World Pins where
  get := World.pins
  set p w := { w with pins := p }

def extenderPart : Part World Extender where
  get := World.extender
  set x w := { w with extender := x }

/-- The token of the turn. -/
def token : Token World := fun w => (w.cancelled, w)

def cancelIf (fired : Bool) (w : World) : World := { w with cancelled := w.cancelled || fired }

def noteRequest (w : World) : World :=
  w.cancelIf (w.writeLimit.any fun n => n ≤ w.dryRun.writes.length)

def noteRead (w : World) : World :=
  let w := { w with reads := w.reads + 1 }
  w.cancelIf (w.readLimit.any fun n => n ≤ w.reads)

/-- An id that no edit had before. -/
def freshId : Query World String := fun w =>
  ("edit-" ++ toString (w.edits + 1), { w with edits := w.edits + 1 })

/-- Writes a record down by `keep`, or not, or fails. -/
def store (keeping : Keeping) (keep : World → World) : Task World Unit :=
  match keeping with
  | .kept => Task.change .whole keep
  | .dropped => pure ()
  | .failing => throw (.backend "record refused")

end World

namespace Setup

def router (setup : Setup) : Router World where
  gate := Query.const setup.gateOpen
  variants profileId := do
    Task.change .whole (World.cancelIf setup.variantsCancel)
    match setup.variants with
    | .asRequested => pure (.asRequested profileId)
    | .fixed resolved confidence => pure ⟨profileId, resolved, "scripted", confidence⟩
    | .failing fault => throw fault
  fingerprints path processId :=
    match setup.binary with
    | some bytes => pure (.ofBytes path bytes processId)
    | none => Fingerprint.fileService setup.files path processId
  capabilities fingerprint variant operation anchors :=
    match setup.capabilityFault with
    | some fault => throw fault
    | none => pure (setup.capabilities.lookup fingerprint variant operation anchors)
  guard capability isMutation :=
    match setup.guard with
    | some allowed => Query.const ⟨allowed, capability.reason⟩
    | none => Query.const (.ofCapability capability isMutation)
  backend r :=
    match setup.operations with
    | .extender => Extender.backend World.extenderPart r
    | .accepting => pure (.success "accepted" .probePass .verified)
    | .failing fault => throw fault
  sink r result := World.store setup.sink fun w => { w with sink := w.sink ++ [(r, result)] }

/-- The backend without its scripted faults. -/
def plainBackend (setup : Setup) : Backend World :=
  let raw := DryRun.backend World.dryRunPart
  if setup.routed then setup.router.routed raw else raw

def backend (setup : Setup) : Backend World where
  session := setup.plainBackend.session
  execute r cancel :=
    match setup.backendFaults.get? r.action.id with
    | some fault => throw fault
    | none => do
      let outcome ← setup.plainBackend.execute r cancel
      Task.change .whole World.noteRequest
      pure outcome
  read symbol type := do
    let value ← Task.attempt (setup.plainBackend.read symbol type)
    Task.change .whole World.noteRead
    Task.ofExcept value

def pins (setup : Setup) : PinService World :=
  if setup.pinsFail then {
    pin _ _ := throw (.backend "freeze table full")
    release _ := throw (.backend "freeze table locked")
    releaseAll := pure 0 }
  else Pins.service World.pinsPart

def executor (setup : Setup) : Executor World where
  profiles id := Task.ofExcept ((ProfileShelf.ofList setup.profiles).find id)
  backend := setup.backend
  pins := setup.pins
  audit entry := World.store setup.audit fun w => { w with audit := w.audit ++ [entry] }

def editor (setup : Setup) : UnitEditor World where
  executor := setup.executor
  profileId := setup.unitProfile
  policy := setup.policy
  freshId := World.freshId

/-- The desk before the first turn. -/
def desk (setup : Setup) : UnitDesk World := ⟨none, .empty, ⟨.empty, .start setup⟩⟩

end Setup
end LiveControl.Rehearsal
