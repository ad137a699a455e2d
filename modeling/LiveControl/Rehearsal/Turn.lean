import LiveControl.Rehearsal.Stage

namespace LiveControl.Rehearsal

inductive Step where
  | execute (call : ActionCall)
  | request (r : ExecutionRequest)
  | envelope (r : ExecutionRequest)
  | route (r : OperationRequest)
  | stages
  | read (symbol : String) (type : ValueType)
  | setValue (symbol : String) (value : Scalar)
  | failAfter (symbol : String) (allowed : Nat)
  | clearFailures
  | capture
  | apply (draft : UnitDraft)
  | revertLast
  | restoreBaseline
  | reset
  | releaseAll
  | hook (feature : String)
  | rollBackAll
  deriving DecidableEq

/-- Whether a step is one of the unit editor. -/
def Step.isEdit : Step → Bool
  | .capture | .apply _ | .revertLast | .restoreBaseline | .reset => true
  | _ => false

structure Turn where
  step : Step
  /-- Whether the token has fired before the turn begins. -/
  cancelled : Bool
  writeLimit : Option Nat
  readLimit : Option Nat
  deriving DecidableEq

inductive Answer where
  | done
  | outcome (o : Outcome)
  | envelope (o : Option Outcome)
  | result (r : OperationResult)
  | stages (stages : List Router.Stage)
  | scalar (value : Scalar)
  | snapshot (s : UnitSnapshot)
  | edit (o : UnitOutcome)
  | count (n : Nat)
  | hook (r : HookRecord)
  | hooks (ids : List String)
  deriving DecidableEq

abbrev Desk := UnitDesk World

/-- A task of the collaborators, at the desk. -/
def atWorld {α : Type} (t : Task World α) : Task Desk α :=
  Task.on UnitDesk.runtimePart (Task.on Runtime.worldPart t)

/-- A change of the dry run, at the desk. -/
def changeDryRun (f : DryRun → DryRun) : Task Desk Answer := do
  atWorld (Task.change World.dryRunPart f)
  pure .done

/-- What a step does. -/
def perform (setup : Setup) : Step → Task Desk Answer
  | .execute call => Answer.outcome <$>
      Task.on UnitDesk.runtimePart (setup.executor.execute call World.token)
  | .request r => Answer.outcome <$> atWorld (setup.backend.execute r World.token)
  | .envelope r => pure (.envelope (r.envelopeFlaw?.map ExecutionRequest.EnvelopeFlaw.outcome))
  | .route r => Answer.result <$> atWorld (setup.router.route r World.token)
  | .stages => pure (.stages Router.stages)
  | .read symbol type => Answer.scalar <$> atWorld (setup.backend.read symbol type)
  | .setValue symbol value => changeDryRun fun d => d.setValue symbol value
  | .failAfter symbol allowed => changeDryRun fun d => d.failAfter symbol allowed
  | .clearFailures => changeDryRun DryRun.clearFailures
  | .capture => Answer.snapshot <$> setup.editor.capture World.token
  | .apply draft => Answer.edit <$> setup.editor.apply draft World.token
  | .revertLast => Answer.edit <$> setup.editor.revertLast World.token
  | .restoreBaseline => Answer.edit <$> setup.editor.restoreBaseline World.token
  | .reset => do
    UnitEditor.reset
    pure .done
  | .releaseAll => Answer.count <$> atWorld setup.pins.releaseAll
  | .hook feature => atWorld
      (Query.task (Query.on World.extenderPart fun x => (.hook (x.hook feature), x)))
  | .rollBackAll => Answer.hooks <$> atWorld
      (Query.task (Query.on World.extenderPart Extender.rollBackAll))

/-- The answer of a turn, and what it added to the logs. -/
structure TurnReport where
  answer : Except Fault Answer
  writes : List WriteRecord
  audit : List AuditRecord
  sink : List (OperationRequest × OperationResult)
  /-- The operations in the history and the baseline, after a step of the unit editor. -/
  desk : Option (List UnitOperation × Option UnitSnapshot)

/-- The world with the token and the limits of a turn. -/
def World.begin (w : World) (turn : Turn) : World :=
  { w with
    cancelled := turn.cancelled
    writeLimit := turn.writeLimit
    readLimit := turn.readLimit
    reads := 0 }

def begin (d : Desk) (turn : Turn) : Desk :=
  { d with runtime := { d.runtime with world := d.runtime.world.begin turn } }

/-- Takes a turn. -/
def take (setup : Setup) (turn : Turn) : Query Desk TurnReport := fun before =>
  let (answer, after) := match perform setup turn.step (begin before turn) with
    | .ok answer d => (Except.ok answer, d)
    | .error fault d => (Except.error fault, d)
  let old := before.runtime.world
  let new := after.runtime.world
  ({ answer := answer
     writes := new.dryRun.writes.drop old.dryRun.writes.length
     audit := new.audit.drop old.audit.length
     sink := new.sink.drop old.sink.length
     desk := if turn.step.isEdit then
       some (after.history.records.map UnitRecord.operation, after.baseline) else none }, after)

/-- Takes turns one after the other. -/
def takeAll (setup : Setup) : List Turn → Query Desk (List TurnReport)
  | [], d => ([], d)
  | turn :: rest, d =>
    let (report, d) := take setup turn d
    let (reports, d) := takeAll setup rest d
    (report :: reports, d)

/-- The values to show at the end: of the symbols given at the start and of those written to. -/
def finalValues (setup : Setup) (d : Desk) : Table Scalar :=
  let run := d.runtime.world.dryRun
  let shown := NameSet.ofList (setup.values.map Prod.fst ++ run.writes.map WriteRecord.symbol)
  .ofList (shown.toList.filterMap fun symbol => (run.value? symbol).map fun v => (symbol, v))

/-- A whole rehearsal, from the first turn to the state at the end. -/
def run (setup : Setup) (turns : List Turn) : List TurnReport × Desk := takeAll setup turns setup.desk

end LiveControl.Rehearsal
