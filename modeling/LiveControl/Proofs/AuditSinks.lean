import LiveControl.Proofs.ExecutionAudit
import LiveControl.Proofs.UnitVisits

namespace LiveControl

open Executor (Event)

variable {σ τ α β ε ε' : Type}

theorem Task.on_right_keeps (t : Task α β) : (Task.on (.right : Part (σ × α) α) t).Keeps Prod.fst :=
  fun s => by rw [Task.leave_on]; rfl

/-- A token that another mirrors is mirrored beside a journal too. -/
theorem Token.within_mirrors {view : σ → τ} {mask : List ε → List ε'} {t : Token (σ × List ε)}
    {plain : Token (τ × List ε')} (mirrors : Query.Mirrors t (Prod.map view mask) plain) (s : σ × List ε) :
    Query.Mirrors (t.within .left s) view (plain.within .left (Prod.map view mask s)) := by
  intro u
  obtain ⟨answer, left⟩ := mirrors (u, s.2)
  exact ⟨answer, congrArg Prod.fst left⟩

namespace Executor

/-- What is asked, but not how the audit answers. -/
def Event.masked : Event → Event
  | .audit entry _ => .audit entry (.ok ())
  | event => event

/-- The executor with an audit that has a state of its own beside the world. -/
def auditedBy (e : Executor σ) (sink : AuditRecord → Task α Unit) : Executor (σ × α) :=
  { e.on .left with audit := fun entry => Task.on .right (sink entry) }

/-- The executor with an audit that never fails and does nothing. -/
def unaudited (e : Executor σ) : Executor σ := { e with audit := fun _ => pure () }

section

variable (e : Executor σ) (sink : AuditRecord → Task α Unit)

theorem mirrors_auditedBy : (e.auditedBy sink).Mirrors Prod.fst e.unaudited :=
  { e.mirrors_on .left with audit := fun entry => Task.on_right_keeps (sink entry) }

/-- Under the mask, the notes of an executor with an audit are those of one without. -/
theorem mirrors_watched_auditedBy :
    (e.auditedBy sink).watched.Mirrors (Prod.map Prod.fst (List.map Event.masked)) e.unaudited.watched where
  profiles id := ((mirrors_auditedBy e sink).profiles id).noted_masked fun _ => rfl
  session := (mirrors_auditedBy e sink).session.noted_masked fun _ => rfl
  backend r _ _ token s :=
    ((mirrors_auditedBy e sink).backend r (Token.within_mirrors token s)).noted_masked (fun _ => rfl) s
  pin symbol value := ((mirrors_auditedBy e sink).pin symbol value).noted_masked fun _ => rfl
  release symbol := ((mirrors_auditedBy e sink).release symbol).noted_masked fun _ => rfl
  audit entry s := by
    show Prod.map Prod.fst (List.map Event.masked)
        (((Task.on .right (sink entry)).noted (Event.audit entry)).leave s) =
      ((pure () : Task σ Unit).noted (Event.audit entry)).leave (Prod.map Prod.fst (List.map Event.masked) s)
    rw [Task.leave_noted, Task.leave_noted]
    exact Prod.ext (Task.on_right_keeps (sink entry) s.1) List.map_append

end

/-- The occasion, beside a state that is left alone in between. -/
def Occasion.beside (o : Occasion σ) : Occasion (σ × α) :=
  ⟨Prod.map o.meanwhile id, o.call, Query.on .left o.cancel⟩

def Execution.masked (x : Execution) : Execution := { x with events := x.events.map Event.masked }

section

variable (e : Executor σ) (sink : AuditRecord → Task α Unit)

theorem asked_auditedBy (call : ActionCall) (cancel : Token σ) (r : Runtime (σ × α)) :
    ((e.auditedBy sink).asked call (Query.on .left cancel) r).map Event.masked =
      e.unaudited.asked call cancel (r.map Prod.fst) := by
  have token : Query.Mirrors (Query.on .left (Query.on .left cancel) : Token ((σ × α) × List Event))
      (Prod.map Prod.fst (List.map Event.masked)) (Query.on .left cancel) := fun _ => ⟨rfl, rfl⟩
  have left := ((mirrors_watched_auditedBy e sink).execute token call ⟨r.telemetry, (r.world, [])⟩).2
  exact congrArg (·.world.2) left

/-- Whatever the audit does, a run is the one without an audit, call by call and in what it leaves. -/
theorem runs_auditedBy (occasions : List (Occasion σ)) (r : Runtime (σ × α)) :
    ((e.auditedBy sink).executions (occasions.map Occasion.beside) r).map Execution.masked =
        e.unaudited.executions occasions (r.map Prod.fst) ∧
      ((e.auditedBy sink).afterAll (occasions.map Occasion.beside) r).map Prod.fst =
        e.unaudited.afterAll occasions (r.map Prod.fst) := by
  induction occasions generalizing r with
  | nil => exact ⟨rfl, rfl⟩
  | cons o rest ih =>
    obtain ⟨ending, left⟩ := (mirrors_auditedBy e sink).execute (Query.mirrors_on .left o.cancel) o.call
      (o.beside.now r)
    let next := ((e.auditedBy sink).execute o.call (Query.on .left o.cancel)).leave (o.beside.now r)
    obtain ⟨later, after⟩ := ih next
    rw [left] at later after
    refine ⟨congrArg₂ List.cons ?_ later, after⟩
    have asked := asked_auditedBy e sink o.call o.cancel (o.beside.now r)
    have counted := congrArg Runtime.telemetry left
    show Execution.mk _ _ _ _ _ = Execution.mk _ _ _ _ _
    congr 1

end
end Executor

namespace UnitEditor

open Executor (Event.masked)

/-- The editor whose executor has an audit with a state of its own beside the world. -/
def auditedBy (e : UnitEditor σ) (sink : AuditRecord → Task α Unit) : UnitEditor (σ × α) where
  executor := e.executor.auditedBy sink
  profileId := e.profileId
  policy := e.policy
  freshId := Query.on .left e.freshId

def unaudited (e : UnitEditor σ) : UnitEditor σ := { e with executor := e.executor.unaudited }

section

variable (e : UnitEditor σ) (sink : AuditRecord → Task α Unit)

theorem mirrors_auditedBy : (e.auditedBy sink).Mirrors Prod.fst e.unaudited where
  executor := e.executor.mirrors_auditedBy sink
  read _ _ := Task.mirrors_on .left _
  profileId := rfl
  policy := rfl
  freshId := Query.mirrors_on .left _

theorem mirrors_watched_auditedBy :
    (e.auditedBy sink).watched.Mirrors (Prod.map Prod.fst (List.map Event.masked)) e.unaudited.watched where
  executor := e.executor.mirrors_watched_auditedBy sink
  read symbol type := ((mirrors_auditedBy e sink).read symbol type).noted_masked fun _ => rfl
  profileId := rfl
  policy := rfl
  freshId _ := ⟨rfl, rfl⟩

end

/-- The occasion, beside a state that is left alone in between. -/
def Occasion.beside (o : Occasion σ) : Occasion (σ × α) where
  meanwhile r :=
    let changed := o.meanwhile (r.map Prod.fst)
    ⟨changed.telemetry, (changed.world, r.world.2)⟩
  call := o.call
  cancel := Query.on .left o.cancel

def Visit.masked (x : Visit) : Visit := { x with events := x.events.map Event.masked }

section

variable (e : UnitEditor σ) (sink : AuditRecord → Task α Unit)

theorem asked_auditedBy (cancel : Token σ) (c : UnitCall) (d : UnitDesk (σ × α)) :
    ((e.auditedBy sink).asked (Query.on .left cancel) c d).map Event.masked =
      e.unaudited.asked cancel c (d.map Prod.fst) := by
  have token : Query.Mirrors (Query.on .left (Query.on .left cancel) : Token ((σ × α) × List Event))
      (Prod.map Prod.fst (List.map Event.masked)) (Query.on .left cancel) := fun _ => ⟨rfl, rfl⟩
  have left := ((mirrors_watched_auditedBy e sink).call token c
    ⟨d.baseline, d.history, ⟨d.runtime.telemetry, (d.runtime.world, [])⟩⟩).2
  exact congrArg UnitDesk.journal left

/-- Whatever the audit does, edits are those without an audit, call by call and in what they leave. -/
theorem runs_auditedBy (occasions : List (Occasion σ)) (d : UnitDesk (σ × α)) :
    ((e.auditedBy sink).visits (occasions.map Occasion.beside) d).map Visit.masked =
        e.unaudited.visits occasions (d.map Prod.fst) ∧
      ((e.auditedBy sink).afterAll (occasions.map Occasion.beside) d).map Prod.fst =
        e.unaudited.afterAll occasions (d.map Prod.fst) := by
  induction occasions generalizing d with
  | nil => exact ⟨rfl, rfl⟩
  | cons o rest ih =>
    obtain ⟨ending, left⟩ := (mirrors_auditedBy e sink).call (Query.mirrors_on .left o.cancel) o.call
      (o.beside.now d)
    let next := ((e.auditedBy sink).call (Query.on .left o.cancel) o.call).leave (o.beside.now d)
    obtain ⟨later, after⟩ := ih next
    rw [left] at later after
    refine ⟨congrArg₂ List.cons ?_ later, after⟩
    have asked := asked_auditedBy e sink o.cancel o.call (o.beside.now d)
    have kept := congrArg UnitDesk.ledger left
    show Visit.mk _ _ _ _ _ = Visit.mk _ _ _ _ _
    congr 1

end
end UnitEditor

/-- Two audits that do different things, and fail at different writes, cannot be told apart by anything but
themselves. However often actions are executed, and whatever becomes of the world in between, both runs give
the same answers call by call, ask the backend, the pins and the profiles the same things in the same order
and with the same answers, ask for the same entries to be written, and leave the same counters and the same
world. The same holds of the calls of a unit editor, which in the end remembers the same. -/
theorem audits_indistinguishable (first : AuditRecord → Task α Unit) (second : AuditRecord → Task β Unit) :
    (∀ (e : Executor σ) (occasions : List (Executor.Occasion σ)) (t : Telemetry) (world : σ) (a : α) (b : β),
      ((e.auditedBy first).executions (occasions.map .beside) ⟨t, (world, a)⟩).map Executor.Execution.masked =
          ((e.auditedBy second).executions (occasions.map .beside) ⟨t, (world, b)⟩).map
            Executor.Execution.masked ∧
        ((e.auditedBy first).afterAll (occasions.map .beside) ⟨t, (world, a)⟩).map Prod.fst =
          ((e.auditedBy second).afterAll (occasions.map .beside) ⟨t, (world, b)⟩).map Prod.fst) ∧
    ∀ (e : UnitEditor σ) (occasions : List (UnitEditor.Occasion σ)) (baseline : Option UnitSnapshot)
        (history : UnitHistory) (t : Telemetry) (world : σ) (a : α) (b : β),
      ((e.auditedBy first).visits (occasions.map .beside) ⟨baseline, history, ⟨t, (world, a)⟩⟩).map
            UnitEditor.Visit.masked =
          ((e.auditedBy second).visits (occasions.map .beside) ⟨baseline, history, ⟨t, (world, b)⟩⟩).map
            UnitEditor.Visit.masked ∧
        ((e.auditedBy first).afterAll (occasions.map .beside) ⟨baseline, history, ⟨t, (world, a)⟩⟩).map Prod.fst =
          ((e.auditedBy second).afterAll (occasions.map .beside) ⟨baseline, history, ⟨t, (world, b)⟩⟩).map
            Prod.fst := by
  constructor
  · intro e occasions t world a b
    obtain ⟨executions, after⟩ := e.runs_auditedBy first occasions ⟨t, (world, a)⟩
    obtain ⟨executions', after'⟩ := e.runs_auditedBy second occasions ⟨t, (world, b)⟩
    exact ⟨executions.trans executions'.symm, after.trans after'.symm⟩
  · intro e occasions baseline history t world a b
    obtain ⟨visits, after⟩ := e.runs_auditedBy first occasions ⟨baseline, history, ⟨t, (world, a)⟩⟩
    obtain ⟨visits', after'⟩ := e.runs_auditedBy second occasions ⟨baseline, history, ⟨t, (world, b)⟩⟩
    exact ⟨visits.trans visits'.symm, after.trans after'.symm⟩

end LiveControl
