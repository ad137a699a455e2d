import LiveControl.Proofs.Keeping
import LiveControl.DryRun
import LiveControl.Extension.RoutedBackend

namespace LiveControl

variable {σ : Type} {r : ExecutionRequest} {cancel : Token σ} {s : σ}

theorem DryRun.execute_of_unfired (part : Part σ DryRun) (unfired : (cancel s).1 = false) :
    (DryRun.backend part).execute r cancel s = .ok (DryRun.request r (part.get (cancel s).2)).1
      (part.set (DryRun.request r (part.get (cancel s).2)).2 (cancel s).2) := by
  show (cancel.check >>= fun _ => Query.task (Query.on part (DryRun.request r))) s = _
  rw [Task.bind_of_ok (Token.check_of_unfired unfired), Query.task_apply]
  rfl

/-- A dry run refuses an unfit request once the token has been asked, and does nothing else. -/
theorem DryRun.execute_of_flaw (part : Part σ DryRun) {flaw : ExecutionRequest.EnvelopeFlaw}
    (flawed : r.envelopeFlaw? = some flaw) (unfired : (cancel s).1 = false) :
    (DryRun.backend part).execute r cancel s = .ok flaw.outcome (cancel s).2 := by
  have refused : DryRun.request r (part.get (cancel s).2) = (flaw.outcome, part.get (cancel s).2) := by
    rw [DryRun.request, flawed]
  rw [DryRun.execute_of_unfired part unfired, refused, part.set_get]

namespace Router

/-- The reasons of the extension path are none of those for which an envelope is refused. -/
theorem outcomeOf_ne_flaw (result : OperationResult) (flaw : ExecutionRequest.EnvelopeFlaw) :
    outcomeOf result ≠ flaw.outcome := by
  intro same
  have reasons : some result.reason.text = flaw.outcome.reason := congrArg Outcome.reason same
  cases flaw <;> cases h : result.reason <;> rw [h] at reasons <;>
    exact absurd reasons (by simp [ExtensionReason.text, ExecutionRequest.EnvelopeFlaw.outcome,
      Outcome.failure, Outcome.withDiagnostic])

theorem routed_of_sdk (router : Router σ) (raw : Backend σ) {arguments : Bag}
    (extension : r.payload = .sdk arguments) :
    (router.routed raw).execute r cancel = (do
      let attachment ← raw.session.task
      let result ← router.route (operationRequest attachment r arguments) cancel
      pure (outcomeOf result)) := by
  simp only [routed, extension]

theorem routed_of_other (router : Router σ) (raw : Backend σ) (other : r.payload.kind ≠ .sdk) :
    (router.routed raw).execute r cancel = raw.execute r cancel := by
  cases payload : r.payload with
  | sdk arguments =>
    rw [payload] at other
    exact absurd rfl other
  | memory | freeze | helper | codePatch => simp only [routed, payload]

/-- What comes through the router has a reason of the extension path. -/
theorem outcome_of_routed_sdk {router : Router σ} {raw : Backend σ} {arguments : Bag}
    (extension : r.payload = .sdk arguments) {outcome : Outcome} {s' : σ}
    (run : (router.routed raw).execute r cancel s = .ok outcome s') : ∃ result, outcome = outcomeOf result := by
  rw [routed_of_sdk router raw extension] at run
  obtain ⟨attachment, s₁, -, routed⟩ := Task.bind_eq_ok run
  obtain ⟨result, s₂, -, ended⟩ := Task.bind_eq_ok routed
  cases ended
  exact ⟨result, rfl⟩

/-- Behind the router an unfit request is refused as such, with nothing done but asking the token, exactly
when its payload is not one for the extension path. -/
theorem routed_refuses_iff (router : Router σ) (part : Part σ DryRun)
    {flaw : ExecutionRequest.EnvelopeFlaw} (flawed : r.envelopeFlaw? = some flaw)
    (unfired : (cancel s).1 = false) :
    (router.routed (DryRun.backend part)).execute r cancel s = .ok flaw.outcome (cancel s).2 ↔
      r.payload.kind ≠ .sdk := by
  constructor
  · intro run extension
    cases payload : r.payload with
    | sdk arguments =>
      obtain ⟨result, same⟩ := outcome_of_routed_sdk payload run
      exact outcomeOf_ne_flaw result flaw same.symm
    | memory | freeze | helper | codePatch =>
      rw [payload] at extension
      cases extension
  · intro other
    rw [routed_of_other router _ other]
    exact DryRun.execute_of_flaw part flawed unfired

/-- A dry run with the list of what was reported to the sink of a router. -/
def reportedPart : Part (DryRun × List OperationRequest) DryRun where
  get := Prod.fst
  set d s := (d, s.2)

/-- A router whose path is closed, as it is without the switch in the environment. -/
def closed : Router (DryRun × List OperationRequest) where
  gate := Query.const false
  variants profile := throw (.profileNotFound profile)
  fingerprints path _ := throw (.backend path)
  capabilities _ _ operation _ := throw (.backend operation)
  guard _ _ := Query.const ⟨false, .capabilityUnknown⟩
  backend r := throw (.backend r.operation)
  sink r _ := fun s => .ok () (s.1, s.2 ++ [r])

def foreignRequest (payload : Payload) : ExecutionRequest :=
  ⟨"drill", .plain "list_selected" payload.kind, payload, 2, .tactical, .empty⟩

theorem routed_refuses_foreign_write :
    (closed.routed (DryRun.backend reportedPart)).execute
        (foreignRequest (.memory "selected_hp" (.float 1.0))) .never (.start .detached, []) =
      .ok (ExecutionRequest.EnvelopeFlaw.version 2).outcome (.start .detached, []) :=
  (routed_refuses_iff closed reportedPart rfl rfl).2 nofun

/-- A request for the extension path in the forms of another version is not refused: it reaches the router,
is reported to the sink, and comes back with what the router says of it. -/
theorem routed_passes_foreign_operation :
    (foreignRequest (.sdk .empty)).envelopeFlaw? = some (.version 2) ∧
      (closed.routed (DryRun.backend reportedPart)).execute (foreignRequest (.sdk .empty)) .never
          (.start .detached, []) =
        .ok (outcomeOf (Refusal.result .gateClosed)) (.start .detached,
          [operationRequest .detached (foreignRequest (.sdk .empty)) .empty]) ∧
      outcomeOf (Refusal.result .gateClosed) ≠ (ExecutionRequest.EnvelopeFlaw.version 2).outcome :=
  ⟨rfl, rfl, outcomeOf_ne_flaw _ _⟩

end Router
end LiveControl
