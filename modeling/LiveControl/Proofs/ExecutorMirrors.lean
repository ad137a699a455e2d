import LiveControl.Extension.RoutedBackend
import LiveControl.Proofs.ActionCourse
import LiveControl.Proofs.RoutedEnvelope
import LiveControl.Proofs.RouterReports

namespace LiveControl

variable {σ τ : Type}

/-- The token as it looks from a part of the state, while the rest stays as it is. -/
def Token.within (p : Part σ τ) (s : σ) (t : Token σ) : Token τ := fun u =>
  ((t (p.set u s)).1, p.get (t (p.set u s)).2)

theorem Token.within_of_mirrors {p : Part σ τ} {t : Token σ} {plain : Token τ}
    (mirrors : Query.Mirrors t p.get plain) (s : σ) : t.within p s = plain := by
  funext u
  obtain ⟨answer, left⟩ := mirrors (p.set u s)
  rw [p.get_set] at answer left
  exact Prod.ext answer left

def Backend.on (p : Part σ τ) (b : Backend τ) : Backend σ where
  session := Query.on p b.session
  execute r cancel := fun s => Task.on p (b.execute r (cancel.within p s)) s
  read symbol type := Task.on p (b.read symbol type)

theorem Backend.on_left_keeps {υ : Type} (b : Backend σ) (r : ExecutionRequest) (cancel : Token (σ × υ)) :
    ((b.on .left).execute r cancel).Keeps Prod.snd :=
  fun s => Task.on_left_keeps (b.execute r (cancel.within .left s)) s

def PinService.on (p : Part σ τ) (pins : PinService τ) : PinService σ where
  pin symbol value := Task.on p (pins.pin symbol value)
  release symbol := Task.on p (pins.release symbol)
  releaseAll := Task.on p pins.releaseAll

def Runtime.map (view : σ → τ) (r : Runtime σ) : Runtime τ := ⟨r.telemetry, view r.world⟩

theorem Task.Mirrors.onWorld {α : Type} {t : Task σ α} {view : σ → τ} {plain : Task τ α}
    (mirrors : t.Mirrors view plain) :
    (Task.on Runtime.worldPart t).Mirrors (Runtime.map view) (Task.on Runtime.worldPart plain) := by
  intro r
  obtain ⟨ending, left⟩ := mirrors r.world
  rw [Task.ending_on, Task.leave_on, Task.ending_on, Task.leave_on]
  exact ⟨ending, congrArg (Runtime.mk r.telemetry) left⟩

theorem Query.Mirrors.onWorld {α : Type} {q : Query σ α} {view : σ → τ} {plain : Query τ α}
    (mirrors : q.Mirrors view plain) :
    (Query.on Runtime.worldPart q).Mirrors (Runtime.map view) (Query.on Runtime.worldPart plain) := by
  intro r
  obtain ⟨answer, left⟩ := mirrors r.world
  exact ⟨answer, congrArg (Runtime.mk r.telemetry) left⟩

namespace Executor

/-- The executor on a part of a larger world. -/
def on (p : Part σ τ) (e : Executor τ) : Executor σ where
  profiles id := Task.on p (e.profiles id)
  backend := e.backend.on p
  pins := e.pins.on p
  audit entry := Task.on p (e.audit entry)

/-- The executor with the router before its backend. -/
def through (e : Executor σ) (router : Router σ) : Executor σ :=
  { e with backend := router.routed e.backend }

/-- Seen through `view`, the collaborators of a call do just what those of the plain executor do, but whether
the audit fails is left open. -/
structure Mirrors (e : Executor σ) (view : σ → τ) (plain : Executor τ) : Prop where
  profiles : ∀ id, (e.profiles id).Mirrors view (plain.profiles id)
  session : e.backend.session.Mirrors view plain.backend.session
  backend : ∀ r {cancel : Token σ} {plainCancel : Token τ}, Query.Mirrors cancel view plainCancel →
    (e.backend.execute r cancel).Mirrors view (plain.backend.execute r plainCancel)
  pin : ∀ symbol value, (e.pins.pin symbol value).Mirrors view (plain.pins.pin symbol value)
  release : ∀ symbol, (e.pins.release symbol).Mirrors view (plain.pins.release symbol)
  audit : ∀ entry s, view ((e.audit entry).leave s) = (plain.audit entry).leave (view s)

namespace Mirrors

variable {e : Executor σ} {view : σ → τ} {plain : Executor τ} {cancel : Token σ} {plainCancel : Token τ}

theorem freeze (mirrors : e.Mirrors view plain) (symbol : String) (directive : PinDirective)
    (source : SymbolSource) :
    (e.freeze symbol directive source).Mirrors view (plain.freeze symbol directive source) := by
  cases directive with
  | pin value => exact (mirrors.pin symbol value).attempt.bind fun _ => Task.mirrors_pure _ view
  | release => exact (mirrors.release symbol).attempt.bind fun _ => Task.mirrors_pure _ view

theorem perform (mirrors : e.Mirrors view plain) (token : Query.Mirrors cancel view plainCancel)
    (profile : Profile) (call : ActionCall) (a : ActionSpec) (payload : Payload) (attachment : Attachment) :
    (e.perform profile call a payload attachment cancel).Mirrors view
      (plain.perform profile call a payload attachment plainCancel) := by
  cases payload with
  | freeze symbol directive => exact mirrors.freeze symbol directive _
  | memory | helper | sdk | codePatch =>
    refine (mirrors.backend _ token).settle.bind fun answer => ?_
    cases answer <;> exact Task.mirrors_pure _ view

theorem record (mirrors : e.Mirrors view plain) (profile : Profile) (a : ActionSpec) (attachment : Attachment)
    (outcome : Outcome) :
    (e.record profile a attachment outcome).Mirrors (Runtime.map view)
      (plain.record profile a attachment outcome) := by
  intro r
  rw [Task.ending_of_ok (record_eq ..), Task.leave_of_ok (record_eq ..), Task.ending_of_ok (record_eq ..),
    Task.leave_of_ok (record_eq ..)]
  refine ⟨rfl, ?_⟩
  cases attachment with
  | detached => rfl
  | attached session => exact congrArg (Runtime.mk _) (mirrors.audit _ r.world)

/-- What comes of a call does not depend on what is outside the view, nor on whether the audit fails. -/
theorem execute (mirrors : e.Mirrors view plain) (token : Query.Mirrors cancel view plainCancel)
    (call : ActionCall) :
    (e.execute call cancel).Mirrors (Runtime.map view) (plain.execute call plainCancel) := by
  refine (Token.check_mirrors token).onWorld.bind fun _ => (mirrors.profiles _).onWorld.bind fun profile => ?_
  cases screen profile call with
  | error refusal => exact Task.mirrors_pure _ _
  | ok admitted =>
    obtain ⟨a, payload⟩ := admitted
    exact mirrors.session.onWorld.task.bind fun attachment =>
      (mirrors.perform token profile call a payload attachment).onWorld.bind fun outcome =>
        (mirrors.record profile a attachment _).bind fun _ => Task.mirrors_pure _ _

theorem through {router : Router σ} {plainRouter : Router τ} (mirrors : e.Mirrors view plain)
    (routes : router.Mirrors view plainRouter) : (e.through router).Mirrors view (plain.through plainRouter) :=
  { mirrors with
    backend := by
      intro r cancel plainCancel token
      cases payload : r.payload with
      | sdk arguments =>
        show ((router.routed e.backend).execute r cancel).Mirrors view
          ((plainRouter.routed plain.backend).execute r plainCancel)
        rw [Router.routed_of_sdk router _ payload, Router.routed_of_sdk plainRouter _ payload]
        exact mirrors.session.task.bind fun _ => (routes.route _ token).bind fun _ => Task.mirrors_pure _ view
      | memory | freeze | helper | codePatch =>
        have other : r.payload.kind ≠ .sdk := by rw [payload]; nofun
        show ((router.routed e.backend).execute r cancel).Mirrors view
          ((plainRouter.routed plain.backend).execute r plainCancel)
        rw [Router.routed_of_other router _ other, Router.routed_of_other plainRouter _ other]
        exact mirrors.backend r token }

end Mirrors

theorem mirrors_on (p : Part σ τ) (e : Executor τ) : (e.on p).Mirrors p.get e where
  profiles _ := Task.mirrors_on p _
  session := Query.mirrors_on p _
  backend r cancel plainCancel token := by
    intro s
    show (Task.on p (e.backend.execute r (cancel.within p s))).ending s = _ ∧
      p.get ((Task.on p (e.backend.execute r (cancel.within p s))).leave s) = _
    rw [Token.within_of_mirrors token]
    exact Task.mirrors_on p _ s
  pin _ _ := Task.mirrors_on p _
  release _ := Task.mirrors_on p _
  audit _ s := (Task.mirrors_on p _ s).2

end Executor
end LiveControl
