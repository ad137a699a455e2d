import LiveControl.Proofs.ExecutionAudit
import LiveControl.Proofs.ExecutionChecks
import LiveControl.Proofs.ReceivedOperations

namespace LiveControl

variable {σ τ ε : Type}

namespace Executor

/-- What holds of all that is noted by the collaborators of a call, as far as they are asked, holds of all that
is noted during the call. Orders are only those that the checks let through. -/
theorem execute_notes {e : Executor (σ × List ε)} {call : ActionCall} {cancel : Token (σ × List ε)} {P : ε → Prop}
    (token : cancel.check.Notes P) (profiles : ∀ id, (e.profiles id).Notes P)
    (session : e.backend.session.task.Notes P)
    (order : ∀ {profile a payload}, screen profile call = .ok (a, payload) → payload.kind ≠ .freeze →
      (e.backend.execute (requestOf profile call a payload) cancel).Notes P)
    (pin : ∀ symbol value, (e.pins.pin symbol value).Notes P)
    (release : ∀ symbol, (e.pins.release symbol).Notes P) (audit : ∀ entry, (e.audit entry).Notes P) :
    (e.execute call cancel).NotesIn (fun r => r.world.2) P := by
  have onWorld {α : Type} {t : Task (σ × List ε) α} (fits : t.Notes P) :
      (Task.on Runtime.worldPart t).NotesIn (fun r => r.world.2) P := Task.NotesIn.on fits
  refine (onWorld token).bind fun _ => (onWorld (profiles _)).bind fun profile => ?_
  cases passed : screen profile call with
  | error refusal => exact Task.notesIn_pure _ _ _
  | ok admitted =>
    obtain ⟨a, payload⟩ := admitted
    have looked : (Query.on Runtime.worldPart e.backend.session).task.NotesIn
        (fun r : Runtime (σ × List ε) => r.world.2) P := fun r => session r.world
    have performed (attachment : Attachment) : (e.perform profile call a payload attachment cancel).Notes P := by
      by_cases freezing : payload.kind = .freeze
      · cases payload with
        | freeze symbol directive => exact freeze_notes pin release symbol directive _
        | memory | helper | sdk | codePatch => cases freezing
      · rw [perform_of_other _ _ _ _ _ _ freezing]
        exact (order passed freezing).settle.bind fun _ => Task.notes_pure _ P
    have recorded (attachment : Attachment) (outcome : Outcome) :
        (e.record profile a attachment outcome).NotesIn (fun r => r.world.2) P := by
      intro r
      rw [Task.leave_of_ok (record_eq ..)]
      cases attachment with
      | detached => exact ⟨[], (List.append_nil _).symm, nofun⟩
      | attached session => exact audit _ r.world
    exact looked.bind fun attachment => (onWorld (performed attachment)).bind fun outcome =>
      (recorded attachment _).bind fun _ => Task.notesIn_pure _ _ _

end Executor

namespace Router

/-- The router on a part of a larger world. -/
def on (p : Part σ τ) (router : Router τ) : Router σ where
  gate := Query.on p router.gate
  variants profileId := Task.on p (router.variants profileId)
  fingerprints path processId := Task.on p (router.fingerprints path processId)
  capabilities fingerprint variant operation anchors :=
    Task.on p (router.capabilities fingerprint variant operation anchors)
  guard capability isMutation := Query.on p (router.guard capability isMutation)
  backend sent := Task.on p (router.backend sent)
  sink r result := Task.on p (router.sink r result)

theorem mirrors_on (p : Part σ τ) (router : Router τ) : (router.on p).Mirrors p.get router where
  gate := Query.mirrors_on p _
  variants _ := Task.mirrors_on p _
  fingerprints _ _ := Task.mirrors_on p _
  capabilities _ _ _ _ := Task.mirrors_on p _
  guard _ _ := Query.mirrors_on p _
  backend _ := Task.mirrors_on p _
  sink _ _ s := (Task.mirrors_on p _ s).2

/-- A router on the left part of a world puts nothing down in a journal on the right. -/
theorem on_left_notes (router : Router σ) (P : ε → Prop) : (router.on .left).Notes P where
  gate := Task.Keeps.notes (fun _ => rfl) P
  variants _ := (Task.on_left_keeps _).notes P
  fingerprints _ _ := (Task.on_left_keeps _).notes P
  capabilities _ _ _ _ := (Task.on_left_keeps _).notes P
  guard _ _ := Task.Keeps.notes (fun _ => rfl) P
  backend _ := (Task.on_left_keeps _).notes P
  sink _ _ := (Task.on_left_keeps _).notes P

end Router

theorem ExecutionRequest.envelopeFlaw?_eq_none_iff {r : ExecutionRequest} :
    r.envelopeFlaw? = none ↔ r.payloadVersion = Payload.schemaVersion ∧ r.payload.kind = r.action.kind := by
  unfold envelopeFlaw?
  split
  · simp_all
  · split <;> simp_all

/-- What the checks let through makes a fit request. -/
theorem Executor.fit_requestOf {profile : Profile} {call : ActionCall} {a : ActionSpec} {payload : Payload}
    (passed : screen profile call = .ok (a, payload)) : (requestOf profile call a payload).envelopeFlaw? = none :=
  ExecutionRequest.envelopeFlaw?_eq_none_iff.2 ⟨rfl, Payload.kind_of_read (read_of_screen passed).2⟩

namespace Executor

/-- If the event is an order to a backend, its request satisfies `P`. -/
def Event.Orders (P : ExecutionRequest → Prop) : Event → Prop
  | .order request _ => P request
  | _ => True

section

variable {e : Executor σ} {router : Router σ} {call : ActionCall} {cancel : Token σ} {r : Runtime σ}

/-- With whatever backend, a watched executor makes no orders but for what the checks let through. -/
theorem watched_orders {b : Backend (σ × List Event)} {P : ExecutionRequest → Prop}
    (session : b.session.task.Notes (Event.Orders P))
    (order : ∀ {profile a payload}, screen profile call = .ok (a, payload) → payload.kind ≠ .freeze →
      (b.execute (requestOf profile call a payload) (Query.on .left cancel)).Notes (Event.Orders P)) :
    ({ e.watched with backend := b }.execute call (Query.on .left cancel)).NotesIn (fun r => r.world.2)
      (Event.Orders P) := by
  refine execute_notes ?_ ?_ session order ?_ ?_ ?_
  · exact Task.Keeps.notes (Token.check_keeps fun _ => rfl) _
  · exact fun _ => Task.notes_noted fun _ => trivial
  · exact fun _ _ => Task.notes_noted fun _ => trivial
  · exact fun _ => Task.notes_noted fun _ => trivial
  · exact fun _ => Task.notes_noted fun _ => trivial

theorem asked_orders {P : ExecutionRequest → Prop}
    (admitted : ∀ {profile a payload}, screen profile call = .ok (a, payload) → payload.kind ≠ .freeze →
      P (requestOf profile call a payload)) :
    ∀ event ∈ e.asked call cancel r, event.Orders P := by
  have session : e.watched.backend.session.task.Notes (Event.Orders P) := Query.notes_noted fun _ => trivial
  have notes : (e.watched.execute call (Query.on .left cancel)).NotesIn (fun r => r.world.2) (Event.Orders P) :=
    watched_orders session fun passed other s => Task.notes_noted (fun _ => admitted passed other) s
  exact fun event member => notes.of_mem rfl member

/-- What the backend behind a router and the other collaborators of an executor are asked during a call. -/
def received (e : Executor σ) (router : Router σ) (call : ActionCall) (cancel : Token σ) (r : Runtime σ) :
    List Event :=
  (((e.watched.through (router.on .left)).execute call (Query.on .left cancel)).leave
    ⟨r.telemetry, (r.world, [])⟩).world.2

/-- To note what the backend behind the router is asked changes nothing. -/
theorem mirrors_watched_through (e : Executor σ) (router : Router σ) :
    (e.watched.through (router.on .left)).Mirrors Prod.fst (e.through router) :=
  (mirrors_watched e).through (router.mirrors_on .left)

/-- Behind the router there are no orders for the extension path either. -/
theorem received_orders {P : ExecutionRequest → Prop}
    (admitted : ∀ {profile a payload}, screen profile call = .ok (a, payload) → payload.kind ≠ .freeze →
      payload.kind ≠ .sdk → P (requestOf profile call a payload)) :
    ∀ event ∈ e.received router call cancel r, event.Orders P := by
  have token : (Token.check (Query.on .left cancel)).Notes (Event.Orders P) :=
    Task.Keeps.notes (Token.check_keeps fun _ => rfl) _
  have session : e.watched.backend.session.task.Notes (Event.Orders P) := Query.notes_noted fun _ => trivial
  have notes : ((e.watched.through (router.on .left)).execute call (Query.on .left cancel)).NotesIn
      (fun r => r.world.2) (Event.Orders P) := by
    refine watched_orders session ?_
    intro profile a payload passed other
    cases payload with
    | sdk arguments =>
      -- The router only looks at the session of the backend behind it.
      rw [Router.routed_of_sdk _ _ rfl]
      exact session.bind fun _ => ((router.on_left_notes _).route _ token).bind fun _ => Task.notes_pure _ _
    | memory | freeze | helper | codePatch =>
      rw [Router.routed_of_other _ _ fun same => by cases same]
      exact fun s => Task.notes_noted (fun _ => admitted passed other fun same => by cases same) s
  exact fun event member => notes.of_mem rfl member

end

end Executor

/-- The outcome has no reason, or one from the list. -/
def Outcome.GivesOneOf (reasons : List String) (outcome : Outcome) : Prop :=
  ∀ reason, outcome.reason = some reason → reason ∈ reasons

theorem Outcome.GivesOneOf.mono {reasons more : List String} {outcome : Outcome} (gives : outcome.GivesOneOf reasons)
    (listed : reasons ⊆ more) : outcome.GivesOneOf more :=
  fun reason same => listed (gives reason same)

theorem DryRun.outcome_of_execute {part : Part σ DryRun} {r : ExecutionRequest} {cancel : Token σ} {s s' : σ}
    {outcome : Outcome} (run : (backend part).execute r cancel s = .ok outcome s') :
    ∃ d, outcome = (request r d).1 := by
  obtain ⟨_, u, -, run⟩ := Task.bind_eq_ok run
  cases run
  exact ⟨_, rfl⟩

theorem DryRun.reason_of_request {r : ExecutionRequest} (fit : r.envelopeFlaw? = none)
    (unpinned : r.payload.kind ≠ .freeze) (inside : r.payload.kind ≠ .sdk) (d : DryRun) :
    (request r d).1.GivesOneOf ["write_failed"] := by
  have written (symbol : String) (value : Scalar) : (d.write r.action.id symbol value).1.GivesOneOf ["write_failed"] := by
    rw [write]
    split
    · intro reason given
      cases given
      simp
    · intro reason given
      cases given
  have performed : (request r d).1 = (d.perform r).1 := by rw [request, fit]
  rw [performed, perform]
  cases payload : r.payload with
  | memory symbol value => exact written symbol value
  | codePatch symbol enable => exact written symbol (.bool enable)
  | helper =>
    intro reason given
    cases given
  | freeze =>
    rw [payload] at unpinned
    exact absurd rfl unpinned
  | sdk =>
    rw [payload] at inside
    exact absurd rfl inside

namespace Executor

def refusalReasons : List String :=
  ["action_not_found", "mode_not_allowed", "payload_missing_field", "payload_invalid"]

def freezeReasons : List String := ["freeze_applied", "freeze_released", "freeze_not_active", "freeze_failed"]

def extensionReasons : List String := (Vocabulary.all : List ExtensionReason).map ExtensionReason.text

/-- The reasons with which a call over a dry run behind a router can come back. -/
def reasons : List String :=
  refusalReasons ++ freezeReasons ++ extensionReasons ++ ["write_failed", "backend_error"]

/-- The reasons of a backend that was asked for what it cannot do. -/
def misrouted : List String :=
  ["freeze_not_routed", "sdk_not_routed", "payload_kind_mismatch", "payload_version_unsupported"]

theorem not_mem_misrouted {reason : String} (member : reason ∈ reasons) : reason ∉ misrouted := by
  have apart : ∀ reason ∈ reasons, reason ∉ misrouted := by decide
  exact apart reason member

theorem reason_of_refusal (refusal : Refusal) : refusal.outcome.GivesOneOf refusalReasons := by
  cases refusal <;>
    · rintro reason ⟨⟩
      decide

theorem reason_of_freeze {e : Executor σ} {symbol : String} {directive : PinDirective} {source : SymbolSource}
    {s s' : σ} {outcome : Outcome} (run : e.freeze symbol directive source s = .ok outcome s') :
    outcome.GivesOneOf freezeReasons := by
  cases directive with
  | pin value =>
    obtain ⟨answer, u, -, run⟩ := Task.bind_eq_ok run
    cases run
    cases answer <;>
      · rintro reason ⟨⟩
        decide
  | release =>
    obtain ⟨answer, u, -, run⟩ := Task.bind_eq_ok run
    cases run
    match answer with
    | .ok true | .ok false | .error _ =>
      rintro reason ⟨⟩
      decide

theorem reason_of_outcomeOf (result : OperationResult) : (Router.outcomeOf result).GivesOneOf extensionReasons := by
  rintro reason ⟨⟩
  cases result.reason <;> decide

/-- A backend of requests that the checks let through, behind a router, gives the reasons of a failing write or
of the extension path. -/
theorem reason_of_order {part : Part σ DryRun} {router : Router σ} {profile : Profile} {call : ActionCall}
    {a : ActionSpec} {payload : Payload} {cancel : Token σ} {s s' : σ} {outcome : Outcome}
    (passed : screen profile call = .ok (a, payload)) (unpinned : payload.kind ≠ .freeze)
    (run : (router.routed (DryRun.backend part)).execute (requestOf profile call a payload) cancel s =
      .ok outcome s') :
    outcome.GivesOneOf (extensionReasons ++ ["write_failed"]) := by
  by_cases inside : payload.kind = .sdk
  · cases payload with
    | sdk arguments =>
      obtain ⟨result, rfl⟩ := Router.outcome_of_routed_sdk rfl run
      exact (reason_of_outcomeOf result).mono (List.subset_append_left ..)
    | memory | freeze | helper | codePatch => cases inside
  · rw [Router.routed_of_other router _ inside] at run
    obtain ⟨d, rfl⟩ := DryRun.outcome_of_execute run
    exact (DryRun.reason_of_request (fit_requestOf passed) unpinned inside d).mono (List.subset_append_right ..)

section

variable {part : Part σ DryRun} {e : Executor σ} {router : Router σ} {call : ActionCall} {cancel : Token σ}
  {outcome : Outcome}

theorem reason_of_perform (dry : e.backend = DryRun.backend part) {profile : Profile} {a : ActionSpec}
    {payload : Payload} (passed : screen profile call = .ok (a, payload)) {attachment : Attachment} {s s' : σ}
    (run : (e.through router).perform profile call a payload attachment cancel s = .ok outcome s') :
    outcome.GivesOneOf reasons := by
  by_cases freezing : payload.kind = .freeze
  · cases payload with
    | freeze symbol directive =>
      have listed : freezeReasons ⊆ reasons := by decide
      exact (reason_of_freeze run).mono listed
    | memory | helper | sdk | codePatch => cases freezing
  · rw [perform_of_other _ _ _ _ _ _ freezing] at run
    obtain ⟨answer, u, settled, run⟩ := Task.bind_eq_ok run
    cases run
    cases answer with
    | error fault =>
      rintro reason ⟨⟩
      decide
    | ok outcome =>
      have ended : (router.routed (DryRun.backend part)).execute (requestOf profile call a payload) cancel s =
          .ok outcome s' := by
        rw [← dry]
        exact Task.settle_eq_ok_ok settled
      have listed : extensionReasons ++ ["write_failed"] ⊆ reasons := by decide
      exact (reason_of_order passed freezing ended).mono listed

theorem reason_of_execute (dry : e.backend = DryRun.backend part) {r : Runtime σ}
    (ended : ((e.through router).execute call cancel).ending r = .ok outcome) : outcome.GivesOneOf reasons := by
  obtain ⟨r', run⟩ := Task.ending_eq_ok_iff.1 ended
  have course := course_execute (e.through router) call cancel r
  rw [run] at course
  cases course with
  | refused opens barred =>
    have listed : refusalReasons ⊆ reasons := by decide
    exact (reason_of_refusal _).mono listed
  | performed enters ran =>
    have given := reason_of_perform dry enters.passed ran
    exact given

end

/-- No call over a dry run behind a router comes back with the reason of a request that was unfit or
misrouted. Every request that is made is fit and orders no pin or release, and the dry run receives none for
the extension path. -/
theorem never_misrouted {part : Part σ DryRun} {e : Executor σ} (dry : e.backend = DryRun.backend part)
    (router : Router σ) (call : ActionCall) (cancel : Token σ) (r : Runtime σ) :
    (∀ outcome, ((e.through router).execute call cancel).ending r = .ok outcome →
      ∀ reason ∈ misrouted, outcome.reason ≠ some reason) ∧
    (∀ request answer, .order request answer ∈ (e.through router).asked call cancel r →
      request.envelopeFlaw? = none ∧ request.payload.kind ≠ .freeze) ∧
    (∀ request answer, .order request answer ∈ e.received router call cancel r →
      request.envelopeFlaw? = none ∧ request.payload.kind ≠ .freeze ∧ request.payload.kind ≠ .sdk) ∧
    (e.watched.through (router.on .left)).Mirrors Prod.fst (e.through router) := by
  refine ⟨fun outcome ended reason listed same => ?_, fun request answer member => ?_,
    fun request answer member => ?_, mirrors_watched_through e router⟩
  · exact not_mem_misrouted (reason_of_execute dry ended reason same) listed
  · have orders : ∀ event ∈ (e.through router).asked call cancel r,
        event.Orders fun request => request.envelopeFlaw? = none ∧ request.payload.kind ≠ .freeze :=
      asked_orders fun passed other => ⟨fit_requestOf passed, other⟩
    exact orders _ member
  · have orders : ∀ event ∈ e.received router call cancel r, event.Orders fun request =>
        request.envelopeFlaw? = none ∧ request.payload.kind ≠ .freeze ∧ request.payload.kind ≠ .sdk :=
      received_orders fun passed other inside => ⟨fit_requestOf passed, other, inside⟩
    exact orders _ member

/-- An executor over a dry run with the reports of a router beside it, and an action for memory. -/
def frontDesk : Executor (DryRun × List OperationRequest) where
  profiles _ := pure ((Profile.bare "drill").addAction (.plain "set_credits" .memory))
  backend := DryRun.backend Router.reportedPart
  pins := failingPins
  audit _ := pure ()

def creditsCall : ActionCall :=
  ⟨"drill", "set_credits", .ofList [("symbol", .str "credits"), ("intValue", .int 5)], .galactic, .empty⟩

def frontDeskStart : Runtime (DryRun × List OperationRequest) := ⟨.empty, (.start .detached, [])⟩

theorem never_misrouted_credits :
    ∃ request answer, .order request answer ∈ frontDesk.received .closed creditsCall .never frontDeskStart ∧
      request.envelopeFlaw? = none ∧ request.payload.kind ≠ .freeze ∧ request.payload.kind ≠ .sdk := by
  have ordered : ∃ request answer,
      .order request answer ∈ frontDesk.received .closed creditsCall .never frontDeskStart :=
    ⟨_, _, .tail _ (.tail _ (.head _))⟩
  obtain ⟨request, answer, member⟩ := ordered
  obtain ⟨-, -, received, -⟩ := never_misrouted (e := frontDesk) rfl .closed creditsCall .never frontDeskStart
  exact ⟨request, answer, member, received request answer member⟩

end Executor
end LiveControl
