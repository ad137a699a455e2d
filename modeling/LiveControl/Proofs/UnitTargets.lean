import LiveControl.Proofs.PayloadGrammar
import LiveControl.Proofs.UnitDryRun
import LiveControl.Proofs.UnitVisits

namespace LiveControl

open Executor (Event readsIn)

variable {σ : Type}

/-- What a payload is aimed at was read as the symbol of its bag. -/
theorem Payload.readSymbol_of_read {a : ActionSpec} {raw : Bag} {payload : Payload} {target : String}
    (run : read a raw = .ok payload) (aimed : payload.symbol? = some target) : readSymbol raw = .ok target := by
  have reads := reads_of_read run
  exact readSymbol_eq_ok_iff.2 (reads.aims aimed)

namespace Executor

theorem Work.request_eq {profile : Profile} {call : ActionCall} {a : ActionSpec} {attachment : Attachment}
    {payload : Payload} {request : ExecutionRequest} {answer : Except Fault Outcome} {outcome : Outcome}
    (works : Work profile call a attachment payload (.order request answer) outcome) :
    request = requestOf profile call a payload := by
  cases works
  rfl

/-- An order is what the checks make of the call with the profile that was noted first. -/
theorem Story.ordered {call : ActionCall} {events : List Event} {ending : Except Fault Outcome}
    (story : Story call events ending) {request : ExecutionRequest} {answer : Except Fault Outcome}
    (member : .order request answer ∈ events) :
    ∃ profile a payload, events.head? = some (.profile call.profileId (.ok profile)) ∧
      screen profile call = .ok (a, payload) ∧ request = requestOf profile call a payload := by
  cases story with
  | cancelled | unknown | refused => simp at member
  | interrupted attachment passed other =>
    obtain ⟨rfl, -⟩ : request = requestOf _ call _ _ ∧ answer = .error .cancelled := by simpa using member
    exact ⟨_, _, _, rfl, passed, rfl⟩
  | @unrecorded _ _ _ work _ passed works =>
    obtain rfl : Event.order request answer = work := by simpa using member
    exact ⟨_, _, _, rfl, passed, works.request_eq⟩
  | @recorded _ _ _ _ work _ passed works =>
    obtain rfl : Event.order request answer = work := by simpa using member
    exact ⟨_, _, _, rfl, passed, works.request_eq⟩

/-- A call orders nothing but what the checks make of it with a profile that was had. -/
theorem execute_orders (e : Executor σ) (call : ActionCall) (cancel : Token σ) :
    (e.watched.execute call (Query.on .left cancel)).NotesIn (fun r => r.world.2) fun event =>
      ∀ request answer, event = .order request answer →
        ∃ profile a payload s, (e.profiles call.profileId).ending s = .ok profile ∧
          screen profile call = .ok (a, payload) ∧ request = requestOf profile call a payload := by
  intro r
  obtain ⟨events, added, story, -, had⟩ := execute_told e call cancel r
  refine ⟨events, added, fun event member request answer same => ?_⟩
  obtain ⟨profile, a, payload, first, passed, made⟩ := story.ordered (same ▸ member)
  exact ⟨profile, a, payload, _, had profile first, passed, made⟩

end Executor

theorem Looks.forall_mem {p : Policy} {fields : List UnitField} {events : List Event}
    {ending : Except Fault (List (UnitField × Scalar))} (looks : Looks p fields events ending) {P : Event → Prop}
    (reads : ∀ symbol type answer, P (.read symbol type answer)) : ∀ event ∈ events, P event := by
  induction looks with
  | done | cancelled => exact List.forall_mem_nil _
  | failed fault => exact List.forall_mem_singleton.2 (reads _ _ _)
  | read value later ih => exact List.forall_mem_cons.2 ⟨reads _ _ _, ih⟩

namespace UnitEditor

/-- What has to be undone was to be written. -/
theorem mem_of_stopped {e : UnitEditor σ} {id : String} {operation : UnitOperation} {cancel : Token σ}
    {applied changes back : List UnitChange} {failed : UnitChange} {message : String} {r r' : Runtime σ}
    (run : e.writeFrom id operation cancel applied changes r = .ok (.stopped back failed message) r') :
    ∀ c ∈ back, c ∈ applied ∨ c ∈ changes := by
  induction changes generalizing applied r with
  | nil => cases run
  | cons c rest ih =>
    obtain ⟨answer, r₁, -, run⟩ := Task.bind_eq_ok run
    match answer, run with
    | .ok none, run =>
      intro x member
      rcases ih run x member with early | late
      · rcases List.mem_cons.1 early with rfl | early
        · exact .inr List.mem_cons_self
        · exact .inl early
      · exact .inr (List.mem_cons_of_mem _ late)
    | .ok (some message), run =>
      cases run
      exact fun x member => .inl member
    | .error fault, run =>
      cases run
      exact fun x member => .inl member

/-- What holds of every question about the session, of every read, and of all that is asked during the write of
a change for a field. -/
structure Grants (e : UnitEditor σ) (P : Event → Prop) : Prop where
  session : ∀ attachment, P (.session attachment)
  read : ∀ symbol type answer, P (.read symbol type answer)
  write : ∀ {c : UnitChange}, c.Fits e.policy → ∀ value id operation (cancel : Token σ),
    (e.watched.write c value id operation (Query.on .left cancel)).NotesIn (fun r => r.world.2) P

namespace Grants

variable {e : UnitEditor σ} {P : Event → Prop} {cancel : Token σ}

theorem capture (grants : e.Grants P) :
    (e.watched.capture (Query.on .left cancel)).NotesIn UnitDesk.journal P := by
  have read : (e.watched.readFields (Query.on .left cancel) UnitField.all).NotesIn Prod.snd P :=
    (readFields_tells e cancel UnitField.all).mono fun looks => looks.forall_mem grants.read
  refine read.on.on.bind fun values => ?_
  exact (Task.Keeps.notesIn (fun _ => rfl) P).bind fun _ => Task.notesIn_pure _ _ _

theorem carryOut (grants : e.Grants P) (before : UnitSnapshot) {changes : List UnitChange}
    (fits : ∀ c ∈ changes, c.Fits e.policy) (operation : UnitOperation) (recorded : Bool) :
    (e.watched.carryOut before changes operation recorded (Query.on .left cancel)).NotesIn UnitDesk.journal P := by
  have named : (Task.on UnitDesk.runtimePart (Task.on Runtime.worldPart e.watched.freshId.task)).NotesIn
      UnitDesk.journal P := Task.Keeps.notesIn (fun _ => rfl) P
  refine named.bind fun id => ?_
  have wrote := writeFrom_notesIn e cancel [] fun c member =>
    grants.write (fits c member) c.new id operation cancel
  refine wrote.on.bind_of fun {d progress d'} run => ?_
  cases progress with
  | complete =>
    cases recorded with
    | true => exact (Task.Keeps.notesIn (fun _ => rfl) P).bind fun _ => Task.notesIn_pure _ _ _
    | false => exact Task.notesIn_pure _ _ _
  | stopped applied failed message =>
    obtain ⟨r, run, -⟩ := Task.on_eq_ok run
    have undone := undo_notesIn e fun c member =>
      grants.write (fits c ((mem_of_stopped run c member).resolve_left nofun)) c.old id .rollback .never
    exact undone.on.bind fun _ => Task.notesIn_pure _ _ _

theorem edit (grants : e.Grants P) (draft : UnitDraft) (operation : UnitOperation) (recorded : Bool) :
    (e.watched.edit draft operation recorded (Query.on .left cancel)).NotesIn UnitDesk.journal P := by
  refine grants.capture.bind fun before => ?_
  have fits : ∀ c ∈ UnitChange.plan e.policy before draft, c.Fits e.policy :=
    fun c member => UnitChange.fits_of_mem_plan member
  cases planned : UnitChange.plan e.watched.policy before draft with
  | nil => exact Task.notesIn_pure _ _ _
  | cons c rest => exact grants.carryOut before (planned ▸ fits) operation recorded

theorem inMode (grants : e.Grants P) {act : Task (UnitDesk (σ × List Event)) UnitOutcome}
    (acts : act.NotesIn UnitDesk.journal P) : (e.watched.inMode act).NotesIn UnitDesk.journal P := by
  have looked : (Query.task (Query.on UnitDesk.runtimePart
      (Query.on Runtime.worldPart e.watched.executor.backend.session))).NotesIn UnitDesk.journal P :=
    fun _ => ⟨_, rfl, List.forall_mem_singleton.2 (grants.session _)⟩
  refine looked.bind fun attachment => ?_
  cases e.watched.modeRefusal? attachment.mode with
  | some refusal => exact Task.notesIn_pure _ _ _
  | none => exact acts

theorem apply (grants : e.Grants P) (draft : UnitDraft) :
    (e.watched.apply draft (Query.on .left cancel)).NotesIn UnitDesk.journal P := by
  refine grants.inMode ?_
  cases draftRefusal? draft with
  | some refusal => exact Task.notesIn_pure _ _ _
  | none => exact grants.edit draft .apply true

theorem revertLast (grants : e.Grants P) :
    (e.watched.revertLast (Query.on .left cancel)).NotesIn UnitDesk.journal P := by
  refine grants.inMode ((Task.Keeps.notesIn (fun _ => rfl) P).bind fun d => ?_)
  cases d.history.peek with
  | none => exact Task.notesIn_pure _ _ _
  | some last =>
    refine (grants.edit (.ofSnapshot last.before) .revertLast false).bind fun outcome => ?_
    by_cases succeeded : outcome.succeeded = true
    · rw [if_pos succeeded]
      exact (Task.Keeps.notesIn (fun _ => rfl) P).bind fun _ => Task.notesIn_pure _ _ _
    · rw [if_neg succeeded]
      exact Task.notesIn_pure _ _ _

theorem restoreBaseline (grants : e.Grants P) :
    (e.watched.restoreBaseline (Query.on .left cancel)).NotesIn UnitDesk.journal P := by
  refine grants.inMode ((Task.Keeps.notesIn (fun _ => rfl) P).bind fun d => ?_)
  cases d.baseline with
  | none => exact Task.notesIn_pure _ _ _
  | some baseline => exact grants.edit (.ofSnapshot baseline) .restoreBaseline true

theorem call (grants : e.Grants P) (cancel : Token σ) (c : UnitCall) :
    (e.watched.call (Query.on .left cancel) c).NotesIn UnitDesk.journal P := by
  cases c with
  | capture => exact grants.capture.bind fun _ => Task.notesIn_pure _ _ _
  | apply draft => exact (grants.apply draft).bind fun _ => Task.notesIn_pure _ _ _
  | revertLast => exact grants.revertLast.bind fun _ => Task.notesIn_pure _ _ _
  | restoreBaseline => exact grants.restoreBaseline.bind fun _ => Task.notesIn_pure _ _ _
  | reset => exact (Task.Keeps.notesIn (fun _ => rfl) P).bind fun _ => Task.notesIn_pure _ _ _

/-- All that is asked during a call is granted. -/
theorem asked (grants : e.Grants P) (cancel : Token σ) (c : UnitCall) (d : UnitDesk σ) :
    ∀ event ∈ e.asked cancel c d, P event := by
  obtain ⟨notes, added, each⟩ := grants.call cancel c
    ⟨d.baseline, d.history, ⟨d.runtime.telemetry, (d.runtime.world, [])⟩⟩
  have all : e.asked cancel c d = notes := added
  exact all ▸ each

end Grants
end UnitEditor

/-- What a write for the field aims at: its symbol without the blanks around it, if anything is left. -/
def UnitField.target? (p : Policy) (f : UnitField) : Option String := Text.trimmed? (UnitChange.symbolOf p f)

theorem UnitField.target?_eq_symbolOf_iff {p : Policy} {f : UnitField} :
    f.target? p = some (UnitChange.symbolOf p f) ↔
      Text.trim (UnitChange.symbolOf p f) = UnitChange.symbolOf p f ∧ UnitChange.symbolOf p f ≠ "" := by
  rw [target?, Text.trimmed?_eq_some_iff, eq_comm]

namespace UnitEditor

/-- The order carries out a write for the field: a profile that was had lists its action as that of the
field. -/
def OrdersFor (e : UnitEditor σ) (f : UnitField) (request : ExecutionRequest) : Prop :=
  ∃ profile s, (e.executor.profiles e.profileId).ending s = .ok profile ∧ request.profileId = profile.id ∧
    profile.action? f.action = some request.action

/-- An order is for a field, and at the target of the field if it is at any symbol. -/
def Aimed (e : UnitEditor σ) (event : Event) : Prop :=
  ∀ request answer, event = .order request answer → ∃ f, e.OrdersFor f request ∧
    ∀ target, request.payload.symbol? = some target → f.target? e.policy = some target

theorem grants_aimed (e : UnitEditor σ) : e.Grants e.Aimed where
  session _ _ _ same := by cases same
  read _ _ _ _ _ same := by cases same
  write {c} fits value id operation cancel := by
    have orders := Executor.execute_orders e.executor (e.callOf c value id operation) cancel
    refine (orders.mono fun event made request answer same => ?_).bind fun _ => Task.notesIn_pure _ _ _
    obtain ⟨profile, a, payload, s, had, passed, rfl⟩ := made request answer same
    obtain ⟨listed, read⟩ := Executor.read_of_screen passed
    have ofField : profile.action? c.field.action = some a := fits.action ▸ listed
    refine ⟨c.field, ⟨profile, s, had, rfl, ofField⟩, fun target aimed => ?_⟩
    have named : Payload.readSymbol (Payload.bagOf c.symbol value) = .ok target :=
      Payload.readSymbol_of_read read aimed
    rw [UnitField.target?, ← fits.symbol]
    exact (Payload.readSymbol_bagOf value).1 named

variable {e : UnitEditor σ}

/-- What the checks make of a write to memory that is in place otherwise. -/
theorem screen_write {profile : Profile} {a : ActionSpec} {c : UnitChange} {value : Scalar} {id : String}
    {operation : UnitOperation} (fits : c.Fits e.policy) (listed : profile.action? c.field.action = some a)
    (memory : a.kind = .memory) (gated : Executor.modeConflict? a e.policy.tacticalMode = none)
    (given : Payload.firstMissing? a (e.callOf c value id operation).payload = none) :
    Executor.screen profile (e.callOf c value id operation) =
      match c.field.target? e.policy with
      | none => .error (.payloadInvalid (Payload.Flaw.symbolMissing.fault a.id))
      | some target =>
        if value.isFinite then .ok (a, .memory target value)
        else .error (.payloadInvalid (Payload.Flaw.valueMissing.fault a.id)) := by
  have atAction : profile.action? (e.callOf c value id operation).action = some a :=
    (congrArg profile.action? fits.action).trans listed
  have read : Payload.read a (e.callOf c value id operation).payload = _ :=
    Payload.read_bagOf_memory c.symbol value memory
  rw [fits.symbol] at read
  have gate : Executor.modeConflict? a (e.callOf c value id operation).mode = none := gated
  simp only [Executor.screen, atAction, gate, given, read, UnitField.target?]
  cases Text.trimmed? (UnitChange.symbolOf e.policy c.field) with
  | none => rfl
  | some target => cases value.isFinite <;> rfl

/-- During every call, whatever the collaborators answer, the fields are read in their order, each at the very
symbol that it has, and every order is for a field, at the target of the field. A write that is in place
otherwise passes the checks with this target, and is turned down for its symbol exactly where there is none.
So reads and writes of a field meet exactly if its symbol is not empty and has no blanks around it. -/
theorem reads_meet_writes_iff (e : UnitEditor σ) :
    (∀ cancel c d,
      (readsIn (e.asked cancel c d)).map (fun read => (read.1, read.2.1)) <+:
        UnitField.all.map (UnitField.place e.policy) ∧
      ∀ event ∈ e.asked cancel c d, e.Aimed event) ∧
    (∀ profile a c value id operation, c.Fits e.policy → profile.action? c.field.action = some a →
      a.kind = .memory → Executor.modeConflict? a e.policy.tacticalMode = none →
      Payload.firstMissing? a (e.callOf c value id operation).payload = none →
      Executor.screen profile (e.callOf c value id operation) =
        match c.field.target? e.policy with
        | none => .error (.payloadInvalid (Payload.Flaw.symbolMissing.fault a.id))
        | some target =>
          if value.isFinite then .ok (a, .memory target value)
          else .error (.payloadInvalid (Payload.Flaw.valueMissing.fault a.id))) ∧
    ∀ f : UnitField, f.target? e.policy = some (UnitChange.symbolOf e.policy f) ↔
      Text.trim (UnitChange.symbolOf e.policy f) = UnitChange.symbolOf e.policy f ∧
        UnitChange.symbolOf e.policy f ≠ "" :=
  ⟨fun cancel c d => ⟨(accounted_asked e cancel c d).places, (grants_aimed e).asked cancel c d⟩,
    fun _ _ _ _ _ _ => screen_write, fun _ => UnitField.target?_eq_symbolOf_iff⟩

theorem reads_meet_writes_drill :
    Executor.screen drillProfile (drill.callOf (drillChange .veterancy (.int 3)) (.int 3) "edit" .apply) =
      .ok (.plain "set_selected_veterancy" .memory, .memory "selected_veterancy" (.int 3)) := by
  obtain ⟨-, screened, met⟩ := reads_meet_writes_iff drill
  have symbol : UnitChange.symbolOf drill.policy .veterancy = "selected_veterancy" := drill_symbolOf .veterancy
  have passes := screened drillProfile (.plain "set_selected_veterancy" .memory) (drillChange .veterancy (.int 3))
    (.int 3) "edit" .apply ⟨rfl, rfl⟩ (drillProfile_action? .veterancy) rfl rfl rfl
  have target := (met .veterancy).2 ⟨drill_symbols.trimmed .veterancy, by rw [symbol]; decide⟩
  rw [symbol] at target
  rw [passes, show (drillChange .veterancy (.int 3)).field = .veterancy from rfl, target]
  rfl

/-- The symbols at which something is ordered. -/
def orderedIn (events : List Event) : List String :=
  events.filterMap fun event => match event with
    | .order request _ => request.payload.symbol?
    | _ => none

/-- The editor of the drill when nothing but the rank of a unit is bound to a symbol. -/
def drillAt (symbol : String) : UnitEditor DryRun :=
  { drill with policy := { Policy.standard with bindings := .ofList [("set_selected_veterancy", symbol)] } }

/-- What is asked when the unit of the drill is promoted, with its rank under that symbol. -/
def promotion (symbol : String) : List Event :=
  let d := drillDesk drillUnit .empty
  let world := { d.runtime.world with values := d.runtime.world.values.insert symbol (.int 0) }
  (drillAt symbol).asked .never (.apply ⟨none, none, none, none, none, some 3, none⟩)
    { d with runtime := { d.runtime with world := world } }

/-- Both policies are in order. Under the one the rank is read at a symbol with blanks around it and written at
another, under the other it is read at a blank symbol, and the write is turned down. -/
theorem promotion_misses :
    ((drillAt " selected_veterancy ").policy.errors = [] ∧
      " selected_veterancy " ∈ (readsIn (promotion " selected_veterancy ")).map Prod.fst ∧
      orderedIn (promotion " selected_veterancy ") = ["selected_veterancy"]) ∧
    ((drillAt " ").policy.errors = [] ∧
      " " ∈ (readsIn (promotion " ")).map Prod.fst ∧ orderedIn (promotion " ") = [] ∧
      Executor.screen drillProfile ((drillAt " ").callOf
          ⟨.veterancy, " ", "set_selected_veterancy", .int 0, .int 3, false⟩ (.int 3) "edit" .apply) =
        .error (.payloadInvalid (Payload.Flaw.symbolMissing.fault "set_selected_veterancy"))) :=
  ⟨by decide +kernel, by decide +kernel⟩

end UnitEditor
end LiveControl
