import LiveControl.Proofs.ActionCourse
import LiveControl.Proofs.DryRunWrites
import LiveControl.Proofs.UnitPlan
import LiveControl.UnitSheet.Editor

namespace LiveControl

namespace Payload

/-- The bag by which a value is written to a symbol. -/
def bagOf (symbol : String) (value : Scalar) : Bag :=
  .ofList [("symbol", .str symbol), (value.payloadKey, value.toLoose)]

theorem get?_bagOf (symbol : String) (value : Scalar) (key : String) :
    (bagOf symbol value).get? key =
      if key = value.payloadKey then some value.toLoose
      else if key = "symbol" then some (.str symbol) else none := by
  simp [bagOf, Table.ofList]

theorem payloadKey_ne_symbol (value : Scalar) : value.payloadKey ≠ "symbol" := by
  cases value <;> simp [Scalar.payloadKey]

theorem isNull_toLoose (value : Scalar) : value.toLoose.isNull = !value.isFinite := by
  cases value with
  | int n => rfl
  | bool b => rfl
  | float x =>
    rw [Scalar.toLoose, Json.ofFloat, Scalar.isFinite]
    cases x.isFinite <;> rfl

theorem given?_bagOf_symbol (symbol : String) (value : Scalar) :
    given? (bagOf symbol value) "symbol" = some (.str symbol) := by
  rw [given?, get?_bagOf]
  cases value <;> rfl

theorem given?_bagOf {key : String} (symbol : String) (value : Scalar) (other : key ≠ "symbol") :
    given? (bagOf symbol value) key =
      if key = value.payloadKey ∧ value.isFinite = true then some value.toLoose else none := by
  rw [given?, get?_bagOf, if_neg other]
  by_cases own : key = value.payloadKey
  · cases finite : value.isFinite <;> simp [own, isNull_toLoose, finite]
  · simp [own]

/-- Of the three value keys a write gives exactly its own. -/
theorem entries_bagOf (symbol : String) (value : Scalar) :
    (valueKeys.filterMap fun key => (given? (bagOf symbol value) key).map fun v => (key, v)) =
      if value.isFinite then [(value.payloadKey, value.toLoose)] else [] := by
  simp only [valueKeys, List.filterMap_cons, List.filterMap_nil,
    given?_bagOf symbol value (show "intValue" ≠ "symbol" by decide),
    given?_bagOf symbol value (show "floatValue" ≠ "symbol" by decide),
    given?_bagOf symbol value (show "boolValue" ≠ "symbol" by decide)]
  cases value.isFinite <;> cases value <;> rfl

theorem scalarAt?_toLoose {value : Scalar} (finite : value.isFinite = true) :
    scalarAt? value.payloadKey value.toLoose = some value := by
  cases value with
  | int n =>
    exact congrArg (Option.map Scalar.int) (Json.int64?_eq_some_iff.2 rfl)
  | bool b => rfl
  | float x =>
    have loose : (Scalar.float x).toLoose = .float x := if_pos finite
    rw [loose]
    rfl

/-- A value that can be written at all is read back as it was, a double to the last bit. -/
theorem readScalar_bagOf (symbol : String) (value : Scalar) :
    readScalar (bagOf symbol value) = if value.isFinite then .ok value else .error .valueMissing := by
  rw [readScalar, entries_bagOf]
  cases finite : value.isFinite with
  | false => rfl
  | true =>
    simp only [if_true]
    rw [scalarAt?_toLoose finite]

theorem text?_bagOf_symbol (symbol : String) (value : Scalar) :
    (bagOf symbol value).text? "symbol" = Text.trimmed? symbol := by
  have entry : (bagOf symbol value).get? "symbol" = some (.str symbol) := by
    rw [get?_bagOf]
    cases value <;> rfl
  simp only [Bag.text?, entry, Option.bind_some, Json.str?]

theorem readSymbol_bagOf {symbol target : String} (value : Scalar) :
    readSymbol (bagOf symbol value) = .ok target ↔ Text.trimmed? symbol = some target := by
  rw [readSymbol, text?_bagOf_symbol]
  cases Text.trimmed? symbol <;> simp

/-- A write to memory aims at its symbol without the blanks around it. -/
theorem read_bagOf_memory {a : ActionSpec} (symbol : String) (value : Scalar) (memory : a.kind = .memory) :
    read a (bagOf symbol value) =
      match Text.trimmed? symbol with
      | none => .error .symbolMissing
      | some target => if value.isFinite then .ok (.memory target value) else .error .valueMissing := by
  rw [read, memory, readSymbol, text?_bagOf_symbol, readScalar_bagOf]
  cases Text.trimmed? symbol <;> cases value.isFinite <;> rfl

theorem read_bagOf {a : ActionSpec} {symbol : String} (value : Scalar) (memory : a.kind = .memory)
    (trimmed : Text.trim symbol = symbol) :
    read a (bagOf symbol value) =
      if symbol.isEmpty then .error .symbolMissing
      else if value.isFinite then .ok (.memory symbol value) else .error .valueMissing := by
  rw [read_bagOf_memory symbol value memory, Text.trimmed?, trimmed]
  cases symbol.isEmpty <;> rfl

/-- Whatever an action reads out of the bag of a write aims where the write does. -/
theorem eq_of_read_bagOf {a : ActionSpec} {symbol : String} {value : Scalar} {payload : Payload}
    (memory : a.kind = .memory) (trimmed : Text.trim symbol = symbol)
    (run : read a (bagOf symbol value) = .ok payload) : payload = .memory symbol value := by
  rw [read_bagOf value memory trimmed] at run
  cases empty : symbol.isEmpty <;> cases finite : value.isFinite <;> simp [empty, finite] at run
  exact run.symm

end Payload

variable {σ τ : Type}

/-- What a write makes of a view of the state: after a success `put` is done to it, and else nothing. -/
def Wrote (view : σ → τ) (put : τ → τ) (s : σ) : EStateM.Result Fault σ Outcome → Prop
  | .ok outcome s' => view s' = if outcome.succeeded then put (view s) else view s
  | .error _ s' => view s' = view s

/-- What has been done so far does not count as long as it left the view alone. -/
theorem Wrote.of_same {view : σ → τ} {put : τ → τ} {s s₁ : σ} {result : EStateM.Result Fault σ Outcome}
    (same : view s₁ = view s) (wrote : Wrote view put s₁ result) : Wrote view put s result := by
  cases result with
  | ok outcome s' =>
    show view s' = if outcome.succeeded then put (view s) else view s
    rw [← same]
    exact wrote
  | error fault s' => exact wrote.trans same

/-- A backend whose writes do `put` to a view, and which else leaves the view alone. A write may fail for
any reason and at any time. -/
structure Backend.Writes (b : Backend σ) (view : σ → τ) (put : String → Scalar → τ → τ) : Prop where
  session : b.session.Keeps view
  write : ∀ {r : ExecutionRequest} {symbol value} {cancel : Token σ} {s},
    r.payload = .memory symbol value → cancel.Keeps view →
      Wrote view (put symbol value) s (b.execute r cancel s)

def Table.put (symbol : String) (value : Scalar) (t : Table Scalar) : Table Scalar := t.insert symbol value

/-- A backend over a table of values: what is written to a symbol stands there and can be read. -/
structure Backend.OverTable (b : Backend σ) (table : σ → Table Scalar) : Prop extends
    Backend.Writes b table Table.put where
  read : ∀ (type : ValueType) {symbol value s}, (table s).get? symbol = some value →
    ∃ s', b.read symbol type s = .ok value s' ∧ table s' = table s

namespace DryRun

/-- A dry run does to a view of it what its writes do. -/
theorem backend_writes (part : Part σ DryRun) {view : DryRun → τ} {put : String → Scalar → τ → τ}
    (write : ∀ (d : DryRun) (action symbol : String) (value : Scalar),
      view (d.write action symbol value).2 =
        if (d.write action symbol value).1.succeeded then put symbol value (view d) else view d) :
    (backend part).Writes (view ∘ part.get) put where
  session := by
    have keeps : Query.Keeps (fun d : DryRun => (d.attachment, d)) view := fun _ => rfl
    exact keeps.on
  write := by
    intro r symbol value cancel s memory quiet
    show Wrote _ (put symbol value) s
      ((cancel.check >>= fun _ => Query.task (Query.on part (request r))) s)
    cases asked : cancel.check s with
    | error fault s₁ =>
      rw [Task.bind_of_error asked]
      exact (Token.check_keeps quiet).error asked
    | ok _ s₁ =>
      have same : view (part.get s₁) = view (part.get s) := (Token.check_keeps quiet).ok asked
      rw [Task.bind_of_ok asked]
      show view (part.get (part.set (request r (part.get s₁)).2 s₁)) =
        if (request r (part.get s₁)).1.succeeded then put symbol value (view (part.get s)) else view (part.get s)
      rw [part.get_set, ← same]
      unfold request
      split
      · rename_i flaw _
        cases flaw <;> rfl
      · rw [perform, memory]
        exact write (part.get s₁) r.action.id symbol value

/-- A value that is there is read, and nothing else happens. -/
theorem backend_read_of_some {part : Part σ DryRun} {s : σ} {symbol : String} {value : Scalar} (type : ValueType)
    (present : (part.get s).values.get? symbol = some value) : (backend part).read symbol type s = .ok value s := by
  have run : DryRun.read symbol (part.get s) = .ok value (part.get s) := by
    have found : (part.get s).value? symbol = some value := present
    rw [DryRun.read, found]
  exact (Task.on_of_ok run).trans (by rw [part.set_get])

theorem backend_overTable (part : Part σ DryRun) : (backend part).OverTable (DryRun.values ∘ part.get) where
  toWrites := backend_writes part write_values
  read type _ _ s present := ⟨s, backend_read_of_some type present, rfl⟩

end DryRun

namespace Executor

theorem Refusal.outcome_succeeded (refusal : Refusal) : refusal.outcome.succeeded = false := by
  cases refusal <;> rfl

theorem screen_of_passes {profile : Profile} {call : ActionCall} {a : ActionSpec} {payload : Payload}
    (listed : profile.action? call.action = some a) (gate : modeConflict? a call.mode = none)
    (given : Payload.firstMissing? a call.payload = none)
    (read : Payload.read a call.payload = .ok payload) : screen profile call = .ok (a, payload) := by
  simp only [screen, listed, gate, given, read]

theorem perform_of_ok {e : Executor σ} {profile : Profile} {call : ActionCall} {a : ActionSpec}
    {symbol : String} {value : Scalar} {attachment : Attachment} {cancel : Token σ} {outcome : Outcome}
    {s s' : σ}
    (ran : e.backend.execute (requestOf profile call a (.memory symbol value)) cancel s = .ok outcome s') :
    e.perform profile call a (.memory symbol value) attachment cancel s = .ok outcome s' := by
  rw [perform, Task.bind_of_ok (Task.settle_of_ok ran)]
  · rfl
  · nofun

theorem execute_of_refusal {e : Executor σ} {call : ActionCall} {cancel : Token σ} {profile : Profile}
    {refusal : Refusal} {r r₁ r₂ : Runtime σ} (asked : Task.on Runtime.worldPart cancel.check r = .ok () r₁)
    (found : Task.on Runtime.worldPart (e.profiles call.profileId) r₁ = .ok profile r₂)
    (refused : screen profile call = .error refusal) : e.execute call cancel r = .ok refusal.outcome r₂ := by
  rw [execute, Task.bind_of_ok asked, Task.bind_of_ok found, refused]
  rfl

theorem execute_of_admission {e : Executor σ} {call : ActionCall} {cancel : Token σ} {profile : Profile}
    {a : ActionSpec} {payload : Payload} {attachment : Attachment} {outcome : Outcome}
    {r r₁ r₂ r₃ r₄ r₅ : Runtime σ} (asked : Task.on Runtime.worldPart cancel.check r = .ok () r₁)
    (found : Task.on Runtime.worldPart (e.profiles call.profileId) r₁ = .ok profile r₂)
    (admitted : screen profile call = .ok (a, payload))
    (looked : Query.on Runtime.worldPart e.backend.session r₂ = (attachment, r₃))
    (ran : Task.on Runtime.worldPart (e.perform profile call a payload attachment cancel) r₃ = .ok outcome r₄)
    (written : e.record profile a attachment
      { outcome with diagnostics := outcome.diagnostics.overlay call.context } r₄ = .ok () r₅) :
    e.execute call cancel r =
      .ok { outcome with diagnostics := outcome.diagnostics.overlay call.context } r₅ := by
  rw [execute, Task.bind_of_ok asked, Task.bind_of_ok found, admitted]
  simp only
  rw [Task.bind_of_ok (Query.task_apply _ _), looked, Task.bind_of_ok ran, Task.bind_of_ok written]
  rfl

theorem perform_wrote {e : Executor σ} {view : σ → τ} {put : String → Scalar → τ → τ}
    (writes : e.backend.Writes view put) {cancel : Token σ} (quiet : cancel.Keeps view)
    (profile : Profile) (call : ActionCall) (action : ActionSpec) (symbol : String) (value : Scalar)
    (attachment : Attachment) (s : σ) :
    Wrote view (put symbol value) s
      (e.perform profile call action (.memory symbol value) attachment cancel s) := by
  have wrote := writes.write (s := s)
    (show (requestOf profile call action (.memory symbol value)).payload = _ from rfl) quiet
  unfold perform
  simp only
  cases run : e.backend.execute (requestOf profile call action (.memory symbol value)) cancel s with
  | ok outcome s' =>
    rw [run] at wrote
    rw [Task.bind_of_ok (Task.settle_of_ok run)]
    exact wrote
  | error fault s' =>
    rw [run] at wrote
    by_cases cancelled : fault = .cancelled
    · subst cancelled
      rw [Task.bind_of_error (Task.settle_of_cancelled run)]
      exact wrote
    · rw [Task.bind_of_ok (Task.settle_of_error run cancelled)]
      exact wrote

/-- Writing an outcome down always comes to an end, also when the audit fails. -/
theorem record_runs {e : Executor σ} {view : σ → τ} (audit : ∀ entry, (e.audit entry).Keeps view)
    (profile : Profile) (action : ActionSpec) (attachment : Attachment) (outcome : Outcome)
    (r : Runtime σ) :
    ∃ r', e.record profile action attachment outcome r = .ok () r' ∧ view r'.world = view r.world :=
  ⟨_, record_eq .., recorded_keeps audit profile action attachment outcome r⟩

section Course

variable {e : Executor σ} {view : σ → τ} {put : String → Scalar → τ → τ} {call : ActionCall} {cancel : Token σ}
  {r : Runtime σ}

/-- Once it is admitted, a call that aims at a symbol writes there or changes nothing. -/
theorem Enters.wrote {profile : Profile} {a : ActionSpec} {symbol : String} {value : Scalar}
    {attachment : Attachment} {s : σ}
    (enters : e.Enters call cancel r profile a (.memory symbol value) attachment s)
    (writes : e.backend.Writes view put) (profiles : (e.profiles call.profileId).Keeps view)
    (quiet : cancel.Keeps view) :
    Wrote view (put symbol value) r.world
      (e.perform profile call a (.memory symbol value) attachment cancel s) := by
  obtain ⟨before, opens, looked⟩ := enters.opens
  have same : view s = view before := by
    rw [← writes.session before, looked]
  exact Wrote.of_same (same.trans (opens.keeps profiles quiet))
    (perform_wrote writes quiet profile call a symbol value attachment s)

/-- A call that aims at a symbol writes there or changes nothing. -/
theorem execute_wrote (writes : e.backend.Writes view put) (profiles : (e.profiles call.profileId).Keeps view)
    (audit : ∀ entry, (e.audit entry).Keeps view) (quiet : cancel.Keeps view) {symbol : String} {value : Scalar}
    (aimed : ∀ {s profile s' a payload}, e.profiles call.profileId s = .ok profile s' →
      screen profile call = .ok (a, payload) → payload = .memory symbol value) (r : Runtime σ) :
    Wrote (view ∘ Runtime.world) (put symbol value) r (e.execute call cancel r) := by
  have course := course_execute e call cancel r
  generalize e.execute call cancel r = result at course ⊢
  cases course with
  | cancelled => exact quiet r.world
  | unknown _ missing => exact (profiles.error missing).trans (quiet r.world)
  | @refused profile refusal s opens =>
    show view s = if refusal.outcome.succeeded then _ else view r.world
    rw [refusal.outcome_succeeded, opens.keeps profiles quiet]
    rfl
  | stopped enters fails =>
    obtain ⟨before, opens, -⟩ := enters.opens
    obtain rfl := aimed opens.found enters.passed
    have wrote := enters.wrote writes profiles quiet
    rw [fails] at wrote
    exact wrote
  | performed enters ran =>
    obtain ⟨before, opens, -⟩ := enters.opens
    obtain rfl := aimed opens.found enters.passed
    have wrote := enters.wrote writes profiles quiet
    rw [ran] at wrote
    exact (recorded_keeps audit ..).trans wrote

end Course

end Executor
end LiveControl
