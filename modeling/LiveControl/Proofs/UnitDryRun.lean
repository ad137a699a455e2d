import LiveControl.Proofs.UnitEdit

namespace LiveControl

open UnitAttempt (Answer)

variable {σ τ : Type}

namespace DryRun

/-- What was written where, oldest first. -/
def log (d : DryRun) : List (String × Scalar) := d.writes.map fun w => (w.symbol, w.value)

def jot (symbol : String) (value : Scalar) (log : List (String × Scalar)) : List (String × Scalar) :=
  log ++ [(symbol, value)]

theorem write_log (d : DryRun) (action symbol : String) (value : Scalar) :
    (d.write action symbol value).2.log =
      if (d.write action symbol value).1.succeeded then jot symbol value d.log else d.log :=
  write_view log (by simp [log, jot])

theorem read_eq_ok {d d' : DryRun} {symbol : String} {value : Scalar} (run : read symbol d = .ok value d') :
    d.values.get? symbol = some value ∧ d' = d := by
  unfold read at run
  split at run
  · rename_i found present
    cases run
    exact ⟨present, rfl⟩
  · cases run

theorem read_keeps (part : Part σ DryRun) (symbol : String) (type : ValueType) :
    ((backend part).read symbol type).Keeps part.get := by
  suffices keeps : (read symbol).Keeps id from keeps.on
  refine Task.Keeps.intro (fun run => (read_eq_ok run).2) ?_
  intro d fault d' run
  unfold read at run
  split at run
  · cases run
  · cases run
    rfl

end DryRun

def UnitField.payloadKey (f : UnitField) : String := if f.isFloat then "floatValue" else "intValue"

theorem UnitField.Takes.payloadKey {f : UnitField} {value : Scalar} (takes : f.Takes value) :
    value.payloadKey = f.payloadKey := by
  cases value with
  | bool b => cases takes
  | int n => rw [UnitField.payloadKey, show f.isFloat = false from takes]; rfl
  | float x => rw [UnitField.payloadKey, show f.isFloat = true from takes]; rfl

/-- The action of every field is there under its own name and writes to memory. It is gated on no mode but
the one in which units are edited, and requires nothing that a write does not give. -/
def Profile.WritesUnits (profile : Profile) (p : Policy) : Prop :=
  ∀ f : UnitField, ∃ a, profile.action? f.action = some a ∧ a.id = f.action ∧ a.kind = .memory ∧
    (a.enforcedMode = none ∨ a.enforcedMode = some p.tacticalMode) ∧
    ∀ key ∈ a.requiredFields, key = "symbol" ∨ key = f.payloadKey

theorem Profile.WritesUnits.serves {profile : Profile} {p : Policy} (writes : profile.WritesUnits p) :
    profile.ServesUnits := by
  intro f
  obtain ⟨a, listed, -, memory, -⟩ := writes f
  exact ⟨a, listed, memory⟩

/-- An editor over a dry run, whose other collaborators may fail but leave the dry run alone. -/
structure UnitEditor.OverDryRun (e : UnitEditor σ) (part : Part σ DryRun) : Prop where
  backend : e.executor.backend = DryRun.backend part
  profiles : (e.executor.profiles e.profileId).Keeps part.get
  serves : ∀ {s p s'}, e.executor.profiles e.profileId s = .ok p s' → p.ServesUnits
  audit : ∀ entry, (e.executor.audit entry).Keeps part.get
  freshId : e.freshId.Keeps part.get
  symbols : e.policy.UnitSymbols

/-- An editor over a dry run, whose other collaborators leave the dry run alone. -/
structure UnitEditor.DryRuns (e : UnitEditor σ) (part : Part σ DryRun) : Prop where
  backend : e.executor.backend = DryRun.backend part
  profiles : ∀ s, ∃ p s', e.executor.profiles e.profileId s = .ok p s' ∧ p.WritesUnits e.policy ∧
    part.get s' = part.get s
  audit : ∀ entry, (e.executor.audit entry).Keeps part.get
  freshId : e.freshId.Keeps part.get
  symbols : e.policy.UnitSymbols
  named : ∀ f, (UnitChange.symbolOf e.policy f).isEmpty = false

namespace UnitEditor

variable {e : UnitEditor σ} {part : Part σ DryRun}

theorem OverDryRun.writes (dry : e.OverDryRun part) {view : DryRun → τ} {put : String → Scalar → τ → τ}
    (write : ∀ (d : DryRun) (action symbol : String) (value : Scalar),
      view (d.write action symbol value).2 =
        if (d.write action symbol value).1.succeeded then put symbol value (view d) else view d) :
    e.Writes (view ∘ part.get) put where
  backend := dry.backend ▸ DryRun.backend_writes part write
  profiles := dry.profiles.comp view
  serves := dry.serves
  audit entry := (dry.audit entry).comp view
  freshId := dry.freshId.comp view
  symbols := dry.symbols

theorem OverDryRun.jots (dry : e.OverDryRun part) : e.Writes (DryRun.log ∘ part.get) DryRun.jot :=
  dry.writes DryRun.write_log

theorem OverDryRun.puts (dry : e.OverDryRun part) : e.Writes (DryRun.values ∘ part.get) Table.put :=
  dry.writes DryRun.write_values

/-- To look at the session of a dry run changes nothing. -/
theorem OverDryRun.looked (dry : e.OverDryRun part) (s : σ) :
    e.executor.backend.session s = ((part.get s).attachment, s) := by
  rw [dry.backend]
  show ((part.get s).attachment, part.set (part.get s) s) = _
  rw [part.set_get]

theorem DryRuns.overDryRun (runs : e.DryRuns part) : e.OverDryRun part where
  backend := runs.backend
  profiles := by
    intro s
    obtain ⟨p, s', found, -, same⟩ := runs.profiles s
    rw [Task.leave_of_ok found, same]
  serves := by
    intro s p s' found
    obtain ⟨p', s'', found', writes, -⟩ := runs.profiles s
    rw [found] at found'
    cases found'
    exact writes.serves
  audit := runs.audit
  freshId := runs.freshId
  symbols := runs.symbols

theorem DryRuns.writes (runs : e.DryRuns part) {view : DryRun → τ} {put : String → Scalar → τ → τ}
    (write : ∀ (d : DryRun) (action symbol : String) (value : Scalar),
      view (d.write action symbol value).2 =
        if (d.write action symbol value).1.succeeded then put symbol value (view d) else view d) :
    e.Writes (view ∘ part.get) put := runs.overDryRun.writes write

theorem DryRuns.overTable (runs : e.DryRuns part) : e.OverTable (DryRun.values ∘ part.get) where
  toWrites := runs.overDryRun.puts
  reads := runs.backend ▸ DryRun.backend_overTable part

theorem screen_callOf {profile : Profile} (writes : profile.WritesUnits e.policy) {c : UnitChange}
    (fits : c.Fits e.policy) {value : Scalar} (takes : c.field.Takes value)
    (finite : value.isFinite = true) (symbols : e.policy.UnitSymbols)
    (named : (UnitChange.symbolOf e.policy c.field).isEmpty = false) (id : String)
    (operation : UnitOperation) :
    ∃ a, Executor.screen profile (e.callOf c value id operation) = .ok (a, .memory c.symbol value) ∧
      a.kind = .memory := by
  obtain ⟨a, listed, -, memory, gate, fields⟩ := writes c.field
  refine ⟨a, ?_, memory⟩
  have atAction : profile.action? (e.callOf c value id operation).action = some a := by
    rw [show (e.callOf c value id operation).action = c.action from rfl, fits.action]
    exact listed
  have gated : Executor.modeConflict? a (e.callOf c value id operation).mode = none := by
    rcases gate with gate | gate <;> simp [Executor.modeConflict?, gate, callOf]
  have given : Payload.firstMissing? a (e.callOf c value id operation).payload = none := by
    refine List.find?_eq_none.2 fun key member => ?_
    show ¬ (Payload.given? (Payload.bagOf c.symbol value) key).isNone = true
    rcases fields key member with rfl | rfl
    · rw [Payload.given?_bagOf_symbol]
      exact Bool.false_ne_true
    · rw [← takes.payloadKey, Payload.given?_bagOf c.symbol value (Payload.payloadKey_ne_symbol value),
        if_pos ⟨rfl, finite⟩]
      exact Bool.false_ne_true
  have read : Payload.read a (e.callOf c value id operation).payload = .ok (.memory c.symbol value) := by
    show Payload.read a (Payload.bagOf c.symbol value) = _
    rw [Payload.read_bagOf value memory (fits.symbol ▸ symbols.trimmed c.field), fits.symbol, named, finite]
    rfl
  exact Executor.screen_of_passes atAction gated given read

variable {id : String} {operation : UnitOperation}

theorem DryRuns.looked (runs : e.DryRuns part) (s : σ) :
    e.executor.backend.session s = ((part.get s).attachment, s) := runs.overDryRun.looked s

/-- A write that is admitted is one request to the dry run. -/
theorem DryRuns.execute_admitted (runs : e.DryRuns part) {c : UnitChange} {value : Scalar}
    {r : Runtime σ} {profile : Profile} {s : σ}
    (found : e.executor.profiles e.profileId r.world = .ok profile s) (same : part.get s = part.get r.world)
    {a : ActionSpec} (admitted : Executor.screen profile (e.callOf c value id operation) =
      .ok (a, .memory c.symbol value)) :
    ∃ outcome r', e.executor.execute (e.callOf c value id operation) .never r = .ok outcome r' ∧
      outcome.succeeded = (DryRun.request (Executor.requestOf profile (e.callOf c value id operation) a
        (.memory c.symbol value)) (part.get r.world)).1.succeeded := by
  have looked : Query.on Runtime.worldPart e.executor.backend.session { r with world := s } =
      ((part.get s).attachment, { r with world := s }) := by
    show ((e.executor.backend.session s).1, { r with world := (e.executor.backend.session s).2 }) = _
    rw [runs.looked]
  let request := Executor.requestOf profile (e.callOf c value id operation) a (.memory c.symbol value)
  have executed : e.executor.backend.execute request .never s =
      .ok (DryRun.request request (part.get s)).1 (part.set (DryRun.request request (part.get s)).2 s) := by
    rw [runs.backend]
    rfl
  obtain ⟨r', written, -⟩ := Executor.record_runs runs.audit profile a (part.get s).attachment
    { (DryRun.request request (part.get s)).1 with
      diagnostics := (DryRun.request request (part.get s)).1.diagnostics.overlay
        (e.callOf c value id operation).context }
    { r with world := part.set (DryRun.request request (part.get s)).2 s }
  exact ⟨_, r', Executor.execute_of_admission (Task.on_of_ok (Token.check_never r.world))
    (Task.on_of_ok found) admitted looked (Task.on_of_ok (Executor.perform_of_ok executed)) written,
    by rw [← same]⟩

theorem DryRuns.faultless (runs : e.DryRuns part) : e.Faultless := by
  intro c fits value id operation r
  obtain ⟨profile, s, found, writes, same⟩ := runs.profiles r.world
  cases passed : Executor.screen profile (e.callOf c value id operation) with
  | error refusal =>
    exact ⟨_, _, write_of_ok (Executor.execute_of_refusal (Task.on_of_ok (Token.check_never r.world))
      (Task.on_of_ok found) passed)⟩
  | ok admitted =>
    obtain ⟨a, payload⟩ := admitted
    obtain ⟨atAction, read⟩ := Executor.read_of_screen passed
    obtain ⟨spec, listed, -, memory, -⟩ := writes c.field
    rw [show (e.callOf c value id operation).action = c.action from rfl, fits.action, listed] at atAction
    obtain rfl := Option.some.inj atAction
    obtain rfl := Payload.eq_of_read_bagOf memory (fits.symbol ▸ runs.symbols.trimmed c.field) read
    obtain ⟨outcome, r', ran, -⟩ := runs.execute_admitted found same passed
    exact ⟨_, _, write_of_ok ran⟩

/-- A finite value of the kind of its field is written unless its symbol has no writes left. -/
theorem DryRuns.attempt_answers (runs : e.DryRuns part) {a : UnitAttempt} (fits : a.change.Fits e.policy)
    (takes : a.change.field.Takes a.value) (finite : a.value.isFinite = true) (id : String) (r : Runtime σ) :
    ∃ answer r', e.attempt id .never a r = .ok (.ok answer) r' ∧
      (answer = none ↔ (part.get r.world).failing.get? a.change.symbol ≠ some 0) := by
  obtain ⟨profile, s, found, writes, same⟩ := runs.profiles r.world
  obtain ⟨spec, admitted, memory⟩ := screen_callOf writes fits takes finite runs.symbols
    (runs.named a.change.field) id a.operation
  obtain ⟨outcome, r', ran, succeeded⟩ := runs.execute_admitted found same admitted
  have fit : (Executor.requestOf profile (e.callOf a.change a.value id a.operation) spec
      (.memory a.change.symbol a.value)).envelopeFlaw? = none := by
    simp [Executor.requestOf, ExecutionRequest.envelopeFlaw?, Payload.kind, memory]
  rw [DryRun.request, fit] at succeeded
  refine ⟨if outcome.succeeded then none else some outcome.message, r', ?_, ?_⟩
  · show Task.attempt (e.write a.change a.value id a.operation .never) r = _
    rw [Task.attempt_of_ok (write_of_ok ran)]
  · rw [ite_eq_left_iff]
    simp only [reduceCtorEq, imp_false, Bool.not_eq_true, Bool.not_eq_false]
    rw [succeeded]
    exact DryRun.write_succeeds_iff

theorem DryRuns.reads_keep (runs : e.DryRuns part) (symbol : String) (type : ValueType) :
    (e.executor.backend.read symbol type).Keeps part.get :=
  runs.backend ▸ DryRun.read_keeps part symbol type

theorem DryRuns.edit_attachment (runs : e.DryRuns part) {draft : UnitDraft} {recorded : Bool}
    {outcome : UnitOutcome} {d d' : UnitDesk σ}
    (run : e.edit draft operation recorded .never d = .ok outcome d') :
    (part.get d'.runtime.world).attachment = (part.get d.runtime.world).attachment := by
  have writes : e.Writes (DryRun.attachment ∘ part.get) fun _ _ t => t :=
    runs.writes fun d action symbol value => by rw [DryRun.write_attachment, ite_self]
  exact edit_stable writes (P := fun t => t = (part.get d.runtime.world).attachment) (fun _ _ _ holds => holds)
    (fun symbol type => (runs.reads_keep symbol type).comp DryRun.attachment) (Token.never_keeps _) run rfl

/-- No write to a symbol of the unit is set to fail. -/
def Free (e : UnitEditor σ) (failing : Table Nat) : Prop :=
  ∀ f, failing.get? (UnitChange.symbolOf e.policy f) = none

theorem DryRuns.spends (runs : e.DryRuns part) :
    e.Writes (DryRun.failing ∘ part.get) fun symbol _ t => DryRun.spend symbol t :=
  runs.writes DryRun.write_failing

theorem DryRuns.edit_free (runs : e.DryRuns part) {draft : UnitDraft} {recorded : Bool}
    {outcome : UnitOutcome} {d d' : UnitDesk σ}
    (run : e.edit draft operation recorded .never d = .ok outcome d')
    (free : e.Free (part.get d.runtime.world).failing) : e.Free (part.get d'.runtime.world).failing :=
  edit_stable runs.spends (P := e.Free) (fun symbol _ _ free f => DryRun.get?_spend (free f) symbol)
    (fun symbol type => (runs.reads_keep symbol type).comp DryRun.failing) (Token.never_keeps _) run free

/-- An edit succeeds when no write to a symbol of the unit is set to fail. -/
theorem DryRuns.edit_succeeds (runs : e.DryRuns part) {draft : UnitDraft}
    {recorded : Bool} {outcome : UnitOutcome} {d d' : UnitDesk σ}
    (finite : ∀ {f value}, draft.get f = some value → value.isFinite = true)
    (free : e.Free (part.get d.runtime.world).failing)
    (run : e.edit draft operation recorded .never d = .ok outcome d') : outcome.succeeded = true := by
  obtain ⟨s, d₁, captured, way⟩ := edit_eq_ok run
  have same : part.get d₁.runtime.world = part.get d.runtime.world :=
    (capture_keeps runs.reads_keep (Token.never_keeps _)).ok captured
  have fits : ∀ c ∈ UnitChange.plan e.policy s draft, c.Fits e.policy :=
    fun c member => UnitChange.fits_of_mem_plan member
  rcases way with ⟨nothing, rfl, rfl⟩ | ⟨something, carried⟩
  · rfl
  · have course := carryOut_course e s (UnitChange.plan e.policy s draft) operation recorded .never d₁
    rw [carried] at course
    cases course with
    | complete => rfl
    | @failure done rest failed answers undone answer r₁ r₂ r₃ split written through tried fails back =>
      have member : failed ∈ UnitChange.plan e.policy s draft := by
        rw [split]
        exact List.mem_append_right _ List.mem_cons_self
      have budgets : (part.get r₁.world).failing = _ := view_of_complete runs.spends (Token.never_keeps _)
        (fun c inDone => fits c (by rw [split]; exact List.mem_append_left _ inDone)) written
      have asked := UnitChange.new_of_mem_plan member
      have budget : (part.get r₁.world).failing.get? failed.symbol = none := by
        rw [budgets, (fits failed member).symbol]
        refine UnitAttempt.landed_stable (P := e.Free)
          (fun symbol _ _ free f => DryRun.get?_spend (free f) symbol) ?_ _ _ failed.field
        show e.Free (part.get d₁.runtime.world).failing
        rwa [same]
      obtain ⟨_, _, came, through⟩ := runs.attempt_answers (a := .doing operation failed)
        (fits failed member) (UnitDraft.takes_of_get asked) (finite asked) (e.nextId d₁) r₁
      have spared : (part.get r₁.world).failing.get? failed.symbol ≠ some 0 := by
        intro spent
        cases budget.symm.trans spent
      obtain rfl := through.2 spared
      rw [tried] at came
      cases came
      cases fails

variable {d : UnitDesk σ}

/-- The session of a desk over a dry run is in the mode in which units are edited. -/
def Tactical (e : UnitEditor σ) (part : Part σ DryRun) (d : UnitDesk σ) : Prop :=
  (part.get d.runtime.world).attachment.mode = e.policy.tacticalMode

theorem DryRuns.inMode (runs : e.DryRuns part) (tactical : e.Tactical part d)
    (act : Task (UnitDesk σ) UnitOutcome) : e.inMode act d = act d := by
  have looked := runs.looked d.runtime.world
  rw [inMode_of_tactical (by rw [looked]; exact tactical), afterSession, looked]

theorem DryRuns.apply_eq (runs : e.DryRuns part) (tactical : e.Tactical part d) (draft : UnitDraft) :
    e.apply draft .never d = match draftRefusal? draft with
      | some refusal => .ok refusal d
      | none => e.edit draft .apply true .never d := by
  rw [apply, runs.inMode tactical]
  cases draftRefusal? draft <;> rfl

theorem DryRuns.apply_succeeds (runs : e.DryRuns part) (tactical : e.Tactical part d)
    {before : UnitSnapshot} (shown : before.ShownBy e.policy (part.get d.runtime.world).values)
    (free : e.Free (part.get d.runtime.world).failing) {draft : UnitDraft}
    (accepted : draftRefusal? draft = none) :
    ∃ outcome d', e.apply draft .never d = .ok outcome d' ∧ outcome.succeeded = true := by
  obtain ⟨outcome, d', edited⟩ := edit_never runs.overTable runs.faultless shown draft .apply true
  refine ⟨outcome, d', ?_, runs.edit_succeeds (isFinite_of_accepted accepted) free edited⟩
  rw [runs.apply_eq tactical, accepted]
  exact edited

def drillProfile : Profile :=
  UnitField.all.foldl (fun p f => p.addAction (.plain f.action .memory)) (.bare "drill")

/-- An editor over nothing but a dry run, under the standard policy. -/
def drill : UnitEditor DryRun where
  executor :=
    { profiles := fun _ => pure drillProfile
      backend := DryRun.backend .whole
      pins := ⟨fun _ _ => pure (), fun _ => pure false, pure 0⟩
      audit := fun _ => pure () }
  profileId := "drill"
  policy := .standard
  freshId := Query.const "edit"

def drillUnit : UnitSnapshot := ⟨100.0, 50.0, 1.0, 1.0, 1.0, 0, 1⟩

/-- A fresh desk over a dry run that shows a unit. -/
def drillDesk (unit : UnitSnapshot) (failing : Table Nat) : UnitDesk DryRun where
  baseline := none
  history := .empty
  runtime :=
    { telemetry := .empty
      world :=
        { DryRun.start (.attached (.bare 7 .tactical)) with
          values := .ofList (UnitField.all.map fun f => (f.defaultSymbol, unit.get f))
          failing := failing } }

theorem drill_symbolOf (f : UnitField) : UnitChange.symbolOf drill.policy f = f.defaultSymbol := by
  cases f <;> simp [UnitChange.symbolOf, drill, Policy.symbolFor, Policy.standard, Policy.defaultBindings,
    Table.ofList, UnitField.action, UnitField.defaultSymbol, UnitField.text]

theorem drill_symbols : drill.policy.UnitSymbols where
  trimmed f := by
    rw [drill_symbolOf]
    cases f <;> decide
  distinct {f g} same := by
    rw [drill_symbolOf, drill_symbolOf] at same
    cases f <;> cases g <;> first | rfl | simp [UnitField.defaultSymbol, UnitField.text] at same

theorem drillProfile_action? (f : UnitField) : drillProfile.action? f.action = some (.plain f.action .memory) := by
  cases f <;> simp [drillProfile, UnitField.all, Profile.addAction, Profile.action?, ActionSpec.plain,
    UnitField.action, UnitField.text]

theorem drill_runs : drill.DryRuns .whole where
  backend := rfl
  profiles s := by
    refine ⟨drillProfile, s, rfl, fun f => ?_, rfl⟩
    exact ⟨.plain f.action .memory, drillProfile_action? f, rfl, rfl, Or.inl rfl, nofun⟩
  audit _ := Task.keeps_pure _ _
  freshId := Query.keeps_const _ _
  symbols := drill_symbols
  named f := by
    rw [drill_symbolOf]
    cases f <;> decide

theorem drillUnit_isFinite : drillUnit.IsFinite := by
  intro f
  cases f <;> decide

theorem drillDesk_shown (unit : UnitSnapshot) (failing : Table Nat) :
    unit.ShownBy drill.policy (Part.whole.get (drillDesk unit failing).runtime.world).values := by
  intro f
  rw [drill_symbolOf]
  cases f <;> simp [drillDesk, Part.whole, Table.ofList, UnitField.all, UnitField.defaultSymbol, UnitField.text]

theorem drill_tactical (unit : UnitSnapshot) (failing : Table Nat) :
    drill.Tactical .whole (drillDesk unit failing) := rfl

/-- A draft for the unit of the drill, in which one field is to stay as it is. -/
def drillDraft : UnitDraft := ⟨some 250.5, some 50.0, none, none, none, some 3, none⟩

theorem drill_valid : drill.policy.errors = [] := by decide

theorem drillDraft_accepted : draftRefusal? drillDraft = none := rfl

def drillChange (f : UnitField) (new : Scalar) : UnitChange :=
  ⟨f, UnitChange.symbolOf .standard f, f.action, drillUnit.get f, new, f.isFloat⟩

/-- The plan of the drill leaves out the field that is to stay as it is. -/
theorem drill_plan : UnitChange.plan drill.policy drillUnit drillDraft =
    [drillChange .hp (.float 250.5), drillChange .veterancy (.int 3)] := by
  have hp : UnitChange.of? drill.policy drillUnit drillDraft .hp = some (drillChange .hp (.float 250.5)) :=
    UnitChange.of?_eq_some.2 ⟨.float 250.5, rfl, by decide, rfl⟩
  have veterancy : UnitChange.of? drill.policy drillUnit drillDraft .veterancy =
      some (drillChange .veterancy (.int 3)) := UnitChange.of?_eq_some.2 ⟨.int 3, rfl, by decide, rfl⟩
  have shield : UnitChange.of? drill.policy drillUnit drillDraft .shield = none := by
    have close : UnitChange.differs drill.policy .shield (drillUnit.get .shield) (.float 50.0) = false := by decide
    rw [UnitChange.of?, show drillDraft.get .shield = some (.float 50.0) from rfl]
    simp only [close]
    rfl
  have others : UnitChange.of? drill.policy drillUnit drillDraft .speed = none ∧
      UnitChange.of? drill.policy drillUnit drillDraft .damageMultiplier = none ∧
      UnitChange.of? drill.policy drillUnit drillDraft .cooldownMultiplier = none ∧
      UnitChange.of? drill.policy drillUnit drillDraft .ownerFaction = none := ⟨rfl, rfl, rfl, rfl⟩
  simp [UnitChange.plan, UnitField.all, hp, shield, veterancy, others]

end UnitEditor
end LiveControl
