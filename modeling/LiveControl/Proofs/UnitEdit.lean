import LiveControl.Proofs.UnitAttempt

namespace LiveControl

open UnitAttempt (Answer landed)

theorem exists_mem_zip {α β : Type} {xs : List α} {ys : List β} (length : ys.length = xs.length) {x : α}
    (member : x ∈ xs) : ∃ y ∈ ys, (x, y) ∈ xs.zip ys := by
  have firsts : (xs.zip ys).map Prod.fst = xs := List.map_fst_zip (by omega)
  rw [← firsts] at member
  obtain ⟨⟨x', y⟩, inZip, rfl⟩ := List.mem_map.1 member
  exact ⟨y, (List.of_mem_zip inZip).2, inZip⟩

namespace UnitChange

variable {changes : List UnitChange} {t t' : Table Scalar} {answers : List Answer}

theorem mem_zip_attempts {f : UnitChange → UnitAttempt} {c : UnitChange} {answer : Answer}
    (member : (c, answer) ∈ changes.zip answers) : (f c, answer) ∈ (changes.map f).zip answers := by
  rw [List.zip_map_left]
  exact List.mem_map_of_mem (f := Prod.map f id) member

theorem made_landed (distinct : (changes.map symbol).Nodup) (operation : UnitOperation)
    (length : answers.length = changes.length) (through : answers.all Answer.cameThrough = true) :
    Made changes t (landed Table.put t (changes.map (.doing operation)) answers) where
  new := by
    intro c member
    obtain ⟨answer, inAnswers, inZip⟩ := exists_mem_zip length member
    have value := UnitAttempt.get?_landed_of_mem (t := t)
      (by rw [List.map_map]; exact distinct) (mem_zip_attempts (f := .doing operation) inZip)
    rwa [List.all_eq_true.1 through answer inAnswers] at value
  others := by
    intro key untouched
    exact UnitAttempt.get?_landed_of_not_mem (by rw [List.map_map]; exact untouched)

theorem undoing_symbols_nodup (distinct : (changes.map symbol).Nodup) :
    ((changes.reverse.map UnitAttempt.undoing).map fun a => a.change.symbol).Nodup := by
  rw [List.map_map]
  show (changes.reverse.map symbol).Nodup
  rw [List.map_reverse]
  exact List.pairwise_reverse.2 (distinct.imp Ne.symm)

/-- A change that could be taken back is undone, and any other stays made. -/
theorem get?_taken_back (made : Made changes t t') (distinct : (changes.map symbol).Nodup)
    {c : UnitChange} {answer : Answer} (member : (c, answer) ∈ changes.reverse.zip answers) :
    (landed Table.put t' (changes.reverse.map .undoing) answers).get? c.symbol =
      some (if answer.cameThrough then c.old else c.new) := by
  have value := UnitAttempt.get?_landed_of_mem (t := t') (undoing_symbols_nodup distinct)
    (mem_zip_attempts (f := .undoing) member)
  have standing := made.new c (List.mem_reverse.1 (List.of_mem_zip member).1)
  refine value.trans ?_
  show (if answer.cameThrough then some c.old else t'.get? c.symbol) = _
  rw [standing]
  cases answer.cameThrough <;> rfl

theorem get?_taken_back_of_not_mem (made : Made changes t t') {key : String}
    (untouched : key ∉ changes.map symbol) :
    (landed Table.put t' (changes.reverse.map .undoing) answers).get? key = t.get? key := by
  rw [UnitAttempt.get?_landed_of_not_mem, made.others untouched]
  rw [List.map_map]
  show key ∉ changes.reverse.map symbol
  rwa [List.map_reverse, List.mem_reverse]

/-- When every change could be taken back, the table is what it was. -/
theorem taken_back_all (made : Made changes t t') (distinct : (changes.map symbol).Nodup)
    (olds : ∀ c ∈ changes, t.get? c.symbol = some c.old) (length : answers.length = changes.length)
    (through : answers.all Answer.cameThrough = true) :
    landed Table.put t' (changes.reverse.map .undoing) answers = t := by
  refine Table.ext fun key => ?_
  by_cases touched : key ∈ changes.map symbol
  · obtain ⟨c, member, rfl⟩ := List.mem_map.1 touched
    obtain ⟨answer, inAnswers, inZip⟩ :=
      exists_mem_zip (length.trans List.length_reverse.symm) (List.mem_reverse.2 member)
    rw [get?_taken_back made distinct inZip, List.all_eq_true.1 through answer inAnswers, olds c member]
    rfl
  · exact get?_taken_back_of_not_mem made touched

end UnitChange

/-- The actions of all fields are there, and write to memory. -/
def Profile.ServesUnits (p : Profile) : Prop :=
  ∀ f : UnitField, ∃ a, p.action? f.action = some a ∧ a.kind = .memory

variable {σ τ : Type}

/-- An editor whose writes do `put` to a view, and which else leaves the view alone. -/
structure UnitEditor.Writes (e : UnitEditor σ) (view : σ → τ) (put : String → Scalar → τ → τ) : Prop where
  backend : e.executor.backend.Writes view put
  profiles : (e.executor.profiles e.profileId).Keeps view
  serves : ∀ {s p s'}, e.executor.profiles e.profileId s = .ok p s' → p.ServesUnits
  audit : ∀ entry, (e.executor.audit entry).Keeps view
  freshId : e.freshId.Keeps view
  symbols : e.policy.UnitSymbols

structure UnitEditor.OverTable (e : UnitEditor σ) (table : σ → Table Scalar) : Prop extends
    UnitEditor.Writes e table Table.put where
  reads : e.executor.backend.OverTable table

namespace UnitEditor

variable {e : UnitEditor σ} {cancel : Token σ} {id : String}

section Views

variable {view : σ → τ} {put : String → Scalar → τ → τ}

theorem execute_callOf_wrote (writes : e.Writes view put) (quiet : cancel.Keeps view) {c : UnitChange}
    (fits : c.Fits e.policy) (value : Scalar) (id : String) (operation : UnitOperation) (r : Runtime σ) :
    Wrote (view ∘ Runtime.world) (put c.symbol value) r
      (e.executor.execute (e.callOf c value id operation) cancel r) := by
  refine Executor.execute_wrote writes.backend writes.profiles writes.audit quiet ?_ r
  intro s profile s' a payload found passed
  obtain ⟨atAction, read⟩ := Executor.read_of_screen passed
  obtain ⟨spec, listed, memory⟩ := writes.serves found c.field
  have same : spec = a := by
    rw [show (e.callOf c value id operation).action = c.action from rfl, fits.action, listed] at atAction
    exact Option.some.inj atAction
  exact Payload.eq_of_read_bagOf (same ▸ memory) (fits.symbol ▸ writes.symbols.trimmed c.field) read

theorem write_of_ok {c : UnitChange} {value : Scalar} {operation : UnitOperation} {outcome : Outcome}
    {r r' : Runtime σ}
    (ran : e.executor.execute (e.callOf c value id operation) cancel r = .ok outcome r') :
    e.write c value id operation cancel r =
      .ok (if outcome.succeeded then none else some outcome.message) r' := by
  rw [write, Task.bind_of_ok ran]
  rfl

theorem write_of_error {c : UnitChange} {value : Scalar} {operation : UnitOperation} {fault : Fault}
    {r r' : Runtime σ}
    (ran : e.executor.execute (e.callOf c value id operation) cancel r = .error fault r') :
    e.write c value id operation cancel r = .error fault r' := by
  rw [write, Task.bind_of_error ran]

theorem attempt_landed (writes : e.Writes view put) (quiet : cancel.Keeps view) {a : UnitAttempt}
    (fits : a.change.Fits e.policy) {answer : Answer} {r r' : Runtime σ}
    (run : e.attempt id cancel a r = .ok answer r') :
    view r'.world =
      if answer.cameThrough then put a.change.symbol a.value (view r.world) else view r.world := by
  have wrote := execute_callOf_wrote writes quiet fits a.value id a.operation r
  have ended : Task.attempt (e.write a.change a.value id a.operation cancel) r = .ok answer r' := run
  cases ran : e.executor.execute (e.callOf a.change a.value id a.operation) cancel r with
  | error fault r₁ =>
    rw [Task.attempt_of_error (write_of_error ran)] at ended
    cases ended
    rw [ran] at wrote
    exact wrote
  | ok outcome r₁ =>
    rw [Task.attempt_of_ok (write_of_ok ran)] at ended
    cases ended
    rw [ran] at wrote
    have landed : view r'.world = if outcome.succeeded then
        put a.change.symbol a.value (view r.world) else view r.world := wrote
    rw [landed]
    cases outcome.succeeded <;> rfl

theorem attemptAll_landed (writes : e.Writes view put) (quiet : cancel.Keeps view)
    {attempts : List UnitAttempt} (fits : ∀ a ∈ attempts, a.change.Fits e.policy) {answers : List Answer}
    {r r' : Runtime σ} (run : e.attemptAll id cancel attempts r = .ok answers r') :
    view r'.world = landed put (view r.world) attempts answers := by
  induction attempts generalizing r answers with
  | nil =>
    cases run
    rfl
  | cons a rest ih =>
    obtain ⟨answer, others, r₁, rfl, first, later⟩ := attemptAll_cons_eq_ok run
    rw [ih (fun b member => fits b (List.mem_cons_of_mem a member)) later,
      attempt_landed writes quiet (fits a List.mem_cons_self) first, UnitAttempt.landed_cons]

theorem view_afterId (writes : e.Writes view put) (d : UnitDesk σ) :
    view (e.afterId d).runtime.world = view d.runtime.world := writes.freshId d.runtime.world

theorem view_of_complete (writes : e.Writes view put) (quiet : cancel.Keeps view) {d : UnitDesk σ}
    {changes : List UnitChange} {operation : UnitOperation} (fits : ∀ c ∈ changes, c.Fits e.policy)
    {answers : List Answer} {r : Runtime σ}
    (written : e.attemptAll id cancel (changes.map (.doing operation)) (e.afterId d).runtime = .ok answers r) :
    view r.world = landed put (view d.runtime.world) (changes.map (.doing operation)) answers := by
  rw [attemptAll_landed writes quiet (List.forall_mem_map.2 fits) written, view_afterId writes]

/-- A plan that was given up, with the changes that were made tried to be taken back. -/
theorem view_of_failure (writes : e.Writes view put) (quiet : cancel.Keeps view) {d : UnitDesk σ}
    {changes done rest : List UnitChange} {failed : UnitChange} {operation : UnitOperation}
    (fits : ∀ c ∈ changes, c.Fits e.policy) (split : changes = done ++ failed :: rest)
    {answers undone : List Answer} {answer : Answer} {r₁ r₂ r₃ : Runtime σ}
    (written : e.attemptAll id cancel (done.map (.doing operation)) (e.afterId d).runtime = .ok answers r₁)
    (tried : e.attempt id cancel (.doing operation failed) r₁ = .ok answer r₂)
    (fails : answer.cameThrough = false)
    (back : e.attemptAll id .never (done.reverse.map .undoing) r₂ = .ok undone r₃) :
    view r₃.world =
      landed put (landed put (view d.runtime.world) (done.map (.doing operation)) answers)
        (done.reverse.map .undoing) undone := by
  rw [split] at fits
  have doneFits : ∀ c ∈ done, c.Fits e.policy := fun c member => fits c (List.mem_append_left _ member)
  have atTried := attempt_landed writes quiet (fits failed (List.mem_append_right _ List.mem_cons_self)) tried
  rw [fails, if_neg Bool.false_ne_true, view_of_complete writes quiet doneFits written] at atTried
  rw [attemptAll_landed writes (Token.never_keeps view)
    (List.forall_mem_map.2 fun c member => doneFits c (List.mem_reverse.1 member)) back, atTried]

end Views

variable {table : σ → Table Scalar} {before : UnitSnapshot}

theorem readFields_ok (tabled : e.executor.backend.OverTable table) (quiet : cancel.Keeps table)
    {fields : List UnitField} {values : List (UnitField × Scalar)} {s s' : σ}
    (shown : before.ShownBy e.policy (table s)) (run : e.readFields cancel fields s = .ok values s') :
    values = fields.map (fun f => (f, before.get f)) ∧ table s' = table s := by
  induction fields generalizing s s' values with
  | nil =>
    cases run
    exact ⟨rfl, rfl⟩
  | cons f rest ih =>
    rw [readFields] at run
    obtain ⟨_, s₁, asked, run⟩ := Task.bind_eq_ok run
    have same₁ := (Token.check_keeps quiet).ok asked
    obtain ⟨s₂, read, same₂⟩ := tabled.read f.valueType (same₁ ▸ shown f)
    rw [Task.bind_of_ok read] at run
    obtain ⟨others, s₃, later, run⟩ := Task.bind_eq_ok run
    cases run
    obtain ⟨rfl, same₃⟩ := ih (by rwa [same₂, same₁]) later
    exact ⟨rfl, by rw [same₃, same₂, same₁]⟩

theorem readFields_never (tabled : e.executor.backend.OverTable table) (fields : List UnitField) {s : σ}
    (shown : before.ShownBy e.policy (table s)) :
    ∃ values s', e.readFields .never fields s = .ok values s' := by
  induction fields generalizing s with
  | nil => exact ⟨[], s, rfl⟩
  | cons f rest ih =>
    obtain ⟨s₁, read, same⟩ := tabled.read f.valueType (shown f)
    obtain ⟨values, s₂, later⟩ := ih (same.symm ▸ shown)
    refine ⟨(f, before.get f) :: values, s₂, ?_⟩
    rw [readFields, Task.bind_of_ok (Token.check_never s), Task.bind_of_ok read, Task.bind_of_ok later]
    rfl

theorem capture_of_ok {d : UnitDesk σ} {values : List (UnitField × Scalar)} {s' : σ}
    (run : e.readFields cancel UnitField.all d.runtime.world = .ok values s') :
    e.capture cancel d = .ok (UnitSnapshot.zero.setAll values)
      (UnitDesk.keepBaseline { d with runtime := { d.runtime with world := s' } }
        (UnitSnapshot.zero.setAll values)) := by
  have inner : Task.on UnitDesk.runtimePart
      (Task.on Runtime.worldPart (e.readFields cancel UnitField.all)) d =
        .ok values { d with runtime := { d.runtime with world := s' } } :=
    Task.on_of_ok (p := UnitDesk.runtimePart) (Task.on_of_ok (p := Runtime.worldPart) run)
  rw [capture, Task.bind_of_ok inner]
  rfl

/-- A snapshot that is taken is the one that the table shows. -/
theorem capture_ok (tabled : e.executor.backend.OverTable table) (quiet : cancel.Keeps table)
    {d d' : UnitDesk σ} {s : UnitSnapshot} (shown : before.ShownBy e.policy (table d.runtime.world))
    (run : e.capture cancel d = .ok s d') :
    s = before ∧ table d'.runtime.world = table d.runtime.world ∧ d'.history = d.history ∧
      d'.baseline = some (d.baseline.getD before) := by
  rw [capture] at run
  obtain ⟨values, d₁, inner, run⟩ := Task.bind_eq_ok run
  obtain ⟨r, inWorld, rfl⟩ := Task.on_eq_ok inner
  obtain ⟨s', read, rfl⟩ := Task.on_eq_ok inWorld
  obtain ⟨rfl, same⟩ := readFields_ok tabled quiet shown read
  rw [UnitSnapshot.setAll_all] at run
  cases run
  exact ⟨rfl, same, rfl, rfl⟩

theorem capture_never (tabled : e.executor.backend.OverTable table) {d : UnitDesk σ}
    (shown : before.ShownBy e.policy (table d.runtime.world)) :
    ∃ s d', e.capture .never d = .ok s d' := by
  obtain ⟨values, s', read⟩ := readFields_never tabled UnitField.all shown
  exact ⟨_, _, capture_of_ok read⟩

variable {operation : UnitOperation} {recorded : Bool} {d : UnitDesk σ}

theorem edit_of_nothing {draft : UnitDraft} {d₁ : UnitDesk σ} (captured : e.capture cancel d = .ok before d₁)
    (nothing : UnitChange.plan e.policy before draft = []) :
    e.edit draft operation recorded cancel d = .ok .unchanged d₁ := by
  rw [edit, Task.bind_of_ok captured, nothing]
  rfl

theorem edit_of_something {draft : UnitDraft} {d₁ : UnitDesk σ} (captured : e.capture cancel d = .ok before d₁)
    (something : UnitChange.plan e.policy before draft ≠ []) :
    e.edit draft operation recorded cancel d =
      e.carryOut before (UnitChange.plan e.policy before draft) operation recorded cancel d₁ := by
  rw [edit, Task.bind_of_ok captured]
  cases planned : UnitChange.plan e.policy before draft with
  | nil => exact absurd planned something
  | cons c rest => rfl

/-- An edit that comes to an end has taken a snapshot, and then there was nothing to change or the plan
was carried out. -/
theorem edit_eq_ok {draft : UnitDraft} {outcome : UnitOutcome} {d' : UnitDesk σ}
    (run : e.edit draft operation recorded cancel d = .ok outcome d') :
    ∃ s d₁, e.capture cancel d = .ok s d₁ ∧
      ((UnitChange.plan e.policy s draft = [] ∧ outcome = .unchanged ∧ d' = d₁) ∨
        (UnitChange.plan e.policy s draft ≠ [] ∧
          e.carryOut s (UnitChange.plan e.policy s draft) operation recorded cancel d₁ = .ok outcome d')) := by
  obtain ⟨s, d₁, captured, -⟩ := Task.bind_eq_ok run
  refine ⟨s, d₁, captured, ?_⟩
  by_cases nothing : UnitChange.plan e.policy s draft = []
  · rw [edit_of_nothing captured nothing] at run
    cases run
    exact Or.inl ⟨nothing, rfl, rfl⟩
  · rw [edit_of_something captured nothing] at run
    exact Or.inr ⟨nothing, run⟩

/-- How an edit ends that comes to an end: its outcome, with the history and the table before and after. -/
inductive EditEnd (before : UnitSnapshot) (changes : List UnitChange) (operation : UnitOperation)
    (recorded : Bool) (h h' : UnitHistory) (t t' : Table Scalar) : UnitOutcome → Prop
  | unchanged (nothing : changes = []) (history : h' = h) (same : t' = t) :
      EditEnd before changes operation recorded h h' t t' .unchanged
  | committed (id : String) (something : changes ≠ [])
      (history : h' = if recorded then h.push (recordOf id before changes operation) else h)
      (made : UnitChange.Made changes t t') :
      EditEnd before changes operation recorded h h' t t' (.committed id changes.length)
  | failed (id action message : String) (steps : Nat) (undone : Bool) (history : h' = h)
      (restored : undone = true → t' = t) :
      EditEnd before changes operation recorded h h' t t' (.failed id action message steps undone)

theorem olds_of_shown (shown : before.ShownBy e.policy (table d.runtime.world)) {draft : UnitDraft}
    {c : UnitChange} (member : c ∈ UnitChange.plan e.policy before draft) :
    (table d.runtime.world).get? c.symbol = some c.old := by
  rw [(UnitChange.fits_of_mem_plan member).symbol, UnitChange.old_of_mem_plan member]
  exact shown c.field

/-- What is left of a plan that was given up: a change that could be taken back is undone, any other stays
made, and all else is as it was. -/
theorem table_of_failure (tabled : e.OverTable table) (quiet : cancel.Keeps table)
    (shown : before.ShownBy e.policy (table d.runtime.world)) {draft : UnitDraft}
    {done rest : List UnitChange} {failed : UnitChange}
    (split : UnitChange.plan e.policy before draft = done ++ failed :: rest) {answers undone : List Answer}
    {answer : Answer} {r₁ r₂ r₃ : Runtime σ}
    (written : e.attemptAll id cancel (done.map (.doing operation)) (e.afterId d).runtime = .ok answers r₁)
    (through : answers.all Answer.cameThrough = true)
    (tried : e.attempt id cancel (.doing operation failed) r₁ = .ok answer r₂)
    (fails : answer.cameThrough = false)
    (back : e.attemptAll id .never (done.reverse.map .undoing) r₂ = .ok undone r₃) :
    (∀ c answer, (c, answer) ∈ done.reverse.zip undone →
        (table r₃.world).get? c.symbol = some (if answer.cameThrough then c.old else c.new)) ∧
      (∀ key, key ∉ done.map UnitChange.symbol →
        (table r₃.world).get? key = (table d.runtime.world).get? key) ∧
      (undone.all Answer.cameThrough = true → table r₃.world = table d.runtime.world) := by
  have distinct := UnitChange.plan_symbols_nodup tabled.symbols before draft
  rw [split, List.map_append, List.nodup_append] at distinct
  have olds : ∀ c ∈ done, (table d.runtime.world).get? c.symbol = some c.old := by
    intro c member
    have inPlan : c ∈ UnitChange.plan e.policy before draft := by
      rw [split]
      exact List.mem_append_left _ member
    exact olds_of_shown shown inPlan
  have length : undone.length = done.length := by simpa using length_attemptAll back
  have made := UnitChange.made_landed (t := table d.runtime.world) distinct.1 operation
    (by simpa using length_attemptAll written) through
  rw [view_of_failure tabled.toWrites quiet (fun c member => UnitChange.fits_of_mem_plan member) split written
    tried fails back]
  exact ⟨fun c answer member => UnitChange.get?_taken_back made distinct.1 member,
    fun key untouched => UnitChange.get?_taken_back_of_not_mem made untouched,
    UnitChange.taken_back_all made distinct.1 olds length⟩

theorem carryOut_ends (tabled : e.OverTable table) (quiet : cancel.Keeps table)
    (shown : before.ShownBy e.policy (table d.runtime.world)) {draft : UnitDraft}
    (something : UnitChange.plan e.policy before draft ≠ []) {outcome : UnitOutcome} {d' : UnitDesk σ}
    (run : e.carryOut before (UnitChange.plan e.policy before draft) operation recorded cancel d =
      .ok outcome d') :
    d'.baseline = d.baseline ∧ EditEnd before (UnitChange.plan e.policy before draft) operation recorded
      d.history d'.history (table d.runtime.world) (table d'.runtime.world) outcome := by
  have course := carryOut_course e before (UnitChange.plan e.policy before draft) operation recorded cancel d
  rw [run] at course
  cases course with
  | @complete answers r written through =>
    refine ⟨rfl, .committed _ something rfl ?_⟩
    show UnitChange.Made _ (table d.runtime.world) (table r.world)
    rw [view_of_complete tabled.toWrites quiet (fun c member => UnitChange.fits_of_mem_plan member) written]
    exact UnitChange.made_landed (UnitChange.plan_symbols_nodup tabled.symbols before draft) operation
      (by simpa using length_attemptAll written) through
  | failure split written through tried fails back =>
    obtain ⟨-, -, restored⟩ := table_of_failure tabled quiet shown split written through tried fails back
    exact ⟨rfl, .failed _ _ _ _ _ rfl restored⟩

/-- Every edit of a table that shows a snapshot is planned against that snapshot, and ends in one of
three ways. -/
theorem edit_ends (tabled : e.OverTable table) (quiet : cancel.Keeps table)
    (shown : before.ShownBy e.policy (table d.runtime.world)) {draft : UnitDraft}
    {outcome : UnitOutcome} {d' : UnitDesk σ}
    (run : e.edit draft operation recorded cancel d = .ok outcome d') :
    d'.baseline = some (d.baseline.getD before) ∧
      EditEnd before (UnitChange.plan e.policy before draft) operation recorded d.history d'.history
        (table d.runtime.world) (table d'.runtime.world) outcome := by
  obtain ⟨s, d₁, captured, way⟩ := edit_eq_ok run
  obtain ⟨rfl, same, history, baseline⟩ := capture_ok tabled.reads quiet shown captured
  rw [← same] at shown
  rw [← baseline, ← history, ← same]
  rcases way with ⟨nothing, rfl, rfl⟩ | ⟨something, carried⟩
  · exact ⟨rfl, .unchanged nothing rfl rfl⟩
  · exact carryOut_ends tabled quiet shown something carried

section Ends

variable {p : Policy} {before : UnitSnapshot} {draft : UnitDraft} {operation : UnitOperation}
  {recorded : Bool} {h h' : UnitHistory} {t t' : Table Scalar} {outcome : UnitOutcome}

theorem EditEnd.history_eq {changes : List UnitChange}
    (ending : EditEnd before changes operation false h h' t t' outcome) : h' = h := by
  cases ending with
  | unchanged nothing history same => exact history
  | committed id something history made => exact history
  | failed id action message steps undone history restored => exact history

theorem EditEnd.clean_of_succeeded {changes : List UnitChange}
    (ending : EditEnd before changes operation recorded h h' t t' outcome) (succeeded : outcome.succeeded = true) :
    outcome.rollbackSucceeded ≠ some false := by
  intro undone
  cases ending with
  | unchanged => cases undone
  | committed => cases undone
  | failed => cases succeeded

theorem EditEnd.shown (ending : EditEnd before (UnitChange.plan p before draft) operation recorded h h' t t' outcome)
    (succeeded : outcome.succeeded = true) (symbols : p.UnitSymbols) (shown : before.ShownBy p t) :
    (UnitChange.after before (UnitChange.plan p before draft)).ShownBy p t' := by
  cases ending with
  | unchanged nothing history same =>
    rw [nothing, same]
    exact shown
  | committed id something history made => exact made.shown symbols shown
  | failed => cases succeeded

/-- Apart from the symbols of the unit a table is the same after any edit of which nothing is left half
done. -/
theorem EditEnd.others (ending : EditEnd before (UnitChange.plan p before draft) operation recorded h h' t t' outcome)
    (clean : outcome.rollbackSucceeded ≠ some false) {key : String}
    (foreign : ∀ f, key ≠ UnitChange.symbolOf p f) : t'.get? key = t.get? key := by
  cases ending with
  | unchanged nothing history same => rw [same]
  | committed id something history made =>
    refine made.others fun member => ?_
    obtain ⟨c, inPlan, rfl⟩ := List.mem_map.1 member
    exact foreign c.field (UnitChange.fits_of_mem_plan inPlan).symbol
  | failed id action message steps undone history restored =>
    cases undone with
    | false => exact absurd rfl clean
    | true => rw [restored rfl]

theorem EditEnd.of_failed (ending : EditEnd before (UnitChange.plan p before draft) operation recorded h h' t t' outcome)
    (fails : outcome.succeeded = false) (clean : outcome.rollbackSucceeded ≠ some false) :
    h' = h ∧ t' = t := by
  cases ending with
  | unchanged => cases fails
  | committed => cases fails
  | failed id action message steps undone history restored =>
    cases undone with
    | false => exact absurd rfl clean
    | true => exact ⟨history, restored rfl⟩

end Ends

section Views

variable {view : σ → τ} {put : String → Scalar → τ → τ}

theorem readFields_keeps (reads : ∀ symbol type, (e.executor.backend.read symbol type).Keeps view)
    (quiet : cancel.Keeps view) (fields : List UnitField) : (e.readFields cancel fields).Keeps view := by
  induction fields with
  | nil => exact Task.keeps_pure _ view
  | cons f rest ih =>
    rw [readFields]
    refine (Token.check_keeps quiet).bind fun _ => (reads _ _).bind fun _ => ih.bind fun _ => ?_
    exact Task.keeps_pure _ view

theorem capture_keeps (reads : ∀ symbol type, (e.executor.backend.read symbol type).Keeps view)
    (quiet : cancel.Keeps view) :
    (e.capture cancel).Keeps (fun d : UnitDesk σ => view d.runtime.world) := by
  have inner := (readFields_keeps reads quiet UnitField.all).on (p := Runtime.worldPart)
  refine Task.Keeps.bind (inner.on (p := UnitDesk.runtimePart)) fun _ => ?_
  exact Task.Keeps.bind (fun _ => rfl) fun _ => Task.keeps_pure _ _

/-- What no write breaks holds after an edit if it held before. -/
theorem edit_stable (writes : e.Writes view put) {P : τ → Prop}
    (stable : ∀ symbol value t, P t → P (put symbol value t))
    (reads : ∀ symbol type, (e.executor.backend.read symbol type).Keeps view)
    (quiet : cancel.Keeps view) {draft : UnitDraft} {outcome : UnitOutcome} {d' : UnitDesk σ}
    (run : e.edit draft operation recorded cancel d = .ok outcome d') (holds : P (view d.runtime.world)) :
    P (view d'.runtime.world) := by
  obtain ⟨s, d₁, captured, way⟩ := edit_eq_ok run
  have same : view d₁.runtime.world = view d.runtime.world := (capture_keeps reads quiet).ok captured
  rw [← same] at holds
  have fits : ∀ c ∈ UnitChange.plan e.policy s draft, c.Fits e.policy :=
    fun c member => UnitChange.fits_of_mem_plan member
  rcases way with ⟨nothing, rfl, rfl⟩ | ⟨something, carried⟩
  · exact holds
  · have course := carryOut_course e s (UnitChange.plan e.policy s draft) operation recorded cancel d₁
    rw [carried] at course
    cases course with
    | @complete answers r written through =>
      show P (view r.world)
      rw [view_of_complete writes quiet fits written]
      exact UnitAttempt.landed_stable stable holds _ _
    | @failure done rest failed answers undone answer r₁ r₂ r₃ split written through tried fails back =>
      show P (view r₃.world)
      rw [view_of_failure writes quiet fits split written tried fails back]
      exact UnitAttempt.landed_stable stable (UnitAttempt.landed_stable stable holds _ _) _ _

end Views

/-- No write is a fault while the token does not fire. -/
def Faultless (e : UnitEditor σ) : Prop :=
  ∀ {c : UnitChange}, c.Fits e.policy → ∀ value id operation r,
    ∃ answer r', e.write c value id operation .never r = .ok answer r'

theorem Faultless.not_cancelled (faultless : e.Faultless) {a : UnitAttempt}
    (fits : a.change.Fits e.policy) {answer : Answer} {r r' : Runtime σ}
    (tried : e.attempt id .never a r = .ok answer r') :
    answer ≠ .error .cancelled := by
  intro cancelled
  subst cancelled
  obtain ⟨_, _, written⟩ := faultless fits a.value id a.operation r
  rw [attempt] at tried
  rw [Task.eq_of_attempt_error tried] at written
  cases written

theorem edit_never (tabled : e.OverTable table) (faultless : e.Faultless)
    (shown : before.ShownBy e.policy (table d.runtime.world)) (draft : UnitDraft)
    (operation : UnitOperation) (recorded : Bool) :
    ∃ outcome d', e.edit draft operation recorded .never d = .ok outcome d' := by
  obtain ⟨s, d₁, captured⟩ := capture_never tabled.reads shown
  obtain ⟨rfl, -⟩ := capture_ok tabled.reads (Token.never_keeps table) shown captured
  by_cases nothing : UnitChange.plan e.policy s draft = []
  · exact ⟨_, _, edit_of_nothing captured nothing⟩
  · rw [edit_of_something captured nothing]
    have course := carryOut_course e s (UnitChange.plan e.policy s draft) operation recorded .never d₁
    -- The run may still be cancelled here, so the cases are of the course of any result.
    revert course
    generalize e.carryOut s (UnitChange.plan e.policy s draft) operation recorded .never d₁ = result
    intro course
    cases course with
    | complete => exact ⟨_, _, rfl⟩
    | failure => exact ⟨_, _, rfl⟩
    | @cancelled done rest failed answers r₁ r₂ split written through tried =>
      have member : failed ∈ UnitChange.plan e.policy s draft := by
        rw [split]
        exact List.mem_append_right _ List.mem_cons_self
      exact absurd rfl (faultless.not_cancelled (UnitChange.fits_of_mem_plan member) tried)

def afterSession (e : UnitEditor σ) (d : UnitDesk σ) : UnitDesk σ :=
  { d with runtime := { d.runtime with world := (e.executor.backend.session d.runtime.world).2 } }

theorem lookAtSession (e : UnitEditor σ) (d : UnitDesk σ) :
    Query.task (Query.on UnitDesk.runtimePart (Query.on Runtime.worldPart e.executor.backend.session)) d =
      .ok (e.executor.backend.session d.runtime.world).1 (e.afterSession d) := rfl

theorem inMode_of_tactical {act : Task (UnitDesk σ) UnitOutcome}
    (tactical : (e.executor.backend.session d.runtime.world).1.mode = e.policy.tacticalMode) :
    e.inMode act d = act (e.afterSession d) := by
  have allowed : e.modeRefusal? (e.executor.backend.session d.runtime.world).1.mode = none := by
    rw [modeRefusal?, if_pos tactical]
  rw [inMode, Task.bind_of_ok (e.lookAtSession d), allowed]

theorem view_afterSession {view : σ → τ} {put : String → Scalar → τ → τ} (writes : e.Writes view put)
    (d : UnitDesk σ) : view (e.afterSession d).runtime.world = view d.runtime.world :=
  writes.backend.session d.runtime.world

theorem isFinite_of_accepted {draft : UnitDraft} (accepted : draftRefusal? draft = none) {f : UnitField}
    {value : Scalar} (asked : draft.get f = some value) : value.isFinite = true := by
  refine UnitDraft.isFinite_of_get ?_ asked
  unfold draftRefusal? at accepted
  split at accepted
  · cases accepted
  · exact Option.map_eq_none_iff.1 accepted

theorem inMode_of_succeeded {act : Task (UnitDesk σ) UnitOutcome} {outcome : UnitOutcome} {d' : UnitDesk σ}
    (run : e.inMode act d = .ok outcome d') (succeeded : outcome.succeeded = true) :
    act (e.afterSession d) = .ok outcome d' := by
  by_cases tactical : (e.executor.backend.session d.runtime.world).1.mode = e.policy.tacticalMode
  · rwa [inMode_of_tactical tactical] at run
  · rw [inMode, Task.bind_of_ok (e.lookAtSession d), modeRefusal?, if_neg tactical] at run
    cases run
    cases succeeded

theorem apply_of_succeeded {draft : UnitDraft} {outcome : UnitOutcome} {d' : UnitDesk σ}
    (run : e.apply draft cancel d = .ok outcome d') (succeeded : outcome.succeeded = true) :
    draftRefusal? draft = none ∧ e.edit draft .apply true cancel (e.afterSession d) = .ok outcome d' := by
  have ran := inMode_of_succeeded run succeeded
  cases accepted : draftRefusal? draft with
  | none =>
    rw [accepted] at ran
    exact ⟨rfl, ran⟩
  | some refusal =>
    rw [accepted] at ran
    cases ran
    unfold draftRefusal? at accepted
    split at accepted
    · cases accepted
      cases succeeded
    · obtain ⟨f, -, rfl⟩ := Option.map_eq_some_iff.1 accepted
      cases succeeded

end UnitEditor
end LiveControl
