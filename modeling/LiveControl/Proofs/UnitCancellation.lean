import LiveControl.Proofs.UnitDryRun
import LiveControl.Proofs.UnitVisits

namespace LiveControl

open UnitAttempt (Answer landed)

variable {σ : Type}

namespace UnitAttempt

/-- What attempts with the given answers leave in a log. -/
def logged (attempts : List UnitAttempt) (answers : List Answer) : List (String × Scalar) :=
  ((attempts.zip answers).filter fun p => p.2.cameThrough).map fun p => (p.1.change.symbol, p.1.value)

theorem landed_log (log : List (String × Scalar)) (attempts : List UnitAttempt) (answers : List Answer) :
    landed DryRun.jot log attempts answers = log ++ logged attempts answers := by
  induction attempts generalizing log answers with
  | nil => exact (List.append_nil log).symm
  | cons a rest ih =>
    cases answers with
    | nil => exact (List.append_nil log).symm
    | cons answer others =>
      rw [landed_cons, ih]
      cases through : answer.cameThrough <;> simp [logged, DryRun.jot, through]

theorem logged_of_all {attempts : List UnitAttempt} {answers : List Answer} (length : answers.length = attempts.length)
    (through : answers.all Answer.cameThrough = true) :
    logged attempts answers = attempts.map fun a => (a.change.symbol, a.value) := by
  induction attempts generalizing answers with
  | nil => rfl
  | cons a rest ih =>
    cases answers with
    | nil => cases length
    | cons answer others =>
      rw [List.all_cons, Bool.and_eq_true] at through
      have later := ih (Nat.succ.inj length) through.2
      simp only [logged] at later
      simp [logged, through.1, later]

end UnitAttempt

/-- The snapshot that a table shows, if it has a value for every field. -/
def UnitSnapshot.ofTable? (p : Policy) (t : Table Scalar) : Option UnitSnapshot :=
  (UnitField.all.mapM fun f => (t.get? (UnitChange.symbolOf p f)).map fun value => (f, value)).map zero.setAll

namespace UnitEditor

variable {e : UnitEditor σ} {part : Part σ DryRun} {cancel : Token σ}

/-- The dry run that a desk drives. -/
def dryRun (part : Part σ DryRun) (d : UnitDesk σ) : DryRun := part.get d.runtime.world

theorem OverDryRun.readFields_ok (dry : e.OverDryRun part) (quiet : cancel.Keeps part.get)
    {fields : List UnitField} {read : List (UnitField × Scalar)} {s s' : σ}
    (run : e.readFields cancel fields s = .ok read s') :
    (fields.mapM fun f => ((part.get s).values.get? (UnitChange.symbolOf e.policy f)).map fun value => (f, value)) =
      some read := by
  induction fields generalizing s s' read with
  | nil =>
    cases run
    rfl
  | cons f rest ih =>
    rw [readFields] at run
    obtain ⟨_, s₁, asked, run⟩ := Task.bind_eq_ok run
    obtain ⟨value, s₂, took, run⟩ := Task.bind_eq_ok run
    obtain ⟨others, s₃, later, run⟩ := Task.bind_eq_ok run
    cases run
    have same₁ : part.get s₁ = part.get s := (Token.check_keeps quiet).ok asked
    rw [dry.backend] at took
    have same₂ : part.get s₂ = part.get s₁ := (DryRun.read_keeps part _ _).ok took
    obtain ⟨u, inner, -⟩ := Task.on_eq_ok took
    have present := (DryRun.read_eq_ok inner).1
    have rest_read := ih later
    rw [same₂, same₁] at rest_read
    rw [same₁] at present
    simp [List.mapM_cons, present, rest_read]

theorem OverDryRun.reads_keep (dry : e.OverDryRun part) (symbol : String) (type : ValueType) :
    (e.executor.backend.read symbol type).Keeps part.get :=
  dry.backend ▸ DryRun.read_keeps part symbol type

theorem capture_keeps_history (e : UnitEditor σ) (cancel : Token σ) : (e.capture cancel).Keeps UnitDesk.history := by
  refine Task.Keeps.bind (fun d => ?_) fun _ => Task.Keeps.bind (fun _ => rfl) fun _ => Task.keeps_pure _ _
  rw [Task.leave_on]
  rfl

/-- Taking a snapshot over a dry run gives what the table shows. -/
theorem OverDryRun.ofTable?_of_capture (dry : e.OverDryRun part) (quiet : cancel.Keeps part.get)
    {d d₁ : UnitDesk σ} {s : UnitSnapshot} (run : e.capture cancel d = .ok s d₁) :
    UnitSnapshot.ofTable? e.policy (dryRun part d).values = some s := by
  rw [capture] at run
  obtain ⟨read, d₂, inner, run⟩ := Task.bind_eq_ok run
  obtain ⟨r, inWorld, rfl⟩ := Task.on_eq_ok inner
  obtain ⟨s', took, rfl⟩ := Task.on_eq_ok inWorld
  have shown := dry.readFields_ok quiet took
  cases run
  exact congrArg (Option.map UnitSnapshot.zero.setAll) shown

/-- What is left of an edit of which these changes were made: the writes of them in order, and no others. -/
structure CutOff (made : List UnitChange) (u u' : DryRun) : Prop where
  log : u'.log = u.log ++ made.map fun c => (c.symbol, c.new)
  table : UnitChange.Made made u.values u'.values

theorem CutOff.refl (u : DryRun) : CutOff [] u u where
  log := (List.append_nil _).symm
  table := ⟨nofun, fun _ => rfl⟩

/-- The changes that lead from what a table shows to a draft. -/
def planOn (e : UnitEditor σ) (t : Table Scalar) (draft : UnitDraft) : List UnitChange :=
  match UnitSnapshot.ofTable? e.policy t with
  | some s => UnitChange.plan e.policy s draft
  | none => []

theorem fits_and_nodup_of_split {p : Policy} (symbols : p.UnitSymbols) {s : UnitSnapshot} {draft : UnitDraft}
    {done rest : List UnitChange} (split : UnitChange.plan p s draft = done ++ rest) :
    (∀ c ∈ done, c.Fits p) ∧ (done.map UnitChange.symbol).Nodup := by
  have distinct := UnitChange.plan_symbols_nodup symbols s draft
  rw [split, List.map_append, List.nodup_append] at distinct
  refine ⟨fun c member => ?_, distinct.1⟩
  have inPlan : c ∈ UnitChange.plan p s draft := split ▸ List.mem_append_left rest member
  exact UnitChange.fits_of_mem_plan inPlan

section

variable {s : UnitSnapshot} {draft : UnitDraft} {done rest : List UnitChange} {operation : UnitOperation}
  {recorded : Bool} {id : String} {d d' : UnitDesk σ} {answers : List Answer} {r r₁ r₂ : Runtime σ}

/-- Taking a snapshot leaves the dry run and the history as they are, and the plan is made from what was shown. -/
theorem OverDryRun.of_captured (dry : e.OverDryRun part) (quiet : cancel.Keeps part.get) (draft : UnitDraft)
    {d₁ : UnitDesk σ} (captured : e.capture cancel d = .ok s d₁) :
    dryRun part d₁ = dryRun part d ∧ d₁.history = d.history ∧
      e.planOn (dryRun part d).values draft = UnitChange.plan e.policy s draft := by
  refine ⟨(capture_keeps dry.reads_keep quiet).ok captured, (capture_keeps_history e cancel).ok captured, ?_⟩
  rw [planOn, dry.ofTable?_of_capture quiet captured]

/-- The attempts to make the first changes of a plan, when they all come through. -/
theorem OverDryRun.cutOff_of_written (dry : e.OverDryRun part) (quiet : cancel.Keeps part.get)
    (split : UnitChange.plan e.policy s draft = done ++ rest)
    (written : e.attemptAll id cancel (done.map (.doing operation)) (e.afterId d).runtime = .ok answers r)
    (through : answers.all Answer.cameThrough = true) : CutOff done (dryRun part d) (part.get r.world) := by
  obtain ⟨fits, distinct⟩ := fits_and_nodup_of_split dry.symbols split
  have length := length_attemptAll written
  constructor
  · have log := view_of_complete dry.jots (quiet.comp DryRun.log) fits written
    rw [UnitAttempt.landed_log, UnitAttempt.logged_of_all length through, List.map_map] at log
    exact log
  · have values : (part.get r.world).values =
        landed Table.put (dryRun part d).values (done.map (.doing operation)) answers :=
      view_of_complete dry.puts (quiet.comp DryRun.values) fits written
    rw [values]
    exact UnitChange.made_landed distinct operation (by simpa using length) through

/-- An attempt that does not come through adds nothing to what the attempts before it made. -/
theorem OverDryRun.cutOff_of_failing (dry : e.OverDryRun part) (quiet : cancel.Keeps part.get) {failed : UnitChange}
    {answer : Answer} (split : UnitChange.plan e.policy s draft = done ++ failed :: rest)
    (written : e.attemptAll id cancel (done.map (.doing operation)) (e.afterId d).runtime = .ok answers r₁)
    (through : answers.all Answer.cameThrough = true)
    (tried : e.attempt id cancel (.doing operation failed) r₁ = .ok answer r₂) (fails : answer.cameThrough = false) :
    CutOff done (dryRun part d) (part.get r₂.world) := by
  have made := dry.cutOff_of_written quiet split written through
  have fits : failed.Fits e.policy := by
    have inPlan : failed ∈ UnitChange.plan e.policy s draft :=
      split ▸ List.mem_append_right done List.mem_cons_self
    exact UnitChange.fits_of_mem_plan inPlan
  have log : (part.get r₂.world).log = _ := attempt_landed dry.jots (quiet.comp DryRun.log) fits tried
  have values : (part.get r₂.world).values = _ := attempt_landed dry.puts (quiet.comp DryRun.values) fits tried
  rw [fails] at log values
  exact ⟨log.trans made.log, values ▸ made.table⟩

theorem OverDryRun.edit_error (dry : e.OverDryRun part) (quiet : cancel.Keeps part.get) {fault : Fault}
    (run : e.edit draft operation recorded cancel d = .error fault d') :
    ∃ j ≤ (e.planOn (dryRun part d).values draft).length,
      CutOff ((e.planOn (dryRun part d).values draft).take j) (dryRun part d) (dryRun part d') ∧
        d'.history = d.history := by
  rcases Task.bind_eq_error run with stopped | ⟨s, d₁, captured, -⟩
  -- It stopped while the snapshot was taken, before anything was written.
  · have world : dryRun part d' = dryRun part d := (capture_keeps dry.reads_keep quiet).error stopped
    rw [world]
    exact ⟨0, Nat.zero_le _, .refl _, (capture_keeps_history e cancel).error stopped⟩
  · obtain ⟨world, history, planned⟩ := dry.of_captured quiet draft captured
    rw [planned]
    have something : UnitChange.plan e.policy s draft ≠ [] := by
      intro nothing
      rw [edit_of_nothing captured nothing] at run
      cases run
    rw [edit_of_something captured something] at run
    have course := carryOut_course e s (UnitChange.plan e.policy s draft) operation recorded cancel d₁
    rw [run] at course
    -- A plan is cut short by a fault only where an attempt is cancelled, and that attempt wrote nothing.
    cases course with
    | @cancelled done rest failed answers r₁ r₂ split written through tried =>
      have cut := dry.cutOff_of_failing quiet split written through tried rfl
      refine ⟨done.length, ?_, ?_, history⟩
      · rw [split, List.length_append]
        exact Nat.le_add_right _ _
      · rw [split, List.take_left, ← world]
        exact cut

/-- What is left of an edit that was given up: the changes that were made are all tried to be taken back,
the latest first, with a token that never fires; what could be taken back is undone. -/
structure GivenUp (e : UnitEditor σ) (part : Part σ DryRun) (changes done : List UnitChange) (undone : List Answer)
    (d d' : UnitDesk σ) (outcome : UnitOutcome) : Prop where
  split : ∃ failed rest, changes = done ++ failed :: rest
  tried : ∃ id r, e.attemptAll id .never (done.reverse.map .undoing) r = .ok undone d'.runtime
  all : undone.length = done.length
  told : outcome.succeeded = false ∧ outcome.reason = some "transaction_step_failed" ∧
    outcome.rollbackSucceeded = some (undone.all Answer.cameThrough)
  log : (dryRun part d').log = (dryRun part d).log ++ (done.map fun c => (c.symbol, c.new)) ++
    UnitAttempt.logged (done.reverse.map .undoing) undone
  undone : ∀ c answer, (c, answer) ∈ done.reverse.zip undone →
    (dryRun part d').values.get? c.symbol = some (if answer.cameThrough then c.old else c.new)
  others : ∀ key, key ∉ done.map UnitChange.symbol →
    (dryRun part d').values.get? key = (dryRun part d).values.get? key
  history : d'.history = d.history

/-- What becomes of changes that were made when all are tried to be taken back. -/
theorem OverDryRun.taken_back (dry : e.OverDryRun part) (fits : ∀ c ∈ done, c.Fits e.policy)
    (distinct : (done.map UnitChange.symbol).Nodup) {u : DryRun} (made : CutOff done u (part.get r₁.world))
    {undone : List Answer} (back : e.attemptAll id .never (done.reverse.map .undoing) r₁ = .ok undone r₂) :
    (part.get r₂.world).log =
        u.log ++ (done.map fun c => (c.symbol, c.new)) ++ UnitAttempt.logged (done.reverse.map .undoing) undone ∧
      (∀ c answer, (c, answer) ∈ done.reverse.zip undone →
        (part.get r₂.world).values.get? c.symbol = some (if answer.cameThrough then c.old else c.new)) ∧
      ∀ key, key ∉ done.map UnitChange.symbol → (part.get r₂.world).values.get? key = u.values.get? key := by
  have backFits : ∀ a ∈ done.reverse.map UnitAttempt.undoing, a.change.Fits e.policy :=
    List.forall_mem_map.2 fun c member => fits c (List.mem_reverse.1 member)
  have log : (part.get r₂.world).log = landed DryRun.jot (part.get r₁.world).log (done.reverse.map .undoing) undone :=
    attemptAll_landed dry.jots (Token.never_keeps _) backFits back
  have values : (part.get r₂.world).values =
      landed Table.put (part.get r₁.world).values (done.reverse.map .undoing) undone :=
    attemptAll_landed dry.puts (Token.never_keeps _) backFits back
  rw [log, values, UnitAttempt.landed_log, made.log]
  exact ⟨rfl, fun c answer member => UnitChange.get?_taken_back made.table distinct member,
    fun key untouched => UnitChange.get?_taken_back_of_not_mem made.table untouched⟩

/-- An edit that comes to an end was given up, or all of its changes are made. -/
theorem OverDryRun.edit_ok (dry : e.OverDryRun part) (quiet : cancel.Keeps part.get) {outcome : UnitOutcome}
    (run : e.edit draft operation recorded cancel d = .ok outcome d') :
    (∃ done undone, e.GivenUp part (e.planOn (dryRun part d).values draft) done undone d d' outcome) ∨
      (outcome.succeeded = true ∧
        CutOff (e.planOn (dryRun part d).values draft) (dryRun part d) (dryRun part d')) := by
  obtain ⟨s, d₁, captured, way⟩ := edit_eq_ok run
  obtain ⟨world, history, planned⟩ := dry.of_captured quiet draft captured
  rw [planned]
  rcases way with ⟨nothing, rfl, rfl⟩ | ⟨something, carried⟩
  · right
    rw [nothing, world]
    exact ⟨rfl, .refl _⟩
  · have course := carryOut_course e s (UnitChange.plan e.policy s draft) operation recorded cancel d₁
    rw [carried] at course
    cases course with
    | @complete answers r written through =>
      have made := dry.cutOff_of_written quiet (List.append_nil _).symm written through
      rw [world] at made
      refine .inr ⟨rfl, ?_⟩
      cases recorded <;> exact made
    | @failure done rest given answers undone answer r₁ r₂ r₃ split written through tried fails back =>
      have cut := dry.cutOff_of_failing quiet split written through tried fails
      rw [world] at cut
      obtain ⟨doneFits, distinct⟩ := fits_and_nodup_of_split dry.symbols split
      obtain ⟨left, undoing, others⟩ := dry.taken_back doneFits distinct cut back
      have length : undone.length = done.length := by simpa using length_attemptAll back
      refine .inl ⟨done, undone, ?_⟩
      exact {
        split := ⟨given, rest, split⟩
        tried := ⟨_, _, back⟩
        all := length
        told := ⟨rfl, rfl, rfl⟩
        log := left
        undone := undoing
        others := others
        history := history }

end

/-- The changes that a call has before it: none, where it is not about to change anything. -/
def planned (e : UnitEditor σ) (part : Part σ DryRun) (d : UnitDesk σ) (c : UnitCall) : List UnitChange :=
  match aim? d.ledger c with
  | some (draft, _) => e.planOn (dryRun part d).values draft
  | none => []

theorem OverDryRun.afterSession (dry : e.OverDryRun part) (d : UnitDesk σ) : e.afterSession d = d := by
  rw [UnitEditor.afterSession, dry.looked]

/-- A call in the wrong mode is refused, and any other does what it is there for. -/
theorem OverDryRun.inMode_eq (dry : e.OverDryRun part) (act : Task (UnitDesk σ) UnitOutcome) (d : UnitDesk σ) :
    e.inMode act d = match e.modeRefusal? (dryRun part d).attachment.mode with
      | some refusal => .ok refusal d
      | none => act d := by
  rw [inMode, Task.bind_of_ok (e.lookAtSession d), dry.afterSession, dry.looked, dryRun]
  cases e.modeRefusal? (part.get d.runtime.world).attachment.mode with
  | some refusal => rfl
  | none => rfl

/-- What a call comes to over a dry run. -/
inductive Ends (e : UnitEditor σ) (part : Part σ DryRun) (c : UnitCall) (d : UnitDesk σ) :
    EStateM.Result Fault (UnitDesk σ) UnitAnswer → Prop
  | refused {refusal} (barred : e.refusal? d.ledger (dryRun part d).attachment.mode c = some refusal) :
      Ends e part c d (.ok (.edit refusal) d)
  | cutOff {fault d'} (j : Nat) (within : j ≤ (e.planned part d c).length)
      (cut : CutOff ((e.planned part d c).take j) (dryRun part d) (dryRun part d')) (history : d'.history = d.history) :
      Ends e part c d (.error fault d')
  | givenUp {outcome d'} (done undone) (given : e.GivenUp part (e.planned part d c) done undone d d' outcome) :
      Ends e part c d (.ok (.edit outcome) d')
  | through {answer d'} (succeeded : ∀ outcome, answer = .edit outcome → outcome.succeeded = true)
      (made : CutOff (e.planned part d c) (dryRun part d) (dryRun part d')) : Ends e part c d (.ok answer d')

section

variable {c : UnitCall} {draft : UnitDraft} {operation : UnitOperation} {recorded : Bool} {fault : Fault}
  {outcome : UnitOutcome} {d d' : UnitDesk σ}

theorem planned_of_aim (aim : aim? d.ledger c = some (draft, operation, recorded)) :
    e.planned part d c = e.planOn (dryRun part d).values draft := by
  rw [planned, aim]

theorem planned_of_no_aim (aimless : aim? d.ledger c = none) : e.planned part d c = [] := by
  rw [planned, aimless]

theorem OverDryRun.ends_of_error (dry : e.OverDryRun part) (quiet : cancel.Keeps part.get)
    (aim : aim? d.ledger c = some (draft, operation, recorded))
    (run : e.edit draft operation recorded cancel d = .error fault d') : Ends e part c d (.error fault d') := by
  obtain ⟨j, within, cut, history⟩ := dry.edit_error quiet run
  rw [← planned_of_aim aim] at within cut
  exact .cutOff j within cut history

theorem OverDryRun.ends_of_ok (dry : e.OverDryRun part) (quiet : cancel.Keeps part.get)
    (aim : aim? d.ledger c = some (draft, operation, recorded))
    (run : e.edit draft operation recorded cancel d = .ok outcome d') : Ends e part c d (.ok (.edit outcome) d') := by
  have way := dry.edit_ok quiet run
  rw [← planned_of_aim aim] at way
  rcases way with ⟨done, undone, given⟩ | ⟨succeeded, made⟩
  · exact .givenUp done undone given
  · exact .through (fun _ same => UnitAnswer.edit.inj same ▸ succeeded) made

theorem OverDryRun.ends_of_edit (dry : e.OverDryRun part) (quiet : cancel.Keeps part.get)
    (aim : aim? d.ledger c = some (draft, operation, recorded)) :
    Ends e part c d ((do pure (UnitAnswer.edit (← e.edit draft operation recorded cancel))) d) := by
  cases run : e.edit draft operation recorded cancel d with
  | error fault d' =>
    rw [Task.bind_of_error run]
    exact dry.ends_of_error quiet aim run
  | ok outcome d' =>
    rw [Task.bind_of_ok run]
    exact dry.ends_of_ok quiet aim run

theorem ends_of_refusal {act : Task (UnitDesk σ) UnitOutcome} {refusal : UnitOutcome}
    (barred : e.refusal? d.ledger (dryRun part d).attachment.mode c = some refusal)
    (refused : act d = .ok refusal d) : Ends e part c d ((do pure (UnitAnswer.edit (← act))) d) := by
  rw [Task.bind_of_ok refused]
  exact .refused barred

/-- A call in the wrong mode is refused, and any other does what it is there for. -/
theorem OverDryRun.ends_in_mode (dry : e.OverDryRun part) (wants : c.isEdit = true)
    {act : Task (UnitDesk σ) UnitOutcome}
    (ends : e.refusal? d.ledger (dryRun part d).attachment.mode c = groundless? d.ledger c →
      Ends e part c d ((do pure (UnitAnswer.edit (← act))) d)) :
    Ends e part c d ((do pure (UnitAnswer.edit (← e.inMode act))) d) := by
  cases gate : e.modeRefusal? (dryRun part d).attachment.mode with
  | some refusal =>
    have barred : e.refusal? d.ledger (dryRun part d).attachment.mode c = some refusal := by
      rw [refusal?, if_pos wants, gate, Option.some_or]
    have refused : e.inMode act d = .ok refusal d := by rw [dry.inMode_eq, gate]
    exact ends_of_refusal barred refused
  | none =>
    have same : e.refusal? d.ledger (dryRun part d).attachment.mode c = groundless? d.ledger c := by
      rw [refusal?, if_pos wants, gate, Option.none_or]
    have acts : e.inMode act d = act d := by rw [dry.inMode_eq, gate]
    rw [Task.bind_apply, acts, ← Task.bind_apply]
    exact ends same

theorem OverDryRun.apply_ends (dry : e.OverDryRun part) (quiet : cancel.Keeps part.get) (draft : UnitDraft)
    (d : UnitDesk σ) : Ends e part (.apply draft) d (e.call cancel (.apply draft) d) := by
  refine dry.ends_in_mode rfl fun barred => ?_
  cases accepted : draftRefusal? draft with
  | some refusal => exact ends_of_refusal (barred.trans accepted) rfl
  | none => exact dry.ends_of_edit quiet rfl

theorem OverDryRun.restoreBaseline_ends (dry : e.OverDryRun part) (quiet : cancel.Keeps part.get)
    (d : UnitDesk σ) : Ends e part .restoreBaseline d (e.call cancel .restoreBaseline d) := by
  refine dry.ends_in_mode rfl fun barred => ?_
  rw [bind_assoc, Task.get_bind]
  cases kept : d.baseline with
  | none =>
    exact ends_of_refusal (barred.trans (groundless?_restoreBaseline kept)) rfl
  | some baseline =>
    obtain ⟨-, aim⟩ := founded_restoreBaseline kept
    exact dry.ends_of_edit quiet aim

theorem OverDryRun.revertLast_ends (dry : e.OverDryRun part) (quiet : cancel.Keeps part.get)
    (d : UnitDesk σ) : Ends e part .revertLast d (e.call cancel .revertLast d) := by
  refine dry.ends_in_mode rfl fun barred => ?_
  rw [bind_assoc, Task.get_bind]
  cases latest : d.history.peek with
  | none =>
    exact ends_of_refusal (barred.trans (groundless?_revertLast latest)) rfl
  | some last =>
    obtain ⟨-, aim⟩ := founded_revertLast latest
    cases run : e.edit (.ofSnapshot last.before) .revertLast false cancel d with
    | error fault d' =>
      rw [Task.bind_of_error (Task.bind_of_error run)]
      exact dry.ends_of_error quiet aim run
    | ok outcome d' =>
      rw [bind_assoc, Task.bind_of_ok run]
      by_cases succeeded : outcome.succeeded = true
      · rw [if_pos succeeded]
        -- The record goes out of the history, but the dry run stays as the edit left it.
        rcases dry.edit_ok quiet run with ⟨done, undone, given⟩ | ⟨-, made⟩
        · cases given.told.1.symm.trans succeeded
        · rw [← planned_of_aim aim] at made
          exact .through (fun _ same => UnitAnswer.edit.inj same ▸ succeeded) made
      · rw [if_neg succeeded]
        exact dry.ends_of_ok quiet aim run

/-- Over a dry run a call that stops with a fault, at whatever moment its token fires, leaves the first
changes of its plan made; one that is given up has tried to take back all that it did. -/
theorem OverDryRun.call_ends (dry : e.OverDryRun part) (quiet : cancel.Keeps part.get) (c : UnitCall)
    (d : UnitDesk σ) : Ends e part c d (e.call cancel c d) := by
  cases c with
  | apply draft => exact dry.apply_ends quiet draft d
  | revertLast => exact dry.revertLast_ends quiet d
  | restoreBaseline => exact dry.restoreBaseline_ends quiet d
  | reset =>
    refine .through nofun ?_
    rw [planned_of_no_aim rfl]
    exact .refl _
  | capture =>
    have aimless : e.planned part d .capture = [] := planned_of_no_aim rfl
    cases run : e.capture cancel d with
    | error fault d' =>
      have world : dryRun part d' = dryRun part d := (capture_keeps dry.reads_keep quiet).error run
      have stopped : e.call cancel .capture d = .error fault d' := Task.bind_of_error run
      rw [stopped]
      refine .cutOff 0 (Nat.zero_le _) ?_ ((capture_keeps_history e cancel).error run)
      rw [world]
      exact .refl _
    | ok s d' =>
      have world : dryRun part d' = dryRun part d := (capture_keeps dry.reads_keep quiet).ok run
      have taken : e.call cancel .capture d = .ok (.snapshot s) d' := Task.bind_of_ok run
      rw [taken]
      refine .through nofun ?_
      rw [aimless, world]
      exact .refl _

/-- Fires once something was written. -/
def late : Token DryRun := fun u => (!u.writes.isEmpty, u)

/-- The log that a cancelled call leaves. -/
def cancelledLog? : EStateM.Result Fault (UnitDesk DryRun) UnitAnswer → Option (List (String × Scalar))
  | .error .cancelled d => some d.runtime.world.log
  | _ => none

theorem cancelledLog?_eq_some {result : EStateM.Result Fault (UnitDesk DryRun) UnitAnswer}
    {log : List (String × Scalar)} (cancelled : cancelledLog? result = some log) :
    ∃ d, result = .error .cancelled d ∧ d.runtime.world.log = log := by
  unfold cancelledLog? at cancelled
  split at cancelled
  · rename_i d
    exact ⟨d, rfl, Option.some.inj cancelled⟩
  · cases cancelled

/-- In the drill the token that fires after the first of two writes leaves just that one. -/
theorem call_ends_drill : ∃ d' j,
    drill.call late (.apply drillDraft) (drillDesk drillUnit .empty) = .error .cancelled d' ∧
      CutOff ((drill.planned .whole (drillDesk drillUnit .empty) (.apply drillDraft)).take j)
        (drillDesk drillUnit .empty).runtime.world d'.runtime.world ∧
      d'.runtime.world.log = [("selected_hp", .float 250.5)] ∧ d'.history = .empty := by
  have fired : cancelledLog? (drill.call late (.apply drillDraft) (drillDesk drillUnit .empty)) =
      some [("selected_hp", .float 250.5)] := by decide +kernel
  obtain ⟨d', run, log⟩ := cancelledLog?_eq_some fired
  have quiet : late.Keeps Part.whole.get := fun _ => rfl
  have ends := drill_runs.overDryRun.call_ends quiet (.apply drillDraft) (drillDesk drillUnit .empty)
  rw [run] at ends
  cases ends with
  | cutOff j within cut history => exact ⟨d', j, run, cut, log, history⟩

end

end UnitEditor
end LiveControl
