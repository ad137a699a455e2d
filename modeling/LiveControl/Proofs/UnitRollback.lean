import LiveControl.Proofs.UnitDryRun

namespace LiveControl

open UnitAttempt (Answer landed)

namespace UnitEditor

variable {σ : Type} {e : UnitEditor σ} {table : σ → Table Scalar} {cancel : Token σ}
  {before : UnitSnapshot} {d start : UnitDesk σ}

/-- What an edit does before its first write: it looks at the session, takes a snapshot, and is given an
id. -/
def opening (e : UnitEditor σ) (cancel : Token σ) : Task (UnitDesk σ) (UnitSnapshot × String) := do
  let _ ← Query.task (Query.on UnitDesk.runtimePart (Query.on Runtime.worldPart e.executor.backend.session))
  let before ← e.capture cancel
  let id ← Task.on UnitDesk.runtimePart (Task.on Runtime.worldPart e.freshId.task)
  pure (before, id)

theorem opening_eq (e : UnitEditor σ) (cancel : Token σ) (d : UnitDesk σ) :
    e.opening cancel d = match e.capture cancel (e.afterSession d) with
      | .ok before d₁ => .ok (before, e.nextId d₁) (e.afterId d₁)
      | .error fault d₁ => .error fault d₁ := by
  rw [opening, Task.bind_of_ok (e.lookAtSession d)]
  cases captured : e.capture cancel (e.afterSession d) with
  | error fault d₁ => exact Task.bind_of_error captured
  | ok s d₁ =>
    rw [Task.bind_of_ok captured, Task.bind_of_ok (e.takeId d₁)]
    rfl

theorem opening_eq_ok {id : String} (opened : e.opening cancel d = .ok (before, id) start) :
    ∃ d₁, e.capture cancel (e.afterSession d) = .ok before d₁ ∧ id = e.nextId d₁ ∧ start = e.afterId d₁ := by
  rw [opening_eq] at opened
  cases captured : e.capture cancel (e.afterSession d) with
  | error fault d₁ =>
    rw [captured] at opened
    cases opened
  | ok s d₁ =>
    rw [captured] at opened
    cases opened
    exact ⟨d₁, rfl, rfl, rfl⟩

/-- An accepted draft in the right mode comes to its plan being carried out. -/
theorem apply_of_opening {draft : UnitDraft} (accepted : draftRefusal? draft = none)
    (tactical : (e.executor.backend.session d.runtime.world).1.mode = e.policy.tacticalMode)
    {d₁ : UnitDesk σ} (captured : e.capture cancel (e.afterSession d) = .ok before d₁)
    (something : UnitChange.plan e.policy before draft ≠ []) :
    e.apply draft cancel d =
      e.carryOut before (UnitChange.plan e.policy before draft) .apply true cancel d₁ := by
  rw [apply, inMode_of_tactical tactical, accepted]
  exact edit_of_something captured something

/-- A write that fails brings back all that came before it. Let the writes of a plan come through up to
one that fails, for any reason but cancellation. Then all writes before it are tried to be undone, the
latest first, none left out whatever becomes of another and whatever the caller's token says. The outcome
counts nothing as applied and tells whether everything could be undone. What could be undone has its old
value, what could not its new one, and all else is as it was. As nothing is assumed of the collaborators
but that the table is changed by writes only, the state at the end tells that there was no other write. -/
theorem apply_rolls_back (tabled : e.OverTable table) (quiet : cancel.Keeps table) {draft : UnitDraft}
    (accepted : draftRefusal? draft = none)
    (tactical : (e.executor.backend.session d.runtime.world).1.mode = e.policy.tacticalMode)
    (shown : before.ShownBy e.policy (table d.runtime.world)) {id : String}
    (opened : e.opening cancel d = .ok (before, id) start)
    {done rest : List UnitChange} {failed : UnitChange}
    (planned : UnitChange.plan e.policy before draft = done ++ failed :: rest)
    {answers : List Answer} {r₁ : Runtime σ}
    (written : e.attemptAll id cancel (done.map (.doing .apply)) start.runtime = .ok answers r₁)
    (through : answers.all Answer.cameThrough = true) {answer : Answer} {r₂ : Runtime σ}
    (tried : e.attempt id cancel (.doing .apply failed) r₁ = .ok answer r₂)
    (fails : answer.cameThrough = false) (other : answer ≠ .error .cancelled) :
    ∃ undone r₃ outcome,
      e.attemptAll id .never (done.reverse.map .undoing) r₂ = .ok undone r₃ ∧
      undone.length = done.length ∧
      e.apply draft cancel d = .ok outcome { start with runtime := r₃ } ∧
      outcome.succeeded = false ∧ outcome.applied = 0 ∧
      outcome.rolledBack = decide (0 < done.length) ∧
      outcome.rollbackSucceeded = some (undone.all Answer.cameThrough) ∧
      start.history = d.history ∧
      (∀ c answer, (c, answer) ∈ done.reverse.zip undone →
        (table r₃.world).get? c.symbol = some (if answer.cameThrough then c.old else c.new)) ∧
      (∀ key, key ∉ done.map UnitChange.symbol →
        (table r₃.world).get? key = (table d.runtime.world).get? key) ∧
      (undone.all Answer.cameThrough = true → table r₃.world = table d.runtime.world) := by
  obtain ⟨d₁, captured, rfl, rfl⟩ := opening_eq_ok opened
  have looked : table (e.afterSession d).runtime.world = table d.runtime.world := view_afterSession tabled.toWrites d
  obtain ⟨-, same, history, -⟩ := capture_ok tabled.reads quiet (looked.symm ▸ shown) captured
  obtain ⟨undone, r₃, back⟩ := exists_attemptAll e (e.nextId d₁) .never (done.reverse.map .undoing) r₂
  have something : UnitChange.plan e.policy before draft ≠ [] := by
    rw [planned]
    simp
  have ran := (apply_of_opening accepted tactical captured something).trans
    (carryOut_of_failure planned written through tried fails other back)
  have length : undone.length = done.length := by simpa using length_attemptAll back
  have shown' : before.ShownBy e.policy (table d₁.runtime.world) := by rwa [same, looked]
  have left := table_of_failure tabled quiet shown' planned written through tried fails back
  rw [same, looked] at left
  refine ⟨undone, r₃, _, back, length, ran, rfl, rfl, ?_, rfl, history, left⟩
  exact decide_eq_decide.2 Nat.pos_iff_ne_zero.symm

/-- In the drill the second of two writes can be made to fail, and the first is undone. -/
theorem apply_rolls_back_drill : ∃ outcome d',
    drill.apply drillDraft .never (drillDesk drillUnit (.ofList [("selected_veterancy", 0)])) = .ok outcome d' ∧
      outcome.succeeded = false ∧ outcome.rolledBack = true ∧ d'.history = .empty := by
  generalize desk : drillDesk drillUnit (.ofList [("selected_veterancy", 0)]) = d
  have shown : drillUnit.ShownBy drill.policy d.runtime.world.values := desk ▸ drillDesk_shown drillUnit _
  have budgets : d.runtime.world.failing = .ofList [("selected_veterancy", 0)] := desk ▸ rfl
  have reads := drill_runs.overTable.reads
  obtain ⟨s, d₁, captured⟩ := capture_never (d := drill.afterSession d) reads shown
  obtain ⟨rfl, -⟩ := capture_ok reads (Token.never_keeps _) shown captured
  have untouched : d₁.runtime.world = d.runtime.world :=
    (capture_keeps drill_runs.reads_keep (Token.never_keeps Part.whole.get)).ok captured
  have opened : drill.opening .never d = .ok (drillUnit, drill.nextId d₁) (drill.afterId d₁) := by
    rw [opening_eq, captured]
  have hpSymbol : (drillChange .hp (.float 250.5)).symbol = "selected_hp" := drill_symbolOf .hp
  have veterancySymbol : (drillChange .veterancy (.int 3)).symbol = "selected_veterancy" := drill_symbolOf .veterancy
  have budgets₀ : (drill.afterId d₁).runtime.world.failing = .ofList [("selected_veterancy", 0)] :=
    (congrArg DryRun.failing untouched).trans budgets
  -- The first write comes through, and spends nothing of what the second one is allowed.
  obtain ⟨answer₁, r₁, first, through₁⟩ := drill_runs.attempt_answers
    (a := .doing .apply (drillChange .hp (.float 250.5))) ⟨rfl, rfl⟩ rfl (by decide) (drill.nextId d₁)
    (drill.afterId d₁).runtime
  obtain rfl := through₁.2 (by
    show (drill.afterId d₁).runtime.world.failing.get? (drillChange .hp (.float 250.5)).symbol ≠ some 0
    rw [hpSymbol, budgets₀]
    decide)
  have budgets₁ : r₁.world.failing = .ofList [("selected_veterancy", 0)] := by
    have spent := attempt_landed drill_runs.spends (Token.never_keeps _) ⟨rfl, rfl⟩ first
    refine spent.trans ?_
    show DryRun.spend (drillChange .hp (.float 250.5)).symbol (drill.afterId d₁).runtime.world.failing = _
    rw [hpSymbol, budgets₀]
    decide
  obtain ⟨answer₂, r₂, second, through₂⟩ := drill_runs.attempt_answers
    (a := .doing .apply (drillChange .veterancy (.int 3))) ⟨rfl, rfl⟩ rfl rfl (drill.nextId d₁) r₁
  have stuck : r₁.world.failing.get? (drillChange .veterancy (.int 3)).symbol = some 0 := by
    rw [veterancySymbol, budgets₁]
    decide
  have fails : Answer.cameThrough (.ok answer₂) = false := by
    cases answer₂ with
    | none => exact absurd stuck (through₂.1 rfl)
    | some message => rfl
  have planned : UnitChange.plan drill.policy drillUnit drillDraft =
      [drillChange .hp (.float 250.5)] ++ drillChange .veterancy (.int 3) :: [] := drill_plan
  obtain ⟨undone, r₃, outcome, -, -, ran, failed, -, rolledBack, -, history, -⟩ :=
    apply_rolls_back drill_runs.overTable (Token.never_keeps _) drillDraft_accepted (by rw [← desk]; rfl) shown opened
      planned (attemptAll_cons first rfl) rfl second fails nofun
  exact ⟨outcome, _, ran, failed, rolledBack, history.trans (by rw [← desk]; rfl)⟩

end UnitEditor
end LiveControl
