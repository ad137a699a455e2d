import LiveControl.Proofs.UnitChain

namespace LiveControl

theorem UnitDesk.keepBaseline_of_some {σ : Type} {d : UnitDesk σ} {b : UnitSnapshot} (kept : d.baseline = some b)
    (s : UnitSnapshot) : d.keepBaseline s = d := by
  rw [keepBaseline, kept, Option.getD_some, ← kept]

/-- A draft that asks for a finite snapshot is let through. -/
theorem UnitEditor.accepted_ofSnapshot {s : UnitSnapshot} (finite : s.IsFinite) :
    draftRefusal? (.ofSnapshot s) = none := by
  have fine : (UnitDraft.ofSnapshot s).firstNonFinite? = none := by
    refine List.find?_eq_none.2 fun f _ => ?_
    have number := finite f
    rw [UnitDraft.get_ofSnapshot]
    cases value : s.get f with
    | int n | bool b => exact Bool.false_ne_true
    | float x =>
      rw [value] at number
      simpa [UnitDraft.isNonFinite, Scalar.isFinite] using number
  have asks : (UnitDraft.ofSnapshot s).isEmpty = false := rfl
  rw [draftRefusal?, asks, fine]
  rfl

namespace UnitEditor

variable {σ : Type} {e : UnitEditor σ} {part : Part σ DryRun} {before : UnitSnapshot} {d d' : UnitDesk σ}
  {outcome : UnitOutcome}

theorem DryRuns.readFields_eq (runs : e.DryRuns part) {s : σ} (shown : before.ShownBy e.policy (part.get s).values)
    (fields : List UnitField) : e.readFields .never fields s = .ok (fields.map fun f => (f, before.get f)) s := by
  induction fields with
  | nil => rfl
  | cons f rest ih =>
    have found : e.executor.backend.read (UnitChange.symbolOf e.policy f) f.valueType s = .ok (before.get f) s := by
      rw [runs.backend]
      exact DryRun.backend_read_of_some f.valueType (shown f)
    rw [readFields, Task.bind_of_ok (Token.check_never s), Task.bind_of_ok found, Task.bind_of_ok ih]
    rfl

/-- To take a snapshot of a dry run changes nothing but that the first one is kept. -/
theorem DryRuns.capture_eq (runs : e.DryRuns part)
    (shown : before.ShownBy e.policy (part.get d.runtime.world).values) :
    e.capture .never d = .ok before (d.keepBaseline before) := by
  rw [capture_of_ok (runs.readFields_eq shown UnitField.all), UnitSnapshot.setAll_all]

/-- Where the table shows what an edit would lead to, the edit does nothing. -/
theorem DryRuns.edit_of_nothing (runs : e.DryRuns part)
    (shown : before.ShownBy e.policy (part.get d.runtime.world).values) {draft : UnitDraft}
    (nothing : UnitChange.plan e.policy before draft = []) (operation : UnitOperation) (recorded : Bool) :
    e.edit draft operation recorded .never d = .ok .unchanged (d.keepBaseline before) :=
  UnitEditor.edit_of_nothing (runs.capture_eq shown) nothing

/-- An edit that has succeeded is settled: made again, under whatever name, it leaves the desk as it is. -/
theorem DryRuns.edit_settles (runs : e.DryRuns part) (valid : e.policy.errors = [])
    (shown : before.ShownBy e.policy (part.get d.runtime.world).values) {draft : UnitDraft}
    {operation : UnitOperation} {recorded : Bool} (run : e.edit draft operation recorded .never d = .ok outcome d')
    (succeeded : outcome.succeeded = true) :
    e.edit draft operation recorded .never d' = .ok .unchanged d' := by
  obtain ⟨baseline, ending⟩ := edit_ends runs.overTable (Token.never_keeps _) shown run
  have now := ending.shown succeeded runs.symbols shown
  have again := runs.edit_of_nothing now (UnitChange.plan_after valid before draft) operation recorded
  rwa [UnitDesk.keepBaseline_of_some baseline] at again

/-- Edits are idempotent over a dry run. After a draft was applied with success, to apply it again succeeds
without a change, and leaves the table, the log of what was written, the counters, the history and the baseline
exactly as they are; so it is with a baseline that was restored with success, and with the draft that asks for
what a snapshot has just shown. -/
theorem edits_settle (runs : e.DryRuns part) (valid : e.policy.errors = []) (tactical : e.Tactical part d)
    (shown : before.ShownBy e.policy (part.get d.runtime.world).values) :
    (∀ draft outcome d', e.apply draft .never d = .ok outcome d' → outcome.succeeded = true →
      e.apply draft .never d' = .ok .unchanged d') ∧
    (∀ outcome d', e.restoreBaseline .never d = .ok outcome d' → outcome.succeeded = true →
      e.restoreBaseline .never d' = .ok .unchanged d') ∧
    (before.IsFinite → ∃ d', e.capture .never d = .ok before d' ∧
      e.apply (.ofSnapshot before) .never d' = .ok .unchanged d') := by
  refine ⟨fun draft outcome d' run succeeded => ?_, fun outcome d' run succeeded => ?_, fun finite => ?_⟩
  · obtain ⟨accepted, -⟩ := apply_of_succeeded run succeeded
    rw [runs.apply_eq tactical, accepted] at run
    rw [runs.apply_eq (runs.edit_tactical tactical run), accepted]
    exact runs.edit_settles valid shown run succeeded
  · rw [runs.restoreBaseline_eq tactical] at run
    cases known : d.baseline with
    | none =>
      rw [known] at run
      cases run
      cases succeeded
    | some baseline =>
      rw [known] at run
      obtain ⟨kept, -⟩ := edit_ends runs.overTable (Token.never_keeps _) shown run
      rw [known, Option.getD_some] at kept
      rw [runs.restoreBaseline_eq (runs.edit_tactical tactical run), kept]
      exact runs.edit_settles valid shown run succeeded
  · refine ⟨_, runs.capture_eq shown, ?_⟩
    have kept : (d.keepBaseline before).baseline = some (d.baseline.getD before) := rfl
    have nothing := UnitChange.plan_ofSnapshot_self valid before
    have tactical' : e.Tactical part (d.keepBaseline before) := tactical
    rw [runs.apply_eq tactical', accepted_ofSnapshot finite]
    have again := runs.edit_of_nothing (d := d.keepBaseline before) shown nothing .apply true
    rwa [UnitDesk.keepBaseline_of_some kept] at again

/-- The drill's draft is applied and then applied again. -/
theorem edits_settle_drill : ∃ outcome d',
    drill.apply drillDraft .never (drillDesk drillUnit .empty) = .ok outcome d' ∧ outcome.succeeded = true ∧
      drill.apply drillDraft .never d' = .ok .unchanged d' := by
  have shown := drillDesk_shown drillUnit .empty
  have tactical := drill_tactical drillUnit .empty
  obtain ⟨outcome, d', run, succeeded⟩ := drill_runs.apply_succeeds tactical shown (fun _ => rfl)
    drillDraft_accepted
  have settles := edits_settle drill_runs drill_valid tactical shown
  exact ⟨outcome, d', run, succeeded, settles.1 drillDraft outcome d' run succeeded⟩

end UnitEditor
end LiveControl
