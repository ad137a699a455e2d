import LiveControl.Proofs.UnitDryRun

namespace LiveControl

/-- The fields that a record changes at all differ before and after it. -/
def UnitRecord.Tight (r : UnitRecord) (p : Policy) : Prop :=
  ∀ f, r.after.get f = r.before.get f ∨ UnitChange.differs p f (r.before.get f) (r.after.get f) = true

/-- Records that lead from one snapshot to another, each from where the one before it ended. -/
def Linked : UnitSnapshot → List UnitRecord → UnitSnapshot → Prop
  | first, [], current => first = current
  | first, r :: rest, current => r.before = first ∧ Linked r.after rest current

theorem Linked.push {first current : UnitSnapshot} {records : List UnitRecord} {r : UnitRecord}
    (linked : Linked first records current) (next : r.before = current) :
    Linked first (records ++ [r]) r.after := by
  induction records generalizing first with
  | nil => exact ⟨next.trans linked.symm, rfl⟩
  | cons head rest ih => exact ⟨linked.1, ih linked.2⟩

theorem Linked.pop {first current : UnitSnapshot} {records : List UnitRecord} {r : UnitRecord}
    (linked : Linked first (records ++ [r]) current) : Linked first records r.before ∧ r.after = current := by
  induction records generalizing first with
  | nil => exact ⟨linked.1.symm, linked.2⟩
  | cons head rest ih =>
    obtain ⟨inner, last⟩ := ih linked.2
    exact ⟨⟨linked.1, inner⟩, last⟩

theorem Linked.next {first current : UnitSnapshot} {records : List UnitRecord}
    (linked : Linked first records current) {i : Nat} {r r' : UnitRecord} (atThis : records[i]? = some r)
    (atNext : records[i + 1]? = some r') : r.after = r'.before := by
  induction records generalizing first i with
  | nil => cases atThis
  | cons head rest ih =>
    cases i with
    | succ i => exact ih linked.2 atThis atNext
    | zero =>
      cases atThis
      cases rest with
      | nil => cases atNext
      | cons second others =>
        cases atNext
        exact linked.2.1.symm

theorem Linked.last {first current : UnitSnapshot} {records : List UnitRecord}
    (linked : Linked first records current) {r : UnitRecord} (latest : records.getLast? = some r) :
    r.after = current := by
  obtain ⟨earlier, rfl⟩ := List.getLast?_eq_some_iff.1 latest
  exact linked.pop.2

namespace UnitChange

variable {p : Policy} {before : UnitSnapshot} {draft : UnitDraft}

theorem isFinite_after (finite : before.IsFinite)
    (asked : ∀ {f value}, draft.get f = some value → value.isFinite = true) :
    (after before (plan p before draft)).IsFinite := by
  intro f
  by_cases changed : f ∈ (plan p before draft).map field
  · obtain ⟨c, member, rfl⟩ := List.mem_map.1 changed
    rw [get_after_of_mem member]
    exact asked (new_of_mem_plan member)
  · rw [get_after_of_not_mem changed]
    exact finite f

theorem tight_recordOf (id : String) (operation : UnitOperation) :
    (UnitEditor.recordOf id before (plan p before draft) operation).Tight p := by
  intro f
  show (after before (plan p before draft)).get f = before.get f ∨
    differs p f (before.get f) ((after before (plan p before draft)).get f) = true
  by_cases changed : f ∈ (plan p before draft).map field
  · obtain ⟨c, member, rfl⟩ := List.mem_map.1 changed
    rw [get_after_of_mem member]
    exact Or.inr (differs_of_mem_plan member)
  · exact Or.inl (get_after_of_not_mem changed)

/-- Going back from the end of a record leads exactly to its start: a field that does not differ enough
to be written back was not written. -/
theorem after_revert {r : UnitRecord} (tight : r.Tight p) :
    after r.after (plan p r.after (.ofSnapshot r.before)) = r.before := by
  refine UnitSnapshot.ext_get fun f => ?_
  by_cases changed : f ∈ (plan p r.after (.ofSnapshot r.before)).map field
  · obtain ⟨c, member, rfl⟩ := List.mem_map.1 changed
    have asked := new_of_mem_plan member
    rw [UnitDraft.get_ofSnapshot, Option.some.injEq] at asked
    rw [get_after_of_mem member, asked]
  · rw [get_after_of_not_mem changed]
    rcases tight f with same | apart
    · exact same
    · have close := same_of_not_mem_plan changed (UnitDraft.get_ofSnapshot r.before f)
      rw [differs_comm, apart] at close
      cases close

end UnitChange

namespace UnitEditor

variable {σ : Type} {e : UnitEditor σ} {part : Part σ DryRun} {d d' : UnitDesk σ} {outcome : UnitOutcome}

theorem DryRuns.restoreBaseline_eq (runs : e.DryRuns part) (tactical : e.Tactical part d) :
    e.restoreBaseline .never d = match d.baseline with
      | none => .ok (.refused "no baseline captured yet" "baseline_missing" []) d
      | some baseline => e.edit (.ofSnapshot baseline) .restoreBaseline true .never d := by
  rw [restoreBaseline, runs.inMode tactical, Task.get_bind]
  cases d.baseline <;> rfl

theorem DryRuns.revertLast_of_empty (runs : e.DryRuns part) (tactical : e.Tactical part d)
    (empty : d.history.peek = none) :
    e.revertLast .never d = .ok (.refused "no transaction to revert" "history_empty" []) d := by
  rw [revertLast, runs.inMode tactical, Task.get_bind, empty]
  rfl

theorem DryRuns.revertLast_of_edit (runs : e.DryRuns part) (tactical : e.Tactical part d)
    {last : UnitRecord} (latest : d.history.peek = some last)
    (run : e.edit (.ofSnapshot last.before) .revertLast false .never d = .ok outcome d') :
    e.revertLast .never d =
      if outcome.succeeded then
        .ok { outcome with
          diagnostics := outcome.diagnostics.insert "revertedTransactionId" (.str last.id) }
          { d' with history := d'.history.pop }
      else .ok outcome d' := by
  rw [revertLast, runs.inMode tactical, Task.get_bind, latest]
  simp only
  rw [Task.bind_of_ok run]
  cases outcome.succeeded <;> rfl

/-- A revert that comes to an end had nothing to revert, or is an edit back to the start of the latest
record, and the record goes if the edit succeeds. -/
theorem DryRuns.revertLast_eq_ok (runs : e.DryRuns part) (tactical : e.Tactical part d)
    {current : UnitSnapshot} (shown : current.ShownBy e.policy (part.get d.runtime.world).values)
    (run : e.revertLast .never d = .ok outcome d') :
    (outcome.succeeded = false ∧ d' = d) ∨
      ∃ last inner d₁, d.history.peek = some last ∧
        e.edit (.ofSnapshot last.before) .revertLast false .never d = .ok inner d₁ ∧
        inner.succeeded = outcome.succeeded ∧ inner.rollbackSucceeded = outcome.rollbackSucceeded ∧
        d' = if outcome.succeeded then { d₁ with history := d₁.history.pop } else d₁ := by
  cases latest : d.history.peek with
  | none =>
    rw [runs.revertLast_of_empty tactical latest] at run
    cases run
    exact Or.inl ⟨rfl, rfl⟩
  | some last =>
    obtain ⟨inner, d₁, edited⟩ := edit_never runs.overTable runs.faultless shown
      (.ofSnapshot last.before) .revertLast false
    rw [runs.revertLast_of_edit tactical latest edited] at run
    refine Or.inr ⟨last, inner, d₁, rfl, edited, ?_⟩
    cases came : inner.succeeded with
    | true =>
      rw [if_pos came] at run
      cases run
      exact ⟨came.symm, rfl, (if_pos came).symm⟩
    | false =>
      rw [came, if_neg Bool.false_ne_true] at run
      cases run
      exact ⟨came.symm, rfl, by rw [came, if_neg Bool.false_ne_true]⟩

/-- What holds of a desk over a dry run at any time between calls. -/
structure Sound (e : UnitEditor σ) (part : Part σ DryRun) (first : UnitSnapshot) (d : UnitDesk σ) : Prop where
  tactical : e.Tactical part d
  chain : ∃ current, current.ShownBy e.policy (part.get d.runtime.world).values ∧ current.IsFinite ∧
    Linked first d.history.records current
  records : ∀ r ∈ d.history.records, r.Tight e.policy ∧ r.before.IsFinite
  baseline : ∀ {s}, d.baseline = some s → s.IsFinite

variable {first : UnitSnapshot}

/-- The invariant reads the session and the values of the dry run, the history and the baseline only. -/
theorem Sound.of_same (sound : e.Sound part first d) (tactical : e.Tactical part d')
    (values : (part.get d'.runtime.world).values = (part.get d.runtime.world).values)
    (history : d'.history = d.history) (baseline : ∀ {s}, d'.baseline = some s → s.IsFinite) :
    e.Sound part first d' where
  tactical := tactical
  chain := by
    rw [values, history]
    exact sound.chain
  records := by
    rw [history]
    exact sound.records
  baseline := baseline

theorem DryRuns.edit_tactical (runs : e.DryRuns part) (tactical : e.Tactical part d) {draft : UnitDraft}
    {operation : UnitOperation} {recorded : Bool}
    (run : e.edit draft operation recorded .never d = .ok outcome d') : e.Tactical part d' := by
  rw [Tactical, runs.edit_attachment run]
  exact tactical

theorem isFinite_getD {baseline : Option UnitSnapshot} {current : UnitSnapshot}
    (old : ∀ {s}, baseline = some s → s.IsFinite) (finite : current.IsFinite) {s : UnitSnapshot}
    (now : some (baseline.getD current) = some s) : s.IsFinite := by
  obtain rfl := Option.some.inj now
  cases baseline with
  | none => exact finite
  | some b => exact old rfl

/-- A recorded edit makes the chain one longer or leaves it as it is. -/
theorem Sound.edit (runs : e.DryRuns part) (sound : e.Sound part first d) {draft : UnitDraft}
    {operation : UnitOperation} (asked : ∀ {f value}, draft.get f = some value → value.isFinite = true)
    (run : e.edit draft operation true .never d = .ok outcome d')
    (clean : outcome.rollbackSucceeded ≠ some false) : e.Sound part first d' := by
  obtain ⟨current, shown, finite, linked⟩ := sound.chain
  obtain ⟨baseline, ending⟩ := edit_ends runs.overTable (Token.never_keeps _) shown run
  have tactical := runs.edit_tactical sound.tactical run
  have baselines : ∀ {s}, d'.baseline = some s → s.IsFinite := by
    intro s now
    exact isFinite_getD sound.baseline finite (baseline ▸ now)
  cases ending with
  | unchanged nothing history same => exact sound.of_same tactical same history baselines
  | failed id action message steps undone history restored =>
    cases undone with
    | false => exact absurd rfl clean
    | true => exact sound.of_same tactical (restored rfl) history baselines
  | committed id something history made =>
    refine ⟨tactical, ⟨_, made.shown runs.symbols shown, UnitChange.isFinite_after finite asked, ?_⟩, ?_, baselines⟩
    · rw [history]
      exact linked.push rfl
    · intro r member
      rw [history] at member
      rcases List.mem_append.1 member with old | new
      · exact sound.records r old
      · rw [List.mem_singleton.1 new]
        exact ⟨UnitChange.tight_recordOf id operation, finite⟩

/-- A revert that succeeds takes the last link off the chain and puts back what was before it. -/
theorem Sound.revert (runs : e.DryRuns part) (sound : e.Sound part first d)
    (run : e.revertLast .never d = .ok outcome d') (succeeded : outcome.succeeded = true) :
    ∃ last, d.history.records = d'.history.records ++ [last] ∧
      last.before.ShownBy e.policy (part.get d'.runtime.world).values ∧
      (∀ {key}, (∀ f, key ≠ UnitChange.symbolOf e.policy f) →
        (part.get d'.runtime.world).values.get? key = (part.get d.runtime.world).values.get? key) ∧
      e.Sound part first d' := by
  obtain ⟨current, shown, finite, linked⟩ := sound.chain
  rcases runs.revertLast_eq_ok sound.tactical shown run with
    ⟨fails, -⟩ | ⟨last, inner, d₁, latest, edited, came, -, left⟩
  · rw [succeeded] at fails
    cases fails
  · rw [succeeded] at came
    rw [if_pos succeeded] at left
    subst left
    obtain ⟨baseline, ending⟩ := edit_ends runs.overTable (Token.never_keeps _) shown edited
    obtain ⟨earlier, split⟩ := List.getLast?_eq_some_iff.1 latest
    rw [split] at linked
    obtain ⟨shorter, rfl⟩ := linked.pop
    have member : last ∈ d.history.records := by
      rw [split]
      exact List.mem_append_right _ List.mem_cons_self
    obtain ⟨tight, finite'⟩ := sound.records last member
    have back := ending.shown came runs.symbols shown
    rw [UnitChange.after_revert tight] at back
    have popped : d₁.history.pop.records = earlier := by
      rw [ending.history_eq, UnitHistory.pop, split, List.dropLast_concat]
    refine ⟨last, by rw [split, popped], back,
      fun foreign => ending.others (ending.clean_of_succeeded came) foreign, ?_⟩
    have tactical : e.Tactical part d₁ := runs.edit_tactical sound.tactical edited
    refine ⟨tactical, ⟨last.before, back, finite', ?_⟩, ?_, ?_⟩
    · show Linked first d₁.history.pop.records last.before
      rw [popped]
      exact shorter
    · intro r old
      refine sound.records r ?_
      rw [split]
      exact List.mem_append_left _ (popped ▸ old)
    · intro s now
      exact isFinite_getD sound.baseline finite (baseline ▸ now)

/-- A revert that fails and leaves nothing half done leaves everything. -/
theorem Sound.revert_failed (runs : e.DryRuns part) (sound : e.Sound part first d)
    (run : e.revertLast .never d = .ok outcome d') (fails : outcome.succeeded = false)
    (clean : outcome.rollbackSucceeded ≠ some false) : e.Sound part first d' := by
  obtain ⟨current, shown, finite, linked⟩ := sound.chain
  rcases runs.revertLast_eq_ok sound.tactical shown run with
    ⟨-, rfl⟩ | ⟨last, inner, d₁, latest, edited, came, undone, left⟩
  · exact sound
  · rw [fails, if_neg Bool.false_ne_true] at left
    subst left
    obtain ⟨baseline, ending⟩ := edit_ends runs.overTable (Token.never_keeps _) shown edited
    obtain ⟨history, values⟩ := ending.of_failed (came.trans fails) (undone ▸ clean)
    refine sound.of_same (runs.edit_tactical sound.tactical edited) values history ?_
    intro s now
    exact isFinite_getD sound.baseline finite (baseline ▸ now)

theorem Sound.capture (runs : e.DryRuns part) (sound : e.Sound part first d) {s : UnitSnapshot}
    (run : e.capture .never d = .ok s d') : e.Sound part first d' := by
  obtain ⟨current, shown, finite, linked⟩ := sound.chain
  obtain ⟨rfl, values, history, baseline⟩ := capture_ok runs.overTable.reads (Token.never_keeps _) shown run
  have same : part.get d'.runtime.world = part.get d.runtime.world :=
    (capture_keeps runs.reads_keep (Token.never_keeps _)).ok run
  refine sound.of_same ?_ values history ?_
  · rw [Tactical, same]
    exact sound.tactical
  · intro b now
    exact isFinite_getD sound.baseline finite (baseline ▸ now)

/-- The desk with a change made to its dry run from outside. -/
def rig (part : Part σ DryRun) (change : DryRun → DryRun) (d : UnitDesk σ) : UnitDesk σ :=
  { d with runtime := { d.runtime with
      world := part.set (change (part.get d.runtime.world)) d.runtime.world } }

/-- What happens to a desk over a dry run: the calls of its editor, with a token that never fires, and
between them changes of which writes fail. A call that leaves something half done is no step. -/
inductive Step (e : UnitEditor σ) (part : Part σ DryRun) (d : UnitDesk σ) : UnitDesk σ → Prop
  | capture {s : UnitSnapshot} {d' : UnitDesk σ} (run : e.capture .never d = .ok s d') : Step e part d d'
  | apply (draft : UnitDraft) {outcome : UnitOutcome} {d' : UnitDesk σ}
      (run : e.apply draft .never d = .ok outcome d') (clean : outcome.rollbackSucceeded ≠ some false) : Step e part d d'
  | restoreBaseline {outcome : UnitOutcome} {d' : UnitDesk σ}
      (run : e.restoreBaseline .never d = .ok outcome d') (clean : outcome.rollbackSucceeded ≠ some false) : Step e part d d'
  | revertLast {outcome : UnitOutcome} {d' : UnitDesk σ}
      (run : e.revertLast .never d = .ok outcome d') (clean : outcome.rollbackSucceeded ≠ some false) : Step e part d d'
  | failAfter (symbol : String) (allowed : Nat) :
      Step e part d (rig part (fun run => run.failAfter symbol allowed) d)
  | clearFailures : Step e part d (rig part DryRun.clearFailures d)

inductive Reached (e : UnitEditor σ) (part : Part σ DryRun) (start : UnitDesk σ) : UnitDesk σ → Prop
  | start : Reached e part start start
  | step {d d' : UnitDesk σ} (before : Reached e part start d) (step : Step e part d d') : Reached e part start d'

theorem Sound.rig (sound : e.Sound part first d) {change : DryRun → DryRun}
    (attachment : ∀ run, (change run).attachment = run.attachment)
    (values : ∀ run, (change run).values = run.values) : e.Sound part first (UnitEditor.rig part change d) := by
  refine sound.of_same ?_ ?_ rfl sound.baseline
  · show (part.get (part.set _ _)).attachment.mode = _
    rw [part.get_set, attachment]
    exact sound.tactical
  · show (part.get (part.set _ _)).values = _
    rw [part.get_set, values]

theorem Sound.step (runs : e.DryRuns part) (sound : e.Sound part first d) (step : Step e part d d') :
    e.Sound part first d' := by
  cases step with
  | capture run => exact sound.capture runs run
  | apply draft run clean =>
    rw [runs.apply_eq sound.tactical] at run
    cases accepted : draftRefusal? draft with
    | some refusal =>
      rw [accepted] at run
      cases run
      exact sound
    | none =>
      rw [accepted] at run
      exact sound.edit runs (isFinite_of_accepted accepted) run clean
  | restoreBaseline run clean =>
    rw [runs.restoreBaseline_eq sound.tactical] at run
    cases known : d.baseline with
    | none =>
      rw [known] at run
      cases run
      exact sound
    | some baseline =>
      rw [known] at run
      refine sound.edit runs ?_ run clean
      intro f value asked
      rw [UnitDraft.get_ofSnapshot] at asked
      cases asked
      exact sound.baseline known f
  | @revertLast outcome d' run clean =>
    cases came : outcome.succeeded with
    | true =>
      obtain ⟨last, -, -, -, sound'⟩ := sound.revert runs run came
      exact sound'
    | false => exact sound.revert_failed runs run came clean
  | failAfter symbol allowed => exact sound.rig (fun _ => rfl) fun _ => rfl
  | clearFailures => exact sound.rig (fun _ => rfl) fun _ => rfl

theorem Reached.sound (runs : e.DryRuns part) {start : UnitDesk σ} (sound : e.Sound part first start)
    (reached : Reached e part start d) : e.Sound part first d := by
  induction reached with
  | start => exact sound
  | step before step ih => exact ih.step runs step

/-- Successful reverts, one after the other. -/
inductive Reverts (e : UnitEditor σ) : Nat → UnitDesk σ → UnitDesk σ → Prop
  | none {d : UnitDesk σ} : Reverts e 0 d d
  | more {n : Nat} {d d' d'' : UnitDesk σ} {outcome : UnitOutcome} (run : e.revertLast .never d = .ok outcome d')
      (succeeded : outcome.succeeded = true) (rest : Reverts e n d' d'') : Reverts e (n + 1) d d''

theorem Sound.reverts (runs : e.DryRuns part) (sound : e.Sound part first d) {n : Nat}
    (reverted : Reverts e n d d') :
    n ≤ d.history.records.length ∧
      d'.history.records = d.history.records.take (d.history.records.length - n) ∧
      (∀ r, d.history.records[d.history.records.length - n]? = some r →
        r.before.ShownBy e.policy (part.get d'.runtime.world).values) ∧
      (∀ {key}, (∀ f, key ≠ UnitChange.symbolOf e.policy f) →
        (part.get d'.runtime.world).values.get? key = (part.get d.runtime.world).values.get? key) := by
  induction reverted with
  | none => exact ⟨Nat.zero_le _, by simp, by simp, fun _ => rfl⟩
  | @more n d d' d'' outcome run succeeded rest ih =>
    obtain ⟨last, split, back, others, sound'⟩ := sound.revert runs run succeeded
    obtain ⟨bound, records, shown, others'⟩ := ih sound'
    have length : d.history.records.length = d'.history.records.length + 1 := by simp [split]
    have shorter : d.history.records.length - (n + 1) = d'.history.records.length - n := by omega
    refine ⟨by omega, ?_, ?_, fun foreign => (others' foreign).trans (others foreign)⟩
    · rw [records, shorter, split, List.take_append_of_le_length (by omega)]
    · intro r atPlace
      rw [shorter, split] at atPlace
      -- The record that counts is the one that the last revert of all takes off.
      cases rest with
      | none =>
        rw [Nat.sub_zero, List.getElem?_concat_length] at atPlace
        cases atPlace
        exact back
      | more =>
        rw [List.getElem?_append_left (by omega)] at atPlace
        exact shown r atPlace

/-- As long as no write is set to fail, everything in the history can be reverted. -/
theorem Sound.exists_reverts (runs : e.DryRuns part) (sound : e.Sound part first d)
    (free : e.Free (part.get d.runtime.world).failing) {n : Nat} (bound : n ≤ d.history.records.length) :
    ∃ d', Reverts e n d d' := by
  induction n generalizing d with
  | zero => exact ⟨d, .none⟩
  | succ n ih =>
    obtain ⟨current, shown, finite, linked⟩ := sound.chain
    obtain ⟨last, latest⟩ : ∃ last, d.history.peek = some last := by
      cases latest : d.history.records.getLast? with
      | none =>
        rw [List.getLast?_eq_none_iff.1 latest] at bound
        cases bound
      | some last => exact ⟨last, latest⟩
    have member : last ∈ d.history.records := List.mem_of_getLast? latest
    obtain ⟨inner, d₁, edited⟩ := edit_never runs.overTable runs.faultless shown
      (.ofSnapshot last.before) .revertLast false
    have came : inner.succeeded = true := by
      refine runs.edit_succeeds ?_ free edited
      intro f value asked
      rw [UnitDraft.get_ofSnapshot] at asked
      cases asked
      exact (sound.records last member).2 f
    have run := runs.revertLast_of_edit sound.tactical latest edited
    rw [if_pos came] at run
    obtain ⟨_, split, -, -, sound'⟩ := sound.revert runs run came
    have length : d.history.records.length = d₁.history.pop.records.length + 1 := by
      rw [split, List.length_append, List.length_singleton]
    have free' : e.Free (part.get d₁.runtime.world).failing := runs.edit_free edited free
    obtain ⟨d', rest⟩ := ih sound' free' (by show n ≤ d₁.history.pop.records.length; omega)
    exact ⟨d', .more run came rest⟩

theorem Sound.calls_end (runs : e.DryRuns part) (sound : e.Sound part first d) :
    (∃ s d', e.capture .never d = .ok s d') ∧
      (∀ draft, ∃ outcome d', e.apply draft .never d = .ok outcome d') ∧
      (∃ outcome d', e.restoreBaseline .never d = .ok outcome d') ∧
      ∃ outcome d', e.revertLast .never d = .ok outcome d' := by
  obtain ⟨current, shown, -⟩ := sound.chain
  have edits := edit_never runs.overTable runs.faultless shown
  refine ⟨capture_never runs.overTable.reads shown, fun draft => ?_, ?_, ?_⟩
  · rw [runs.apply_eq sound.tactical]
    cases draftRefusal? draft with
    | some refusal => exact ⟨_, _, rfl⟩
    | none => exact edits draft .apply true
  · rw [runs.restoreBaseline_eq sound.tactical]
    cases d.baseline with
    | none => exact ⟨_, _, rfl⟩
    | some baseline => exact edits (.ofSnapshot baseline) .restoreBaseline true
  · cases latest : d.history.peek with
    | none => exact ⟨_, _, runs.revertLast_of_empty sound.tactical latest⟩
    | some last =>
      obtain ⟨outcome, d', edited⟩ := edits (.ofSnapshot last.before) .revertLast false
      rw [runs.revertLast_of_edit sound.tactical latest edited]
      cases outcome.succeeded <;> exact ⟨_, _, rfl⟩

/-- The history unwinds in the order in which it was wound. At any time between calls there is no gap
between a record and the next, the first record starts at the first snapshot, and the last ends at what
the table shows. Any number of successful reverts puts back exactly what stood before that many records,
and touches nothing but the symbols of the unit; and as long as no write is set to fail, all the records
can be reverted. -/
theorem history_unwinds (runs : e.DryRuns part) {start : UnitDesk σ} (history : start.history = .empty)
    (baseline : start.baseline = none) (tactical : e.Tactical part start)
    (shown : first.ShownBy e.policy (part.get start.runtime.world).values) (finite : first.IsFinite)
    (reached : Reached e part start d) :
    (∃ current, current.ShownBy e.policy (part.get d.runtime.world).values ∧
      (∀ i r r', d.history.records[i]? = some r → d.history.records[i + 1]? = some r' →
        r.after = r'.before) ∧
      (∀ r, d.history.records.head? = some r → r.before = first) ∧
      (∀ r, d.history.records.getLast? = some r → r.after = current) ∧
      (d.history.records = [] → current = first)) ∧
    ((∃ s d', e.capture .never d = .ok s d') ∧
      (∀ draft, ∃ outcome d', e.apply draft .never d = .ok outcome d') ∧
      (∃ outcome d', e.restoreBaseline .never d = .ok outcome d') ∧
      ∃ outcome d', e.revertLast .never d = .ok outcome d') ∧
    (∀ n d', Reverts e n d d' →
      n ≤ d.history.records.length ∧
      d'.history.records = d.history.records.take (d.history.records.length - n) ∧
      (∀ r, d.history.records[d.history.records.length - n]? = some r →
        r.before.ShownBy e.policy (part.get d'.runtime.world).values) ∧
      ∀ key, (∀ f, key ≠ UnitChange.symbolOf e.policy f) →
        (part.get d'.runtime.world).values.get? key = (part.get d.runtime.world).values.get? key) ∧
    (e.Free (part.get d.runtime.world).failing →
      ∀ n ≤ d.history.records.length, ∃ d', Reverts e n d d') := by
  have fresh : e.Sound part first start :=
    { tactical := tactical
      chain := ⟨first, shown, finite, by rw [history]; rfl⟩
      records := by
        rw [history]
        nofun
      baseline := by
        rw [baseline]
        nofun }
  have sound := reached.sound runs fresh
  obtain ⟨current, now, -, linked⟩ := sound.chain
  refine ⟨⟨current, now, fun i r r' => linked.next, ?_, fun r => linked.last, ?_⟩, sound.calls_end runs, ?_,
    fun free n => sound.exists_reverts runs free⟩
  · intro r latest
    obtain ⟨rest, split⟩ := List.head?_eq_some_iff.1 latest
    rw [split] at linked
    exact linked.1
  · intro empty
    rw [empty] at linked
    exact linked.symm
  · intro n d' reverted
    obtain ⟨bound, records, back, others⟩ := sound.reverts runs reverted
    exact ⟨bound, records, back, fun key => others⟩

/-- An edit of the drill's unit is in the history, and one revert puts the unit back. -/
theorem history_unwinds_drill : ∃ d d', Reached drill .whole (drillDesk drillUnit .empty) d ∧
    d.history.records.length = 1 ∧ Reverts drill 1 d d' ∧ d'.history.records = [] ∧
    drillUnit.ShownBy drill.policy d'.runtime.world.values := by
  have shown := drillDesk_shown drillUnit .empty
  have unwinds := fun {d : UnitDesk DryRun} (reached : Reached drill .whole (drillDesk drillUnit .empty) d) =>
    history_unwinds drill_runs rfl rfl (drill_tactical drillUnit .empty) shown drillUnit_isFinite reached
  obtain ⟨outcome, d, run⟩ := (unwinds .start).2.1.2.1 drillDraft
  have edited := run
  rw [drill_runs.apply_eq (drill_tactical drillUnit .empty), drillDraft_accepted] at edited
  have succeeded := drill_runs.edit_succeeds (isFinite_of_accepted drillDraft_accepted) (fun _ => rfl) edited
  obtain ⟨-, ending⟩ := edit_ends drill_runs.overTable (Token.never_keeps _) shown edited
  cases ending with
  | unchanged nothing => simp [drill_plan] at nothing
  | failed => cases succeeded
  | committed id something history made =>
    have free := drill_runs.edit_free edited fun _ => rfl
    have reached : Reached drill .whole (drillDesk drillUnit .empty) d := .step .start (.apply drillDraft run nofun)
    have length : d.history.records.length = 1 := by
      rw [history]
      rfl
    obtain ⟨d', reverted⟩ := (unwinds reached).2.2.2 free 1 (Nat.le_of_eq length.symm)
    obtain ⟨-, records, back, -⟩ := (unwinds reached).2.2.1 1 d' reverted
    rw [length] at records back
    refine ⟨d, d', reached, length, reverted, records, ?_⟩
    exact back (recordOf id drillUnit (UnitChange.plan drill.policy drillUnit drillDraft) .apply)
      (by rw [history]; rfl)

end UnitEditor
end LiveControl
