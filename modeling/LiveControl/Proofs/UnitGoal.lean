import LiveControl.Proofs.UnitDryRun

namespace LiveControl

/-- Whether a value is as good as one that was asked for: a double within epsilon, or an equal integer. -/
def Policy.Meets (p : Policy) : Scalar → Scalar → Prop
  | .float asked, .float value => (asked - value).abs ≤ p.epsilon
  | asked, value => asked = value

def Scalar.isNaN : Scalar → Bool
  | .float x => x.isNaN
  | .int _ | .bool _ => false

variable {p : Policy} {f : UnitField} {old asked : Scalar}

theorem Policy.meets_self (valid : p.errors = []) (finite : asked.isFinite = true) : p.Meets asked asked := by
  obtain ⟨epsilonFinite, positive⟩ := Policy.epsilon_of_no_errors valid
  cases asked with
  | int n => rfl
  | bool b => rfl
  | float x =>
    show (x - x).abs ≤ p.epsilon
    rw [Double.abs_sub_self finite]
    refine Double.le_of_not_lt (Double.isNaN_of_isFinite epsilonFinite) rfl fun below => ?_
    exact positive (Double.le_of_lt below)

/-- Not-a-number does not differ from any value that is asked for. -/
theorem UnitChange.not_isNaN_of_differs (takes : f.Takes asked) (oldTakes : f.Takes old)
    (finite : asked.isFinite = true) (apart : UnitChange.differs p f old asked = true) : old.isNaN = false := by
  cases old with
  | int m => rfl
  | bool b => cases oldTakes
  | float y =>
    have double : f.isFloat = true := oldTakes
    cases asked with
    | bool b => cases takes
    | int n => exact absurd (double.symm.trans takes) nofun
    | float x =>
      rw [UnitChange.differs, double, if_pos rfl] at apart
      refine Bool.eq_false_iff.2 fun nan => ?_
      have distance : (x - y).abs.isNaN = y.isNaN := Double.isNaN_abs_sub finite y
      exact Double.not_lt_of_isNaN (distance.trans nan) (of_decide_eq_true apart)

/-- A value that does not differ from the one that is asked for meets it exactly when it is a number. -/
theorem UnitChange.meets_iff_of_same (valid : p.errors = []) (oldTakes : f.Takes old)
    (takes : f.Takes asked) (finite : asked.isFinite = true)
    (same : UnitChange.differs p f old asked = false) : p.Meets asked old ↔ old.isNaN = false := by
  have epsilonNumber := Double.isNaN_of_isFinite (Policy.epsilon_of_no_errors valid).1
  cases asked with
  | bool b => cases takes
  | int n =>
    have integral : f.isFloat = false := takes
    cases old with
    | bool b => cases oldTakes
    | float x => exact absurd (integral.symm.trans oldTakes) nofun
    | int m =>
      rw [UnitChange.differs, integral] at same
      have equal : n = m := Decidable.not_not.1 (of_decide_eq_false same)
      rw [equal]
      exact ⟨fun _ => rfl, fun _ => rfl⟩
  | float x =>
    have double : f.isFloat = true := takes
    cases old with
    | bool b => cases oldTakes
    | int m => exact absurd (double.symm.trans oldTakes) nofun
    | float y =>
      rw [UnitChange.differs, double, if_pos rfl] at same
      have distance : (x - y).abs.isNaN = y.isNaN := Double.isNaN_abs_sub finite y
      show (x - y).abs ≤ p.epsilon ↔ y.isNaN = false
      constructor
      · intro close
        refine Bool.eq_false_iff.2 fun nan => ?_
        exact Double.not_le_of_isNaN (distance.trans nan) close
      · intro number
        exact Double.le_of_not_lt epsilonNumber (distance.trans number) (of_decide_eq_false same)

open UnitChange in
/-- What a plan makes of a field that the draft asks for meets the draft exactly when the field held a
number. -/
theorem UnitChange.meets_after_iff (valid : p.errors = []) (before : UnitSnapshot) {draft : UnitDraft}
    (given : draft.get f = some asked) (finite : asked.isFinite = true) :
    p.Meets asked ((after before (plan p before draft)).get f) ↔ (before.get f).isNaN = false := by
  have takes := UnitDraft.takes_of_get given
  by_cases changed : f ∈ (plan p before draft).map field
  · obtain ⟨c, member, rfl⟩ := List.mem_map.1 changed
    obtain rfl := Option.some.inj (given.symm.trans (new_of_mem_plan member))
    rw [get_after_of_mem member]
    exact ⟨fun _ => not_isNaN_of_differs takes (before.takes_get c.field) finite (differs_of_mem_plan member),
      fun _ => Policy.meets_self valid finite⟩
  · rw [get_after_of_not_mem changed]
    exact meets_iff_of_same valid (before.takes_get f) takes finite (same_of_not_mem_plan changed given)

namespace UnitEditor

variable {σ : Type} {e : UnitEditor σ} {table : σ → Table Scalar} {cancel : Token σ}

/-- A successful edit brings the unit to the draft exactly when no field that the draft asks for held
not-a-number. Such a field is passed over without a word, as its distance from the draft is no number
either and so does not exceed epsilon. -/
theorem apply_meets_draft_iff (tabled : e.OverTable table) (quiet : cancel.Keeps table)
    (valid : e.policy.errors = []) {before : UnitSnapshot} {draft : UnitDraft} {outcome : UnitOutcome}
    {d d' : UnitDesk σ} (shown : before.ShownBy e.policy (table d.runtime.world))
    (run : e.apply draft cancel d = .ok outcome d') (succeeded : outcome.succeeded = true) :
    ((∀ f asked, draft.get f = some asked → ∃ value,
        (table d'.runtime.world).get? (UnitChange.symbolOf e.policy f) = some value ∧
          e.policy.Meets asked value) ∧
      ∀ f, draft.get f = none →
        (table d'.runtime.world).get? (UnitChange.symbolOf e.policy f) =
          (table d.runtime.world).get? (UnitChange.symbolOf e.policy f)) ↔
    ∀ f asked, draft.get f = some asked → (before.get f).isNaN = false := by
  obtain ⟨accepted, edited⟩ := apply_of_succeeded run succeeded
  have shown' : before.ShownBy e.policy (table (e.afterSession d).runtime.world) := by
    rwa [view_afterSession tabled.toWrites]
  obtain ⟨-, ending⟩ := edit_ends tabled quiet shown' edited
  have final := ending.shown succeeded tabled.symbols shown'
  have each := fun {f : UnitField} {asked : Scalar} (given : draft.get f = some asked) =>
    UnitChange.meets_after_iff valid before given (isFinite_of_accepted accepted given)
  constructor
  · rintro ⟨met, -⟩ f asked given
    obtain ⟨value, there, meets⟩ := met f asked given
    rw [final f, Option.some.injEq] at there
    subst there
    exact (each given).1 meets
  · intro numbers
    refine ⟨fun f asked given => ⟨_, final f, (each given).2 (numbers f asked given)⟩, fun f absent => ?_⟩
    have unchanged : f ∉ (UnitChange.plan e.policy before draft).map UnitChange.field := by
      intro changed
      obtain ⟨c, member, rfl⟩ := List.mem_map.1 changed
      exact absurd ((UnitChange.new_of_mem_plan member).symm.trans absent) nofun
    rw [final f, UnitChange.get_after_of_not_mem unchanged, shown f]

/-- The drill's unit holds numbers only, so its draft is met. -/
theorem apply_meets_draft_drill : ∃ outcome d',
    drill.apply drillDraft .never (drillDesk drillUnit .empty) = .ok outcome d' ∧
      ∀ f asked, drillDraft.get f = some asked → ∃ value,
        d'.runtime.world.values.get? (UnitChange.symbolOf drill.policy f) = some value ∧
          drill.policy.Meets asked value := by
  have shown := drillDesk_shown drillUnit .empty
  obtain ⟨outcome, d', run, succeeded⟩ := drill_runs.apply_succeeds (drill_tactical drillUnit .empty) shown
    (fun _ => rfl) drillDraft_accepted
  have numbers : ∀ f asked, drillDraft.get f = some asked → (drillUnit.get f).isNaN = false :=
    fun f _ _ => by cases f <;> decide
  have met := (apply_meets_draft_iff drill_runs.overTable (Token.never_keeps _) drill_valid shown
    run succeeded).2 numbers
  exact ⟨outcome, d', run, met.1⟩

/-- A unit whose first field holds no number. -/
def lostUnit : UnitSnapshot := { drillUnit with hp := 0.0 / 0.0 }

def lostDraft : UnitDraft := ⟨some 100.0, none, none, none, none, none, none⟩

/-- A draft for the lost field comes to a success, and the field does not hold what was asked for. -/
theorem apply_passes_over_lost : ∃ outcome d',
    drill.apply lostDraft .never (drillDesk lostUnit .empty) = .ok outcome d' ∧
      outcome.succeeded = true ∧ lostDraft.get .hp = some (.float 100.0) ∧
      ¬ ∃ value, d'.runtime.world.values.get? (UnitChange.symbolOf drill.policy .hp) = some value ∧
        drill.policy.Meets (.float 100.0) value := by
  have shown := drillDesk_shown lostUnit .empty
  obtain ⟨outcome, d', run, succeeded⟩ := drill_runs.apply_succeeds (drill_tactical lostUnit .empty) shown
    (fun _ => rfl) (show draftRefusal? lostDraft = none from rfl)
  refine ⟨outcome, d', run, succeeded, rfl, ?_⟩
  rintro ⟨value, there, meets⟩
  obtain ⟨-, edited⟩ := apply_of_succeeded run succeeded
  obtain ⟨-, ending⟩ := edit_ends drill_runs.overTable (Token.never_keeps _) shown edited
  have final := ending.shown succeeded drill_symbols shown .hp
  obtain rfl := Option.some.inj (there.symm.trans final)
  have given : lostDraft.get .hp = some (.float 100.0) := rfl
  have number := (UnitChange.meets_after_iff drill_valid lostUnit given (by decide)).1 meets
  exact absurd number (by decide)

end UnitEditor
end LiveControl
