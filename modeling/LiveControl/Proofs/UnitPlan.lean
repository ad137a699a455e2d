import LiveControl.Proofs.DoubleDistance
import LiveControl.UnitSheet.Change

namespace LiveControl

/-- Whether a scalar can stand in a loose value. -/
def Scalar.isFinite : Scalar → Bool
  | .float x => x.isFinite
  | .int _ | .bool _ => true

/-- Whether a scalar is of the kind of a field. -/
def UnitField.Takes (f : UnitField) : Scalar → Prop
  | .float _ => f.isFloat = true
  | .int _ => f.isFloat = false
  | .bool _ => False

namespace UnitSnapshot

theorem ext_get {s t : UnitSnapshot} (same : ∀ f, s.get f = t.get f) : s = t := by
  have hp := same .hp
  have shield := same .shield
  have speed := same .speed
  have damage := same .damageMultiplier
  have cooldown := same .cooldownMultiplier
  have veterancy := same .veterancy
  have owner := same .ownerFaction
  simp only [get, Scalar.float.injEq, Scalar.int.injEq] at hp shield speed damage cooldown veterancy owner
  cases s
  cases t
  simp only [mk.injEq]
  exact ⟨hp, shield, speed, damage, cooldown, veterancy, owner⟩

theorem takes_get (s : UnitSnapshot) (f : UnitField) : f.Takes (s.get f) := by cases f <;> rfl

theorem get_set_self (s : UnitSnapshot) {f : UnitField} {value : Scalar} (takes : f.Takes value) :
    (s.set f value).get f = value := by
  cases value with
  | bool b => cases takes
  | int n => cases f <;> first | rfl | cases takes
  | float x => cases f <;> first | rfl | cases takes

theorem get_set_other (s : UnitSnapshot) {f g : UnitField} (value : Scalar) (other : g ≠ f) :
    (s.set f value).get g = s.get g := by
  cases f <;> cases g <;> first | rfl | exact absurd rfl other

theorem get_setAll_of_not_mem {s : UnitSnapshot} {values : List (UnitField × Scalar)} {f : UnitField}
    (absent : f ∉ values.map Prod.fst) : (s.setAll values).get f = s.get f := by
  induction values generalizing s with
  | nil => rfl
  | cons head rest ih =>
    rw [List.map_cons, List.mem_cons, not_or] at absent
    show ((s.set head.1 head.2).setAll rest).get f = s.get f
    rw [ih absent.2, get_set_other s head.2 absent.1]

theorem get_setAll_of_mem {s : UnitSnapshot} {values : List (UnitField × Scalar)} {f : UnitField}
    {value : Scalar} (distinct : (values.map Prod.fst).Nodup) (member : (f, value) ∈ values)
    (takes : f.Takes value) : (s.setAll values).get f = value := by
  induction values generalizing s with
  | nil => cases member
  | cons head rest ih =>
    rw [List.map_cons, List.nodup_cons] at distinct
    show ((s.set head.1 head.2).setAll rest).get f = value
    rcases List.mem_cons.1 member with here | later
    · cases here
      rw [get_setAll_of_not_mem distinct.1, get_set_self s takes]
    · exact ih distinct.2 later

/-- Reading all fields of a snapshot one by one gives it back. -/
theorem setAll_all (s : UnitSnapshot) : zero.setAll (UnitField.all.map fun f => (f, s.get f)) = s := by
  have distinct : ((UnitField.all.map fun f => (f, s.get f)).map Prod.fst).Nodup := by
    rw [List.map_map]
    exact show UnitField.all.Nodup by decide
  exact ext_get fun f => get_setAll_of_mem distinct (List.mem_map.2 ⟨f, f.mem_all, rfl⟩) (s.takes_get f)

def IsFinite (s : UnitSnapshot) : Prop := ∀ f, (s.get f).isFinite = true

/-- Whether a table shows a snapshot: under the symbol of each field it has the value of the field. -/
def ShownBy (s : UnitSnapshot) (p : Policy) (t : Table Scalar) : Prop :=
  ∀ f, t.get? (UnitChange.symbolOf p f) = some (s.get f)

end UnitSnapshot

namespace UnitDraft

theorem takes_of_get {draft : UnitDraft} {f : UnitField} {value : Scalar}
    (asked : draft.get f = some value) : f.Takes value := by
  cases f <;> simp only [get, Option.map_eq_some_iff] at asked <;> obtain ⟨_, _, rfl⟩ := asked <;> rfl

@[simp] theorem get_ofSnapshot (s : UnitSnapshot) (f : UnitField) : (ofSnapshot s).get f = some (s.get f) := by
  cases f <;> rfl

/-- A draft that has no first double to object to asks for finite values only. -/
theorem isFinite_of_get {draft : UnitDraft} (accepted : draft.firstNonFinite? = none) {f : UnitField}
    {value : Scalar} (asked : draft.get f = some value) : value.isFinite = true := by
  have fine := List.find?_eq_none.1 accepted f f.mem_all
  rw [asked] at fine
  cases value with
  | int n => rfl
  | bool b => rfl
  | float x => simpa [isNonFinite, Scalar.isFinite] using fine

end UnitDraft

/-- Every field has a symbol of its own, without outer blanks. -/
structure Policy.UnitSymbols (p : Policy) : Prop where
  trimmed : ∀ f, Text.trim (UnitChange.symbolOf p f) = UnitChange.symbolOf p f
  distinct : ∀ {f g}, UnitChange.symbolOf p f = UnitChange.symbolOf p g → f = g

theorem Policy.epsilon_of_no_errors {p : Policy} (valid : p.errors = []) :
    p.epsilon.isFinite = true ∧ ¬ p.epsilon ≤ 0.0 := by
  have absent : Finding.unusableEpsilon p.epsilon ∉ p.errors := by
    rw [valid]
    exact List.not_mem_nil
  by_cases bad : !p.epsilon.isFinite || p.epsilon ≤ 0.0
  · refine absurd (List.mem_filter.2 ⟨?_, rfl⟩) absent
    rw [review, if_pos bad]
    simp
  · simpa using bad

namespace UnitChange

theorem differs_comm (p : Policy) (f : UnitField) (old new : Scalar) :
    differs p f old new = differs p f new old := by
  unfold differs
  rw [Double.abs_sub_comm]
  simp only [ne_comm]

theorem differs_self {p : Policy} (valid : p.errors = []) (f : UnitField) (value : Scalar) :
    differs p f value value = false := by
  obtain ⟨-, positive⟩ := Policy.epsilon_of_no_errors valid
  unfold differs
  cases f.isFloat with
  | true => exact decide_eq_false (Double.not_lt_abs_sub_self positive value.toFloat)
  | false => simp

/-- A change of a field that is written as the policy tells. -/
structure Fits (c : UnitChange) (p : Policy) : Prop where
  symbol : c.symbol = symbolOf p c.field
  action : c.action = c.field.action

theorem of?_eq_some {p : Policy} {before : UnitSnapshot} {draft : UnitDraft} {f : UnitField}
    {c : UnitChange} :
    of? p before draft f = some c ↔ ∃ new, draft.get f = some new ∧
      differs p f (before.get f) new = true ∧
      c = ⟨f, symbolOf p f, f.action, before.get f, new, f.isFloat⟩ := by
  unfold of?
  cases draft.get f with
  | none => simp
  | some new =>
    constructor
    · intro made
      by_cases apart : differs p f (before.get f) new = true
      · simp only [if_pos apart, Option.some.injEq] at made
        exact ⟨new, rfl, apart, made.symm⟩
      · simp only [if_neg apart, reduceCtorEq] at made
    · rintro ⟨_, asked, apart, rfl⟩
      cases asked
      simp only [if_pos apart]

theorem mem_plan {p : Policy} {before : UnitSnapshot} {draft : UnitDraft} {c : UnitChange} :
    c ∈ plan p before draft ↔ of? p before draft c.field = some c := by
  unfold plan
  rw [List.mem_filterMap]
  constructor
  · rintro ⟨f, -, asked⟩
    obtain ⟨new, -, -, rfl⟩ := of?_eq_some.1 asked
    exact asked
  · exact fun asked => ⟨c.field, c.field.mem_all, asked⟩

variable {p : Policy} {before : UnitSnapshot} {draft : UnitDraft} {c : UnitChange}

theorem fits_of_mem_plan (member : c ∈ plan p before draft) : c.Fits p := by
  obtain ⟨new, -, -, same⟩ := of?_eq_some.1 (mem_plan.1 member)
  rw [same]
  exact ⟨rfl, rfl⟩

theorem old_of_mem_plan (member : c ∈ plan p before draft) : c.old = before.get c.field := by
  obtain ⟨new, -, -, same⟩ := of?_eq_some.1 (mem_plan.1 member)
  rw [same]

theorem new_of_mem_plan (member : c ∈ plan p before draft) : draft.get c.field = some c.new := by
  obtain ⟨new, asked, -, same⟩ := of?_eq_some.1 (mem_plan.1 member)
  rw [same]
  exact asked

theorem differs_of_mem_plan (member : c ∈ plan p before draft) :
    differs p c.field (before.get c.field) c.new = true := by
  obtain ⟨new, -, apart, same⟩ := of?_eq_some.1 (mem_plan.1 member)
  rw [same]
  exact apart

/-- A field without a change in the plan is not asked for, or has about the value that is asked for. -/
theorem same_of_not_mem_plan {f : UnitField} (absent : f ∉ (plan p before draft).map field)
    {value : Scalar} (asked : draft.get f = some value) : differs p f (before.get f) value = false := by
  refine Bool.eq_false_iff.2 fun apart => absent ?_
  exact List.mem_map.2 ⟨⟨f, symbolOf p f, f.action, before.get f, value, f.isFloat⟩,
    mem_plan.2 (of?_eq_some.2 ⟨value, asked, apart, rfl⟩), rfl⟩

theorem plan_eq_nil (same : ∀ {f value}, draft.get f = some value → differs p f (before.get f) value = false) :
    plan p before draft = [] := by
  refine List.eq_nil_iff_forall_not_mem.2 fun c member => ?_
  have apart := differs_of_mem_plan member
  rw [same (new_of_mem_plan member)] at apart
  cases apart

theorem plan_fields_sublist (p : Policy) (before : UnitSnapshot) (draft : UnitDraft) :
    ((plan p before draft).map field).Sublist UnitField.all := by
  unfold plan
  generalize UnitField.all = fields
  induction fields with
  | nil => exact .slnil
  | cons f rest ih =>
    rw [List.filterMap_cons]
    cases asked : of? p before draft f with
    | none => exact .cons f ih
    | some c =>
      obtain ⟨new, -, -, rfl⟩ := of?_eq_some.1 asked
      exact .cons_cons f ih

theorem plan_fields_nodup (p : Policy) (before : UnitSnapshot) (draft : UnitDraft) :
    ((plan p before draft).map field).Nodup :=
  (plan_fields_sublist p before draft).nodup (by decide)

theorem plan_symbols_nodup (symbols : p.UnitSymbols) (before : UnitSnapshot) (draft : UnitDraft) :
    ((plan p before draft).map symbol).Nodup := by
  have renamed : (plan p before draft).map symbol = ((plan p before draft).map field).map (symbolOf p) := by
    rw [List.map_map]
    exact List.map_congr_left fun c member => (fits_of_mem_plan member).symbol
  rw [renamed]
  exact List.Pairwise.map (symbolOf p) (fun f g apart same => apart (symbols.distinct same))
    (plan_fields_nodup p before draft)

theorem get_after_of_mem (member : c ∈ plan p before draft) :
    (after before (plan p before draft)).get c.field = c.new := by
  refine UnitSnapshot.get_setAll_of_mem ?_ (List.mem_map_of_mem member)
    (UnitDraft.takes_of_get (new_of_mem_plan member))
  rw [List.map_map]
  exact plan_fields_nodup p before draft

theorem get_after_of_not_mem {f : UnitField} (absent : f ∉ (plan p before draft).map field) :
    (after before (plan p before draft)).get f = before.get f := by
  refine UnitSnapshot.get_setAll_of_not_mem ?_
  rwa [List.map_map]

/-- After a plan there is nothing left to do for its draft: a field that was passed over would be passed over
again, and a field that was written holds what is asked for. -/
theorem plan_after (valid : p.errors = []) (before : UnitSnapshot) (draft : UnitDraft) :
    plan p (after before (plan p before draft)) draft = [] := by
  refine plan_eq_nil fun {f value} asked => ?_
  by_cases changed : f ∈ (plan p before draft).map field
  · obtain ⟨c, made, rfl⟩ := List.mem_map.1 changed
    obtain rfl := Option.some.inj (asked.symm.trans (new_of_mem_plan made))
    rw [get_after_of_mem made]
    exact differs_self valid c.field c.new
  · rw [get_after_of_not_mem changed]
    exact same_of_not_mem_plan changed asked

theorem plan_ofSnapshot_self (valid : p.errors = []) (s : UnitSnapshot) : plan p s (.ofSnapshot s) = [] := by
  refine plan_eq_nil fun {f value} asked => ?_
  rw [UnitDraft.get_ofSnapshot, Option.some.injEq] at asked
  rw [asked]
  exact differs_self valid f value

/-- The second table has every change made, and is else the first. -/
structure Made (changes : List UnitChange) (t t' : Table Scalar) : Prop where
  new : ∀ c ∈ changes, t'.get? c.symbol = some c.new
  others : ∀ {key}, key ∉ changes.map symbol → t'.get? key = t.get? key

theorem symbolOf_mem_plan (symbols : p.UnitSymbols) {f : UnitField}
    (member : symbolOf p f ∈ (plan p before draft).map symbol) : f ∈ (plan p before draft).map field := by
  obtain ⟨c, inPlan, same⟩ := List.mem_map.1 member
  rw [(fits_of_mem_plan inPlan).symbol] at same
  exact List.mem_map.2 ⟨c, inPlan, symbols.distinct same⟩

/-- A table that showed a snapshot shows, with a plan made, the snapshot after the plan. -/
theorem Made.shown {t t' : Table Scalar} (made : Made (plan p before draft) t t')
    (symbols : p.UnitSymbols) (shown : before.ShownBy p t) :
    (after before (plan p before draft)).ShownBy p t' := by
  intro f
  by_cases changed : f ∈ (plan p before draft).map field
  · obtain ⟨c, member, rfl⟩ := List.mem_map.1 changed
    rw [get_after_of_mem member, ← (fits_of_mem_plan member).symbol]
    exact made.new c member
  · rw [get_after_of_not_mem changed, made.others fun member => changed (symbolOf_mem_plan symbols member)]
    exact shown f

end UnitChange
end LiveControl
