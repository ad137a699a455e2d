import LiveControl.Proofs.ExecutionChecks

namespace LiveControl.Payload

variable {raw : Bag}

/-- A bag gives a scalar under the key of its type, and has nothing under the other value keys. -/
def Gives (raw : Bag) (value : Scalar) : Prop :=
  (∃ loose, raw.get? value.payloadKey = some loose ∧ scalarAt? value.payloadKey loose = some value) ∧
    ∀ key ∈ valueKeys, key ≠ value.payloadKey → Lacks raw key

theorem given?_eq_some_iff {key : String} {loose : Json} :
    given? raw key = some loose ↔ raw.get? key = some loose ∧ loose ≠ .null := by
  rw [given?, Option.filter_eq_some_iff]
  cases loose <;> simp [Json.isNull]

theorem payloadKey_mem (value : Scalar) : value.payloadKey ∈ valueKeys := by
  cases value <;> simp [Scalar.payloadKey, valueKeys]

theorem payloadKey_of_scalarAt? {key : String} {loose : Json} {value : Scalar} (listed : key ∈ valueKeys)
    (reads : scalarAt? key loose = some value) : value.payloadKey = key := by
  simp only [valueKeys, List.mem_cons, List.not_mem_nil, or_false] at listed
  rcases listed with rfl | rfl | rfl
  all_goals
    obtain ⟨_, _, rfl⟩ := Option.map_eq_some_iff.1 reads
    rfl

theorem scalarAt?_null (key : String) : scalarAt? key .null = none := by
  unfold scalarAt?
  split <;> rfl

theorem readScalar_eq_ok {value : Scalar} (read : readScalar raw = .ok value) :
    ∃ key loose, (valueKeys.filterMap fun key => (given? raw key).map fun v => (key, v)) = [(key, loose)] ∧
      scalarAt? key loose = some value := by
  unfold readScalar at read
  split at read
  · cases read
  · rename_i key loose only
    split at read
    · rename_i reads
      cases read
      exact ⟨key, loose, only, reads⟩
    · cases read
  · cases read

theorem only_entry_iff {key : String} {loose : Json} :
    (valueKeys.filterMap fun key => (given? raw key).map fun v => (key, v)) = [(key, loose)] ↔
      key ∈ valueKeys ∧ given? raw key = some loose ∧ ∀ other ∈ valueKeys, other ≠ key → given? raw other = none := by
  have member_iff (other : String) (v : Json) :
      (other, v) ∈ valueKeys.filterMap (fun key => (given? raw key).map fun v => (key, v)) ↔
        other ∈ valueKeys ∧ given? raw other = some v := by
    simp
  constructor
  · intro only
    simp only [only, List.mem_singleton] at member_iff
    obtain ⟨listed, given⟩ := (member_iff key loose).1 rfl
    refine ⟨listed, given, fun other listed differs => Option.eq_none_iff_forall_ne_some.2 fun v given => ?_⟩
    exact differs (Prod.mk.inj ((member_iff other v).2 ⟨listed, given⟩)).1
  · rintro ⟨listed, given, others⟩
    simp only [valueKeys, List.mem_cons, List.not_mem_nil, or_false, forall_eq_or_imp, forall_eq] at listed others
    rcases listed with rfl | rfl | rfl <;> simp_all [valueKeys]

theorem readScalar_eq_ok_iff {value : Scalar} : readScalar raw = .ok value ↔ Gives raw value := by
  constructor
  · intro read
    obtain ⟨key, loose, only, reads⟩ := readScalar_eq_ok read
    obtain ⟨listed, given, others⟩ := only_entry_iff.1 only
    obtain rfl := payloadKey_of_scalarAt? listed reads
    exact ⟨⟨loose, (given?_eq_some_iff.1 given).1, reads⟩,
      fun key member other => given?_eq_none_iff.1 (others key member other)⟩
  · rintro ⟨⟨loose, found, reads⟩, others⟩
    have given : given? raw value.payloadKey = some loose := by
      refine given?_eq_some_iff.2 ⟨found, ?_⟩
      rintro rfl
      rw [scalarAt?_null] at reads
      cases reads
    have only := only_entry_iff.2 ⟨payloadKey_mem value, given,
      fun key member other => given?_eq_none_iff.2 (others key member other)⟩
    simp only [readScalar, only, reads]

theorem readSwitch_eq_ok_iff {key : String} {absent b : Bool} {flaw : Flaw} :
    readSwitch raw key absent flaw = .ok b ↔ raw.get? key = some (.bool b) ∨ Lacks raw key ∧ b = absent := by
  unfold readSwitch
  cases given : given? raw key with
  | none =>
    have lacks := given?_eq_none_iff.1 given
    rcases lacks with found | found <;> simp [Lacks, found, eq_comm]
  | some value =>
    obtain ⟨found, filled⟩ := given?_eq_some_iff.1 given
    cases value <;> simp_all [Lacks, Json.bool?]

/-- The text under a bag's `symbol`, without the blanks around it. -/
def Aims (raw : Bag) (symbol : String) : Prop := ∃ text, raw.get? "symbol" = some (.str text) ∧ Text.trim text = symbol

theorem Aims.eq {symbol symbol' : String} (aims : Aims raw symbol) (aims' : Aims raw symbol') : symbol = symbol' := by
  obtain ⟨text, found, rfl⟩ := aims
  obtain ⟨text', found', rfl⟩ := aims'
  rw [found] at found'
  cases found'
  rfl

theorem readSymbol_eq_ok_iff {symbol : String} : readSymbol raw = .ok symbol ↔ Aims raw symbol ∧ symbol ≠ "" := by
  unfold readSymbol
  cases found : raw.text? "symbol" with
  | some text =>
    obtain ⟨whole, entry, rfl, filled⟩ := Bag.text?_eq_some_iff.1 found
    constructor
    · intro read
      cases read
      exact ⟨⟨whole, entry, rfl⟩, filled⟩
    · rintro ⟨aims, -⟩
      rw [aims.eq ⟨whole, entry, rfl⟩]
  | none =>
    refine ⟨nofun, ?_⟩
    rintro ⟨⟨text, entry, rfl⟩, filled⟩
    rw [Bag.text?_eq_some_iff.2 ⟨text, entry, rfl, filled⟩] at found
    cases found

/-- What a bag orders of a freezing action. The switch `freeze` says whether to pin; where it is left out, the
action's id does. -/
inductive Freezes (a : ActionSpec) (raw : Bag) : PinDirective → Prop
  | pin {value} (on : raw.get? "freeze" = some (.bool true) ∨ Lacks raw "freeze" ∧ a.id ≠ "unfreeze_symbol")
      (gives : Gives raw value) : Freezes a raw (.pin value)
  | release (off : raw.get? "freeze" = some (.bool false) ∨ Lacks raw "freeze" ∧ a.id = "unfreeze_symbol") :
      Freezes a raw .release

/-- The switch is read as the order is meant: an action pins by default unless it is `unfreeze_symbol`. -/
theorem freezes_iff {a : ActionSpec} {directive : PinDirective} :
    Freezes a raw directive ↔ ∃ on, readSwitch raw "freeze" (pinsByDefault a) .freezeNotBoolean = .ok on ∧
      if on then ∃ value, readScalar raw = .ok value ∧ directive = .pin value else directive = .release := by
  constructor
  · rintro (⟨on, gives⟩ | off)
    · exact ⟨true, readSwitch_eq_ok_iff.2 (by simpa [pinsByDefault] using on), _, readScalar_eq_ok_iff.2 gives, rfl⟩
    · exact ⟨false, readSwitch_eq_ok_iff.2 (by simpa [pinsByDefault] using off), rfl⟩
  · rintro ⟨on, switch, ordered⟩
    have switch := readSwitch_eq_ok_iff.1 switch
    cases on with
    | true =>
      obtain ⟨value, gives, rfl⟩ := ordered
      exact .pin (by simpa [pinsByDefault] using switch) (readScalar_eq_ok_iff.1 gives)
    | false =>
      cases ordered
      exact .release (by simpa [pinsByDefault] using switch)

theorem Freezes.eq {a : ActionSpec} {directive directive' : PinDirective} (freezes : Freezes a raw directive)
    (freezes' : Freezes a raw directive') : directive = directive' := by
  obtain ⟨on, switch, ordered⟩ := freezes_iff.1 freezes
  obtain ⟨on', switch', ordered'⟩ := freezes_iff.1 freezes'
  obtain rfl := Except.ok.inj (switch.symm.trans switch')
  cases on with
  | true =>
    obtain ⟨value, scalar, rfl⟩ := ordered
    obtain ⟨value', scalar', rfl⟩ := ordered'
    exact congrArg PinDirective.pin (Except.ok.inj (scalar.symm.trans scalar'))
  | false => exact Eq.trans ordered (Eq.symm ordered')

theorem bind_eq_ok_iff {α β : Type} {x : Except Flaw α} {f : α → Except Flaw β} {b : β} :
    (x >>= f) = .ok b ↔ ∃ a, x = .ok a ∧ f a = .ok b := by
  cases x with
  | error flaw => exact ⟨nofun, nofun⟩
  | ok a =>
    constructor
    · exact fun run => ⟨a, rfl, run⟩
    · rintro ⟨_, ⟨⟩, run⟩
      exact run

/-- The bags from which an action reads an order to freeze. -/
theorem read_eq_freeze_iff {a : ActionSpec} {symbol : String} {directive : PinDirective} :
    read a raw = .ok (.freeze symbol directive) ↔
      a.kind = .freeze ∧ (Aims raw symbol ∧ symbol ≠ "") ∧ Freezes a raw directive := by
  rw [← readSymbol_eq_ok_iff, freezes_iff]
  constructor
  · intro run
    have kind : a.kind = .freeze := (kind_of_read run).symm
    rw [read, kind] at run
    obtain ⟨symbol', named, run⟩ := bind_eq_ok_iff.1 run
    obtain ⟨on, switch, run⟩ := bind_eq_ok_iff.1 run
    cases on with
    | true =>
      obtain ⟨value, scalar, run⟩ := bind_eq_ok_iff.1 run
      cases run
      exact ⟨kind, named, true, switch, value, scalar, rfl⟩
    | false =>
      cases run
      exact ⟨kind, named, false, switch, rfl⟩
  · rintro ⟨kind, named, on, switch, ordered⟩
    rw [read, kind]
    refine bind_eq_ok_iff.2 ⟨symbol, named, bind_eq_ok_iff.2 ⟨on, switch, ?_⟩⟩
    cases on with
    | true =>
      obtain ⟨value, scalar, rfl⟩ := ordered
      exact bind_eq_ok_iff.2 ⟨value, scalar, rfl⟩
    | false =>
      cases ordered
      rfl

end LiveControl.Payload
