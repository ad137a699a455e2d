import LiveControl.Proofs.ExtenderRuns
import LiveControl.Proofs.History

namespace LiveControl

namespace OperationRequest

def HasProcess (r : OperationRequest) : Prop := ∃ id : UInt32, r.context.uint32? ContextKey.processId = some id ∧ 0 < id

/-- The anchor was found in the binary. -/
def HasAnchor (r : OperationRequest) (anchor : String) : Prop := anchor ∈ Anchors.ofEntry (r.context.get? ContextKey.anchors)

/-- The request gives a number, which has to be one of 64 bits. -/
def GivesInt (r : OperationRequest) (n : Int) : Prop :=
  r.payload.get? "intValue" = some (.int n) ∧ Int64.minValue.toInt ≤ n ∧ n ≤ Int64.maxValue.toInt

/-- The request switches a patch off, by `enable` or, where that is no truth value, by `boolValue`. -/
def SwitchesOff (r : OperationRequest) : Prop :=
  r.payload.get? "enable" = some (.bool false) ∨
    (∀ b, r.payload.get? "enable" ≠ some (.bool b)) ∧ r.payload.get? "boolValue" = some (.bool false)

/-- A request for a shipped feature that is safe, for each feature in its own way. -/
structure SafeFor (r : OperationRequest) (feature : String) : Prop where
  known : feature ∈ Plugin.shipped.flatMap Plugin.features
  credits : feature = "set_credits" → ∃ n, r.GivesInt n ∧ 0 ≤ n
  timer : feature = "freeze_timer" → r.HasProcess ∧ (r.HasAnchor "game_timer_freeze" ∨ r.HasAnchor "freeze_timer")
  fog : feature = "toggle_fog" → r.HasProcess ∧ (r.HasAnchor "fog_reveal" ∨ r.HasAnchor "toggle_fog")
  ai : feature = "toggle_ai" → r.HasProcess ∧ (r.HasAnchor "ai_enabled" ∨ r.HasAnchor "toggle_ai")
  cap : feature = "set_unit_cap" → r.HasProcess ∧ (r.SwitchesOff ∨ ∃ n, r.GivesInt n ∧ 1 ≤ n ∧ n ≤ 100000)

end OperationRequest

namespace PluginRequest

variable {feature : String} {r : OperationRequest}

variable (feature) in
theorem isSome_processId_iff : (ofOperation feature r).processId.isSome = true ↔ r.HasProcess := by
  simp only [ofOperation, Option.isSome_filter, OperationRequest.HasProcess, Option.any_eq_true, decide_eq_true_eq,
    gt_iff_lt]

variable (feature) in
theorem isSome_anchor_iff {candidates : List String} :
    ((ofOperation feature r).anchor? candidates).isSome = true ↔ ∃ anchor ∈ candidates, r.HasAnchor anchor := by
  simp only [anchor?, List.find?_isSome, NameSet.contains_iff, ofOperation, OperationRequest.HasAnchor]

theorem intValue_eq_some_iff {value : Int64} :
    (ofOperation feature r).intValue = some value ↔ r.payload.get? "intValue" = some (.int value.toInt) := by
  simp only [ofOperation, Option.bind_eq_some_iff, Json.int64?_eq_some_iff, exists_eq_right]

theorem patchEnabled_eq_false_iff : Plugin.patchEnabled (ofOperation feature r) = false ↔ r.SwitchesOff := by
  simp only [Plugin.patchEnabled, ofOperation, OperationRequest.SwitchesOff, Option.getD_eq_iff, Option.or_eq_some_iff,
    Bool.true_eq_false, and_false, or_false, Option.bind_eq_some_iff, Json.bool?_eq_some_iff, exists_eq_right,
    Option.eq_none_iff_forall_ne_some, ne_eq]

end PluginRequest

namespace Plugin

variable {feature : String} {r : OperationRequest}

variable (feature) in
theorem exists_givesInt_iff {P : Int → Prop} :
    (∃ n, r.GivesInt n ∧ P n) ↔ ∃ value, (PluginRequest.ofOperation feature r).intValue = some value ∧ P value.toInt := by
  constructor
  · rintro ⟨n, ⟨given, low, high⟩, holds⟩
    rw [Int64.toInt_minValue] at low
    rw [Int64.toInt_maxValue] at high
    have same : (Int64.ofInt n).toInt = n := Int64.toInt_ofInt_of_le low (by omega)
    exact ⟨.ofInt n, PluginRequest.intValue_eq_some_iff.2 (same.symm ▸ given), same.symm ▸ holds⟩
  · rintro ⟨value, read, holds⟩
    exact ⟨value.toInt, ⟨PluginRequest.intValue_eq_some_iff.1 read, Json.toInt_bounds value⟩, holds⟩

theorem economy_accepts_iff :
    (economy.execute (.ofOperation feature r)).succeeded = true ↔ ∃ n, r.GivesInt n ∧ 0 ≤ n := by
  rw [exists_givesInt_iff feature]
  simp only [economy]
  cases (PluginRequest.ofOperation feature r).intValue with
  | none => simp [PluginOutcome.denied]
  | some value =>
    have sign : value < 0 ↔ ¬0 ≤ value.toInt := Int64.lt_iff_toInt_lt.trans Int.not_le.symm
    by_cases negative : value < 0
    · simpa [negative, PluginOutcome.denied] using sign.1 negative
    · simpa [negative, PluginOutcome.accepted] using mt sign.2 negative

theorem globalToggle_accepts_iff : (globalToggle.execute (.ofOperation feature r)).succeeded = true ↔
    r.HasProcess ∧ ∃ anchor ∈ toggleAnchors feature, r.HasAnchor anchor := by
  rw [← PluginRequest.isSome_processId_iff feature, ← PluginRequest.isSome_anchor_iff feature]
  simp only [globalToggle]
  cases (PluginRequest.ofOperation feature r).processId with
  | none => simp [PluginOutcome.denied, PluginOutcome.processMissing]
  | some id =>
    have own : (PluginRequest.ofOperation feature r).feature = feature := rfl
    cases found : (PluginRequest.ofOperation feature r).anchor? (toggleAnchors feature) <;>
      simp [own, found, PluginOutcome.denied, PluginOutcome.accepted]

theorem buildPatch_accepts_iff : (buildPatch.execute (.ofOperation feature r)).succeeded = true ↔
    r.HasProcess ∧ (r.SwitchesOff ∨ ∃ n, r.GivesInt n ∧ 1 ≤ n ∧ n ≤ 100000) := by
  rw [← PluginRequest.isSome_processId_iff feature, ← PluginRequest.patchEnabled_eq_false_iff,
    exists_givesInt_iff feature]
  simp only [buildPatch]
  cases (PluginRequest.ofOperation feature r).processId with
  | none => simp [PluginOutcome.denied, PluginOutcome.processMissing]
  | some id =>
    cases enabled : patchEnabled (.ofOperation feature r) with
    | false => simp [PluginOutcome.accepted]
    | true =>
      have bounds (value : Int64) : minUnitCap ≤ value ∧ value ≤ maxUnitCap ↔ 1 ≤ value.toInt ∧ value.toInt ≤ 100000 :=
        and_congr Int64.le_iff_toInt_le Int64.le_iff_toInt_le
      cases (PluginRequest.ofOperation feature r).intValue with
      | none => simp [minUnitCap, PluginOutcome.denied]
      | some value =>
        by_cases within : minUnitCap ≤ value ∧ value ≤ maxUnitCap
        · simp [within, (bounds value).1 within, PluginOutcome.accepted]
        · have outside : (decide (minUnitCap ≤ value) && decide (value ≤ maxUnitCap)) = false := by
            rw [← Bool.decide_and, decide_eq_false within]
          simp [outside, mt (bounds value).2 within, PluginOutcome.denied]

/-- A shipped plugin accepts just the safe requests for the features that it serves. -/
theorem accepts_iff_safe {plugin : Plugin} (shipped : plugin ∈ Plugin.shipped) (served : feature ∈ plugin.features) :
    (plugin.execute (.ofOperation feature r)).succeeded = true ↔ r.SafeFor feature := by
  have known : feature ∈ Plugin.shipped.flatMap Plugin.features := List.mem_flatMap.2 ⟨plugin, shipped, served⟩
  simp only [Plugin.shipped, List.mem_cons, List.not_mem_nil, or_false] at shipped
  rcases shipped with rfl | rfl | rfl
  · obtain rfl := List.mem_singleton.1 served
    rw [economy_accepts_iff]
    exact ⟨fun safe => ⟨known, fun _ => safe, nofun, nofun, nofun, nofun⟩, fun safe => safe.credits rfl⟩
  · rw [globalToggle_accepts_iff]
    simp only [globalToggle, List.mem_cons, List.not_mem_nil, or_false] at served
    have pair (a b : String) : (∃ anchor ∈ [a, b], r.HasAnchor anchor) ↔ r.HasAnchor a ∨ r.HasAnchor b := by simp
    rcases served with rfl | rfl | rfl
    · exact (and_congr_right' (pair ..)).trans
        ⟨fun safe => ⟨known, nofun, fun _ => safe, nofun, nofun, nofun⟩, fun safe => safe.timer rfl⟩
    · exact (and_congr_right' (pair ..)).trans
        ⟨fun safe => ⟨known, nofun, nofun, fun _ => safe, nofun, nofun⟩, fun safe => safe.fog rfl⟩
    · exact (and_congr_right' (pair ..)).trans
        ⟨fun safe => ⟨known, nofun, nofun, nofun, fun _ => safe, nofun⟩, fun safe => safe.ai rfl⟩
  · obtain rfl := List.mem_singleton.1 served
    rw [buildPatch_accepts_iff]
    exact ⟨fun safe => ⟨known, nofun, nofun, nofun, nofun, fun _ => safe⟩, fun safe => safe.cap rfl⟩

end Plugin

namespace Extender

/-- What the owner of an extender may call. -/
inductive Call where
  | execute (r : OperationRequest)
  | rollBackAll
  | mark (feature : String) (reason : ExtensionReason)

def carryOut : Call → Extender → Extender
  | .execute r, x => (execute r x).2
  | .rollBackAll, x => (rollBackAll x).2
  | .mark feature reason, x => { x with probe := x.probe.mark feature reason }

/-- The call has a plugin run for a feature, on that request and with that outcome. -/
inductive Ran (feature : String) (r : OperationRequest) (outcome : PluginOutcome) : Call × Extender → Prop
  | intro {x plugin} (called : x.call? r = some (plugin, .ofOperation feature r))
      (ended : plugin.execute (.ofOperation feature r) = outcome) : Ran feature r outcome (.execute r, x)

/-- The call has no plugin run for the feature. -/
def Rests (feature : String) (m : Call × Extender) : Prop := ∀ r outcome, ¬Ran feature r outcome m

/-- The call is a roll-back, and it finds the hook of the feature installed. -/
def Reverts (feature : String) (m : Call × Extender) : Prop :=
  m.1 = .rollBackAll ∧ (m.2.hooks.get feature).state = .installed

/-- The record of a hook whose plugin has run. -/
def recordOf (outcome : PluginOutcome) : HookRecord :=
  if outcome.succeeded then ⟨.installed, "HOOK_OK"⟩ else ⟨.failed, outcome.reason.text⟩

theorem state_recordOf (outcome : PluginOutcome) :
    (recordOf outcome).state = if outcome.succeeded then .installed else .failed := by
  unfold recordOf
  split <;> rfl

theorem recordOf_eq_failed_iff {outcome : PluginOutcome} {reason : String} :
    recordOf outcome = ⟨.failed, reason⟩ ↔ outcome.succeeded = false ∧ outcome.reason.text = reason := by
  unfold recordOf
  cases outcome.succeeded <;> simp

/-- What a call makes of the record of a hook. -/
inductive Turn (feature : String) (m : Call × Extender) : Prop
  | ran {r outcome} (ran : Ran feature r outcome m)
      (now : (carryOut m.1 m.2).hooks.get feature = recordOf outcome)
  | reverted (reverts : Reverts feature m)
      (now : (carryOut m.1 m.2).hooks.get feature = ⟨.rolledBack, "ROLLBACK_SUCCESS"⟩)
  | kept (rests : Rests feature m) (stays : ¬Reverts feature m)
      (now : (carryOut m.1 m.2).hooks.get feature = m.2.hooks.get feature)

variable {feature : String} {m : Call × Extender}

theorem Rests.of_other {x : Extender} {c : Call} (other : ∀ r, c ≠ .execute r) : Rests feature (c, x) := by
  rintro r outcome ⟨⟩
  exact other r rfl

theorem turn_carryOut (feature : String) (m : Call × Extender) : Turn feature m := by
  obtain ⟨c, x⟩ := m
  cases c with
  | execute r =>
    have stays : ¬Reverts feature (.execute r, x) := fun reverts => nomatch reverts.1
    cases called : x.call? r with
    | none =>
      refine .kept ?_ stays ?_
      · rintro _ _ ⟨called', -⟩
        rw [called] at called'
        cases called'
      · exact congrArg (fun x => x.hooks.get feature) (execute_of_no_call called).2
    | some call =>
      obtain ⟨plugin, seen⟩ := call
      obtain ⟨-, -, rfl⟩ := call_eq_some_iff.1 called
      have now : (execute r x).2.hooks.get feature = _ :=
        (congrArg (fun result => result.2.hooks.get feature) (execute_of_call called)).trans (get_noteOutcome ..)
      by_cases own : feature = featureOf r.operation
      · subst own
        exact .ran ⟨called, rfl⟩ (now.trans (if_pos rfl))
      · refine .kept ?_ stays (now.trans (if_neg own))
        rintro _ _ ⟨called', -⟩
        exact own (feature_of_call called')
  | rollBackAll =>
    have now : (rollBackAll x).2.hooks.get feature = _ := get_rollBackAll x feature
    by_cases found : (x.hooks.get feature).state = .installed
    · exact .reverted ⟨rfl, found⟩ (now.trans (if_pos found))
    · exact .kept (.of_other fun _ => nofun) (fun reverts => found reverts.2) (now.trans (if_neg found))
  | mark marked reason => exact .kept (.of_other fun _ => nofun) (fun reverts => nomatch reverts.1) rfl

theorem Ran.eq {r r' : OperationRequest} {outcome outcome' : PluginOutcome} (ran : Ran feature r outcome m)
    (ran' : Ran feature r' outcome' m) : r = r' ∧ outcome = outcome' := by
  obtain ⟨called, rfl⟩ := ran
  obtain ⟨called', rfl⟩ := ran'
  rw [called] at called'
  cases called'
  exact ⟨rfl, rfl⟩

theorem Reverts.rests (reverts : Reverts feature m) : Rests feature m := by
  obtain ⟨c, x⟩ := m
  exact .of_other fun r same => nomatch same.symm.trans reverts.1

/-- The record of a hook after a call is that of the run, that of the roll-back, or the one before. -/
theorem record_carryOut (holds : HookRecord → Prop) : holds ((carryOut m.1 m.2).hooks.get feature) ↔
    (∃ r outcome, Ran feature r outcome m ∧ holds (recordOf outcome)) ∨
      Reverts feature m ∧ holds ⟨.rolledBack, "ROLLBACK_SUCCESS"⟩ ∨
      Rests feature m ∧ ¬Reverts feature m ∧ holds (m.2.hooks.get feature) := by
  -- The three ways exclude each other, so in each case one part of the disjunction is left.
  cases turn_carryOut feature m with
  | @ran r outcome ran now =>
    have busy : ¬Rests feature m := fun rests => rests r outcome ran
    have settled : ¬Reverts feature m := fun reverts => busy reverts.rests
    rw [now]
    simp only [busy, settled, false_and, or_false]
    exact ⟨fun good => ⟨r, outcome, ran, good⟩, fun ⟨_, _, ran', good⟩ => (ran.eq ran').2 ▸ good⟩
  | reverted reverts now =>
    have idle (r : OperationRequest) (outcome : PluginOutcome) : ¬Ran feature r outcome m := reverts.rests r outcome
    rw [now]
    simp only [idle, reverts, false_and, exists_false, true_and, not_true_eq_false, and_false, or_false, false_or]
  | kept rests stays now =>
    have idle (r : OperationRequest) (outcome : PluginOutcome) : ¬Ran feature r outcome m := rests r outcome
    rw [now]
    simp only [idle, rests, stays, false_and, exists_false, true_and, not_false_eq_true, false_or]

theorem installed_carryOut : ((carryOut m.1 m.2).hooks.get feature).state = .installed ↔
    (∃ r outcome, Ran feature r outcome m ∧ outcome.succeeded = true) ∨
      (Rests feature m ∧ m.1 ≠ .rollBackAll) ∧ (m.2.hooks.get feature).state = .installed := by
  rw [record_carryOut fun record => record.state = .installed]
  simp only [state_recordOf, Reverts]
  grind

theorem failed_carryOut {reason : String} : (carryOut m.1 m.2).hooks.get feature = ⟨.failed, reason⟩ ↔
    (∃ r outcome, Ran feature r outcome m ∧ outcome.succeeded = false ∧ outcome.reason.text = reason) ∨
      Rests feature m ∧ m.2.hooks.get feature = ⟨.failed, reason⟩ := by
  rw [record_carryOut fun record => record = ⟨.failed, reason⟩]
  simp only [recordOf_eq_failed_iff, Reverts]
  grind

theorem rolledBack_carryOut : ((carryOut m.1 m.2).hooks.get feature).state = .rolledBack ↔
    Reverts feature m ∨ Rests feature m ∧ (m.2.hooks.get feature).state = .rolledBack := by
  rw [record_carryOut fun record => record.state = .rolledBack]
  simp only [state_recordOf, Reverts]
  grind

theorem untouched_carryOut : (carryOut m.1 m.2).hooks.get feature = .untouched ↔
    Rests feature m ∧ m.2.hooks.get feature = .untouched := by
  rw [record_carryOut fun record => record = .untouched]
  simp only [recordOf, HookRecord.untouched, Reverts]
  grind

/-- Among shipped plugins a run comes through just in case its request is safe. -/
theorem Ran.came_iff_safe {r : OperationRequest} {outcome : PluginOutcome} (ran : Ran feature r outcome m)
    (shipped : ∀ plugin ∈ m.2.plugins, plugin ∈ Plugin.shipped) : outcome.succeeded = true ↔ r.SafeFor feature := by
  obtain ⟨called, rfl⟩ := ran
  obtain ⟨found, -, -⟩ := call_eq_some_iff.1 called
  obtain ⟨member, served⟩ := mem_of_pluginFor found
  have own : feature = featureOf r.operation := feature_of_call called
  exact Plugin.accepts_iff_safe (shipped _ member) (own ▸ served)

theorem plugins_carryOut (c : Call) (x : Extender) : (carryOut c x).plugins = x.plugins := by
  cases c with
  | execute r => exact plugins_execute r x
  | rollBackAll | mark => rfl

/-- What the record of a hook says of the history of the calls. -/
structure Traced (feature : String) (history : List (Call × Extender)) (record : HookRecord) : Prop where
  /-- The latest run was on a safe request and came through, and no roll-back has been since. -/
  installed : record.state = .installed ↔ Since (fun m => Rests feature m ∧ m.1 ≠ .rollBackAll)
    (fun m => ∃ r outcome, Ran feature r outcome m ∧ outcome.succeeded = true ∧ r.SafeFor feature) history
  /-- The latest run was denied, for that reason. -/
  failed : ∀ reason, record = ⟨.failed, reason⟩ ↔ Since (Rests feature)
    (fun m => ∃ r outcome, Ran feature r outcome m ∧ outcome.succeeded = false ∧ outcome.reason.text = reason) history
  /-- There has been no run since a roll-back that found the hook installed. -/
  rolledBack : record.state = .rolledBack ↔ Since (Rests feature) (Reverts feature) history
  untouched : record = .untouched ↔ ∀ m ∈ history, Rests feature m

/-- Over shipped plugins the record of a hook is the trace of the calls for its feature. In particular a hook is
installed only where the latest run was on a safe request. To roll back twice rolls nothing back the second
time. -/
theorem hook_traced {plugins : List Plugin} (shipped : ∀ plugin ∈ plugins, plugin ∈ Plugin.shipped)
    (calls : List Call) :
    (∀ feature, Traced (Text.asciiLower feature) (moments carryOut calls (.load plugins))
      ((runAll carryOut calls (.load plugins)).hook feature)) ∧
    ∀ x, (rollBackAll (rollBackAll x).2).1 = [] := by
  constructor
  · intro feature
    -- Hooks are kept under the names of features in lowercase, in whatever case they are asked for.
    generalize key : Text.asciiLower feature = id
    rw [hook, key]
    have loaded : (Extender.load plugins).hooks.get id = .untouched := rfl
    refine ⟨?_, fun reason => ?_, ?_, ?_⟩
    · have traced : ((runAll carryOut calls (.load plugins)).hooks.get id).state = .installed ↔
          Since (fun m => Rests id m ∧ m.1 ≠ .rollBackAll)
            (fun m => ∃ r outcome, Ran id r outcome m ∧ outcome.succeeded = true)
            (moments carryOut calls (.load plugins)) :=
        holds_runAll_iff_since (fun x : Extender => (x.hooks.get id).state = .installed)
          (fun c _ x => installed_carryOut (m := (c, x))) (by simp [loaded, HookRecord.untouched])
      refine traced.trans (Since.congr fun m member => ?_)
      have same := holds_of_mem_moments (fun c x => (plugins_carryOut c x).trans) rfl member
      have known : ∀ plugin ∈ m.2.plugins, plugin ∈ Plugin.shipped := same ▸ shipped
      constructor
      · rintro ⟨r, outcome, ran, came⟩
        exact ⟨r, outcome, ran, came, (ran.came_iff_safe known).1 came⟩
      · rintro ⟨r, outcome, ran, came, -⟩
        exact ⟨r, outcome, ran, came⟩
    · exact holds_runAll_iff_since (fun x : Extender => x.hooks.get id = ⟨.failed, reason⟩)
        (fun c _ x => failed_carryOut (m := (c, x))) (by simp [loaded, HookRecord.untouched])
    · exact holds_runAll_iff_since (fun x : Extender => (x.hooks.get id).state = .rolledBack)
        (fun c _ x => rolledBack_carryOut (m := (c, x))) (by simp [loaded, HookRecord.untouched])
    · exact holds_runAll_iff_forall (fun x : Extender => x.hooks.get id = .untouched)
        (fun c _ x => untouched_carryOut (m := (c, x))) loaded
  · refine fun x => List.eq_nil_iff_forall_not_mem.2 fun id member => ?_
    have installed := Hooks.mem_installed.1 member
    rw [get_rollBackAll] at installed
    split at installed
    · cases installed
    · exact absurd installed ‹_›

/-- The cap is patched, another cap is denied, and then the cap is patched once more. -/
def capCalls : List Call := [.execute (capRequest 250), .execute (capRequest 0), .execute (capRequest 300)]

theorem hook_traced_cap :
    ((runAll carryOut capCalls (.load Plugin.shipped)).hook "set_unit_cap").state = .installed ∧
    Since (fun m => Rests "set_unit_cap" m ∧ m.1 ≠ .rollBackAll)
      (fun m => ∃ r outcome, Ran "set_unit_cap" r outcome m ∧ outcome.succeeded = true ∧ r.SafeFor "set_unit_cap")
      (moments carryOut capCalls (.load Plugin.shipped)) := by
  have installed : ((runAll carryOut capCalls (.load Plugin.shipped)).hook "set_unit_cap").state = .installed := by
    decide
  exact ⟨installed, ((hook_traced (fun _ => id) capCalls).1 "set_unit_cap").installed.1 installed⟩

end Extender
end LiveControl
