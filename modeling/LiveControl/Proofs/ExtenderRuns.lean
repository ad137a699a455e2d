import LiveControl.Extension.Extender

namespace LiveControl

namespace Hooks

theorem mem_installed {h : Hooks} {id : String} : id ∈ h.installed ↔ (h.get id).state = .installed := by
  have listed : id ∈ h.installed ↔ ∃ record, h.records.get? id = some record ∧ record.state = .installed := by
    simp only [installed, List.mem_map, List.mem_filter, beq_iff_eq]
    constructor
    · rintro ⟨⟨key, record⟩, ⟨member, state⟩, rfl⟩
      exact ⟨record, Table.mem_toList.1 member, state⟩
    · rintro ⟨record, found, state⟩
      exact ⟨(id, record), ⟨Table.mem_toList.2 found, state⟩, rfl⟩
  rw [listed, get]
  cases h.records.get? id with
  | none => simp [HookRecord.untouched]
  | some record => simp

theorem get_mark (h : Hooks) (id x : String) (record : HookRecord) :
    Hooks.get ⟨h.records.insert id record⟩ x = if x = id then record else h.get x := by
  simp only [get, Table.get?_insert]
  split <;> rfl

theorem get_foldl_markRolledBack (ids : List String) (h : Hooks) (x : String) :
    (ids.foldl markRolledBack h).get x =
      if x ∈ ids then ⟨.rolledBack, "ROLLBACK_SUCCESS"⟩ else h.get x := by
  induction ids generalizing h with
  | nil => simp
  | cons id rest ih =>
    rw [List.foldl_cons, ih, markRolledBack, get_mark]
    by_cases later : x ∈ rest
    · simp [later]
    · by_cases here : x = id <;> simp [later, here]

end Hooks

namespace Probe

theorem isAvailable_mark (p : Probe) (feature : String) (reason : ExtensionReason) (x : String) :
    (p.mark feature reason).isAvailable x =
      (Text.asciiLower x == Text.asciiLower feature || p.isAvailable x) := by
  simp only [isAvailable, mark, Table.get?_insert]
  by_cases same : Text.asciiLower x = Text.asciiLower feature <;> simp [same]

theorem isAvailable_foldl_mark {features : List String} {p : Probe} {x : String} :
    (features.foldl (fun p feature => p.mark feature .probePass) p).isAvailable x = true ↔
      (∃ feature ∈ features, Text.asciiLower feature = Text.asciiLower x) ∨ p.isAvailable x = true := by
  induction features generalizing p with
  | nil => simp
  | cons first rest ih =>
    rw [List.foldl_cons, ih, isAvailable_mark, Bool.or_eq_true, beq_iff_eq, eq_comm (a := Text.asciiLower x)]
    simp only [List.mem_cons, exists_eq_or_imp]
    exact or_left_comm.trans or_assoc.symm

/-- The probe of plugins knows just the features that they advertise, in whatever case. -/
theorem isAvailable_ofPlugins {plugins : List Plugin} {x : String} : (ofPlugins plugins).isAvailable x = true ↔
    ∃ plugin ∈ plugins, ∃ feature ∈ plugin.features, Text.asciiLower feature = Text.asciiLower x := by
  have nothing : empty.isAvailable x = false := rfl
  simp only [ofPlugins, isAvailable_foldl_mark, nothing, Bool.false_eq_true, or_false, List.mem_flatMap]
  constructor
  · rintro ⟨feature, ⟨plugin, member, listed⟩, same⟩
    exact ⟨plugin, member, feature, listed, same⟩
  · rintro ⟨plugin, member, feature, listed, same⟩
    exact ⟨feature, ⟨plugin, member, listed⟩, same⟩

end Probe

namespace Extender

@[simp] theorem asciiLower_featureOf (operation : String) :
    Text.asciiLower (featureOf operation) = featureOf operation :=
  Text.asciiLower_asciiLower _

theorem mem_of_pluginFor {x : Extender} {feature : String} {plugin : Plugin} (found : x.pluginFor feature = some plugin) :
    plugin ∈ x.plugins ∧ feature ∈ plugin.features :=
  ⟨List.mem_of_find?_eq_some found, by simpa using List.find?_some found⟩

/-- The plugin that runs for an operation and the request that it is given, if any runs. -/
def call? (x : Extender) (r : OperationRequest) : Option (Plugin × PluginRequest) :=
  match x.pluginFor (featureOf r.operation) with
  | none => none
  | some plugin =>
    if x.probe.isAvailable (featureOf r.operation) then
      some (plugin, .ofOperation (featureOf r.operation) r)
    else none

variable {x : Extender} {r : OperationRequest}

theorem call_eq_some_iff {plugin : Plugin} {seen : PluginRequest} :
    x.call? r = some (plugin, seen) ↔ x.pluginFor (featureOf r.operation) = some plugin ∧
      x.probe.isAvailable (featureOf r.operation) = true ∧
      seen = .ofOperation (featureOf r.operation) r := by
  unfold call?
  cases x.pluginFor (featureOf r.operation) <;> cases x.probe.isAvailable (featureOf r.operation) <;>
    simp [eq_comm]

theorem feature_of_call {plugin : Plugin} {seen : PluginRequest}
    (called : x.call? r = some (plugin, seen)) : seen.feature = featureOf r.operation := by
  rw [(call_eq_some_iff.1 called).2.2]
  rfl

theorem execute_of_call {plugin : Plugin} {seen : PluginRequest}
    (called : x.call? r = some (plugin, seen)) :
    execute r x = (resultOf plugin seen.feature (plugin.execute seen),
      { x with hooks := noteOutcome x.hooks seen.feature (plugin.execute seen) }) := by
  obtain ⟨served, probed, rfl⟩ := call_eq_some_iff.1 called
  simp only [execute, served, probed, if_true]
  rfl

theorem execute_of_no_call (none : x.call? r = none) :
    (execute r x).1.succeeded = false ∧ (execute r x).2 = x := by
  unfold call? at none
  split at none
  · rename_i unserved
    simp only [execute, unserved]
    exact ⟨rfl, trivial⟩
  · rename_i served
    split at none
    · cases none
    · rename_i unprobed
      simp only [execute, served, unprobed]
      exact ⟨rfl, rfl⟩

theorem plugins_execute (r : OperationRequest) (x : Extender) : (execute r x).2.plugins = x.plugins := by
  cases called : x.call? r with
  | none => rw [(execute_of_no_call called).2]
  | some call => rw [execute_of_call called]

theorem get_noteOutcome (hooks : Hooks) (feature : String) (outcome : PluginOutcome) (id : String) :
    (noteOutcome hooks feature outcome).get id =
      if id = feature then if outcome.succeeded then ⟨.installed, "HOOK_OK"⟩ else ⟨.failed, outcome.reason.text⟩
      else hooks.get id := by
  unfold noteOutcome
  cases outcome.succeeded <;> simp [Hooks.markInstalled, Hooks.markFailed, Hooks.get_mark]

theorem state_noteOutcome (hooks : Hooks) (feature : String) (outcome : PluginOutcome) (id : String) :
    ((noteOutcome hooks feature outcome).get id).state =
      if id = feature then if outcome.succeeded then .installed else .failed else (hooks.get id).state := by
  rw [get_noteOutcome]
  by_cases same : id = feature <;> cases outcome.succeeded <;> simp [same]

theorem get_rollBackAll (x : Extender) (id : String) :
    (rollBackAll x).2.hooks.get id =
      if (x.hooks.get id).state = .installed then ⟨.rolledBack, "ROLLBACK_SUCCESS"⟩ else x.hooks.get id := by
  show (x.hooks.installed.foldl Hooks.markRolledBack x.hooks).get id = _
  simp only [Hooks.get_foldl_markRolledBack, Hooks.mem_installed]

/-- An extender after calls of its owner, with the operations that were answered since the latest
roll-back, or since it was loaded. -/
inductive Reached (plugins : List Plugin) : List (OperationRequest × OperationResult) → Extender → Prop
  | load : Reached plugins [] (.load plugins)
  | mark {since x} (feature : String) (reason : ExtensionReason) : Reached plugins since x →
      Reached plugins since { x with probe := x.probe.mark feature reason }
  | execute {since x} (r : OperationRequest) : Reached plugins since x →
      Reached plugins (since ++ [(r, (execute r x).1)]) (execute r x).2
  | rollBackAll {since x} : Reached plugins since x → Reached plugins [] (rollBackAll x).2

/-- For each answered operation of a feature, whether it came through. -/
def verdicts (feature : String) (since : List (OperationRequest × OperationResult)) : List Bool :=
  (since.filter fun answered => featureOf answered.1.operation == feature).map fun answered =>
    answered.2.succeeded

theorem verdicts_concat (feature : String) (since : List (OperationRequest × OperationResult))
    (r : OperationRequest) (result : OperationResult) :
    verdicts feature (since ++ [(r, result)]) =
      if featureOf r.operation = feature then verdicts feature since ++ [result.succeeded]
      else verdicts feature since := by
  by_cases same : featureOf r.operation = feature <;> simp [verdicts, same]

theorem asciiLower_of_mem_verdicts {feature : String} {since : List (OperationRequest × OperationResult)}
    {verdict : Bool} (member : verdict ∈ verdicts feature since) : Text.asciiLower feature = feature := by
  obtain ⟨answered, listed, -⟩ := List.mem_map.1 member
  have same := (List.mem_filter.1 listed).2
  rw [← eq_of_beq same, asciiLower_featureOf]

variable {plugins : List Plugin} {since : List (OperationRequest × OperationResult)}

/-- What holds of an extender at any time between calls. -/
structure Sound (since : List (OperationRequest × OperationResult)) (x : Extender) : Prop where
  probed : ∀ {feature}, (x.pluginFor feature).isSome → x.probe.isAvailable feature = true
  served : ∀ {feature}, true ∈ verdicts feature since → (x.pluginFor feature).isSome
  installed_iff : ∀ feature, (x.hooks.get feature).state = .installed ↔
    (verdicts feature since).getLast? = some true

theorem Sound.load (plugins : List Plugin) : Sound [] (.load plugins) where
  probed served := by
    obtain ⟨plugin, found⟩ := Option.isSome_iff_exists.1 served
    obtain ⟨member, listed⟩ := mem_of_pluginFor found
    exact Probe.isAvailable_ofPlugins.2 ⟨plugin, member, _, listed, rfl⟩
  served came := by simp [verdicts] at came
  installed_iff feature := by simp [Extender.load, Hooks.get, Hooks.empty, HookRecord.untouched, verdicts]

theorem Sound.mark (sound : Sound since x) (feature : String) (reason : ExtensionReason) :
    Sound since { x with probe := x.probe.mark feature reason } where
  probed served := by rw [Probe.isAvailable_mark, sound.probed served, Bool.or_true]
  served := sound.served
  installed_iff := sound.installed_iff

theorem Sound.call_of_served (sound : Sound since x) (served : (x.pluginFor (featureOf r.operation)).isSome) :
    (x.call? r).isSome := by
  obtain ⟨plugin, found⟩ := Option.isSome_iff_exists.1 served
  simp [call?, found, sound.probed served]

/-- A call that runs a plugin says at once in the hook's record and in the verdicts whether it came
through. -/
theorem Sound.execute_of_call (sound : Sound since x) {plugin : Plugin} {seen : PluginRequest}
    (called : x.call? r = some (plugin, seen)) :
    Sound (since ++ [(r, (execute r x).1)]) (execute r x).2 := by
  rw [Extender.execute_of_call called, feature_of_call called]
  refine ⟨sound.probed, fun {id} came => ?_, fun id => ?_⟩
  · show (x.pluginFor id).isSome
    rw [verdicts_concat] at came
    split at came
    · rename_i same
      rw [← same, (call_eq_some_iff.1 called).1]
      rfl
    · exact sound.served came
  · rw [state_noteOutcome, verdicts_concat]
    by_cases same : id = featureOf r.operation
    · subst same
      cases came : (plugin.execute seen).succeeded <;> simp [resultOf, came]
    · simp [same, Ne.symm same, sound.installed_iff]

/-- A call that runs no plugin leaves the record of the hook, and its feature has never come through. -/
theorem Sound.execute_of_no_call (sound : Sound since x) (none : x.call? r = none) :
    Sound (since ++ [(r, (execute r x).1)]) (execute r x).2 := by
  obtain ⟨failed, same⟩ := Extender.execute_of_no_call none
  have never : true ∉ verdicts (featureOf r.operation) since := fun came => by
    have some := sound.call_of_served (sound.served came)
    rw [none] at some
    cases some
  have unchanged : ∀ id, (verdicts id (since ++ [(r, (execute r x).1)])).getLast? = some true ↔
      (verdicts id since).getLast? = some true := by
    intro id
    rw [verdicts_concat, failed]
    split
    · rename_i here
      subst here
      have before : (verdicts (featureOf r.operation) since).getLast? ≠ some true := fun last =>
        never (List.mem_of_getLast? last)
      simp [before]
    · rfl
  rw [same]
  refine ⟨sound.probed, fun {id} came => ?_, fun id => (sound.installed_iff id).trans (unchanged id).symm⟩
  rw [verdicts_concat, failed] at came
  split at came
  · exact sound.served (by simpa using came)
  · exact sound.served came

theorem Sound.rollBackAll (sound : Sound since x) : Sound [] (rollBackAll x).2 where
  probed := sound.probed
  served came := by simp [verdicts] at came
  installed_iff feature := by
    rw [get_rollBackAll]
    by_cases installed : (x.hooks.get feature).state = .installed <;> simp [installed, verdicts]

theorem Reached.sound (reached : Reached plugins since x) : Sound since x := by
  induction reached with
  | load => exact .load plugins
  | mark feature reason _ ih => exact ih.mark feature reason
  | @execute since x r _ ih =>
    cases called : x.call? r with
    | some call => exact ih.execute_of_call called
    | none => exact ih.execute_of_no_call called
  | rollBackAll _ ih => exact ih.rollBackAll

theorem state_after_rollBackAll (feature : String) (x : Extender) :
    ((rollBackAll x).2.hooks.get feature).state =
      if feature ∈ (rollBackAll x).1 then .rolledBack else (x.hooks.get feature).state := by
  have listed : feature ∈ (rollBackAll x).1 ↔ (x.hooks.get feature).state = .installed := Hooks.mem_installed
  rw [get_rollBackAll]
  by_cases installed : (x.hooks.get feature).state = .installed <;> simp [listed, installed]

/-- A roll-back lists the hook of a feature and leaves it rolled back exactly when the latest call for the
feature since the roll-back before it came through. That some call came through is not enough. -/
theorem rollBackAll_finds_iff (reached : Reached plugins since x) (feature : String) :
    (feature ∈ (rollBackAll x).1 ∧ ((rollBackAll x).2.hook feature).state = .rolledBack) ↔
      (verdicts feature since).getLast? = some true := by
  have sound := reached.sound
  have listed : feature ∈ (rollBackAll x).1 ↔ (verdicts feature since).getLast? = some true :=
    Hooks.mem_installed.trans (sound.installed_iff feature)
  constructor
  · rintro ⟨found, -⟩
    exact listed.1 found
  · intro last
    have found := listed.2 last
    refine ⟨found, ?_⟩
    rw [hook, asciiLower_of_mem_verdicts (List.mem_of_getLast? last), state_after_rollBackAll, if_pos found]

/-- A request to set the unit cap in an attached process. -/
def capRequest (cap : Int) : OperationRequest :=
  { OperationRequest.bare "set_unit_cap" "drill" with
    payload := .ofList [("intValue", .int cap)]
    isMutation := true
    context := .ofList [(ContextKey.processId, .int 4242)] }

/-- An extender whose unit cap was patched, and after that denied a cap of zero. -/
def patched : Extender := (execute (capRequest 250) (.load Plugin.shipped)).2

theorem rollBackAll_finds_patched :
    Reached Plugin.shipped [(capRequest 250, (execute (capRequest 250) (.load Plugin.shipped)).1)] patched ∧
      "set_unit_cap" ∈ (rollBackAll patched).1 ∧
      ((rollBackAll patched).2.hook "set_unit_cap").state = .rolledBack :=
  have reached : Reached Plugin.shipped _ patched := .execute (capRequest 250) .load
  ⟨reached, (rollBackAll_finds_iff reached "set_unit_cap").2 (by decide)⟩

/-- The patch of the unit cap came through, a later cap was denied before anything was touched, and the
roll-back no longer knows of the patch. -/
theorem rollBackAll_forgets_denied :
    ∃ since x, Reached Plugin.shipped since x ∧ verdicts "set_unit_cap" since = [true, false] ∧
      (rollBackAll x).1 = [] ∧ ((rollBackAll x).2.hook "set_unit_cap").state = .failed :=
  ⟨_, _, .execute (capRequest 0) (.execute (capRequest 250) .load), by decide, by decide, by decide⟩

end Extender
end LiveControl
