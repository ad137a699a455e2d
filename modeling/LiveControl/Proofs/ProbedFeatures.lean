import LiveControl.Proofs.HookHistory

namespace LiveControl.Extender

/-- The extender with these plugins, after the calls of its owner. -/
def after (plugins : List Plugin) (calls : List Call) : Extender := runAll carryOut calls (.load plugins)

/-- The call marks the feature as available, in whatever case. -/
def Marks (feature : String) (c : Call) : Prop :=
  ∃ marked reason, c = .mark marked reason ∧ Text.asciiLower marked = Text.asciiLower feature

variable {plugins : List Plugin} {calls : List Call} {r : OperationRequest} {feature : String}

theorem probe_execute (r : OperationRequest) (x : Extender) : (execute r x).2.probe = x.probe := by
  cases called : x.call? r with
  | none => rw [(execute_of_no_call called).2]
  | some call => rw [execute_of_call called]

theorem not_marks {c : Call} (other : ∀ marked reason, c ≠ .mark marked reason) : ¬Marks feature c :=
  fun ⟨marked, reason, same, _⟩ => other marked reason same

theorem marks_mark {marked : String} {reason : ExtensionReason} :
    Marks feature (.mark marked reason) ↔ Text.asciiLower feature = Text.asciiLower marked := by
  constructor
  · rintro ⟨_, _, ⟨⟩, same⟩
    exact same.symm
  · exact fun same => ⟨marked, reason, rfl, same.symm⟩

/-- A call adds to the probe what it marks, and takes nothing away. -/
theorem isAvailable_carryOut (c : Call) (x : Extender) : (carryOut c x).probe.isAvailable feature = true ↔
    Marks feature c ∨ x.probe.isAvailable feature = true := by
  cases c with
  | execute r =>
    have unmarked : ¬Marks feature (.execute r) := not_marks fun _ _ => nofun
    rw [carryOut, probe_execute, or_iff_right unmarked]
  | rollBackAll =>
    have unmarked : ¬Marks feature .rollBackAll := not_marks fun _ _ => nofun
    rw [or_iff_right unmarked]
    rfl
  | mark marked reason => rw [marks_mark, carryOut, Probe.isAvailable_mark, Bool.or_eq_true, beq_iff_eq]

theorem plugins_runAll (x : Extender) : (runAll carryOut calls x).plugins = x.plugins := by
  induction calls generalizing x with
  | nil => rfl
  | cons c rest ih => exact (ih _).trans (plugins_carryOut c x)

theorem isAvailable_runAll (x : Extender) : (runAll carryOut calls x).probe.isAvailable feature = true ↔
    (∃ c ∈ calls, Marks feature c) ∨ x.probe.isAvailable feature = true := by
  induction calls generalizing x with
  | nil => simp [runAll]
  | cons c rest ih =>
    rw [runAll, ih, isAvailable_carryOut]
    simp only [List.mem_cons, exists_eq_or_imp]
    exact or_left_comm.trans or_assoc.symm

/-- At any time the probe knows the features that were advertised at first and those that were marked since. -/
theorem isAvailable_after : (after plugins calls).probe.isAvailable feature = true ↔
    (∃ c ∈ calls, Marks feature c) ∨
      ∃ plugin ∈ plugins, ∃ served ∈ plugin.features, Text.asciiLower served = Text.asciiLower feature :=
  (isAvailable_runAll _).trans (or_congr_right Probe.isAvailable_ofPlugins)

theorem isAvailable_of_pluginFor {plugin : Plugin} (found : (after plugins calls).pluginFor feature = some plugin) :
    (after plugins calls).probe.isAvailable feature = true := by
  obtain ⟨member, served⟩ := mem_of_pluginFor found
  have fixed : (after plugins calls).plugins = plugins := plugins_runAll _
  exact isAvailable_after.2 (.inr ⟨plugin, fixed ▸ member, feature, served, rfl⟩)

/-- A plugin that serves an operation is run, and its outcome is the answer. -/
theorem execute_of_pluginFor {plugin : Plugin}
    (found : (after plugins calls).pluginFor (featureOf r.operation) = some plugin) :
    (execute r (after plugins calls)).1 =
      resultOf plugin (featureOf r.operation) (plugin.execute (.ofOperation (featureOf r.operation) r)) := by
  have called : (after plugins calls).call? r = some (plugin, .ofOperation (featureOf r.operation) r) :=
    call_eq_some_iff.2 ⟨found, isAvailable_of_pluginFor found, rfl⟩
  rw [execute_of_call called]
  rfl

theorem state_resultOf (plugin : Plugin) (feature : String) (outcome : PluginOutcome) :
    (resultOf plugin feature outcome).state ≠ .unknown := by
  unfold resultOf
  cases outcome.succeeded <;> simp

/-- The refusal for want of a probe is the only answer of an unknown state, and it is never given. -/
theorem state_execute_after (r : OperationRequest) : (execute r (after plugins calls)).1.state ≠ .unknown := by
  cases found : (after plugins calls).pluginFor (featureOf r.operation) with
  | none =>
    have unserved : (execute r (after plugins calls)).1.state = .unavailable := by
      simp only [execute, found]
      rfl
    rw [unserved]
    decide
  | some plugin =>
    rw [execute_of_pluginFor found]
    exact state_resultOf _ _ _

theorem isAvailable_after_of_unmarked (unmarked : ∀ feature reason, .mark feature reason ∉ calls) :
    (after plugins calls).probe.isAvailable feature = true ↔
      ∃ plugin ∈ plugins, ∃ served ∈ plugin.features, Text.asciiLower served = Text.asciiLower feature := by
  have none : ¬∃ c ∈ calls, Marks feature c := fun ⟨c, member, marks⟩ =>
    not_marks (fun marked reason same => unmarked marked reason (same ▸ member)) marks
  rw [isAvailable_after, or_iff_right none]

/-- At any time every operation that some plugin serves has been probed: the plugin runs, and the state of the
answer is never unknown, as it is in the refusal for want of a probe. While nothing else was marked, and where
plugins advertise their features in lowercase, the probe knows a feature in any case exactly if some plugin
serves it in lowercase. -/
theorem served_probed (plugins : List Plugin) (calls : List Call) :
    (∀ r plugin, (after plugins calls).pluginFor (featureOf r.operation) = some plugin →
      (after plugins calls).probe.isAvailable (featureOf r.operation) = true ∧
      (execute r (after plugins calls)).1 =
        resultOf plugin (featureOf r.operation) (plugin.execute (.ofOperation (featureOf r.operation) r))) ∧
    (∀ r, (execute r (after plugins calls)).1.state ≠ .unknown) ∧
    ((∀ plugin ∈ plugins, ∀ feature ∈ plugin.features, Text.asciiLower feature = feature) →
      (∀ feature reason, .mark feature reason ∉ calls) →
      ∀ feature, (after plugins calls).probe.isAvailable feature = true ↔
        ∃ plugin ∈ plugins, Text.asciiLower feature ∈ plugin.features) := by
  refine ⟨fun r plugin found => ⟨isAvailable_of_pluginFor found, execute_of_pluginFor found⟩, state_execute_after, ?_⟩
  intro small unmarked feature
  rw [isAvailable_after_of_unmarked unmarked]
  constructor
  · rintro ⟨plugin, member, served, listed, same⟩
    rw [small plugin member served listed] at same
    exact ⟨plugin, member, same ▸ listed⟩
  · rintro ⟨plugin, member, listed⟩
    exact ⟨plugin, member, _, listed, Text.asciiLower_asciiLower feature⟩

/-- Plugins of which two serve the same features. -/
def overlapping : List Plugin := Plugin.globalToggle :: Plugin.shipped

theorem served_probed_overlapping :
    (after overlapping capCalls).probe.isAvailable "set_unit_cap" = true ∧
      (execute (capRequest 0) (after overlapping capCalls)).1.state ≠ .unknown ∧
      (after overlapping capCalls).probe.isAvailable "Toggle_FOG" = true ∧
      (after overlapping capCalls).probe.isAvailable "spawn" ≠ true := by
  obtain ⟨served, known, probed⟩ := served_probed overlapping capCalls
  have found : (after overlapping capCalls).pluginFor (featureOf (capRequest 0).operation) = some Plugin.buildPatch := rfl
  have exactly := probed (by decide) (by simp [capCalls])
  exact ⟨(served (capRequest 0) _ found).1, known _, (exactly _).2 (by decide), mt (exactly _).1 (by decide)⟩

/-- A feature that is advertised in capitals is probed, and yet not served. -/
example : (load [{ Plugin.economy with features := ["Set_Credits"] }]).probe.isAvailable "set_credits" = true ∧
    ((load [{ Plugin.economy with features := ["Set_Credits"] }]).pluginFor "set_credits").isNone := by
  decide

end LiveControl.Extender
