import LiveControl.Reliability.Evaluation

namespace LiveControl

/-- An enforced mode is a known one. -/
theorem ActionSpec.ne_unknown_of_enforcedMode {a : ActionSpec} {required : Mode}
    (enforced : a.enforcedMode = some required) : required ≠ .unknown := by
  rintro rfl
  simp [enforcedMode, Mode.isKnown] at enforced

theorem ActionSpec.requiresSymbol_iff {a : ActionSpec} : a.requiresSymbol = true ↔ "symbol" ∈ a.requiredFields :=
  List.contains_iff_mem

theorem EntityCatalog.any_hasEntries_iff {catalog? : Option EntityCatalog} :
    catalog?.any hasEntries = true ↔
      ∃ catalog, catalog? = some catalog ∧ ∃ names ∈ catalog.categories.values, names ≠ [] := by
  simp [Option.any_eq_true, hasEntries]

namespace Situation

variable (s : Situation)

/-- The action is no fallback. -/
def Plain : Prop := s.policy.fallbackFlag s.action.id = none

/-- What forbids an action, whatever it works through. -/
inductive Forbidden : Prop
  | disabled (listed : s.action.id ∈ s.disabled)
  | strict (listed : s.action.id ∈ s.policy.strict) (undetected : s.session.mode = .unknown)
  | mode {required : Mode} (enforced : s.action.enforcedMode = some required)
      (differs : required ≠ s.session.mode)

/-- Why an action must not work through the symbol of that name. -/
inductive Unfit (name : String) : Prop
  | missing (unreported : s.session.symbol? name = none)
  | unaddressed {symbol : Symbol} (reported : s.session.symbol? name = some symbol)
      (nowhere : symbol.address = 0)
  | unresolved {symbol : Symbol} (reported : s.session.symbol? name = some symbol)
      (health : symbol.health = .unresolved)
  | critical {symbol : Symbol} (reported : s.session.symbol? name = some symbol) (critical : name ∈ s.critical)
      (unhealthy : symbol.health ≠ .healthy)

/-- The action works through the symbol that is bound to it under that name. -/
structure WorksThrough (name : String) : Prop where
  direct : s.action.kind ≠ .helper
  needed : "symbol" ∈ s.action.requiredFields
  bound : s.policy.symbolFor s.action.id = some name

/-- Why an action is refused. -/
inductive Refused : Prop
  | flagOff {flag : String} (fallback : s.policy.fallbackFlag s.action.id = some flag)
      (off : s.profile.flagEnabled flag = false)
  | forbidden (plain : s.Plain) (forbidden : s.Forbidden)
  | unfit {name : String} (plain : s.Plain) (through : s.WorksThrough name) (unfit : s.Unfit name)

/-- What makes an action trustworthy, if it is not refused. -/
inductive Trusted : Prop
  | helper {catalog : EntityCatalog} {names : List String} (helper : s.action.kind = .helper)
      (present : s.catalog = some catalog) (listed : names ∈ catalog.categories.values) (filled : names ≠ [])
  | symbolFree (direct : s.action.kind ≠ .helper) (free : "symbol" ∉ s.action.requiredFields)
  | symbol {name : String} {symbol : Symbol} (direct : s.action.kind ≠ .helper)
      (bound : s.policy.symbolFor s.action.id = some name) (reported : s.session.symbol? name = some symbol)
      (healthy : symbol.health = .healthy) (located : symbol.source ≠ .fallback)

/-- A verdict with its grounds. -/
inductive Settled : ReliabilityState → Prop
  | refused (refused : s.Refused) : Settled .unavailable
  | trusted (passed : ¬s.Refused) (plain : s.Plain) (trusted : s.Trusted) : Settled .stable
  | doubtful (passed : ¬s.Refused) (doubt : s.Plain → ¬s.Trusted) : Settled .experimental

variable {s}

theorem Settled.unavailable_iff {state : ReliabilityState} (settled : s.Settled state) :
    state = .unavailable ↔ s.Refused := by
  cases settled with
  | refused refused => simp [refused]
  | trusted passed | doubtful passed => simp [passed]

theorem Settled.stable_iff {state : ReliabilityState} (settled : s.Settled state) :
    state = .stable ↔ ¬s.Refused ∧ s.Plain ∧ s.Trusted := by
  cases settled with
  | refused refused => simp [refused]
  | trusted passed plain trusted => simp [passed, plain, trusted]
  | doubtful passed doubt => simpa using fun _ => doubt

theorem Settled.experimental_iff {state : ReliabilityState} (settled : s.Settled state) :
    state = .experimental ↔ ¬s.Refused ∧ (s.Plain → ¬s.Trusted) := by
  cases settled with
  | refused refused => simp [refused]
  | trusted passed plain trusted => simp [passed, plain, trusted]
  | doubtful passed doubt => simpa [passed] using doubt

/-- A fallback that is allowed is not refused, whatever else holds. -/
theorem not_refused_of_fallback {flag : String} (fallback : s.policy.fallbackFlag s.action.id = some flag)
    (enabled : s.profile.flagEnabled flag = true) : ¬s.Refused := by
  have marked : ¬s.Plain := fun plain => absurd (fallback.symm.trans plain) nofun
  rintro (⟨fallback', off⟩ | ⟨plain, -⟩ | ⟨plain, -⟩)
  · rw [fallback] at fallback'
    cases fallback'
    rw [enabled] at off
    cases off
  · exact marked plain
  · exact marked plain

/-- Where nothing forbids a plain action, only its symbol can have it refused. -/
theorem not_refused (plain : s.Plain) (permitted : ¬s.Forbidden)
    (fit : ∀ {name}, s.WorksThrough name → ¬s.Unfit name) : ¬s.Refused := by
  rintro (⟨fallback, -⟩ | ⟨-, forbidden⟩ | ⟨-, through, unfit⟩)
  · rw [plain] at fallback
    cases fallback
  · exact permitted forbidden
  · exact fit through unfit

theorem modeUnknown_iff : s.modeUnknown = true ↔ s.session.mode = .unknown := by
  simp [modeUnknown, Mode.isKnown]

theorem modeDiffers_iff : s.modeDiffers = true ↔
    ∃ required, s.action.enforcedMode = some required ∧ required ≠ s.session.mode := by
  simp [modeDiffers, Option.any_eq_true]

theorem modeDiffers_of_modeUnknown (declares : s.declaresMode = true) (unknown : s.modeUnknown = true) :
    s.modeDiffers = true := by
  obtain ⟨required, enforced⟩ := Option.isSome_iff_exists.1 declares
  refine modeDiffers_iff.2 ⟨required, enforced, ?_⟩
  rw [modeUnknown_iff.1 unknown]
  exact ActionSpec.ne_unknown_of_enforcedMode enforced

theorem isHelper_eq_false_iff : s.isHelper = false ↔ s.action.kind ≠ .helper := by
  rw [isHelper, beq_eq_false_iff_ne]

/-- The symbol of a situation is what the session reports under the name that is bound. -/
theorem symbol_of_bound {name : String} (bound : s.policy.symbolFor s.action.id = some name) :
    s.symbol = s.session.symbol? name := by
  rw [symbol, symbolName, bound, Option.bind_some]

end Situation

namespace Evaluator

variable {early late : List Rule} {r : Rule} {policy : Policy} {s : Situation}

theorem rate_of_head (applies : r.applies s = true) :
    (⟨r :: late, policy⟩ : Evaluator).rate s = r.verdict s := by
  simp only [rate, List.find?_cons, applies]

theorem rate_of_tail (passed : r.applies s = false) :
    (⟨r :: late, policy⟩ : Evaluator).rate s = (⟨late, policy⟩ : Evaluator).rate s := by
  simp only [rate, List.find?_cons, passed]

theorem rate_of_passed (passed : ¬∃ r ∈ early, r.applies s = true) :
    (⟨early ++ late, policy⟩ : Evaluator).rate s = (⟨late, policy⟩ : Evaluator).rate s := by
  have none : early.find? (fun r => r.applies s) = none :=
    List.find?_eq_none.2 fun r member applies => passed ⟨r, member, applies⟩
  rw [rate, rate, List.find?_append, none, Option.none_or]

/-- Among rules that all refuse it does not matter which one decides. -/
theorem state_of_refusing (refusing : ∀ r ∈ early, r.state = .unavailable)
    (applies : ∃ r ∈ early, r.applies s = true) :
    ((⟨early ++ late, policy⟩ : Evaluator).rate s).state = .unavailable := by
  obtain ⟨first, found⟩ := Option.isSome_iff_exists.1 (List.find?_isSome.2 applies)
  rw [rate, List.find?_append, found, Option.some_or]
  exact refusing first (List.mem_of_find?_eq_some found)

end Evaluator

namespace Rule

/-- The rules that forbid an action, whatever it works through. -/
def forbidding : List Rule := [dependencyDisabled, strictModeUnknown, declaredModeUnknown, declaredModeMismatch]

/-- The rules that turn an action down for its symbol. -/
def rejecting : List Rule := [symbolUnresolved, criticalSymbolUnhealthy]

theorem standard_eq : standard = fallbackDisabled :: fallbackEnabled :: (forbidding ++
    helperCatalogPresent :: helperCatalogMissing :: noSymbolRequired :: symbolMappingMissing ::
      (rejecting ++ [symbolDegradedOrFallback, symbolHealthy])) := rfl

theorem state_of_mem_forbidding : ∀ r ∈ forbidding, r.state = .unavailable := by
  simp [forbidding, dependencyDisabled, strictModeUnknown, declaredModeUnknown, declaredModeMismatch]

theorem state_of_mem_rejecting : ∀ r ∈ rejecting, r.state = .unavailable := by
  simp [rejecting, symbolUnresolved, criticalSymbolUnhealthy]

variable {s : Situation}

theorem exists_forbidding_iff : (∃ r ∈ forbidding, r.applies s = true) ↔ s.Forbidden := by
  constructor
  · simp only [forbidding, List.mem_cons, List.not_mem_nil, or_false]
    rintro ⟨_, rfl | rfl | rfl | rfl, applies⟩
    · exact .disabled (NameSet.contains_iff.1 applies)
    · obtain ⟨strict, unknown⟩ := Bool.and_eq_true_iff.1 applies
      exact .strict (NameSet.contains_iff.1 strict) (Situation.modeUnknown_iff.1 unknown)
    · obtain ⟨declares, unknown⟩ := Bool.and_eq_true_iff.1 applies
      obtain ⟨_, enforced, differs⟩ :=
        Situation.modeDiffers_iff.1 (Situation.modeDiffers_of_modeUnknown declares unknown)
      exact .mode enforced differs
    · obtain ⟨_, enforced, differs⟩ := Situation.modeDiffers_iff.1 applies
      exact .mode enforced differs
  · rintro (listed | ⟨listed, undetected⟩ | ⟨enforced, differs⟩)
    · exact ⟨dependencyDisabled, by simp [forbidding], NameSet.contains_iff.2 listed⟩
    · exact ⟨strictModeUnknown, by simp [forbidding], Bool.and_eq_true_iff.2
        ⟨NameSet.contains_iff.2 listed, Situation.modeUnknown_iff.2 undetected⟩⟩
    · exact ⟨declaredModeMismatch, by simp [forbidding], Situation.modeDiffers_iff.2 ⟨_, enforced, differs⟩⟩

theorem exists_rejecting_iff {name : String} (bound : s.policy.symbolFor s.action.id = some name) :
    (∃ r ∈ rejecting, r.applies s = true) ↔ s.Unfit name := by
  have named : s.symbolName = some name := bound
  simp only [rejecting, List.mem_cons, List.not_mem_nil, or_false, exists_eq_or_imp, exists_eq_left,
    symbolUnresolved, criticalSymbolUnhealthy, Situation.symbolUnusable, Situation.symbolCritical,
    Situation.healthIs, Situation.symbol_of_bound bound, named, Option.any_some, Bool.and_eq_true,
    NameSet.contains_iff]
  constructor
  · cases reported : s.session.symbol? name with
    | none => exact fun _ => .missing reported
    | some symbol =>
      simp only [Symbol.isUnusable, Option.any_some, Bool.or_eq_true, beq_iff_eq, Bool.not_eq_true',
        beq_eq_false_iff_ne]
      rintro ((nowhere | health) | ⟨critical, unhealthy⟩)
      · exact .unaddressed reported nowhere
      · exact .unresolved reported health
      · exact .critical reported critical unhealthy
  · rintro (unreported | ⟨reported, nowhere⟩ | ⟨reported, health⟩ | ⟨reported, critical, unhealthy⟩)
    · simp [unreported]
    · simp [reported, Symbol.isUnusable, nowhere]
    · simp [reported, Symbol.isUnusable, health]
    · simp [reported, critical, unhealthy]

/-- A symbol that is fit for use leaves no doubt if it is in good health and was not guessed at. -/
theorem passes_symbolDegradedOrFallback_iff {name : String}
    (bound : s.policy.symbolFor s.action.id = some name) (fit : ¬s.Unfit name) :
    symbolDegradedOrFallback.applies s = false ↔
      ∃ symbol, s.session.symbol? name = some symbol ∧ symbol.health = .healthy ∧
        symbol.source ≠ .fallback := by
  cases reported : s.session.symbol? name with
  | none => exact absurd (.missing reported) fit
  | some symbol =>
    have resolved : symbol.health ≠ .unresolved := fun health => fit (.unresolved reported health)
    simp only [symbolDegradedOrFallback, Situation.healthIs, Situation.sourceIs, Situation.symbol_of_bound bound,
      reported, Option.any_some, Bool.or_eq_false_iff, beq_eq_false_iff_ne, Option.some.injEq, exists_eq_left']
    refine and_congr_left fun _ => ?_
    cases health : symbol.health <;> simp [health] at resolved ⊢

/-- The reasons of the rules are their own. -/
theorem reason_ne_of_mem : ∀ r ∈ standard, r.reason s ≠ "no_rule_matched" := by
  intro r member
  simp only [standard, List.mem_cons, List.not_mem_nil, or_false] at member
  rcases member with
    rfl | rfl | rfl | rfl | rfl | rfl | rfl | rfl | rfl | rfl | rfl | rfl | rfl | rfl
  all_goals dsimp only [fallbackDisabled, fallbackEnabled, dependencyDisabled, strictModeUnknown,
    declaredModeUnknown, declaredModeMismatch, helperCatalogPresent, helperCatalogMissing, noSymbolRequired,
    symbolMappingMissing, symbolUnresolved, criticalSymbolUnhealthy, symbolDegradedOrFallback, symbolHealthy]
  all_goals first | decide | (split <;> decide)

end Rule

namespace Situation

variable {policy : Policy} {s : Situation} {late : List Rule}

/-- A fallback is at best experimental. -/
theorem settled_fallback {flag : String} (fallback : s.policy.fallbackFlag s.action.id = some flag) :
    s.Settled ((⟨.fallbackDisabled :: .fallbackEnabled :: late, policy⟩ : Evaluator).rate s).state := by
  have named : s.isFallback = true := by rw [isFallback, fallback, Option.isSome_some]
  have allowed : s.fallbackAllowed = s.profile.flagEnabled flag := by
    rw [fallbackAllowed, fallback, Option.any_some]
  have marked : ¬s.Plain := by simp [Plain, fallback]
  cases enabled : s.profile.flagEnabled flag with
  | false =>
    have applies : Rule.fallbackDisabled.applies s = true := by
      simp [Rule.fallbackDisabled, named, allowed, enabled]
    rw [Evaluator.rate_of_head applies]
    exact .refused (.flagOff fallback enabled)
  | true =>
    have passed : Rule.fallbackDisabled.applies s = false := by simp [Rule.fallbackDisabled, allowed, enabled]
    have applies : Rule.fallbackEnabled.applies s = true := named
    rw [Evaluator.rate_of_tail passed, Evaluator.rate_of_head applies]
    exact .doubtful (not_refused_of_fallback fallback enabled) fun plain => absurd plain marked

theorem settled_helper (plain : s.Plain) (permitted : ¬s.Forbidden) (helper : s.action.kind = .helper) :
    s.Settled ((⟨.helperCatalogPresent :: .helperCatalogMissing :: late, policy⟩ : Evaluator).rate s).state := by
  have passed : ¬s.Refused := not_refused plain permitted fun through => absurd helper through.direct
  have applies : Rule.helperCatalogMissing.applies s = true := by
    simp [Rule.helperCatalogMissing, isHelper, helper]
  cases entities : s.hasEntities with
  | true =>
    have first : Rule.helperCatalogPresent.applies s = true := Bool.and_eq_true_iff.2 ⟨applies, entities⟩
    rw [Evaluator.rate_of_head first]
    obtain ⟨catalog, present, names, listed, filled⟩ := EntityCatalog.any_hasEntries_iff.1 entities
    exact .trusted passed plain (.helper helper present listed filled)
  | false =>
    have absent : Rule.helperCatalogPresent.applies s = false := by simp [Rule.helperCatalogPresent, entities]
    rw [Evaluator.rate_of_tail absent, Evaluator.rate_of_head applies]
    refine .doubtful passed fun _ => ?_
    rintro (⟨-, present, listed, filled⟩ | ⟨direct, -⟩ | ⟨direct, -⟩)
    · rw [hasEntities, EntityCatalog.any_hasEntries_iff.2 ⟨_, present, _, listed, filled⟩] at entities
      cases entities
    · exact direct helper
    · exact direct helper

/-- The verdict on an action that works through a symbol is the verdict on the symbol. -/
theorem settled_symbol {name : String} (plain : s.Plain) (permitted : ¬s.Forbidden)
    (through : s.WorksThrough name) :
    s.Settled
      ((⟨Rule.rejecting ++ [.symbolDegradedOrFallback, .symbolHealthy], policy⟩ : Evaluator).rate s).state := by
  obtain ⟨direct, needed, bound⟩ := through
  by_cases unfit : s.Unfit name
  · rw [Evaluator.state_of_refusing Rule.state_of_mem_rejecting ((Rule.exists_rejecting_iff bound).2 unfit)]
    exact .refused (.unfit plain ⟨direct, needed, bound⟩ unfit)
  · have passed : ¬s.Refused := not_refused plain permitted fun through' => by
      have same := bound.symm.trans through'.bound
      cases same
      exact unfit
    rw [Evaluator.rate_of_passed fun applies => unfit ((Rule.exists_rejecting_iff bound).1 applies)]
    cases doubts : Rule.symbolDegradedOrFallback.applies s with
    | false =>
      rw [Evaluator.rate_of_tail doubts, Evaluator.rate_of_head rfl]
      obtain ⟨symbol, reported, healthy, located⟩ :=
        (Rule.passes_symbolDegradedOrFallback_iff bound unfit).1 doubts
      exact .trusted passed plain (.symbol direct bound reported healthy located)
    | true =>
      rw [Evaluator.rate_of_head doubts]
      refine .doubtful passed fun _ => ?_
      rintro (⟨helper, -⟩ | ⟨-, free⟩ | ⟨-, bound', reported, healthy, located⟩)
      · exact direct helper
      · exact free needed
      · rw [bound] at bound'
        cases bound'
        rw [(Rule.passes_symbolDegradedOrFallback_iff bound unfit).2 ⟨_, reported, healthy, located⟩] at doubts
        cases doubts

theorem settled_direct (plain : s.Plain) (permitted : ¬s.Forbidden) (direct : s.action.kind ≠ .helper) :
    s.Settled ((⟨.noSymbolRequired :: .symbolMappingMissing ::
      (Rule.rejecting ++ [.symbolDegradedOrFallback, .symbolHealthy]), policy⟩ : Evaluator).rate s).state := by
  by_cases needed : "symbol" ∈ s.action.requiredFields
  · have needs : Rule.noSymbolRequired.applies s = false := by
      simpa [Rule.noSymbolRequired, ActionSpec.requiresSymbol_iff] using needed
    rw [Evaluator.rate_of_tail needs]
    cases bound : s.policy.symbolFor s.action.id with
    | some name =>
      have mapped : Rule.symbolMappingMissing.applies s = false := by
        simp [Rule.symbolMappingMissing, symbolName, bound]
      rw [Evaluator.rate_of_tail mapped]
      exact settled_symbol plain permitted ⟨direct, needed, bound⟩
    | none =>
      have unbound : ∀ name, s.policy.symbolFor s.action.id ≠ some name := by simp [bound]
      have applies : Rule.symbolMappingMissing.applies s = true := by
        simp [Rule.symbolMappingMissing, symbolName, bound]
      rw [Evaluator.rate_of_head applies]
      refine .doubtful (not_refused plain permitted fun through => absurd through.bound (unbound _)) fun _ => ?_
      rintro (⟨helper, -⟩ | ⟨-, free⟩ | ⟨-, bound', -⟩)
      · exact direct helper
      · exact free needed
      · exact unbound _ bound'
  · have applies : Rule.noSymbolRequired.applies s = true := by
      simpa [Rule.noSymbolRequired, ActionSpec.requiresSymbol_iff, ← Bool.not_eq_true] using needed
    rw [Evaluator.rate_of_head applies]
    exact .trusted (not_refused plain permitted fun through => absurd through.needed needed) plain
      (.symbolFree direct needed)

/-- Whatever the action, the standard rules give a verdict that has its grounds. -/
theorem settled_rate (policy : Policy) (s : Situation) :
    s.Settled ((Evaluator.standard policy).rate s).state := by
  rw [Evaluator.standard, Rule.standard_eq]
  cases fallback : s.policy.fallbackFlag s.action.id with
  | some flag => exact settled_fallback fallback
  | none =>
    have unnamed : Rule.fallbackEnabled.applies s = false := by simp [Rule.fallbackEnabled, isFallback, fallback]
    have unclaimed : Rule.fallbackDisabled.applies s = false := by
      simp [Rule.fallbackDisabled, isFallback, fallback]
    rw [Evaluator.rate_of_tail unclaimed, Evaluator.rate_of_tail unnamed]
    by_cases forbidden : s.Forbidden
    · rw [Evaluator.state_of_refusing Rule.state_of_mem_forbidding (Rule.exists_forbidding_iff.2 forbidden)]
      exact .refused (.forbidden fallback forbidden)
    · rw [Evaluator.rate_of_passed fun applies => forbidden (Rule.exists_forbidding_iff.1 applies)]
      by_cases helper : s.action.kind = .helper
      · exact settled_helper fallback forbidden helper
      · have other : Rule.helperCatalogMissing.applies s = false := isHelper_eq_false_iff.2 helper
        have neither : Rule.helperCatalogPresent.applies s = false := by
          simp [Rule.helperCatalogPresent, isHelper_eq_false_iff.2 helper]
        rw [Evaluator.rate_of_tail neither, Evaluator.rate_of_tail other]
        exact settled_direct fallback forbidden helper

end Situation

namespace Evaluator

/-- No situation is left to the verdict for unclaimed actions: the last rule takes what the others leave. -/
theorem exists_rule (policy : Policy) (s : Situation) :
    ∃ r ∈ Rule.standard, (standard policy).rate s = r.verdict s := by
  have claims : Rule.standard.find? (fun r => r.applies s) |>.isSome :=
    List.find?_isSome.2 ⟨.symbolHealthy, by simp [Rule.standard], rfl⟩
  obtain ⟨r, found⟩ := Option.isSome_iff_exists.1 claims
  exact ⟨r, List.mem_of_find?_eq_some found, by rw [rate, standard, found]⟩

theorem reason_rate_ne (policy : Policy) (s : Situation) :
    ((standard policy).rate s).reason ≠ "no_rule_matched" := by
  obtain ⟨r, member, decides⟩ := exists_rule policy s
  rw [decides]
  exact Rule.reason_ne_of_mem r member

/-- What the standard rules say of an action, without their order: when it is refused, when it is stable, and
that a verdict comes from a rule. An action that works through a symbol without an address or without a
resolution is no more stable than a fallback. -/
theorem standard_verdicts (policy : Policy) (profile : Profile) (session : Session)
    (catalog : Option EntityCatalog) (a : ActionSpec) :
    let s := (standard policy).situation profile session catalog a
    let rating := (standard policy).rate s
    (rating.state = .unavailable ↔ s.Refused) ∧
    (rating.state = .stable ↔ rating.state ≠ .unavailable ∧ s.Plain ∧ s.Trusted) ∧
    (∀ name symbol, s.WorksThrough name → session.symbol? name = some symbol →
      symbol.address = 0 ∨ symbol.health = .unresolved → rating.state ≠ .stable) ∧
    (¬s.Plain → rating.state ≠ .stable) ∧
    rating.reason ≠ "no_rule_matched" := by
  intro s rating
  have settled : s.Settled rating.state := Situation.settled_rate policy s
  have refused : rating.state = .unavailable ↔ s.Refused := settled.unavailable_iff
  have stable : rating.state = .stable ↔ ¬s.Refused ∧ s.Plain ∧ s.Trusted := settled.stable_iff
  refine ⟨refused, ?_, ?_, ?_, reason_rate_ne policy s⟩
  · rw [stable, Ne, refused]
  · intro name symbol through reported unusable steady
    obtain ⟨passed, plain, -⟩ := stable.1 steady
    cases unusable with
    | inl nowhere => exact passed (.unfit plain through (.unaddressed reported nowhere))
    | inr health => exact passed (.unfit plain through (.unresolved reported health))
  · exact fun fallback steady => fallback (stable.1 steady).2.1

end Evaluator
end LiveControl
