import Mathlib.Logic.Relation
import LiveControl.Compatibility
import LiveControl.Proofs.StandardVerdict

namespace LiveControl

/-- The health that a symbol falls to when it gets worse by one grade. -/
inductive SymbolHealth.Falls : SymbolHealth → SymbolHealth → Prop
  | degrades : Falls .healthy .degraded
  | fails : Falls .degraded .unresolved

/-- What a profile is rated on while a session is attached. -/
structure Scene where
  profile : Profile
  session : Session
  catalog : Option EntityCatalog

namespace Scene

def withSymbols (c : Scene) (symbols : Table Symbol) : Scene :=
  { c with session := { c.session with symbols := symbols } }

def situation (policy : Policy) (c : Scene) (a : ActionSpec) : Situation :=
  (Evaluator.standard policy).situation c.profile c.session c.catalog a

def verdict (policy : Policy) (c : Scene) (a : ActionSpec) : Rating :=
  (Evaluator.standard policy).rate (c.situation policy a)

/-- The report on the profile of a scene. Its session may have been detached meanwhile. -/
def report (policy : Policy) (c : Scene) (attachment : Attachment) (status : Option DependencyStatus) :
    CompatibilityReport :=
  .build (.standard policy) c.profile attachment status c.catalog

end Scene

/-- One thing that goes wrong. The lists of disabled actions and of critical symbols are texts; they may be
rewritten in any way that keeps their entries. -/
inductive Setback (policy : Policy) : Scene → Scene → Prop
  | health {c : Scene} {name : String} {symbol : Symbol} {worse : SymbolHealth}
      (reported : c.session.symbol? name = some symbol) (falls : symbol.health.Falls worse) :
      Setback policy c (c.withSymbols (c.session.symbols.insert name { symbol with health := worse }))
  | address {c : Scene} {name : String} {symbol : Symbol} (reported : c.session.symbol? name = some symbol) :
      Setback policy c (c.withSymbols (c.session.symbols.insert name { symbol with address := 0 }))
  | source {c : Scene} {name : String} {symbol : Symbol} (reported : c.session.symbol? name = some symbol) :
      Setback policy c (c.withSymbols (c.session.symbols.insert name { symbol with source := .fallback }))
  | removal {c : Scene} (name : String) : Setback policy c (c.withSymbols (c.session.symbols.erase name))
  | mode {c : Scene} : Setback policy c { c with session := { c.session with mode := .unknown } }
  | disabled {c : Scene} {text : String}
      (keeps : ∀ id ∈ c.session.disabledActions policy, id ∈ NameSet.ofCommaText text) :
      Setback policy c { c with session := c.session.addMetadata policy.disabledKey text }
  | critical {c : Scene} {text : String}
      (keeps : ∀ name ∈ c.profile.criticalSymbols policy, name ∈ NameSet.ofCommaText text) :
      Setback policy c { c with profile := c.profile.addMetadata policy.criticalKey text }
  | flag {c : Scene} (flag : String) : Setback policy c { c with profile := c.profile.addFlag flag false }
  | catalog {c : Scene} : Setback policy c { c with catalog := none }
  | category {c : Scene} {catalog : EntityCatalog} (present : c.catalog = some catalog) (name : String) :
      Setback policy c { c with catalog := some ⟨catalog.categories.insert name []⟩ }

/-- The second symbol is in no respect better than the first. -/
structure Symbol.Declines (first second : Symbol) : Prop where
  healthy : second.health = .healthy → first.health = .healthy
  unresolved : first.health = .unresolved → second.health = .unresolved
  nowhere : first.address = 0 → second.address = 0
  guessed : first.source = .fallback → second.source = .fallback

/-- The second scene is in no respect better than the first. -/
structure Scene.Worsens (policy : Policy) (first second : Scene) : Prop where
  actions : second.profile.actions = first.profile.actions
  flags : ∀ flag, second.profile.flagEnabled flag = true → first.profile.flagEnabled flag = true
  critical : ∀ name ∈ first.profile.criticalSymbols policy, name ∈ second.profile.criticalSymbols policy
  mode : second.session.mode = first.session.mode ∨ second.session.mode = .unknown
  symbols : ∀ {name later}, second.session.symbol? name = some later →
    ∃ symbol, first.session.symbol? name = some symbol ∧ symbol.Declines later
  disabled : ∀ id ∈ first.session.disabledActions policy, id ∈ second.session.disabledActions policy
  entries : second.catalog.any EntityCatalog.hasEntries = true → first.catalog.any EntityCatalog.hasEntries = true

namespace Symbol.Declines

variable {a b c : Symbol}

theorem refl (a : Symbol) : a.Declines a := ⟨id, id, id, id⟩

theorem trans (first : a.Declines b) (second : b.Declines c) : a.Declines c where
  healthy := first.healthy ∘ second.healthy
  unresolved := second.unresolved ∘ first.unresolved
  nowhere := second.nowhere ∘ first.nowhere
  guessed := second.guessed ∘ first.guessed

theorem of_falls {worse : SymbolHealth} (falls : a.health.Falls worse) :
    a.Declines { a with health := worse } := by
  generalize was : a.health = health at falls
  cases falls <;> exact ⟨by simp [was], by simp [was], id, id⟩

end Symbol.Declines

namespace Scene.Worsens

variable {policy : Policy} {a b c : Scene}

theorem refl (policy : Policy) (c : Scene) : Worsens policy c c :=
  ⟨rfl, fun _ => id, fun _ => id, .inl rfl, fun reported => ⟨_, reported, .refl _⟩, fun _ => id, id⟩

theorem trans (first : Worsens policy a b) (second : Worsens policy b c) : Worsens policy a c where
  actions := second.actions.trans first.actions
  flags flag := first.flags flag ∘ second.flags flag
  critical name := second.critical name ∘ first.critical name
  mode := by
    cases second.mode with
    | inl same => rw [same]; exact first.mode
    | inr undetected => exact .inr undetected
  symbols reported := by
    obtain ⟨between, reported, later⟩ := second.symbols reported
    obtain ⟨symbol, reported, earlier⟩ := first.symbols reported
    exact ⟨symbol, reported, earlier.trans later⟩
  disabled id := second.disabled id ∘ first.disabled id
  entries := first.entries ∘ second.entries

/-- A change of symbols leaves everything else as it was. -/
theorem of_symbols {symbols : Table Symbol}
    (declines : ∀ {name later}, symbols.get? name = some later →
      ∃ symbol, c.session.symbol? name = some symbol ∧ symbol.Declines later) :
    Worsens policy c (c.withSymbols symbols) :=
  { refl policy c with symbols := declines }

theorem of_symbol {name : String} {symbol later : Symbol} (reported : c.session.symbol? name = some symbol)
    (declines : symbol.Declines later) :
    Worsens policy c (c.withSymbols (c.session.symbols.insert name later)) := by
  refine of_symbols fun {other found} held => ?_
  rw [Table.get?_insert] at held
  split at held
  · rename_i same
    cases held
    exact ⟨symbol, same ▸ reported, declines⟩
  · exact ⟨found, held, .refl _⟩

theorem of_removal (name : String) : Worsens policy c (c.withSymbols (c.session.symbols.erase name)) := by
  refine of_symbols fun {other found} held => ?_
  rw [Table.get?_erase] at held
  split at held
  · cases held
  · exact ⟨found, held, .refl _⟩

/-- Writing one flag as off puts no flag on. -/
theorem of_flag (flag : String) : Worsens policy c { c with profile := c.profile.addFlag flag false } := by
  refine { refl policy c with flags := fun other enabled => ?_ }
  rw [Profile.flagEnabled, Profile.addFlag, Table.get?_insert] at enabled
  split at enabled
  · cases enabled
  · exact enabled

theorem of_category {catalog : EntityCatalog} (present : c.catalog = some catalog) (name : String) :
    Worsens policy c { c with catalog := some ⟨catalog.categories.insert name []⟩ } := by
  refine { refl policy c with entries := fun filled => ?_ }
  obtain ⟨_, held, names, listed, nonempty⟩ := EntityCatalog.any_hasEntries_iff.1 filled
  cases held
  obtain ⟨key, found⟩ := Table.mem_values.1 listed
  rw [Table.get?_insert] at found
  split at found
  · cases found
    exact absurd rfl nonempty
  · have listed : names ∈ catalog.categories.values := Table.mem_values.2 ⟨key, found⟩
    exact EntityCatalog.any_hasEntries_iff.2 ⟨catalog, present, names, listed, nonempty⟩

end Scene.Worsens

/-- A setback leaves nothing better than it was. -/
theorem Setback.worsens {policy : Policy} {before after : Scene} (setback : Setback policy before after) :
    before.Worsens policy after := by
  cases setback with
  | health reported falls => exact .of_symbol reported (.of_falls falls)
  | address reported => exact .of_symbol reported { Symbol.Declines.refl _ with nowhere := fun _ => rfl }
  | source reported =>
    exact .of_symbol reported { Symbol.Declines.refl _ with guessed := fun _ => rfl }
  | removal name => exact .of_removal name
  | mode => exact { Scene.Worsens.refl policy _ with mode := .inr rfl }
  | disabled keeps =>
    refine { Scene.Worsens.refl policy _ with disabled := fun id listed => ?_ }
    simpa [Session.disabledActions, Session.addMetadata, NameSet.ofCommaText?] using keeps id listed
  | critical keeps =>
    refine { Scene.Worsens.refl policy _ with critical := fun name listed => ?_ }
    simpa [Profile.criticalSymbols, Profile.addMetadata, NameSet.ofCommaText?] using keeps name listed
  | flag flag => exact .of_flag flag
  | catalog => exact { Scene.Worsens.refl policy _ with entries := nofun }
  | category present name => exact .of_category present name

theorem Scene.Worsens.of_setbacks {policy : Policy} {before after : Scene}
    (setbacks : Relation.ReflTransGen (Setback policy) before after) : before.Worsens policy after := by
  induction setbacks with
  | refl => exact .refl policy before
  | tail _ last ih => exact ih.trans last.worsens

namespace Scene.Worsens

variable {policy : Policy} {first second : Scene} {a : ActionSpec}

theorem forbidden (worsens : first.Worsens policy second) (forbidden : (first.situation policy a).Forbidden) :
    (second.situation policy a).Forbidden := by
  cases forbidden with
  | disabled listed => exact .disabled (worsens.disabled _ listed)
  | strict listed undetected =>
    refine .strict listed ?_
    cases worsens.mode with
    | inl same => exact same.trans undetected
    | inr lost => exact lost
  | mode enforced differs =>
    refine .mode enforced ?_
    cases worsens.mode with
    | inl same => exact same ▸ differs
    | inr lost =>
      rw [show (second.situation policy a).session.mode = .unknown from lost]
      exact ActionSpec.ne_unknown_of_enforcedMode enforced

/-- A symbol that an action must not work through stays so, if it is reported at all. -/
theorem unfit {name : String} (worsens : first.Worsens policy second)
    (unfit : (first.situation policy a).Unfit name) : (second.situation policy a).Unfit name := by
  cases reported : second.session.symbol? name with
  | none => exact .missing reported
  | some later =>
    obtain ⟨symbol, was, declines⟩ := worsens.symbols reported
    have same {other : Symbol} (held : first.session.symbol? name = some other) : other = symbol :=
      Option.some.inj (held.symm.trans was)
    cases unfit with
    | missing unreported => exact absurd (unreported.symm.trans was) nofun
    | unaddressed held nowhere => exact .unaddressed reported (declines.nowhere (same held ▸ nowhere))
    | unresolved held health => exact .unresolved reported (declines.unresolved (same held ▸ health))
    | critical held critical unhealthy =>
      exact .critical reported (worsens.critical name critical)
        fun healthy => unhealthy (same held ▸ declines.healthy healthy)

theorem refused (worsens : first.Worsens policy second) (refused : (first.situation policy a).Refused) :
    (second.situation policy a).Refused := by
  cases refused with
  | flagOff fallback off =>
    refine .flagOff fallback ?_
    rw [← Bool.not_eq_true] at off ⊢
    exact fun enabled => off (worsens.flags _ enabled)
  | forbidden plain forbidden => exact .forbidden plain (worsens.forbidden forbidden)
  | unfit plain through unfit =>
    exact .unfit plain ⟨through.direct, through.needed, through.bound⟩ (worsens.unfit unfit)

theorem trusted (worsens : first.Worsens policy second) (trusted : (second.situation policy a).Trusted) :
    (first.situation policy a).Trusted := by
  cases trusted with
  | helper helper present listed filled =>
    obtain ⟨_, present, _, listed, filled⟩ := EntityCatalog.any_hasEntries_iff.1
      (worsens.entries (EntityCatalog.any_hasEntries_iff.2 ⟨_, present, _, listed, filled⟩))
    exact .helper helper present listed filled
  | symbolFree direct free => exact .symbolFree direct free
  | symbol direct bound reported healthy located =>
    obtain ⟨symbol, was, declines⟩ := worsens.symbols reported
    exact .symbol direct bound was (declines.healthy healthy) fun guessed => located (declines.guessed guessed)

theorem unavailable (worsens : first.Worsens policy second)
    (refused : (first.verdict policy a).state = .unavailable) : (second.verdict policy a).state = .unavailable :=
  (Situation.settled_rate policy _).unavailable_iff.2
    (worsens.refused ((Situation.settled_rate policy _).unavailable_iff.1 refused))

theorem stable (worsens : first.Worsens policy second)
    (stable : (second.verdict policy a).state = .stable) : (first.verdict policy a).state = .stable := by
  obtain ⟨passed, plain, trusted⟩ := (Situation.settled_rate policy _).stable_iff.1 stable
  exact (Situation.settled_rate policy _).stable_iff.2
    ⟨fun refused => passed (worsens.refused refused), plain, worsens.trusted trusted⟩

end Scene.Worsens

/-- States compare by their ends: what was refused stays refused, what is stable was stable. -/
theorem ReliabilityState.rank_le {first second : ReliabilityState}
    (refused : first = .unavailable → second = .unavailable) (stable : second = .stable → first = .stable) :
    first.rank ≤ second.rank := by
  cases first <;> cases second <;> first | decide | simp at refused stable

namespace CompatibilityReport

variable {status : Option DependencyStatus}

theorem ready_iff {missing : Nat} {rated : List Rating} : ready status missing rated = true ↔
    status ≠ some .hardFail ∧ missing = 0 ∧ ∀ r ∈ rated, r.state ≠ .unavailable := by
  simp [ready, and_assoc]

theorem size_unresolved_attached {session : Session} {critical : NameSet} :
    (unresolved (.attached session) critical).size = 0 ↔
      ∀ name ∈ critical, ∃ symbol, session.symbol? name = some symbol ∧ symbol.health ≠ .unresolved := by
  rw [NameSet.size_eq_zero_iff]
  refine forall_congr' fun name => ?_
  rw [unresolved, NameSet.mem_filter, not_and]
  refine imp_congr_right fun _ => ?_
  cases session.symbol? name <;> simp

theorem size_unresolved_detached {critical : NameSet} :
    (unresolved .detached critical).size = 0 ↔ ∀ name, name ∉ critical :=
  NameSet.size_eq_zero_iff

end CompatibilityReport

namespace Scene

variable {policy : Policy} {c first second : Scene} {status : Option DependencyStatus}

/-- What promotion takes: no hard failure, every critical symbol reported as resolved, no action refused. -/
theorem ready_attached_iff : (c.report policy (.attached c.session) status).promotionReady = true ↔
    status ≠ some .hardFail ∧
    (∀ name ∈ c.profile.criticalSymbols policy,
      ∃ symbol, c.session.symbol? name = some symbol ∧ symbol.health ≠ .unresolved) ∧
    ∀ a ∈ c.profile.actions.values, (c.verdict policy a).state ≠ .unavailable := by
  refine CompatibilityReport.ready_iff.trans ?_
  rw [CompatibilityReport.size_unresolved_attached]
  simp only [CompatibilityReport.ratings, Evaluator.ratings, List.forall_mem_map, mem_listed]
  exact Iff.rfl

/-- Without a session everything critical is unresolved and every action refused. -/
theorem ready_detached_iff : (c.report policy .detached status).promotionReady = true ↔
    status ≠ some .hardFail ∧ (∀ name, name ∉ c.profile.criticalSymbols policy) ∧
    c.profile.actions.values = [] := by
  refine CompatibilityReport.ready_iff.trans ?_
  rw [CompatibilityReport.size_unresolved_detached]
  refine and_congr_right fun _ => and_congr_right fun _ => ?_
  simp only [CompatibilityReport.ratings, CompatibilityReport.unattached, Table.keys, Table.values, mem_listed,
    List.map_map, List.forall_mem_map, Function.comp_apply, ne_eq, not_true, List.map_eq_nil_iff]
  exact List.eq_nil_iff_forall_not_mem.symm

/-- A profile that is ready after things went wrong was ready before. -/
theorem Worsens.ready_attached (worsens : first.Worsens policy second)
    (ready : (second.report policy (.attached second.session) status).promotionReady = true) :
    (first.report policy (.attached first.session) status).promotionReady = true := by
  obtain ⟨soft, resolved, usable⟩ := ready_attached_iff.1 ready
  refine ready_attached_iff.2 ⟨soft, fun name critical => ?_, fun a listed refused => ?_⟩
  · obtain ⟨later, reported, health⟩ := resolved name (worsens.critical name critical)
    obtain ⟨symbol, was, declines⟩ := worsens.symbols reported
    exact ⟨symbol, was, fun unresolved => health (declines.unresolved unresolved)⟩
  · exact usable a (worsens.actions ▸ listed) (worsens.unavailable refused)

theorem Worsens.ready_detached (worsens : first.Worsens policy second)
    (ready : (second.report policy .detached status).promotionReady = true) :
    (first.report policy (.attached first.session) status).promotionReady = true := by
  obtain ⟨soft, none, idle⟩ := ready_detached_iff.1 ready
  refine ready_attached_iff.2 ⟨soft, fun name critical => ?_, fun a listed => ?_⟩
  · exact absurd (worsens.critical name critical) (none name)
  · rw [← worsens.actions, idle] at listed
    cases listed

end Scene

/-- Whatever goes wrong, however often and in whatever order, no action gets a better verdict, and no profile
becomes ready for promotion, be it that the dependencies fail hard or the session is lost on top. -/
theorem Scene.rank_verdict_le {policy : Policy} {before after : Scene}
    (setbacks : Relation.ReflTransGen (Setback policy) before after) :
    (∀ a, (before.verdict policy a).state.rank ≤ (after.verdict policy a).state.rank) ∧
    ∀ status status' attachment, status' = status ∨ status' = some .hardFail →
      attachment = .attached after.session ∨ attachment = .detached →
      (after.report policy attachment status').promotionReady = true →
      (before.report policy (.attached before.session) status).promotionReady = true := by
  have worsens : before.Worsens policy after := .of_setbacks setbacks
  refine ⟨fun a => ReliabilityState.rank_le worsens.unavailable worsens.stable, ?_⟩
  intro status status' attachment kept place ready
  -- A report that is ready rules out the hard failure, so the status is the one from before.
  have soft : status' ≠ some .hardFail := (CompatibilityReport.ready_iff.1 ready).1
  obtain rfl : status' = status := kept.resolve_right soft
  rcases place with rfl | rfl
  · exact worsens.ready_attached ready
  · exact worsens.ready_detached ready

namespace Scene

/-- A galactic session in which credits can be set. -/
def credits : Scene where
  profile := ((Profile.bare "drill").addAction setCredits).addFlag "allow_build_patch_fallback" true
  session := (Session.bare 7 .galactic).addSymbol (.healthySignature "credits" 4096 .int)
  catalog := none
where
  setCredits : ActionSpec :=
    { ActionSpec.plain "set_credits" .memory with requiredMode := some .galactic, requiredFields := ["symbol"] }

/-- The same session when the credits have degraded, their action is disabled and the mode is lost. -/
def creditsLost : Scene :=
  let degraded := credits.withSymbols (credits.session.symbols.insert "credits"
    { Symbol.healthySignature "credits" 4096 .int with health := .degraded })
  let disabled := { degraded with
    session := degraded.session.addMetadata Policy.standard.disabledKey "set_credits, freeze_timer" }
  { disabled with session := { disabled.session with mode := .unknown } }

theorem rank_verdict_le_credits :
    Relation.ReflTransGen (Setback .standard) credits creditsLost ∧
    (credits.verdict .standard credits.setCredits).state = .stable ∧
    (creditsLost.verdict .standard credits.setCredits).state = .unavailable ∧
    (credits.verdict .standard credits.setCredits).state.rank ≤
      (creditsLost.verdict .standard credits.setCredits).state.rank ∧
    ((creditsLost.report .standard .detached (some .hardFail)).promotionReady = true →
      (credits.report .standard (.attached credits.session) none).promotionReady = true) := by
  have setbacks : Relation.ReflTransGen (Setback .standard) credits creditsLost :=
    ((Relation.ReflTransGen.single (.health rfl .degrades)).tail
      (.disabled (by decide))).tail .mode
  obtain ⟨ranks, ready⟩ := rank_verdict_le setbacks
  exact ⟨setbacks, by decide, by decide, ranks _, ready _ _ _ (.inr rfl) (.inr rfl)⟩

end Scene
end LiveControl
