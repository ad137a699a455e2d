import Mathlib.Logic.Relation
import LiveControl.Proofs.Listing
import LiveControl.Proofs.VerdictSetbacks

namespace LiveControl

namespace Situation

/-- The situations are of one action under one policy, and agree in the facts that concern it. -/
structure Alike (s t : Situation) : Prop where
  action : s.action = t.action
  policy : s.policy = t.policy
  mode : s.session.mode = t.session.mode
  entities : s.hasEntities = t.hasEntities
  symbol : s.symbol = t.symbol
  critical : s.symbolCritical = t.symbolCritical
  flag : s.fallbackAllowed = t.fallbackAllowed
  disabled : s.isDisabled = t.isDisabled

namespace Alike

variable {s t : Situation}

theorem symbolName (alike : s.Alike t) : s.symbolName = t.symbolName := by
  simp only [Situation.symbolName, alike.policy, alike.action]

theorem confidence (alike : s.Alike t) : s.confidence = t.confidence := by
  simp only [Situation.confidence, alike.symbol]

theorem isFallback (alike : s.Alike t) : s.isFallback = t.isFallback := by
  simp only [Situation.isFallback, alike.policy, alike.action]

theorem isStrict (alike : s.Alike t) : s.isStrict = t.isStrict := by
  simp only [Situation.isStrict, alike.policy, alike.action]

theorem modeUnknown (alike : s.Alike t) : s.modeUnknown = t.modeUnknown := by
  simp only [Situation.modeUnknown, alike.mode]

theorem declaresMode (alike : s.Alike t) : s.declaresMode = t.declaresMode := by
  simp only [Situation.declaresMode, alike.action]

theorem modeDiffers (alike : s.Alike t) : s.modeDiffers = t.modeDiffers := by
  simp only [Situation.modeDiffers, alike.action, alike.mode]

theorem isHelper (alike : s.Alike t) : s.isHelper = t.isHelper := by
  simp only [Situation.isHelper, alike.action]

theorem symbolUnusable (alike : s.Alike t) : s.symbolUnusable = t.symbolUnusable := by
  simp only [Situation.symbolUnusable, alike.symbol]

theorem healthIs (alike : s.Alike t) (health : SymbolHealth) : s.healthIs health = t.healthIs health := by
  simp only [Situation.healthIs, alike.symbol]

theorem sourceIs (alike : s.Alike t) (source : SymbolSource) : s.sourceIs source = t.sourceIs source := by
  simp only [Situation.sourceIs, alike.symbol]

theorem modeNote (alike : s.Alike t) : s.modeNote = t.modeNote := by
  simp only [Situation.modeNote, alike.action, alike.mode]

theorem symbolNote (alike : s.Alike t) : s.symbolNote = t.symbolNote := by
  unfold Situation.symbolNote
  rw [alike.symbolName, alike.symbol]

theorem fallbackNote (alike : s.Alike t) : s.fallbackNote = t.fallbackNote := by
  unfold Situation.fallbackNote
  rw [alike.policy, alike.action]

end Alike
end Situation

/-- The rule treats situations alike that agree. -/
structure Rule.Local (r : Rule) : Prop where
  applies : ∀ {s t : Situation}, s.Alike t → r.applies s = r.applies t
  reason : ∀ {s t : Situation}, s.Alike t → r.reason s = r.reason t := by intros; rfl
  confidence : ∀ {s t : Situation}, s.Alike t → r.confidence s = r.confidence t := by intros; rfl
  note : ∀ {s t : Situation}, s.Alike t → r.note s = r.note t := by intros; rfl

namespace Rule

variable {r : Rule} {s t : Situation}

theorem Local.verdict (isLocal : r.Local) (alike : s.Alike t) : r.verdict s = r.verdict t := by
  rw [Rule.verdict, Rule.verdict, alike.action, isLocal.reason alike, isLocal.confidence alike,
    isLocal.note alike]

theorem local_of_mem_standard (member : r ∈ standard) : r.Local := by
  simp only [standard, List.mem_cons, List.not_mem_nil, or_false] at member
  rcases member with rfl | rfl | rfl | rfl | rfl | rfl | rfl | rfl | rfl | rfl | rfl | rfl | rfl | rfl
  · exact {
      applies := fun alike => by simp only [fallbackDisabled, alike.isFallback, alike.flag]
      note := fun alike => congrArg some alike.fallbackNote }
  · exact { applies := fun alike => alike.isFallback }
  · exact { applies := fun alike => alike.disabled }
  · exact {
      applies := fun alike => by simp only [strictModeUnknown, alike.isStrict, alike.modeUnknown]
      note := fun alike => congrArg some alike.modeNote }
  · exact {
      applies := fun alike => by simp only [declaredModeUnknown, alike.declaresMode, alike.modeUnknown]
      note := fun alike => congrArg some alike.modeNote }
  · exact {
      applies := fun alike => alike.modeDiffers
      note := fun alike => congrArg some alike.modeNote }
  · exact { applies := fun alike => by simp only [helperCatalogPresent, alike.isHelper, alike.entities] }
  · exact { applies := fun alike => alike.isHelper }
  · exact { applies := fun alike => by simp only [noSymbolRequired, alike.action] }
  · exact { applies := fun alike => by simp only [symbolMappingMissing, alike.symbolName] }
  · exact {
      applies := fun alike => alike.symbolUnusable
      note := fun alike => congrArg some alike.symbolNote }
  · exact {
      applies := fun alike => by simp only [criticalSymbolUnhealthy, alike.critical, alike.healthIs]
      confidence := fun alike => alike.confidence
      note := fun alike => congrArg some alike.symbolNote }
  · exact {
      applies := fun alike => by simp only [symbolDegradedOrFallback, alike.healthIs, alike.sourceIs]
      reason := fun alike => by simp only [symbolDegradedOrFallback, alike.healthIs]
      confidence := fun alike => alike.confidence
      note := fun alike => congrArg some alike.symbolNote }
  · exact {
      applies := fun _ => rfl
      reason := fun alike => by simp only [symbolHealthy, alike.sourceIs]
      confidence := fun alike => alike.confidence }

/-- Of rules that treat situations alike, the first to apply is the same for both. -/
theorem find?_eq_of_alike {rules : List Rule} (isLocal : ∀ r ∈ rules, r.Local) (alike : s.Alike t) :
    rules.find? (fun r => r.applies s) = rules.find? fun r => r.applies t := by
  induction rules with
  | nil => rfl
  | cons first rest ih =>
    obtain ⟨here, later⟩ := List.forall_mem_cons.1 isLocal
    rw [List.find?_cons, List.find?_cons, here.applies alike, ih later]

end Rule

theorem Evaluator.rate_eq_of_alike {e : Evaluator} {s t : Situation} (isLocal : ∀ r ∈ e.rules, r.Local)
    (alike : s.Alike t) : e.rate s = e.rate t := by
  rw [rate, rate, Rule.find?_eq_of_alike isLocal alike]
  cases found : e.rules.find? fun r => r.applies t with
  | none => rw [alike.action]
  | some r => exact (isLocal r (List.mem_of_find?_eq_some found)).verdict alike

namespace Scene

/-- The verdict of an evaluator's rules on an action in a scene. -/
def rated (e : Evaluator) (c : Scene) (a : ActionSpec) : Rating :=
  e.rate (e.situation c.profile c.session c.catalog a)

/-- What concerns an action is the same in both scenes: the mode, whether anything is known to exist, its own
symbol with whether that is critical, its own flag, and whether it is disabled. -/
structure Agrees (policy : Policy) (a : ActionSpec) (c d : Scene) : Prop where
  mode : c.session.mode = d.session.mode
  entities : c.catalog.any EntityCatalog.hasEntries = d.catalog.any EntityCatalog.hasEntries
  symbol : ∀ name ∈ policy.symbolFor a.id, c.session.symbol? name = d.session.symbol? name
  critical : ∀ name ∈ policy.symbolFor a.id,
    (name ∈ c.profile.criticalSymbols policy ↔ name ∈ d.profile.criticalSymbols policy)
  flag : ∀ flag ∈ policy.fallbackFlag a.id, c.profile.flagEnabled flag = d.profile.flagEnabled flag
  disabled : a.id ∈ c.session.disabledActions policy ↔ a.id ∈ d.session.disabledActions policy

/-- One change to a scene that does not concern an action: another action, symbol or flag comes, goes or
becomes different, a list in the metadata gets other entries, or a catalog others. -/
inductive Elsewhere (policy : Policy) (a : ActionSpec) : Scene → Scene → Prop
  | action {c : Scene} (key : String) (other : ActionSpec) :
      Elsewhere policy a c { c with profile := { c.profile with actions := c.profile.actions.insert key other } }
  | noAction {c : Scene} (key : String) :
      Elsewhere policy a c { c with profile := { c.profile with actions := c.profile.actions.erase key } }
  | symbol {c : Scene} (name : String) (symbol : Symbol) (other : policy.symbolFor a.id ≠ some name) :
      Elsewhere policy a c (c.withSymbols (c.session.symbols.insert name symbol))
  | noSymbol {c : Scene} (name : String) (other : policy.symbolFor a.id ≠ some name) :
      Elsewhere policy a c (c.withSymbols (c.session.symbols.erase name))
  | flag {c : Scene} (flag : String) (enabled : Bool) (other : policy.fallbackFlag a.id ≠ some flag) :
      Elsewhere policy a c { c with profile := c.profile.addFlag flag enabled }
  | noFlag {c : Scene} (flag : String) (other : policy.fallbackFlag a.id ≠ some flag) :
      Elsewhere policy a c
        { c with profile := { c.profile with featureFlags := c.profile.featureFlags.erase flag } }
  | disabled {c : Scene} {text : String}
      (keeps : a.id ∈ c.session.disabledActions policy ↔ a.id ∈ NameSet.ofCommaText text) :
      Elsewhere policy a c { c with session := c.session.addMetadata policy.disabledKey text }
  | critical {c : Scene} {text : String}
      (keeps : ∀ name ∈ policy.symbolFor a.id,
        (name ∈ c.profile.criticalSymbols policy ↔ name ∈ NameSet.ofCommaText text)) :
      Elsewhere policy a c { c with profile := c.profile.addMetadata policy.criticalKey text }
  | catalog {c : Scene} {catalog : Option EntityCatalog}
      (keeps : c.catalog.any EntityCatalog.hasEntries = catalog.any EntityCatalog.hasEntries) :
      Elsewhere policy a c { c with catalog := catalog }

namespace Agrees

variable {policy : Policy} {a : ActionSpec} {b c d : Scene}

theorem refl (policy : Policy) (a : ActionSpec) (c : Scene) : Agrees policy a c c :=
  ⟨rfl, rfl, fun _ _ => rfl, fun _ _ => .rfl, fun _ _ => rfl, .rfl⟩

theorem trans (first : Agrees policy a b c) (second : Agrees policy a c d) : Agrees policy a b d where
  mode := first.mode.trans second.mode
  entities := first.entities.trans second.entities
  symbol name bound := (first.symbol name bound).trans (second.symbol name bound)
  critical name bound := (first.critical name bound).trans (second.critical name bound)
  flag flag own := (first.flag flag own).trans (second.flag flag own)
  disabled := first.disabled.trans second.disabled

theorem alike (agrees : Agrees policy a c d) {rules : List Rule} :
    ((⟨rules, policy⟩ : Evaluator).situation c.profile c.session c.catalog a).Alike
      ((⟨rules, policy⟩ : Evaluator).situation d.profile d.session d.catalog a) where
  action := rfl
  policy := rfl
  mode := agrees.mode
  entities := agrees.entities
  symbol := by
    show (policy.symbolFor a.id).bind c.session.symbol? = (policy.symbolFor a.id).bind d.session.symbol?
    cases bound : policy.symbolFor a.id with
    | none => rfl
    | some name => exact agrees.symbol name bound
  critical := by
    show (policy.symbolFor a.id).any (c.profile.criticalSymbols policy).contains =
      (policy.symbolFor a.id).any (d.profile.criticalSymbols policy).contains
    cases bound : policy.symbolFor a.id with
    | none => rfl
    | some name =>
      rw [Option.any_some, Option.any_some, Bool.eq_iff_iff, NameSet.contains_iff, NameSet.contains_iff]
      exact agrees.critical name bound
  flag := by
    show (policy.fallbackFlag a.id).any c.profile.flagEnabled = (policy.fallbackFlag a.id).any d.profile.flagEnabled
    cases own : policy.fallbackFlag a.id with
    | none => rfl
    | some flag => exact agrees.flag flag own
  disabled := by
    show (c.session.disabledActions policy).contains a.id = (d.session.disabledActions policy).contains a.id
    rw [Bool.eq_iff_iff, NameSet.contains_iff, NameSet.contains_iff]
    exact agrees.disabled

theorem of_elsewhere (change : Elsewhere policy a c d) : Agrees policy a c d := by
  cases change with
  | action | noAction => exact { refl policy a c with }
  | symbol _ _ other =>
    refine { refl policy a c with symbol := fun name bound => (Table.get?_insert.trans (if_neg ?_)).symm }
    rintro rfl
    exact other bound
  | noSymbol _ other =>
    refine { refl policy a c with symbol := fun name bound => (Table.get?_erase.trans (if_neg ?_)).symm }
    rintro rfl
    exact other bound
  | flag _ _ other =>
    refine { refl policy a c with flag := fun flag own => ?_ }
    rw [Profile.flagEnabled, Profile.flagEnabled, Profile.addFlag, Table.get?_insert, if_neg]
    rintro rfl
    exact other own
  | noFlag _ other =>
    refine { refl policy a c with flag := fun flag own => ?_ }
    rw [Profile.flagEnabled, Profile.flagEnabled, Table.get?_erase, if_neg]
    rintro rfl
    exact other own
  | disabled keeps =>
    refine { refl policy a c with disabled := ?_ }
    simpa [Session.disabledActions, Session.addMetadata, NameSet.ofCommaText?] using keeps
  | critical keeps =>
    refine { refl policy a c with critical := ?_ }
    simpa [Profile.criticalSymbols, Profile.addMetadata, NameSet.ofCommaText?] using keeps
  | catalog keeps => exact { refl policy a c with entities := keeps }

/-- Changes that do not concern the action add up to nothing that does. -/
theorem of_changes (changes : Relation.ReflTransGen (Elsewhere policy a) c d) : Agrees policy a c d := by
  induction changes with
  | refl => exact refl policy a c
  | tail _ last ih => exact ih.trans (of_elsewhere last)

end Agrees

/-- The galactic session when a unit is known too, its action comes into the catalog, and the timer is
disabled. -/
def crowded : Scene :=
  let known := credits.withSymbols
    (credits.session.symbols.insert "selected_hp" (.healthySignature "selected_hp" 8192 .float))
  let offered := { known with profile := { known.profile with
    actions := known.profile.actions.insert "set_selected_hp" (.plain "set_selected_hp" .memory) } }
  { offered with session := offered.session.addMetadata Policy.standard.disabledKey "freeze_timer" }

end Scene

namespace Evaluator

variable {e : Evaluator}

theorem ratings_perm (profile : Profile) (session : Session) (catalog : Option EntityCatalog) :
    (e.ratings profile session catalog).Perm
      (profile.actions.values.map fun a => e.rate (e.situation profile session catalog a)) :=
  listed_perm.map _

theorem pairwise_ratings (profile : Profile) (session : Session) (catalog : Option EntityCatalog) :
    ((e.ratings profile session catalog).map Rating.action).Pairwise ListedLE := by
  have ids : (e.ratings profile session catalog).map Rating.action =
      (listed ActionSpec.id profile.actions.values).map ActionSpec.id :=
    CompatibilityReport.ids_attached
  rw [ids]
  exact pairwise_listed

/-- Whatever standard rules an evaluator has, in whatever order: it rates every entry of a catalog once, under
the id of its action and in the order of listings, and an action is rated alike in two scenes that agree for
it, as they do after any changes that do not concern it. -/
theorem ratings_complete_ordered_local (standard : ∀ r ∈ e.rules, r ∈ Rule.standard) :
    (∀ profile session catalog,
      (e.ratings profile session catalog).Perm
        (profile.actions.values.map fun a => e.rate (e.situation profile session catalog a)) ∧
      ((e.ratings profile session catalog).map Rating.action).Pairwise ListedLE) ∧
    (∀ c a, (Scene.rated e c a).action = a.id) ∧
    (∀ c d a, Scene.Agrees e.policy a c d → Scene.rated e c a = Scene.rated e d a) ∧
    ∀ c d a, Relation.ReflTransGen (Scene.Elsewhere e.policy a) c d →
      Scene.rated e c a = Scene.rated e d a := by
  have isLocal : ∀ r ∈ e.rules, r.Local := fun r member => Rule.local_of_mem_standard (standard r member)
  have alike {c d : Scene} {a : ActionSpec} (agrees : Scene.Agrees e.policy a c d) :
      Scene.rated e c a = Scene.rated e d a := rate_eq_of_alike isLocal agrees.alike
  exact ⟨fun profile session catalog =>
      ⟨ratings_perm profile session catalog, pairwise_ratings profile session catalog⟩,
    fun c a => action_rate e _, fun c d a => alike, fun c d a changes => alike (.of_changes changes)⟩

theorem ratings_complete_ordered_local_crowded :
    Scene.rated ⟨Rule.standard.reverse, .standard⟩ Scene.credits Scene.credits.setCredits =
      Scene.rated ⟨Rule.standard.reverse, .standard⟩ Scene.crowded Scene.credits.setCredits := by
  have changes : Relation.ReflTransGen (Scene.Elsewhere .standard Scene.credits.setCredits)
      Scene.credits Scene.crowded :=
    ((Relation.ReflTransGen.single (.symbol "selected_hp" _ (by decide))).tail (.action _ _)).tail
      (.disabled (by decide))
  have told := ratings_complete_ordered_local (e := ⟨Rule.standard.reverse, .standard⟩)
    fun r member => List.mem_reverse.1 member
  exact told.2.2.2 _ _ _ changes

end Evaluator
end LiveControl
