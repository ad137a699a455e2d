import LiveControl.Proofs.ModeRefusal
import LiveControl.Proofs.VerdictSetbacks

namespace LiveControl.CompatibilityReport

variable {e : Evaluator} {profile : Profile} {attachment : Attachment} {status : Option DependencyStatus}
  {catalog : Option EntityCatalog} {session : Session}

theorem usable_of_fit {s : Situation} {name : String} {symbol : Symbol} (fit : ¬s.Unfit name)
    (reported : s.session.symbol? name = some symbol) : symbol.isUnusable = false := by
  have addressed : symbol.address ≠ 0 := fun nowhere => fit (.unaddressed reported nowhere)
  have resolved : symbol.health ≠ .unresolved := fun health => fit (.unresolved reported health)
  simp [Symbol.isUnusable, addressed, resolved]

theorem rating_mem_ratings {a : ActionSpec} (listed : a ∈ profile.actions.values) :
    e.rate (e.situation profile session catalog a) ∈ ratings e profile (.attached session) catalog := by
  obtain ⟨id, held⟩ := Table.mem_values.1 listed
  exact Evaluator.mem_ratings.2 ⟨id, a, held, rfl⟩

/-- A plain action that the standard rules do not refuse works through a usable symbol. -/
theorem usable_of_available (rules : e.rules = Rule.standard) {a : ActionSpec}
    (available : (e.rate (e.situation profile session catalog a)).state ≠ .unavailable)
    (plain : (e.situation profile session catalog a).Plain) {name : String} {symbol : Symbol}
    (through : (e.situation profile session catalog a).WorksThrough name)
    (reported : session.symbol? name = some symbol) : symbol.isUnusable = false := by
  have standard : e = .standard e.policy := by
    cases e
    cases rules
    rfl
  have settled : (e.situation profile session catalog a).Settled
      (e.rate (e.situation profile session catalog a)).state := by
    rw [standard]
    exact Situation.settled_rate e.policy _
  have passed := mt settled.unavailable_iff.2 available
  have fit : ¬(e.situation profile session catalog a).Unfit name := fun unfit => passed (.unfit plain through unfit)
  exact usable_of_fit fit reported

/-- The grounds on which a profile is ready. -/
inductive Grounded (e : Evaluator) (profile : Profile) (catalog : Option EntityCatalog) : Attachment → Prop
  | attached {session : Session} (resolved : ∀ name ∈ profile.criticalSymbols e.policy,
      ∃ symbol, session.symbol? name = some symbol ∧ symbol.health ≠ .unresolved ∧
        (e.rules = Rule.standard → ∀ a ∈ profile.actions.values,
          (e.situation profile session catalog a).Plain →
          (e.situation profile session catalog a).WorksThrough name → symbol.isUnusable = false)) :
      Grounded e profile catalog (.attached session)
  | detached (careless : ∀ name, name ∉ profile.criticalSymbols e.policy) (idle : profile.actions.values = []) :
      Grounded e profile catalog .detached

theorem grounded_attached (resolved : (unresolved (.attached session) (profile.criticalSymbols e.policy)).size = 0)
    (available : ∀ r ∈ ratings e profile (.attached session) catalog, r.state ≠ .unavailable) :
    Grounded e profile catalog (.attached session) := by
  refine .attached fun name critical => ?_
  obtain ⟨symbol, reported, health⟩ := size_unresolved_attached.1 resolved name critical
  refine ⟨symbol, reported, health, fun rules a listed plain through => ?_⟩
  have rated := available _ (rating_mem_ratings listed)
  exact usable_of_available rules rated plain through reported

/-- Without a session every action that there is counts as refused. -/
theorem grounded_detached (resolved : (unresolved .detached (profile.criticalSymbols e.policy)).size = 0)
    (available : ∀ r ∈ ratings e profile .detached catalog, r.state ≠ .unavailable) :
    Grounded e profile catalog .detached := by
  refine .detached (size_unresolved_detached.1 resolved) (List.eq_nil_iff_forall_not_mem.2 fun a listed => ?_)
  obtain ⟨id, held⟩ := Table.mem_values.1 listed
  have key : id ∈ profile.actions.keys := Table.mem_keys.2 ⟨a, held⟩
  exact available (unattached id) (mem_listed.2 (List.mem_map_of_mem key)) rfl

theorem Grounded.resolved (grounded : Grounded e profile catalog attachment) :
    (unresolved attachment (profile.criticalSymbols e.policy)).size = 0 := by
  cases grounded with
  | attached resolved =>
    refine size_unresolved_attached.2 fun name critical => ?_
    obtain ⟨symbol, reported, health, -⟩ := resolved name critical
    exact ⟨symbol, reported, health⟩
  | detached careless => exact size_unresolved_detached.2 careless

/-- What readiness for promotion vouches for: the dependencies did not fail hard, no action is refused, and
whatever is critical was found, though where no plain action works through it perhaps at no address. -/
theorem promotionReady_iff_grounded : (build e profile attachment status catalog).promotionReady = true ↔
    status ≠ some .hardFail ∧
    (∀ r ∈ (build e profile attachment status catalog).actions, r.state ≠ .unavailable) ∧
    Grounded e profile catalog attachment := by
  constructor
  · intro ready
    obtain ⟨soft, resolved, available⟩ := ready_iff.1 ready
    refine ⟨soft, available, ?_⟩
    cases attachment with
    | attached session => exact grounded_attached resolved available
    | detached => exact grounded_detached resolved available
  · rintro ⟨soft, available, grounded⟩
    exact ready_iff.2 ⟨soft, grounded.resolved, available⟩

/-- A profile for which the credits are critical, though none of its actions is about them. -/
def idleCredits : Profile := (Profile.bare "drill").addMetadata Policy.standard.criticalKey "credits"

def creditsProfile : Profile := idleCredits.addAction Scene.credits.setCredits

/-- A session in which the credits were found at an address. -/
def creditsSession (address : UInt64) : Session :=
  (Session.bare 7 .galactic).addSymbol (.healthySignature "credits" address .int)

theorem promotionReady_iff_grounded_credits :
    (build (.standard .standard) creditsProfile (.attached (creditsSession 4096)) none none).promotionReady = true ∧
    (creditsSession 4096).symbol? "credits" = some (.healthySignature "credits" 4096 .int) ∧
    Grounded (.standard .standard) creditsProfile none (.attached (creditsSession 4096)) := by
  have ready : (build (.standard .standard) creditsProfile (.attached (creditsSession 4096)) none none).promotionReady =
      true := by decide +kernel
  obtain ⟨-, -, grounded⟩ := promotionReady_iff_grounded.1 ready
  exact ⟨ready, rfl, grounded⟩

/-- Readiness takes neither a session nor an address for what is critical: a profile that asks for nothing is
ready without one, and one whose actions leave the critical credits alone is ready while they are nowhere. -/
theorem promotionReady_of_unattached_and_unaddressed :
    (build (.standard .standard) (.bare "drill") .detached none none).promotionReady = true ∧
    (build (.standard .standard) idleCredits (.attached (creditsSession 0)) none none).promotionReady = true ∧
    "credits" ∈ idleCredits.criticalSymbols .standard ∧
    ∃ found, (creditsSession 0).symbol? "credits" = some found ∧ found.isUnusable = true :=
  ⟨by decide +kernel, by decide +kernel, by decide +kernel, _, rfl, by decide⟩

end LiveControl.CompatibilityReport
