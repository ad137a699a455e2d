import LiveControl.Proofs.ActionCourse
import LiveControl.Proofs.StandardVerdict

namespace LiveControl

variable {σ : Type}

namespace Profile

/-- Every action of the profile stands under its own id. -/
def Keyed (p : Profile) : Prop := ∀ id a, p.action? id = some a → a.id = id

variable {p : Profile}

theorem keyed_bare (id : String) : (bare id).Keyed := nofun

theorem Keyed.addAction (keyed : p.Keyed) (a : ActionSpec) : (p.addAction a).Keyed := by
  intro id other listed
  rw [action?, Profile.addAction, Table.get?_insert] at listed
  split at listed
  · rename_i same
    cases listed
    exact same.symm
  · exact keyed id other listed

theorem Keyed.addFlag (keyed : p.Keyed) (flag : String) (enabled : Bool) : (p.addFlag flag enabled).Keyed := keyed

end Profile

namespace Executor

/-- The call is turned down for that reason, whatever the backend and the pins would say to it. -/
def TurnsDown (e : Executor σ) (call : ActionCall) (cancel : Token σ) (r : Runtime σ) (reason : String) : Prop :=
  ∀ backend pins, ∃ outcome,
    ({ e with backend := backend, pins := pins }.execute call cancel).ending r = .ok outcome ∧
      outcome.reason = some reason

/-- What fails while it is carried out is not reported as refused. -/
theorem reason_of_failing {e : Executor σ} {profile : Profile} {call : ActionCall} {a : ActionSpec}
    {payload : Payload} {attachment : Attachment} {cancel : Token σ} {outcome : Outcome} {s s' : σ}
    (ran : { e with backend := failingBackend, pins := failingPins }.perform profile call a payload attachment
      cancel s = .ok outcome s') :
    outcome.reason = some "freeze_failed" ∨ outcome.reason = some "backend_error" := by
  cases payload with
  | freeze symbol directive =>
    cases directive <;> cases ran <;> exact .inl rfl
  | memory | helper | sdk | codePatch =>
    cases ran
    exact .inr rfl

/-- A call is turned down for its mode only if its action enforces another one. -/
theorem TurnsDown.enforcedMode {e : Executor σ} {call : ActionCall} {cancel : Token σ} {r : Runtime σ}
    {profile : Profile} (found : (e.profiles call.profileId).ending (cancel r.world).2 = .ok profile)
    (turnsDown : e.TurnsDown call cancel r "mode_not_allowed") :
    ∃ a required, profile.action? call.action = some a ∧ a.enforcedMode = some required ∧
      required ≠ call.mode := by
  -- With collaborators that fail the reason can only be that of a check.
  obtain ⟨outcome, ended, reason⟩ := turnsDown failingBackend failingPins
  have course := course_execute { e with backend := failingBackend, pins := failingPins } call cancel r
  obtain ⟨r', answered⟩ := Task.ending_eq_ok_iff.1 ended
  rw [answered] at course
  cases course with
  | refused opens barred =>
    obtain ⟨a, required, listed, conflict⟩ := modeConflict_of_screen barred reason
    rw [Task.ending_of_ok opens.found] at found
    cases found
    obtain ⟨enforced, -, differs⟩ := modeConflict_eq_some_iff.1 conflict
    exact ⟨a, required, listed, enforced, differs⟩
  | performed _ ran =>
    rcases reason_of_failing ran with failed | failed
    · exact absurd (failed.symm.trans reason) (by simp)
    · exact absurd (failed.symm.trans reason) (by simp)

end Executor

namespace Evaluator

theorem action_rate (e : Evaluator) (s : Situation) : (e.rate s).action = s.action.id := by
  unfold rate
  cases e.rules.find? fun r => r.applies s <;> rfl

theorem mem_ratings {e : Evaluator} {profile : Profile} {session : Session} {catalog : Option EntityCatalog}
    {rating : Rating} : rating ∈ e.ratings profile session catalog ↔
      ∃ id a, profile.action? id = some a ∧ rating = e.rate (e.situation profile session catalog a) := by
  simp only [ratings, List.mem_map, mem_listed, Table.mem_values, Profile.action?]
  constructor
  · rintro ⟨a, ⟨id, held⟩, rfl⟩
    exact ⟨id, a, held, rfl⟩
  · rintro ⟨id, a, held, rfl⟩
    exact ⟨a, ⟨id, held⟩, rfl⟩

/-- An action that enforces another mode is refused, but for a fallback that is allowed. -/
theorem state_of_differing_mode (policy : Policy) {profile : Profile} {session : Session}
    (catalog : Option EntityCatalog) {a : ActionSpec} {required : Mode}
    (enforced : a.enforcedMode = some required) (differs : required ≠ session.mode) :
    ((standard policy).rate ((standard policy).situation profile session catalog a)).state =
      if (policy.fallbackFlag a.id).any profile.flagEnabled then .experimental else .unavailable := by
  let s := (standard policy).situation profile session catalog a
  have settled : s.Settled ((standard policy).rate s).state := Situation.settled_rate policy s
  show ((standard policy).rate s).state = _
  cases fallback : policy.fallbackFlag a.id with
  | none =>
    rw [Option.any_none, if_neg nofun]
    exact settled.unavailable_iff.2 (.forbidden fallback (.mode enforced differs))
  | some flag =>
    cases enabled : profile.flagEnabled flag with
    | false =>
      rw [Option.any_some, enabled, if_neg nofun]
      exact settled.unavailable_iff.2 (.flagOff fallback enabled)
    | true =>
      rw [Option.any_some, enabled, if_pos rfl]
      exact settled.experimental_iff.2 ⟨Situation.not_refused_of_fallback fallback enabled,
        fun plain => absurd (fallback.symm.trans plain) nofun⟩

/-- What a call is turned down for because of its mode is rated as unavailable in a session of that mode,
unless it is a fallback whose flag is on; such a fallback is rated as experimental in every mode. -/
theorem rates_turned_down_mode {e : Executor σ} {call : ActionCall} {cancel : Token σ} {r : Runtime σ}
    {profile : Profile} {session : Session} (policy : Policy) (catalog : Option EntityCatalog)
    (keyed : profile.Keyed)
    (found : (e.profiles call.profileId).ending (cancel r.world).2 = .ok profile)
    (current : call.mode = session.mode)
    (turnsDown : e.TurnsDown call cancel r "mode_not_allowed") :
    (∃ rating ∈ (standard policy).ratings profile session catalog, rating.action = call.action) ∧
    ∀ rating ∈ (standard policy).ratings profile session catalog, rating.action = call.action →
      rating.state =
        if (policy.fallbackFlag call.action).any profile.flagEnabled then .experimental else .unavailable := by
  obtain ⟨a, required, listed, enforced, differs⟩ := turnsDown.enforcedMode found
  constructor
  · exact ⟨_, mem_ratings.2 ⟨call.action, a, listed, rfl⟩, (action_rate _ _).trans (keyed _ _ listed)⟩
  · intro rating member named
    obtain ⟨id, other, held, rfl⟩ := mem_ratings.1 member
    obtain rfl : id = call.action := (keyed _ _ held).symm.trans ((action_rate _ _).symm.trans named)
    obtain rfl : other = a := Option.some.inj (held.symm.trans listed)
    rw [state_of_differing_mode policy catalog enforced (current ▸ differs), keyed _ _ listed]

/-- A profile with a fallback that is allowed and a plain action, both for tactical mode. -/
def tacticalProfile : Profile :=
  (((Profile.bare "drill").addAction
    { ActionSpec.plain "set_unit_cap_patch_fallback" .codePatch with requiredMode := some .tactical }).addAction
    { ActionSpec.plain "set_selected_hp" .memory with requiredMode := some .tactical }).addFlag
    "allow_unit_cap_patch_fallback" true

theorem keyed_tacticalProfile : tacticalProfile.Keyed :=
  (((Profile.keyed_bare _).addAction _).addAction _).addFlag _ _

/-- An executor of which nothing but a profile can be had. -/
def profileOnly (profile : Profile) : Executor Unit where
  profiles _ := pure profile
  backend := Executor.failingBackend
  pins := Executor.failingPins
  audit _ := pure ()

def galacticCall (action : String) : ActionCall := ⟨"drill", action, .empty, .galactic, .empty⟩

theorem rates_turned_down_mode_unit :
    (profileOnly tacticalProfile).TurnsDown (galacticCall "set_selected_hp") .never ⟨.empty, ()⟩
      "mode_not_allowed" ∧
    ∀ rating ∈ (standard .standard).ratings tacticalProfile (.bare 7 .galactic) none,
      rating.action = "set_selected_hp" → rating.state = .unavailable := by
  have turnsDown : (profileOnly tacticalProfile).TurnsDown (galacticCall "set_selected_hp") .never ⟨.empty, ()⟩
      "mode_not_allowed" := fun _ _ => ⟨_, rfl, rfl⟩
  have current : (galacticCall "set_selected_hp").mode = (Session.bare 7 .galactic).mode := rfl
  exact ⟨turnsDown, (rates_turned_down_mode .standard none keyed_tacticalProfile rfl current turnsDown).2⟩

/-- A call for the fallback is turned down in galactic mode, but the fallback is not rated as unavailable. -/
theorem rates_fallback_out_of_mode :
    tacticalProfile.Keyed ∧
    (profileOnly tacticalProfile).TurnsDown (galacticCall "set_unit_cap_patch_fallback") .never ⟨.empty, ()⟩
      "mode_not_allowed" ∧
    ∃ rating ∈ (standard .standard).ratings tacticalProfile (.bare 7 .galactic) none,
      rating.action = "set_unit_cap_patch_fallback" ∧ rating.state = .experimental :=
  ⟨keyed_tacticalProfile, fun _ _ => ⟨_, rfl, rfl⟩, _,
    mem_ratings.2 ⟨"set_unit_cap_patch_fallback", _, rfl, rfl⟩, rfl, by decide⟩

end Evaluator
end LiveControl
