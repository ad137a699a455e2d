import LiveControl.Compatibility
import LiveControl.Proofs.ModeRefusal

namespace LiveControl

/-- The order of listings as a relation: by lowercase, then as written. -/
def ListedLE (a b : String) : Prop :=
  Text.lowercase a < Text.lowercase b ∨ Text.lowercase a = Text.lowercase b ∧ a ≤ b

namespace ListedLE

variable {a b c : String}

theorem listedBefore_iff : listedBefore a b = true ↔ ListedLE a b := by
  unfold listedBefore ListedLE
  by_cases same : Text.lowercase a = Text.lowercase b
  · simp [same]
  · simp [same]

theorem trans (first : ListedLE a b) (second : ListedLE b c) : ListedLE a c := by
  rcases first with less | ⟨same, le⟩
  · rcases second with less' | ⟨same', -⟩
    · exact .inl (String.lt_trans less less')
    · exact .inl (same' ▸ less)
  · rcases second with less' | ⟨same', le'⟩
    · exact .inl (same ▸ less')
    · exact .inr ⟨same.trans same', String.le_trans le le'⟩

theorem total (a b : String) : ListedLE a b ∨ ListedLE b a := by
  by_cases same : Text.lowercase a = Text.lowercase b
  · rcases String.le_total a b with le | le
    · exact .inl (.inr ⟨same, le⟩)
    · exact .inr (.inr ⟨same.symm, le⟩)
  · by_cases less : Text.lowercase a < Text.lowercase b
    · exact .inl (.inl less)
    · have le : Text.lowercase b ≤ Text.lowercase a := String.not_lt.1 less
      by_cases less' : Text.lowercase b < Text.lowercase a
      · exact .inr (.inl less')
      · exact absurd (String.le_antisymm (String.not_lt.1 less') le) same

theorem antisymm (first : ListedLE a b) (second : ListedLE b a) : a = b := by
  rcases first with less | ⟨same, le⟩
  · rcases second with less' | ⟨same', -⟩
    · exact absurd (String.lt_trans less less') (String.lt_irrefl _)
    · exact absurd (same' ▸ less) (String.lt_irrefl _)
  · rcases second with less' | ⟨-, le'⟩
    · exact absurd (same ▸ less') (String.lt_irrefl _)
    · exact String.le_antisymm le le'

end ListedLE

section listed

variable {α β : Type} {key : α → String} {key' : β → String} {xs : List α} {ys : List β}

theorem listed_perm : (listed key xs).Perm xs := List.mergeSort_perm _ _

theorem pairwise_listed : ((listed key xs).map key).Pairwise ListedLE := by
  rw [List.pairwise_map]
  have sorted : (listed key xs).Pairwise fun a b => listedBefore (key a) (key b) = true := by
    refine List.pairwise_mergeSort (fun a b c first second => ?_) (fun a b => ?_) xs
    · rw [ListedLE.listedBefore_iff] at first second ⊢
      exact first.trans second
    · rw [Bool.or_eq_true, ListedLE.listedBefore_iff, ListedLE.listedBefore_iff]
      exact ListedLE.total _ _
  exact sorted.imp ListedLE.listedBefore_iff.1

/-- Listings show the same names exactly if the same names were listed, however these were arranged. -/
theorem map_listed_eq_iff :
    (listed key xs).map key = (listed key' ys).map key' ↔ (xs.map key).Perm (ys.map key') := by
  have left : ((listed key xs).map key).Perm (xs.map key) := listed_perm.map key
  have right : ((listed key' ys).map key').Perm (ys.map key') := listed_perm.map key'
  constructor
  · intro same
    exact left.symm.trans (same ▸ right)
  · intro perm
    exact ((left.trans perm).trans right.symm).eq_of_pairwise (fun a b _ _ => ListedLE.antisymm)
      pairwise_listed pairwise_listed

end listed

variable {e : Evaluator} {profile : Profile} {session : Session} {catalog catalog' : Option EntityCatalog}
  {status status' : Option DependencyStatus}

namespace Profile

/-- The names of the actions of a catalog, as the actions give them. -/
def actionIds (p : Profile) : List String := p.actions.values.map ActionSpec.id

theorem Keyed.actionIds_eq (keyed : profile.Keyed) : profile.actionIds = profile.actions.keys := by
  rw [actionIds, Table.values, Table.keys, List.map_map]
  refine List.map_congr_left fun entry member => ?_
  exact keyed entry.1 entry.2 (Table.mem_toList.1 member)

end Profile

namespace CompatibilityReport

theorem actions_build (attachment : Attachment) :
    (build e profile attachment status catalog).actions = ratings e profile attachment catalog := rfl

theorem ids_attached : (ratings e profile (.attached session) catalog).map Rating.action =
    (listed ActionSpec.id profile.actions.values).map ActionSpec.id := by
  rw [ratings, Evaluator.ratings, List.map_map]
  exact List.map_congr_left fun a _ => Evaluator.action_rate e _

/-- The report for a session lists the ids that the actions give, the one without a session the keys under
which they stand: the lists agree exactly if the ids are the keys in some order, as they are where every
action stands under its own id. -/
theorem lists_alike_iff (e : Evaluator) (profile : Profile) (session : Session)
    (catalog catalog' : Option EntityCatalog) (status status' : Option DependencyStatus) :
    ((build e profile (.attached session) status catalog).actions.map Rating.action =
        (build e profile .detached status' catalog').actions.map Rating.action ↔
      profile.actionIds.Perm profile.actions.keys) ∧
    (profile.Keyed →
      (build e profile (.attached session) status catalog).actions.map Rating.action =
        (build e profile .detached status' catalog').actions.map Rating.action) := by
  have keys : (profile.actions.keys.map unattached).map Rating.action = profile.actions.keys := by
    rw [List.map_map]
    exact List.map_id _
  have alike : (build e profile (.attached session) status catalog).actions.map Rating.action =
      (build e profile .detached status' catalog').actions.map Rating.action ↔
        profile.actionIds.Perm profile.actions.keys := by
    rw [actions_build, actions_build, ids_attached, ratings, map_listed_eq_iff, keys, Profile.actionIds]
  exact ⟨alike, fun keyed => alike.2 (keyed.actionIds_eq ▸ .refl _)⟩

theorem lists_alike_tactical :
    (build (.standard .standard) Evaluator.tacticalProfile (.attached (.bare 7 .tactical)) none none).actions.map
        Rating.action =
      (build (.standard .standard) Evaluator.tacticalProfile .detached none none).actions.map Rating.action :=
  (lists_alike_iff _ _ _ _ _ _ _).2 Evaluator.keyed_tacticalProfile

/-- A catalog in which the action for credits stands under another key. -/
def miskeyed : Profile :=
  { Profile.bare "drill" with actions := Table.empty.insert "credits" (.plain "set_credits" .memory) }

theorem lists_differ_miskeyed :
    (build (.standard .standard) miskeyed (.attached (.bare 7 .galactic)) none none).actions.map Rating.action =
        ["set_credits"] ∧
      (build (.standard .standard) miskeyed .detached none none).actions.map Rating.action = ["credits"] := by
  constructor
  · rw [actions_build, ids_attached, listed]
    exact congrArg (List.map ActionSpec.id) (List.mergeSort_singleton _)
  · rw [actions_build, ratings, listed]
    exact congrArg (List.map Rating.action) (List.mergeSort_singleton _)

end CompatibilityReport
end LiveControl
