import LiveControl.Proofs.CapabilityChoice

namespace LiveControl

namespace CapabilityEntry

/-- The entry speaks of the operation, and of the binary and the variant unless it leaves them open. -/
structure Applies (e : CapabilityEntry) (fingerprintId variant operation : String) : Prop where
  operation : Text.asciiLower e.operation = Text.asciiLower operation
  fingerprint : e.fingerprintId = wildcard ∨ e.fingerprintId = fingerprintId
  variant : e.variant = wildcard ∨ Text.asciiLower e.variant = Text.asciiLower variant

/-- The entry is more specific. To name the binary outweighs anything about the variant; between entries
alike in that, to name the variant does. -/
def Outranks (e other : CapabilityEntry) : Prop :=
  e.fingerprintId ≠ wildcard ∧ other.fingerprintId = wildcard ∨
    (e.fingerprintId = wildcard ↔ other.fingerprintId = wildcard) ∧
      e.variant ≠ wildcard ∧ other.variant = wildcard

/-- What the entry weighs where it applies. -/
def weight (e : CapabilityEntry) : Nat :=
  (if e.fingerprintId = wildcard then 0 else 2) + (if e.variant = wildcard then 0 else 1)

theorem outranks_iff {e other : CapabilityEntry} : e.Outranks other ↔ other.weight < e.weight := by
  unfold Outranks weight
  by_cases binary : e.fingerprintId = wildcard <;> by_cases binary' : other.fingerprintId = wildcard <;>
    by_cases variant : e.variant = wildcard <;> by_cases variant' : other.variant = wildcard <;>
    simp [binary, binary', variant, variant']

variable {e : CapabilityEntry} {fingerprintId variant operation : String} {w : Nat}

theorem fingerprintWeight?_eq_some_iff : e.fingerprintWeight? fingerprintId = some w ↔
    (e.fingerprintId = wildcard ∨ e.fingerprintId = fingerprintId) ∧
      (if e.fingerprintId = wildcard then 0 else 2) = w := by
  unfold fingerprintWeight?
  by_cases isOpen : e.fingerprintId = wildcard
  · simp [isOpen]
  · by_cases same : e.fingerprintId = fingerprintId
    · simp only [if_neg isOpen, if_pos same, Option.some.injEq]
      exact ⟨fun found => ⟨.inr same, found⟩, And.right⟩
    · simp [isOpen, same]

theorem variantWeight?_eq_some_iff : e.variantWeight? variant = some w ↔
    (e.variant = wildcard ∨ Text.asciiLower e.variant = Text.asciiLower variant) ∧
      (if e.variant = wildcard then 0 else 1) = w := by
  unfold variantWeight?
  by_cases isOpen : e.variant = wildcard
  · simp [isOpen]
  · by_cases same : Text.asciiLower e.variant = Text.asciiLower variant <;>
      simp [isOpen, same, Text.eqIgnoringCase]

theorem specificity?_eq_some_iff : e.specificity? fingerprintId variant operation = some w ↔
    e.Applies fingerprintId variant operation ∧ e.weight = w := by
  unfold specificity?
  constructor
  · intro found
    split at found
    · rename_i operates
      obtain ⟨byFingerprint, atFingerprint, found⟩ := Option.bind_eq_some_iff.1 found
      obtain ⟨byVariant, atVariant, found⟩ := Option.bind_eq_some_iff.1 found
      obtain ⟨fingerprint, rfl⟩ := fingerprintWeight?_eq_some_iff.1 atFingerprint
      obtain ⟨variant, rfl⟩ := variantWeight?_eq_some_iff.1 atVariant
      exact ⟨⟨Text.eqIgnoringCase_iff.1 operates, fingerprint, variant⟩, Option.some.inj found⟩
    · cases found
  · rintro ⟨applies, rfl⟩
    rw [if_pos (Text.eqIgnoringCase_iff.2 applies.operation),
      fingerprintWeight?_eq_some_iff.2 ⟨applies.fingerprint, rfl⟩,
      variantWeight?_eq_some_iff.2 ⟨applies.variant, rfl⟩]
    rfl

theorem specificity?_eq_none_iff : e.specificity? fingerprintId variant operation = none ↔
    ¬e.Applies fingerprintId variant operation := by
  simp [Option.eq_none_iff_forall_ne_some, specificity?_eq_some_iff]

end CapabilityEntry

namespace CapabilityMap

variable {fingerprintId variant operation : String} {e x y : CapabilityEntry} {w : Nat}
  {entries before after : List CapabilityEntry} {best : Option (Nat × CapabilityEntry)}

/-- The entry that settles a question: it applies, none that applies outranks it, and it outranks each
that applies and was declared after it. -/
def Settles (m : CapabilityMap) (fingerprintId variant operation : String) (e : CapabilityEntry) : Prop :=
  ∃ before after, m.entries = before ++ e :: after ∧ e.Applies fingerprintId variant operation ∧
    (∀ x ∈ m.entries, x.Applies fingerprintId variant operation → ¬x.Outranks e) ∧
    ∀ x ∈ after, x.Applies fingerprintId variant operation → e.Outranks x

theorem below_iff : Below fingerprintId variant operation w entries ↔
    ∀ x ∈ entries, x.Applies fingerprintId variant operation → x.weight < w := by
  simp [Below, CapabilityEntry.specificity?_eq_some_iff]

theorem decides_iff_settles {m : CapabilityMap} :
    m.Decides fingerprintId variant operation e ↔ m.Settles fingerprintId variant operation e := by
  constructor
  · rintro ⟨w, before, after, split, found, upTo, below⟩
    obtain ⟨applies, rfl⟩ := CapabilityEntry.specificity?_eq_some_iff.1 found
    refine ⟨before, after, split, applies, fun x member applies' outranks => ?_, fun x member applies' => ?_⟩
    · have less := CapabilityEntry.outranks_iff.1 outranks
      rw [split, List.mem_append, List.mem_cons] at member
      rcases member with member | rfl | member
      · have := below_iff.1 upTo x member applies'
        omega
      · omega
      · have := below_iff.1 below x member applies'
        omega
    · exact CapabilityEntry.outranks_iff.2 (below_iff.1 below x member applies')
  · rintro ⟨before, after, split, applies, most, last⟩
    refine ⟨e.weight, before, after, split, CapabilityEntry.specificity?_eq_some_iff.2 ⟨applies, rfl⟩,
      below_iff.2 fun x member applies' => ?_, below_iff.2 fun x member applies' => ?_⟩
    · have upTo := most x (split ▸ List.mem_append_left _ member) applies'
      rw [CapabilityEntry.outranks_iff] at upTo
      omega
    · exact CapabilityEntry.outranks_iff.1 (last x member applies')

theorem decideFrom_append (entries later : List CapabilityEntry) :
    decideFrom fingerprintId variant operation best (entries ++ later) =
      decideFrom fingerprintId variant operation (decideFrom fingerprintId variant operation best entries)
        later := by
  induction entries generalizing best with
  | nil => rfl
  | cons head tail ih => simp only [List.cons_append, decideFrom, ih]

theorem decideFrom_eq_none_iff : decideFrom fingerprintId variant operation best entries = none ↔
    best = none ∧ ∀ x ∈ entries, ¬x.Applies fingerprintId variant operation := by
  induction entries generalizing best with
  | nil => simp [decideFrom]
  | cons head tail ih =>
    rw [List.forall_mem_cons, ← CapabilityEntry.specificity?_eq_none_iff]
    rcases decideFrom_cons fingerprintId variant operation best head tail with
      ⟨stays, same⟩ | ⟨w, found, -, same⟩
    · have silent : best = none → head.specificity? fingerprintId variant operation = none := by
        rintro rfl
        refine Option.eq_none_iff_forall_ne_some.2 fun w found => ?_
        obtain ⟨held, member, -⟩ := stays w found
        cases member
      rw [same, ih]
      constructor
      · rintro ⟨first, rest⟩
        exact ⟨first, silent first, rest⟩
      · rintro ⟨first, -, rest⟩
        exact ⟨first, rest⟩
    · simp [same, ih, found]

/-- Neighbours that weigh differently, or of which one does not apply, may stand either way round: at most
one of them can be held after both. -/
theorem decideFrom_swap
    (apart : x.specificity? fingerprintId variant operation = none ∨
      y.specificity? fingerprintId variant operation = none ∨
      x.specificity? fingerprintId variant operation ≠ y.specificity? fingerprintId variant operation) :
    decideFrom fingerprintId variant operation best [x, y] =
      decideFrom fingerprintId variant operation best [y, x] := by
  cases ofX : x.specificity? fingerprintId variant operation with
  | none => simp only [decideFrom, ofX]
  | some w =>
    cases ofY : y.specificity? fingerprintId variant operation with
    | none => simp only [decideFrom, ofX, ofY]
    | some v =>
      have differ : w ≠ v := by simpa [ofX, ofY] using apart
      cases best with
      | none =>
        simp only [decideFrom, ofX, ofY]
        grind
      | some held =>
        simp only [decideFrom, ofX, ofY]
        grind

end CapabilityMap

section anchors

variable {e : CapabilityEntry} {fingerprintId : String} {anchors anchors' : NameSet}

theorem Capability.mem_missing_ofEntry {name : String} :
    name ∈ (ofEntry fingerprintId e anchors).source.missing ↔
      name ∈ e.requiredAnchors ∧ name ∉ anchors := by
  by_cases holds : (e.available && (e.requiredAnchors.filter fun a => !anchors.contains a).toList.isEmpty) = true
  · rw [ofEntry, if_pos holds]
    simp [NameSet.contains]
  · rw [ofEntry, if_neg holds]
    simp [NameSet.contains]

theorem CapabilityEntry.Met.mono (met : e.Met anchors) (more : ∀ a ∈ anchors, a ∈ anchors') : e.Met anchors' :=
  ⟨met.1, fun a required => more a (met.2 a required)⟩

/-- The answer of an entry that holds does not tell what was found beyond what it requires. -/
theorem Capability.ofEntry_eq_of_met (met : e.Met anchors) (met' : e.Met anchors') :
    ofEntry fingerprintId e anchors' = ofEntry fingerprintId e anchors := by
  have holds := CapabilityEntry.met_iff.1 met
  have holds' := CapabilityEntry.met_iff.1 met'
  rw [ofEntry, ofEntry, if_pos holds, if_pos holds']
  rw [Bool.and_eq_true, List.isEmpty_iff] at holds holds'
  rw [holds.2, holds'.2]

end anchors

namespace CapabilityMap

variable {m : CapabilityMap} {fingerprint : Fingerprint} {fingerprintId variant operation : String}
  {e x y : CapabilityEntry} {before after : List CapabilityEntry} {anchors anchors' : NameSet} {isMutation : Bool}

theorem lookup_congr {m' : CapabilityMap}
    (same : m'.deciding? fingerprint.id variant operation = m.deciding? fingerprint.id variant operation) :
    m'.lookup fingerprint variant operation anchors = m.lookup fingerprint variant operation anchors := by
  rw [lookup, lookup, same]

/-- A later declaration changes nothing unless it applies and is not outranked by what settled the
question. -/
theorem deciding?_append (m : CapabilityMap) (e : CapabilityEntry) (fingerprintId variant operation : String) :
    (CapabilityMap.mk (m.entries ++ [e])).deciding? fingerprintId variant operation =
        m.deciding? fingerprintId variant operation ∨
      e.Applies fingerprintId variant operation ∧
        ∀ held, m.Settles fingerprintId variant operation held → ¬held.Outranks e := by
  rw [deciding?, deciding?, decideFrom_append]
  rcases decideFrom_cons fingerprintId variant operation
      (decideFrom fingerprintId variant operation none m.entries) e [] with
    ⟨-, same⟩ | ⟨w, found, overtakes, -⟩
  · rw [same]
    exact .inl rfl
  · obtain ⟨applies, rfl⟩ := CapabilityEntry.specificity?_eq_some_iff.1 found
    refine .inr ⟨applies, fun held settles outranks => ?_⟩
    obtain ⟨v, leads⟩ := decides_iff_settles.2 settles
    have holds : decideFrom fingerprintId variant operation none m.entries = some (v, held) :=
      decideFrom_eq_some_iff.2 (.inr ⟨by simp, leads⟩)
    have most : v ≤ e.weight := overtakes (v, held) holds
    obtain ⟨_, _, _, ofHeld, -⟩ := leads
    obtain ⟨-, rfl⟩ := CapabilityEntry.specificity?_eq_some_iff.1 ofHeld
    exact absurd (CapabilityEntry.outranks_iff.1 outranks) (Nat.not_lt_of_le most)

theorem deciding?_swap
    (apart : x.Outranks y ∨ y.Outranks x ∨ ¬x.Applies fingerprintId variant operation ∨
      ¬y.Applies fingerprintId variant operation) :
    (CapabilityMap.mk (before ++ y :: x :: after)).deciding? fingerprintId variant operation =
      (CapabilityMap.mk (before ++ x :: y :: after)).deciding? fingerprintId variant operation := by
  have differ : y.specificity? fingerprintId variant operation = none ∨
      x.specificity? fingerprintId variant operation = none ∨
      y.specificity? fingerprintId variant operation ≠ x.specificity? fingerprintId variant operation := by
    rw [CapabilityEntry.specificity?_eq_none_iff, CapabilityEntry.specificity?_eq_none_iff]
    by_cases ofX : x.Applies fingerprintId variant operation
    · by_cases ofY : y.Applies fingerprintId variant operation
      · rw [CapabilityEntry.specificity?_eq_some_iff.2 ⟨ofX, rfl⟩,
          CapabilityEntry.specificity?_eq_some_iff.2 ⟨ofY, rfl⟩]
        rw [CapabilityEntry.outranks_iff, CapabilityEntry.outranks_iff] at apart
        have : y.weight ≠ x.weight := by
          rcases apart with less | less | not | not
          · omega
          · omega
          · exact absurd ofX not
          · exact absurd ofY not
        exact .inr (.inr fun same => this (Option.some.inj same))
      · exact .inl ofY
    · exact .inr (.inl ofX)
  have split (one other : CapabilityEntry) :
      before ++ one :: other :: after = before ++ ([one, other] ++ after) := rfl
  rw [deciding?, deciding?, split, split, decideFrom_append, decideFrom_append, decideFrom_append,
    decideFrom_append, decideFrom_swap differ]

/-- What is missed under more anchors was missed under fewer. -/
theorem missing_subset (more : ∀ a ∈ anchors, a ∈ anchors') :
    (m.lookup fingerprint variant operation anchors').source.missing ⊆
      (m.lookup fingerprint variant operation anchors).source.missing := by
  rw [lookup, lookup]
  cases m.deciding? fingerprint.id variant operation with
  | none => exact List.Subset.refl _
  | some e =>
    intro a missed
    obtain ⟨required, absent⟩ := Capability.mem_missing_ofEntry.1 missed
    exact Capability.mem_missing_ofEntry.2 ⟨required, fun found => absent (more a found)⟩

/-- An answer on which the guard lets an operation pass is the answer under more anchors too. -/
theorem lookup_eq_of_allowed (more : ∀ a ∈ anchors, a ∈ anchors')
    (allowed : (Decision.ofCapability (m.lookup fingerprint variant operation anchors) isMutation).allowed = true) :
    m.lookup fingerprint variant operation anchors' = m.lookup fingerprint variant operation anchors := by
  rcases @guard_cases m fingerprint variant operation anchors isMutation with
    ⟨-, e, decides, met, -⟩ | ⟨denied, -⟩
  · have decided := deciding?_eq_some_iff.2 decides
    rw [lookup, lookup, decided]
    exact Capability.ofEntry_eq_of_met met (met.mono more)
  · rw [denied] at allowed
    cases allowed

theorem deciding?_eq_none_iff : m.deciding? fingerprintId variant operation = none ↔
    ∀ x ∈ m.entries, ¬x.Applies fingerprintId variant operation := by
  simp [deciding?, decideFrom_eq_none_iff]

/-- The most specific of the entries that apply settles a question, and of equally specific ones the last;
nothing is known only where none applies. A further declaration changes an answer only if it applies and
the entry that settled the question does not outrank it. Neighbours of which one outranks the other or does
not apply may change places. Further anchors leave no more missing, and leave an answer alone on which the
guard lets the operation pass. -/
theorem lookup_most_specific (m : CapabilityMap) (fingerprint : Fingerprint) (variant operation : String) :
    ((∃ e, m.Settles fingerprint.id variant operation e ∧
        ∀ anchors, m.lookup fingerprint variant operation anchors = .ofEntry fingerprint.id e anchors) ∨
      (∀ e ∈ m.entries, ¬e.Applies fingerprint.id variant operation) ∧
        ∀ anchors, m.lookup fingerprint variant operation anchors = .undeclared fingerprint.id) ∧
    (∀ e, m.deciding? fingerprint.id variant operation = some e ↔
      m.Settles fingerprint.id variant operation e) ∧
    (∀ e anchors,
      (CapabilityMap.mk (m.entries ++ [e])).lookup fingerprint variant operation anchors ≠
        m.lookup fingerprint variant operation anchors →
      e.Applies fingerprint.id variant operation ∧
        ∀ held, m.Settles fingerprint.id variant operation held → ¬held.Outranks e) ∧
    (∀ before x y after anchors, m.entries = before ++ x :: y :: after →
      x.Outranks y ∨ y.Outranks x ∨ ¬x.Applies fingerprint.id variant operation ∨
        ¬y.Applies fingerprint.id variant operation →
      (CapabilityMap.mk (before ++ y :: x :: after)).lookup fingerprint variant operation anchors =
        m.lookup fingerprint variant operation anchors) ∧
    ∀ anchors anchors' : NameSet, (∀ a ∈ anchors, a ∈ anchors') →
      (m.lookup fingerprint variant operation anchors').source.missing ⊆
        (m.lookup fingerprint variant operation anchors).source.missing ∧
      ∀ isMutation,
        (Decision.ofCapability (m.lookup fingerprint variant operation anchors) isMutation).allowed = true →
        (Decision.ofCapability (m.lookup fingerprint variant operation anchors') isMutation).allowed = true ∧
          m.lookup fingerprint variant operation anchors' = m.lookup fingerprint variant operation anchors := by
  refine ⟨?_, fun e => deciding?_eq_some_iff.trans decides_iff_settles, fun e anchors changed => ?_,
    fun before x y after anchors split apart => ?_,
    fun anchors anchors' more => ⟨missing_subset more, fun isMutation allowed => ?_⟩⟩
  · cases decided : m.deciding? fingerprint.id variant operation with
    | none =>
      exact .inr ⟨deciding?_eq_none_iff.1 decided, fun anchors => by rw [lookup, decided]⟩
    | some e =>
      have settles := decides_iff_settles.1 (deciding?_eq_some_iff.1 decided)
      exact .inl ⟨e, settles, fun anchors => by rw [lookup, decided]⟩
  · rcases deciding?_append m e fingerprint.id variant operation with same | overtakes
    · exact absurd (lookup_congr same) changed
    · exact overtakes
  · obtain rfl : m = ⟨before ++ x :: y :: after⟩ := by rw [← split]
    exact lookup_congr (deciding?_swap apart)
  · have same := lookup_eq_of_allowed more allowed
    exact ⟨same ▸ allowed, same⟩

/-- Credits are experimental everywhere, and verified on one binary where their anchor is found. -/
def creditsByBinary : CapabilityMap := ⟨[
  ((CapabilityEntry.plain "Set_Credits" .verified).forFingerprint "steam_1").requiring ["Credits"],
  .plain "set_credits" .experimental]⟩

def steam : Fingerprint := ⟨"steam_1", "", "StarWarsG.exe", 0, none⟩

theorem lookup_most_specific_credits :
    (creditsByBinary.lookup steam "swfoc" "set_credits" (.ofList ["credits"])).state = .verified ∧
      creditsByBinary.lookup steam "swfoc" "set_credits" (.ofList ["credits", "hp"]) =
        creditsByBinary.lookup steam "swfoc" "set_credits" (.ofList ["credits"]) ∧
      (CapabilityMap.mk creditsByBinary.entries.reverse).lookup steam "swfoc" "set_credits" (.ofList ["credits"]) =
        creditsByBinary.lookup steam "swfoc" "set_credits" (.ofList ["credits"]) := by
  obtain ⟨-, -, -, swap, anchors⟩ := lookup_most_specific creditsByBinary steam "swfoc" "set_credits"
  have grown := anchors (.ofList ["credits"]) (.ofList ["credits", "hp"]) (by simp)
  exact ⟨by decide, (grown.2 true (by decide)).2,
    swap [] _ _ [] (.ofList ["credits"]) rfl (.inl (.inl ⟨by decide, by decide⟩))⟩

end CapabilityMap
end LiveControl
