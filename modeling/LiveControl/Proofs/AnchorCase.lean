import LiveControl.Proofs.AnchorForms
import LiveControl.Proofs.CapabilityOrder
import Mathlib.Data.List.Forall2

namespace LiveControl

namespace Anchors

/-- The names differ at most in the case of A to Z. -/
def Alike (name name' : String) : Prop := Text.asciiLower name = Text.asciiLower name'

/-- The values spell out the same names, each in a case of its own. -/
def SpelledAlike (value value' : Json) : Prop :=
  (∀ name, Spells value name → ∃ name', Spells value' name' ∧ Alike name name') ∧
    ∀ name', Spells value' name' → ∃ name, Spells value name ∧ Alike name name'

variable {name name' n : String} {value value' : Json}

theorem spelledAlike_refl (value : Json) : SpelledAlike value value :=
  ⟨fun name spells => ⟨name, spells, rfl⟩, fun name spells => ⟨name, spells, rfl⟩⟩

theorem normalName?_congr (alike : Alike name name') : normalName? name = normalName? name' := by
  have lowered (name n : String) : normalName? name = some n ↔
      Text.trim (Text.asciiLower name) ≠ "" ∧ Text.trim (Text.asciiLower name) = n := by
    rw [normalName?_eq_some_iff, ← Text.asciiLower_trim, ne_eq, ne_eq, Text.asciiLower_eq_empty_iff]
  refine Option.ext fun n => ?_
  rw [lowered, lowered, alike]

theorem Normal.eq (normal : Normal name) (normal' : Normal name') (alike : Alike name name') : name = name' := by
  have small := Text.asciiLower_eq_self_iff.2 normal.small
  have small' := Text.asciiLower_eq_self_iff.2 normal'.small
  rw [← small, alike, small']

/-- An anchor is found under every name that is alike. -/
theorem mem_ofLoose_of_alike (spells : Spells value name) (alike : Alike name n) (normal : Normal n) :
    n ∈ ofLoose value := by
  have found : normalName? name = some n := by
    rw [normalName?_congr alike, normalName?_eq_self_iff.2 normal]
  exact mem_ofLoose_iff.2 ⟨name, spells, found⟩

theorem ofLoose_eq_of_alike (alike : SpelledAlike value value') : ofLoose value = ofLoose value' := by
  refine NameSet.ext fun n => ?_
  rw [mem_ofLoose_iff, mem_ofLoose_iff]
  constructor
  · rintro ⟨name, spells, found⟩
    obtain ⟨name', spells', same⟩ := alike.1 name spells
    rw [normalName?_congr same] at found
    exact ⟨name', spells', found⟩
  · rintro ⟨name', spells', found⟩
    obtain ⟨name, spells, same⟩ := alike.2 name' spells'
    rw [← normalName?_congr same] at found
    exact ⟨name, spells, found⟩

theorem opensList_asciiLower_iff (text : String) : OpensList (Text.asciiLower text) ↔ OpensList text := by
  have passes : (fun c => !Text.isBlank c) ∘ Char.toLower = fun c => !Text.isBlank c :=
    funext fun c => by rw [Function.comp_apply, Text.isBlank_toLower]
  rw [OpensList, OpensList, Text.toList_asciiLower, List.find?_map, passes]
  simp only [Option.map_eq_some_iff, Text.toLower_eq_iff (by decide : '['.isAlpha = false), exists_eq_right]

theorem exists_piece_alike {text text' : String} (alike : Alike text text') {piece : List Char}
    (cut : piece ∈ Text.pieces ',' text.toList) :
    ∃ piece' ∈ Text.pieces ',' text'.toList, Alike (String.ofList piece) (String.ofList piece') := by
  have lowered (text : String) : (Text.pieces ',' text.toList).map (List.map Char.toLower) =
      Text.pieces ',' (Text.asciiLower text).toList := by
    rw [Text.toList_asciiLower, Text.pieces_map_toLower (by decide)]
  have member : piece.map Char.toLower ∈ (Text.pieces ',' text.toList).map (List.map Char.toLower) :=
    List.mem_map_of_mem cut
  rw [lowered, alike, ← lowered] at member
  obtain ⟨piece', cut', same⟩ := List.mem_map.1 member
  refine ⟨piece', cut', ?_⟩
  rw [Alike, Text.asciiLower, Text.asciiLower, String.toList_ofList, String.toList_ofList, same]

/-- Names between commas are spelled alike if the texts are. -/
theorem spelledAlike_text {text text' : String} (plain : ¬OpensList text) (alike : Alike text text') :
    SpelledAlike (.str text) (.str text') := by
  have plain' : ¬OpensList text' := by
    rwa [← opensList_asciiLower_iff, ← alike, opensList_asciiLower_iff]
  constructor
  · intro name spells
    cases spells with
    | document opens => exact absurd opens plain
    | piece _ cut =>
      obtain ⟨piece', cut', same⟩ := exists_piece_alike alike cut
      exact ⟨_, .piece plain' cut', same⟩
  · intro name' spells
    cases spells with
    | document opens => exact absurd opens plain'
    | piece _ cut =>
      obtain ⟨piece, cut', same⟩ := exists_piece_alike alike.symm cut
      exact ⟨_, .piece plain cut', same.symm⟩

end Anchors

namespace CapabilityEntry

/-- The entries differ at most in the case in which they spell what they require. -/
structure RequiresAlike (e e' : CapabilityEntry) : Prop where
  rest : e' = { e with requiredAnchors := e'.requiredAnchors }
  left : ∀ a ∈ e.requiredAnchors, ∃ a' ∈ e'.requiredAnchors, Anchors.Alike a a'
  right : ∀ a' ∈ e'.requiredAnchors, ∃ a ∈ e.requiredAnchors, Anchors.Alike a a'

/-- Whatever the entry requires has the form in which anchors are found. -/
def Meetable (e : CapabilityEntry) : Prop := ∀ a ∈ e.requiredAnchors, Anchors.Normal a

variable {e e' : CapabilityEntry} {value : Json}

theorem requiresAlike_refl (e : CapabilityEntry) : e.RequiresAlike e :=
  ⟨rfl, fun a required => ⟨a, required, rfl⟩, fun a required => ⟨a, required, rfl⟩⟩

theorem RequiresAlike.eq (alike : e.RequiresAlike e') (meetable : e.Meetable) (meetable' : e'.Meetable) : e = e' := by
  have same : e.requiredAnchors = e'.requiredAnchors := by
    refine NameSet.ext fun a => ⟨fun required => ?_, fun required => ?_⟩
    · obtain ⟨a', required', close⟩ := alike.left a required
      rwa [(meetable a required).eq (meetable' a' required') close]
    · obtain ⟨a', required', close⟩ := alike.right a required
      rwa [← (meetable a' required').eq (meetable' a required) close]
  rw [alike.rest, ← same]

theorem RequiresAlike.specificity? (alike : e.RequiresAlike e') (fingerprintId variant operation : String) :
    e'.specificity? fingerprintId variant operation = e.specificity? fingerprintId variant operation := by
  rw [alike.rest]
  rfl

theorem Met.meetable (met : e.Met (Anchors.ofLoose value)) : e.Meetable :=
  fun a required => Anchors.normal_of_mem_ofLoose (met.2 a required)

/-- The value mentions all that the entry requires, each in some case. -/
def Mentioned (e : CapabilityEntry) (value : Json) : Prop :=
  ∀ a ∈ e.requiredAnchors, ∃ name, Anchors.Spells value name ∧ Anchors.Alike name a

theorem Meetable.met (meetable : e.Meetable) (available : e.available = true) (mentioned : e.Mentioned value) :
    e.Met (Anchors.ofLoose value) := by
  refine ⟨available, fun a required => ?_⟩
  obtain ⟨name, spells, alike⟩ := mentioned a required
  exact Anchors.mem_ofLoose_of_alike spells alike (meetable a required)

theorem mentioned_ofNames (e : CapabilityEntry) : e.Mentioned (.ofNames e.requiredAnchors.toList) :=
  fun a required => ⟨a, Anchors.spells_ofNames.2 (NameSet.mem_toList.2 required), rfl⟩

theorem requiring_congr {names names' : List String} (alike : names.map Text.asciiLower = names'.map Text.asciiLower) :
    e.requiring names = e.requiring names' := by
  rw [requiring, requiring, alike]

theorem meetable_requiring {names : List String} (snug : ∀ name ∈ names, name ≠ "" ∧ Text.trim name = name) :
    (e.requiring names).Meetable := by
  intro a required
  obtain ⟨name, member, rfl⟩ : ∃ name ∈ names, Text.asciiLower name = a := by simpa [requiring] using required
  obtain ⟨filled, trimmed⟩ := snug name member
  refine ⟨mt Text.asciiLower_eq_empty_iff.1 filled, ?_, Text.asciiLower_eq_self_iff.1 (Text.asciiLower_asciiLower _)⟩
  rw [← Text.asciiLower_trim, trimmed]

end CapabilityEntry

namespace Capability

/-- Both answers have the same state and reason. -/
def Agrees (c c' : Capability) : Prop := c.state = c'.state ∧ c.reason = c'.reason

variable {e e' : CapabilityEntry} {fingerprintId : String}

theorem agrees_of_not_met {anchors anchors' : NameSet} (unmet : ¬e.Met anchors) (unmet' : ¬e'.Met anchors') :
    (ofEntry fingerprintId e anchors).Agrees (ofEntry fingerprintId e' anchors') := by
  obtain ⟨state, reason⟩ := ofEntry_of_not_met unmet fingerprintId
  obtain ⟨state', reason'⟩ := ofEntry_of_not_met unmet' fingerprintId
  exact ⟨state.trans state'.symm, reason.trans reason'.symm⟩

theorem agrees_of_meetable_iff (alike : e.RequiresAlike e') (both : e.available = true → (e.Meetable ↔ e'.Meetable))
    (value : Json) :
    (ofEntry fingerprintId e (Anchors.ofLoose value)).Agrees (ofEntry fingerprintId e' (Anchors.ofLoose value)) := by
  have available : e'.available = e.available := by rw [alike.rest]
  by_cases meets : e.available = true ∧ e.Meetable
  · rw [alike.eq meets.2 ((both meets.1).1 meets.2)]
    exact ⟨rfl, rfl⟩
  · refine agrees_of_not_met (fun met => meets ⟨met.1, met.meetable⟩) fun met => ?_
    have holds : e.available = true := available ▸ met.1
    exact meets ⟨holds, (both holds).2 met.meetable⟩

theorem met_of_ofEntry_reason {anchors : NameSet} (reason : (ofEntry fingerprintId e anchors).reason = .probePass) :
    e.Met anchors := by
  by_contra unmet
  rw [(ofEntry_of_not_met unmet fingerprintId).2] at reason
  cases reason

theorem meetable_of_agrees (available : e.available = true) (meetable : e.Meetable)
    (agrees : ∀ value, (ofEntry fingerprintId e (Anchors.ofLoose value)).Agrees
      (ofEntry fingerprintId e' (Anchors.ofLoose value))) : e'.Meetable := by
  have met := meetable.met available e.mentioned_ofNames
  have reason := (agrees (.ofNames e.requiredAnchors.toList)).2
  rw [(ofEntry_of_met met fingerprintId).2] at reason
  exact (met_of_ofEntry_reason reason.symm).meetable

end Capability

namespace CapabilityMap

/-- The declarations of both maps differ at most in the case in which they spell what they require. -/
def RequiresAlike (m m' : CapabilityMap) : Prop := List.Forall₂ CapabilityEntry.RequiresAlike m.entries m'.entries

variable {m m' : CapabilityMap} {fingerprint : Fingerprint} {fingerprintId variant operation : String}
  {e e' : CapabilityEntry}

theorem requiresAlike_refl (m : CapabilityMap) : m.RequiresAlike m :=
  List.forall₂_same.2 fun e _ => e.requiresAlike_refl

/-- The search reads nothing of what the entries require. -/
theorem decideFrom_alike (fingerprintId variant operation : String) {entries entries' : List CapabilityEntry}
    (alike : List.Forall₂ CapabilityEntry.RequiresAlike entries entries') {best best' : Option (Nat × CapabilityEntry)}
    (held : Option.Rel (fun x x' => x.1 = x'.1 ∧ x.2.RequiresAlike x'.2) best best') :
    Option.Rel (fun x x' => x.1 = x'.1 ∧ x.2.RequiresAlike x'.2)
      (decideFrom fingerprintId variant operation best entries)
      (decideFrom fingerprintId variant operation best' entries') := by
  -- The searches carry the best entries so far, so the induction is for whatever both hold.
  induction alike generalizing best best' with
  | nil => exact held
  | @cons head head' _ _ same _ ih =>
    have weighed := same.specificity? fingerprintId variant operation
    cases found : head.specificity? fingerprintId variant operation with
    | none =>
      simp only [decideFrom, weighed, found]
      exact ih held
    | some weight =>
      cases held with
      | none =>
        simp only [decideFrom, weighed, found]
        exact ih (.some ⟨rfl, same⟩)
      | some pair =>
        simp only [decideFrom, weighed, found, ← pair.1]
        split
        · exact ih (.some ⟨rfl, same⟩)
        · exact ih (.some ⟨rfl, pair.2⟩)

theorem deciding?_alike (alike : m.RequiresAlike m') (fingerprintId variant operation : String) :
    Option.Rel CapabilityEntry.RequiresAlike (m.deciding? fingerprintId variant operation)
      (m'.deciding? fingerprintId variant operation) := by
  have found := decideFrom_alike fingerprintId variant operation alike .none
  rw [deciding?, deciding?]
  generalize decideFrom fingerprintId variant operation none m.entries = decided at found ⊢
  generalize decideFrom fingerprintId variant operation none m'.entries = decided' at found ⊢
  cases found with
  | none => exact .none
  | some pair => exact .some pair.2

theorem lookup_of_settles (settles : m.Settles fingerprint.id variant operation e) (anchors : NameSet) :
    m.lookup fingerprint variant operation anchors = .ofEntry fingerprint.id e anchors := by
  rw [lookup, deciding?_eq_some_iff.2 (decides_iff_settles.2 settles)]

theorem settles_iff : m.deciding? fingerprintId variant operation = some e ↔
    m.Settles fingerprintId variant operation e :=
  deciding?_eq_some_iff.trans decides_iff_settles

theorem RequiresAlike.of_settles (alike : m.RequiresAlike m') (settles : m.Settles fingerprintId variant operation e)
    (settles' : m'.Settles fingerprintId variant operation e') : e.RequiresAlike e' := by
  have found := deciding?_alike alike fingerprintId variant operation
  rw [settles_iff.2 settles, settles_iff.2 settles'] at found
  cases found with
  | some same => exact same

/-- Two maps that spell their requirements alike agree on every value exactly if the entries that settle the
question can both be met or neither can. -/
theorem agrees_iff (alike : m.RequiresAlike m') :
    (∀ value, (m.lookup fingerprint variant operation (Anchors.ofLoose value)).Agrees
        (m'.lookup fingerprint variant operation (Anchors.ofLoose value))) ↔
      ∀ e e', m.Settles fingerprint.id variant operation e → m'.Settles fingerprint.id variant operation e' →
        e.available = true → (e.Meetable ↔ e'.Meetable) := by
  constructor
  · intro agrees e e' settles settles' available
    have same := alike.of_settles settles settles'
    have available' : e'.available = true := by rw [same.rest, ← available]
    have agrees (value : Json) := by
      simpa only [lookup_of_settles settles, lookup_of_settles settles'] using agrees value
    exact ⟨fun meetable => Capability.meetable_of_agrees available meetable agrees,
      fun meetable => Capability.meetable_of_agrees available' meetable
        fun value => ⟨(agrees value).1.symm, (agrees value).2.symm⟩⟩
  · intro both value
    have found := deciding?_alike alike fingerprint.id variant operation
    rw [lookup, lookup]
    generalize decided : m.deciding? fingerprint.id variant operation = first at found
    generalize decided' : m'.deciding? fingerprint.id variant operation = second at found
    cases found with
    | none => exact ⟨rfl, rfl⟩
    | some same =>
      have both := both _ _ (settles_iff.1 decided) (settles_iff.1 decided')
      exact Capability.agrees_of_meetable_iff same both value

/-- An anchor that is required counts as found under every name that is alike exactly if it is required in
normal form. -/
theorem never_missing_iff (settles : m.Settles fingerprint.id variant operation e) {a : String}
    (required : a ∈ e.requiredAnchors) :
    (∀ value name, Anchors.Spells value name → Anchors.Alike name a →
      a ∉ (m.lookup fingerprint variant operation (Anchors.ofLoose value)).source.missing) ↔ Anchors.Normal a := by
  simp only [lookup_of_settles settles, Capability.mem_missing_ofEntry, not_and, not_not]
  constructor
  · intro found
    have member := found (.ofNames [a]) a (Anchors.spells_ofNames.2 (List.mem_singleton_self a)) rfl required
    exact Anchors.normal_of_mem_ofLoose member
  · intro normal value name spells alike _
    exact Anchors.mem_ofLoose_of_alike spells alike normal

theorem holds_iff (settles : m.Settles fingerprint.id variant operation e) (available : e.available = true) :
    (∀ value, e.Mentioned value →
      (m.lookup fingerprint variant operation (Anchors.ofLoose value)).state = e.state ∧
        (m.lookup fingerprint variant operation (Anchors.ofLoose value)).reason = .probePass) ↔ e.Meetable := by
  simp only [lookup_of_settles settles]
  constructor
  · intro holds
    exact (Capability.met_of_ofEntry_reason (holds _ e.mentioned_ofNames).2).meetable
  · intro meetable value mentioned
    exact Capability.ofEntry_of_met (meetable.met available mentioned) fingerprint.id

/-- In which case a value spells its names changes no answer. In which case a map spells its requirements
changes none exactly if the entries that settle the question can both be met or neither can, and a required
anchor is found in any case exactly if it is required in normal form. So it is, for names in any case, with
the entries that were built from names without blanks around them. -/
theorem lookup_ignores_case_iff (alike : m.RequiresAlike m') (fingerprint : Fingerprint)
    (variant operation : String) :
    (∀ value value', Anchors.SpelledAlike value value' →
      m.lookup fingerprint variant operation (Anchors.ofLoose value) =
        m.lookup fingerprint variant operation (Anchors.ofLoose value')) ∧
    ((∀ value value', Anchors.SpelledAlike value value' →
        (m.lookup fingerprint variant operation (Anchors.ofLoose value)).Agrees
          (m'.lookup fingerprint variant operation (Anchors.ofLoose value'))) ↔
      ∀ e e', m.Settles fingerprint.id variant operation e → m'.Settles fingerprint.id variant operation e' →
        e.available = true → (e.Meetable ↔ e'.Meetable)) ∧
    (∀ e, m.Settles fingerprint.id variant operation e →
      (∀ a ∈ e.requiredAnchors,
        (∀ value name, Anchors.Spells value name → Anchors.Alike name a →
          a ∉ (m.lookup fingerprint variant operation (Anchors.ofLoose value)).source.missing) ↔
        Anchors.Normal a) ∧
      (e.available = true →
        ((∀ value, e.Mentioned value →
          (m.lookup fingerprint variant operation (Anchors.ofLoose value)).state = e.state ∧
            (m.lookup fingerprint variant operation (Anchors.ofLoose value)).reason = .probePass) ↔ e.Meetable))) ∧
    ∀ (e : CapabilityEntry) (names names' : List String), names.map Text.asciiLower = names'.map Text.asciiLower →
      e.requiring names = e.requiring names' ∧
        ((∀ name ∈ names, name ≠ "" ∧ Text.trim name = name) → (e.requiring names).Meetable) := by
  have context (value value' : Json) (same : Anchors.SpelledAlike value value') :
      m.lookup fingerprint variant operation (Anchors.ofLoose value) =
        m.lookup fingerprint variant operation (Anchors.ofLoose value') := by
    rw [Anchors.ofLoose_eq_of_alike same]
  refine ⟨context, Iff.trans ?_ (agrees_iff alike),
    fun e settles => ⟨fun a => never_missing_iff settles, holds_iff settles⟩,
    fun e names names' same => ⟨CapabilityEntry.requiring_congr same, CapabilityEntry.meetable_requiring⟩⟩
  constructor
  · intro agrees value
    exact agrees value value (Anchors.spelledAlike_refl value)
  · intro agrees value value' same
    rw [← Anchors.ofLoose_eq_of_alike same]
    exact agrees value

/-- The entry for credits that names the binary. -/
def creditsOnSteam : CapabilityEntry :=
  ((CapabilityEntry.plain "Set_Credits" .verified).forFingerprint "steam_1").requiring ["Credits"]

theorem lookup_ignores_case_credits :
    creditsByBinary.lookup steam "swfoc" "set_credits" (Anchors.ofLoose (.str "CREDITS, hp")) =
        creditsByBinary.lookup steam "swfoc" "set_credits" (Anchors.ofLoose (.str "credits, HP")) ∧
      ∀ value name, Anchors.Spells value name → Anchors.Alike name "credits" →
        "credits" ∉ (creditsByBinary.lookup steam "swfoc" "set_credits" (Anchors.ofLoose value)).source.missing := by
  have same := creditsByBinary.requiresAlike_refl
  obtain ⟨context, -, found, -⟩ := lookup_ignores_case_iff same steam "swfoc" "set_credits"
  constructor
  · refine context _ _ (Anchors.spelledAlike_text ?_ ?_)
    · rw [Anchors.OpensList]
      decide
    · rw [Anchors.Alike]
      decide
  · have decided : creditsByBinary.deciding? steam.id "swfoc" "set_credits" = some creditsOnSteam := by decide
    have required : "credits" ∈ creditsOnSteam.requiredAnchors := by decide
    have normal : Anchors.Normal "credits" := ⟨by decide, by decide, Text.asciiLower_eq_self_iff.1 (by decide)⟩
    exact ((found creditsOnSteam (settles_iff.1 decided)).1 "credits" required).2 normal

/-- A declaration of credits as it stands in a document. -/
def creditsDocument (anchor : String) : Json := .obj [
  ("operation_id", .str "set_credits"), ("state", .str "verified"), ("required_anchors", .arr [.str anchor])]

def creditsEntry (anchor : String) : CapabilityEntry :=
  { CapabilityEntry.plain "set_credits" .verified with requiredAnchors := .ofList [anchor] }

theorem lookup_misses_capitals :
    ∃ m m', ofJson? (.arr [creditsDocument "Credits"]) = some m ∧
      ofJson? (.arr [creditsDocument "credits"]) = some m' ∧ m.RequiresAlike m' ∧
      (m.lookup steam "swfoc" "set_credits" (Anchors.ofLoose (.ofNames ["Credits"]))).state = .unavailable ∧
      (m.lookup steam "swfoc" "set_credits" (Anchors.ofLoose (.ofNames ["Credits"]))).reason = .requiredMissing ∧
      (m'.lookup steam "swfoc" "set_credits" (Anchors.ofLoose (.ofNames ["Credits"]))).state = .verified ∧
      (m'.lookup steam "swfoc" "set_credits" (Anchors.ofLoose (.ofNames ["Credits"]))).reason = .probePass := by
  have alike : (creditsEntry "Credits").RequiresAlike (creditsEntry "credits") := by
    refine ⟨rfl, fun a required => ⟨"credits", by decide, ?_⟩, fun a required => ⟨"Credits", by decide, ?_⟩⟩
    · obtain rfl : a = "Credits" := by simpa [creditsEntry] using required
      rw [Anchors.Alike]
      decide
    · obtain rfl : a = "credits" := by simpa [creditsEntry] using required
      rw [Anchors.Alike]
      decide
  refine ⟨⟨[creditsEntry "Credits"]⟩, ⟨[creditsEntry "credits"]⟩, by decide, by decide, .cons alike .nil, ?_⟩
  decide

end CapabilityMap
end LiveControl
