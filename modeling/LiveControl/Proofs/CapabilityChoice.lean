import LiveControl.Extension.Capability

namespace LiveControl

namespace CapabilityMap

variable {fingerprintId variant operation : String} {e head : CapabilityEntry} {weight : Nat}
  {entries before after tail : List CapabilityEntry} {best : Option (Nat × CapabilityEntry)}

/-- Those of the entries that apply do so less specifically. -/
def Below (fingerprintId variant operation : String) (weight : Nat) (entries : List CapabilityEntry) : Prop :=
  ∀ x ∈ entries, ∀ w, x.specificity? fingerprintId variant operation = some w → w < weight

theorem below_cons : Below fingerprintId variant operation weight (head :: tail) ↔
    (∀ w, head.specificity? fingerprintId variant operation = some w → w < weight) ∧
      Below fingerprintId variant operation weight tail :=
  List.forall_mem_cons

/-- An entry of that specificity stands among the entries, with none more specific before it and none as
specific after it. -/
def Leads (fingerprintId variant operation : String) (weight : Nat) (e : CapabilityEntry)
    (entries : List CapabilityEntry) : Prop :=
  ∃ before after, entries = before ++ e :: after ∧
    e.specificity? fingerprintId variant operation = some weight ∧
    Below fingerprintId variant operation (weight + 1) before ∧
    Below fingerprintId variant operation weight after

theorem leads_cons : Leads fingerprintId variant operation weight e (head :: tail) ↔
    head = e ∧ e.specificity? fingerprintId variant operation = some weight ∧
        Below fingerprintId variant operation weight tail ∨
      (∀ w, head.specificity? fingerprintId variant operation = some w → w ≤ weight) ∧
        Leads fingerprintId variant operation weight e tail := by
  constructor
  · rintro ⟨before, after, split, applies, upTo, below⟩
    cases before with
    | nil =>
      obtain ⟨rfl, rfl⟩ := List.cons_eq_cons.1 split
      exact .inl ⟨rfl, applies, below⟩
    | cons first before =>
      obtain ⟨rfl, rfl⟩ := List.cons_eq_cons.1 split
      obtain ⟨bound, upTo⟩ := below_cons.1 upTo
      exact .inr ⟨fun w found => Nat.le_of_lt_succ (bound w found), before, after, rfl, applies, upTo, below⟩
  · rintro (⟨rfl, applies, below⟩ | ⟨bound, before, after, rfl, applies, upTo, below⟩)
    · exact ⟨[], tail, rfl, applies, nofun, below⟩
    · exact ⟨head :: before, after, rfl, applies,
        below_cons.2 ⟨fun w found => Nat.lt_succ_of_le (bound w found), upTo⟩, below⟩

/-- The search passes over an entry that does not apply and over one that is less specific than what is
held; any other entry is held from there on. -/
theorem decideFrom_cons (fingerprintId variant operation : String) (best : Option (Nat × CapabilityEntry))
    (head : CapabilityEntry) (tail : List CapabilityEntry) :
    (∀ w, head.specificity? fingerprintId variant operation = some w → ∃ held ∈ best, w < held.1) ∧
        decideFrom fingerprintId variant operation best (head :: tail) =
          decideFrom fingerprintId variant operation best tail ∨
      ∃ w, head.specificity? fingerprintId variant operation = some w ∧ (∀ held ∈ best, held.1 ≤ w) ∧
        decideFrom fingerprintId variant operation best (head :: tail) =
          decideFrom fingerprintId variant operation (some (w, head)) tail := by
  cases found : head.specificity? fingerprintId variant operation with
  | none => exact .inl ⟨nofun, by simp only [decideFrom, found]⟩
  | some w =>
    by_cases overtakes : ∀ held ∈ best, held.1 ≤ w
    · refine .inr ⟨w, rfl, overtakes, ?_⟩
      cases best with
      | none => simp only [decideFrom, found]
      | some held => simp only [decideFrom, found, if_pos (overtakes held rfl)]
    · cases best with
      | none => exact absurd nofun overtakes
      | some held =>
        have less : ¬held.1 ≤ w := fun most => overtakes fun _ same => Option.mem_some.1 same ▸ most
        refine .inl ⟨fun _ same => ⟨held, rfl, ?_⟩, by simp only [decideFrom, found, if_neg less]⟩
        exact Option.some.inj same ▸ Nat.lt_of_not_le less

/-- What is held wins if no entry overtakes it; an entry wins if it leads and is no less specific than what
is held. -/
def Wins (fingerprintId variant operation : String) (best : Option (Nat × CapabilityEntry))
    (entries : List CapabilityEntry) (weight : Nat) (e : CapabilityEntry) : Prop :=
  best = some (weight, e) ∧ Below fingerprintId variant operation weight entries ∨
    (∀ held ∈ best, held.1 ≤ weight) ∧ Leads fingerprintId variant operation weight e entries

theorem wins_cons_of_stays
    (stays : ∀ w, head.specificity? fingerprintId variant operation = some w → ∃ held ∈ best, w < held.1) :
    Wins fingerprintId variant operation best (head :: tail) weight e ↔
      Wins fingerprintId variant operation best tail weight e := by
  rw [Wins, Wins, below_cons, leads_cons]
  constructor
  · rintro (⟨rfl, -, below⟩ | ⟨bound, ⟨rfl, applies, -⟩ | ⟨-, leads⟩⟩)
    · exact .inl ⟨rfl, below⟩
    · obtain ⟨held, member, less⟩ := stays weight applies
      exact absurd (bound held member) (Nat.not_le_of_lt less)
    · exact .inr ⟨bound, leads⟩
  · rintro (⟨rfl, below⟩ | ⟨bound, leads⟩)
    · refine .inl ⟨rfl, fun w found => ?_, below⟩
      obtain ⟨held, member, less⟩ := stays w found
      obtain rfl := Option.some.inj member
      exact less
    · refine .inr ⟨bound, .inr ⟨fun w found => ?_, leads⟩⟩
      obtain ⟨held, member, less⟩ := stays w found
      exact Nat.le_trans (Nat.le_of_lt less) (bound held member)

theorem wins_cons_of_overtakes {w : Nat}
    (found : head.specificity? fingerprintId variant operation = some w)
    (overtakes : ∀ held ∈ best, held.1 ≤ w) :
    Wins fingerprintId variant operation best (head :: tail) weight e ↔
      Wins fingerprintId variant operation (some (w, head)) tail weight e := by
  rw [Wins, Wins, below_cons, leads_cons]
  constructor
  · rintro (⟨rfl, less, -⟩ | ⟨bound, ⟨rfl, applies, below⟩ | ⟨upTo, leads⟩⟩)
    · exact absurd (overtakes (weight, e) rfl) (Nat.not_le_of_lt (less w found))
    · obtain rfl := Option.some.inj (found.symm.trans applies)
      exact .inl ⟨rfl, below⟩
    · refine .inr ⟨fun held member => ?_, leads⟩
      obtain rfl := Option.some.inj member
      exact upTo w found
  · rintro (⟨held, below⟩ | ⟨bound, leads⟩)
    · obtain ⟨rfl, rfl⟩ := Prod.mk.inj (Option.some.inj held)
      exact .inr ⟨overtakes, .inl ⟨rfl, found, below⟩⟩
    · have most : w ≤ weight := bound (w, head) rfl
      refine .inr ⟨fun held member => Nat.le_trans (overtakes held member) most, .inr ⟨fun k applies => ?_, leads⟩⟩
      obtain rfl := Option.some.inj (found.symm.trans applies)
      exact most

theorem decideFrom_eq_some_iff :
    decideFrom fingerprintId variant operation best entries = some (weight, e) ↔
      Wins fingerprintId variant operation best entries weight e := by
  -- The search carries the best entry so far, so the induction is for whatever is held.
  induction entries generalizing best with
  | nil => simp [decideFrom, Wins, Below, Leads]
  | cons head tail ih =>
    rcases decideFrom_cons fingerprintId variant operation best head tail with
      ⟨stays, same⟩ | ⟨w, found, overtakes, same⟩
    · rw [same, ih, wins_cons_of_stays stays]
    · rw [same, ih, wins_cons_of_overtakes found overtakes]

/-- The entry that decides: of the most specific ones that apply, the last. -/
def Decides (m : CapabilityMap) (fingerprintId variant operation : String) (e : CapabilityEntry) : Prop :=
  ∃ weight, Leads fingerprintId variant operation weight e m.entries

theorem deciding?_eq_some_iff {m : CapabilityMap} :
    m.deciding? fingerprintId variant operation = some e ↔ m.Decides fingerprintId variant operation e := by
  have wins (weight : Nat) : Wins fingerprintId variant operation none m.entries weight e ↔
      Leads fingerprintId variant operation weight e m.entries := by simp [Wins]
  simp [deciding?, Decides, decideFrom_eq_some_iff, wins]

end CapabilityMap

/-- The entry holds as declared: it is available, and whatever it requires was found. -/
def CapabilityEntry.Met (e : CapabilityEntry) (anchors : NameSet) : Prop :=
  e.available = true ∧ ∀ a ∈ e.requiredAnchors, a ∈ anchors

theorem CapabilityEntry.met_iff {e : CapabilityEntry} {anchors : NameSet} : e.Met anchors ↔
    (e.available && (e.requiredAnchors.filter fun a => !anchors.contains a).toList.isEmpty) = true := by
  simp [Met, List.eq_nil_iff_forall_not_mem, NameSet.contains]

theorem Capability.ofEntry_of_met {e : CapabilityEntry} {anchors : NameSet} (met : e.Met anchors)
    (fingerprintId : String) :
    (ofEntry fingerprintId e anchors).state = e.state ∧
      (ofEntry fingerprintId e anchors).reason = .probePass := by
  rw [ofEntry, if_pos (CapabilityEntry.met_iff.1 met)]
  exact ⟨rfl, rfl⟩

theorem Capability.ofEntry_of_not_met {e : CapabilityEntry} {anchors : NameSet} (unmet : ¬e.Met anchors)
    (fingerprintId : String) :
    (ofEntry fingerprintId e anchors).state = .unavailable ∧
      (ofEntry fingerprintId e anchors).reason = .requiredMissing := by
  rw [ofEntry, if_neg fun holds => unmet (CapabilityEntry.met_iff.2 holds)]
  exact ⟨rfl, rfl⟩

namespace CapabilityMap

/-- The entry that decides holds as declared, and declares the operation verified, or experimental where it
changes nothing. -/
def Permits (m : CapabilityMap) (fingerprintId variant operation : String) (anchors : NameSet)
    (isMutation : Bool) : Prop :=
  ∃ e, m.Decides fingerprintId variant operation e ∧ e.Met anchors ∧
    (e.state = .verified ∨ e.state = .experimental ∧ isMutation = false)

/-- The reasons for which an operation is not permitted. -/
inductive Denial (m : CapabilityMap) (fingerprintId variant operation : String) (anchors : NameSet)
    (isMutation : Bool) : ExtensionReason → Prop
  | undeclared (silent : ∀ e, ¬m.Decides fingerprintId variant operation e) :
      Denial m fingerprintId variant operation anchors isMutation .capabilityUnknown
  | unmet {e} (decides : m.Decides fingerprintId variant operation e) (unmet : ¬e.Met anchors) :
      Denial m fingerprintId variant operation anchors isMutation .requiredMissing
  | unproven {e} (decides : m.Decides fingerprintId variant operation e) (met : e.Met anchors)
      (state : e.state = .experimental) (changes : isMutation = true) :
      Denial m fingerprintId variant operation anchors isMutation .mutationBlocked
  | unusable {e} (decides : m.Decides fingerprintId variant operation e) (met : e.Met anchors)
      (state : e.state = .unknown ∨ e.state = .unavailable) :
      Denial m fingerprintId variant operation anchors isMutation .probePass

variable {m : CapabilityMap} {fingerprint : Fingerprint} {variant operation : String} {anchors : NameSet}
  {isMutation : Bool}

/-- The guard lets pass what the map permits, and denies the rest with its reason. -/
theorem guard_cases :
    (Decision.ofCapability (m.lookup fingerprint variant operation anchors) isMutation).allowed = true ∧
        m.Permits fingerprint.id variant operation anchors isMutation ∨
      (Decision.ofCapability (m.lookup fingerprint variant operation anchors) isMutation).allowed = false ∧
        m.Denial fingerprint.id variant operation anchors isMutation
          (Decision.ofCapability (m.lookup fingerprint variant operation anchors) isMutation).reason := by
  cases decided : m.deciding? fingerprint.id variant operation with
  | none =>
    have silent : ∀ e, ¬m.Decides fingerprint.id variant operation e := fun e decides => by
      rw [deciding?_eq_some_iff.2 decides] at decided
      cases decided
    rw [lookup, decided]
    exact .inr ⟨rfl, .undeclared silent⟩
  | some e =>
    have decides := deciding?_eq_some_iff.1 decided
    rw [lookup, decided]
    by_cases met : e.Met anchors
    · obtain ⟨state, reason⟩ := Capability.ofEntry_of_met met fingerprint.id
      rw [Decision.ofCapability, state, reason]
      cases declared : e.state with
      | verified => exact .inl ⟨rfl, e, decides, met, .inl declared⟩
      | experimental =>
        cases isMutation with
        | false => exact .inl ⟨rfl, e, decides, met, .inr ⟨declared, rfl⟩⟩
        | true => exact .inr ⟨rfl, .unproven decides met declared rfl⟩
      | unknown => exact .inr ⟨rfl, .unusable decides met (.inl declared)⟩
      | unavailable => exact .inr ⟨rfl, .unusable decides met (.inr declared)⟩
    · obtain ⟨state, reason⟩ := Capability.ofEntry_of_not_met met fingerprint.id
      rw [Decision.ofCapability, state, reason]
      exact .inr ⟨rfl, .unmet decides met⟩

/-- One entry decides at most. -/
theorem Decides.eq {fingerprintId : String} {e e' : CapabilityEntry}
    (decides : m.Decides fingerprintId variant operation e)
    (decides' : m.Decides fingerprintId variant operation e') : e = e' :=
  Option.some.inj ((deciding?_eq_some_iff.2 decides).symm.trans (deciding?_eq_some_iff.2 decides'))

theorem Denial.not_permits {fingerprintId : String} {reason : ExtensionReason}
    (denial : m.Denial fingerprintId variant operation anchors isMutation reason) :
    ¬m.Permits fingerprintId variant operation anchors isMutation := by
  rintro ⟨e, decides, met, state⟩
  cases denial with
  | undeclared silent => exact silent e decides
  | unmet decides' unmet => exact unmet (decides.eq decides' ▸ met)
  | unproven decides' _ declared changes =>
    obtain rfl := decides.eq decides'
    simp [declared, changes] at state
  | unusable decides' _ declared =>
    obtain rfl := decides.eq decides'
    rcases declared with declared | declared <;> simp [declared] at state

end CapabilityMap
end LiveControl
