import LiveControl.Proofs.TelemetryCount
import Mathlib.Algebra.Ring.Nat

namespace LiveControl

/-- The order of snapshots: by action, then by how surely the symbol was found, then failures before
successes. -/
inductive TelemetryKey.Precedes : TelemetryKey → TelemetryKey → Prop
  | action {a b} (first : a.action < b.action) : Precedes a b
  | source {a b} (action : a.action = b.action)
      (surer : (a.source, b.source) ∈
        [(SymbolSource.signature, .fallback), (.signature, .none), (.fallback, .none)]) : Precedes a b
  | failure {a b} (action : a.action = b.action) (source : a.source = b.source)
      (failed : a.succeeded = false) (succeeded : b.succeeded = true) : Precedes a b

namespace SymbolSource

variable {a b : SymbolSource}

theorem rank_inj (same : a.rank = b.rank) : a = b := by
  cases a <;> cases b <;> first | rfl | cases same

theorem rank_lt_iff : a.rank < b.rank ↔ (a, b) ∈ [(signature, fallback), (signature, none), (fallback, none)] := by
  cases a <;> cases b <;> decide

end SymbolSource

namespace TelemetryKey

variable {a b : TelemetryKey}

instance : Std.TransCmp order :=
  inferInstanceAs (Std.TransCmp (compareLex (compareOn action)
    (compareLex (compareOn fun k => k.source.rank) (compareOn succeeded))))

/-- The order tells any two keys apart. -/
theorem eq_of_order_eq (same : a.order b = .eq) : a = b := by
  obtain ⟨action, same⟩ := Ordering.then_eq_eq.1 same
  obtain ⟨rank, succeeded⟩ := Ordering.then_eq_eq.1 same
  have source := SymbolSource.rank_inj (Std.LawfulEqCmp.eq_of_compare rank)
  have action := Std.LawfulEqCmp.eq_of_compare action
  have succeeded := Std.LawfulEqCmp.eq_of_compare succeeded
  cases a
  cases b
  simp_all

instance : Std.LawfulEqCmp order where
  compare_self := Std.ReflCmp.compare_self
  eq_of_compare := eq_of_order_eq

theorem precedes_of_order_lt (ordered : a.order b = .lt) : a.Precedes b := by
  rcases Ordering.then_eq_lt.1 ordered with first | ⟨action, later⟩
  · exact .action (compareOfLessAndEq_eq_lt.1 first)
  · have action := Std.LawfulEqCmp.eq_of_compare action
    rcases Ordering.then_eq_lt.1 later with less | ⟨rank, less⟩
    · exact .source action (SymbolSource.rank_lt_iff.1 (Nat.compare_eq_lt.1 less))
    · have source := SymbolSource.rank_inj (Std.LawfulEqCmp.eq_of_compare rank)
      cases failed : a.succeeded <;> cases succeeded : b.succeeded <;> rw [failed, succeeded] at less
      · cases less
      · exact .failure action source failed succeeded
      · cases less
      · cases less

end TelemetryKey

namespace Telemetry

variable {t u : Telemetry} {keys other : List TelemetryKey} {k : TelemetryKey} {n : Nat}

theorem tally_eq_of_mem {es : List (TelemetryKey × Nat)} (nodup : (es.map Prod.fst).Nodup)
    (member : (k, n) ∈ es) : tally k es = n := by
  induction es with
  | nil => cases member
  | cons head rest ih =>
    obtain ⟨fresh, others⟩ := List.nodup_cons.1 nodup
    rw [tally_cons]
    rcases List.mem_cons.1 member with rfl | later
    · rw [if_pos rfl]
    · have apart : head.1 ≠ k := fun same => fresh (same ▸ List.mem_map_of_mem later)
      rw [if_neg apart, ih others later]

theorem tally_of_not_mem {es : List (TelemetryKey × Nat)} (absent : k ∉ es.map Prod.fst) : tally k es = 0 := by
  induction es with
  | nil => rfl
  | cons head rest ih =>
    obtain ⟨other, later⟩ := not_or.1 (mt List.mem_cons.2 absent)
    rw [tally_cons, if_neg (Ne.symm other), ih later]

theorem mem_entries_iff : (k, n) ∈ t.entries ↔ k ∈ t.entries.map Prod.fst ∧ n = t.count k := by
  constructor
  · intro member
    exact ⟨List.mem_map_of_mem member, (tally_eq_of_mem t.nodup member).symm⟩
  · rintro ⟨member, rfl⟩
    obtain ⟨⟨k, n⟩, listed, rfl⟩ := List.mem_map.1 member
    rwa [count, tally_eq_of_mem t.nodup listed]

/-- Where the counters lie does not tell in their counts. -/
theorem count_eq_of_perm (perm : u.entries.Perm t.entries) (k : TelemetryKey) : u.count k = t.count k := by
  by_cases member : k ∈ u.entries.map Prod.fst
  · have listed : (k, u.count k) ∈ u.entries := mem_entries_iff.2 ⟨member, rfl⟩
    exact (mem_entries_iff.1 (perm.mem_iff.1 listed)).2
  · have absent : k ∉ t.entries.map Prod.fst := mt (perm.map Prod.fst).mem_iff.2 member
    exact (tally_of_not_mem member).trans (tally_of_not_mem absent).symm

theorem snapshot_perm (t : Telemetry) : t.snapshot.Perm t.entries := List.mergeSort_perm _ _

theorem nodup_keys_snapshot (t : Telemetry) : (t.snapshot.map Prod.fst).Nodup :=
  (t.snapshot_perm.map Prod.fst).nodup_iff.2 t.nodup

theorem pairwise_snapshot (t : Telemetry) : t.snapshot.Pairwise fun a b => a.1.order b.1 = .lt := by
  have sorted : t.snapshot.Pairwise fun a b => (a.1.order b.1).isLE := by
    refine List.pairwise_mergeSort (fun a b c => Std.TransCmp.isLE_trans) (fun a b => ?_) t.entries
    rw [Bool.or_eq_true]
    by_cases le : (a.1.order b.1).isLE
    · exact .inl le
    · exact .inr (Ordering.isLE_of_eq_lt (Std.OrientedCmp.lt_of_not_isLE le))
  have apart : t.snapshot.Pairwise fun a b => a.1 ≠ b.1 := List.pairwise_map.1 t.nodup_keys_snapshot
  refine List.Pairwise.imp₂ (fun a b le ne => ?_) sorted apart
  rcases Ordering.isLE_iff_eq_lt_or_eq_eq.1 le with less | same
  · exact less
  · exact absurd (TelemetryKey.eq_of_order_eq same) ne

/-- Counters that lie in another order are listed alike. -/
theorem snapshot_eq_of_perm (perm : u.entries.Perm t.entries) : u.snapshot = t.snapshot := by
  have perm : u.snapshot.Perm t.snapshot := (u.snapshot_perm.trans perm).trans t.snapshot_perm.symm
  refine perm.eq_of_pairwise (fun a b _ _ first second => ?_) u.pairwise_snapshot t.pairwise_snapshot
  exact absurd second (Std.OrientedCmp.not_lt_of_lt first)

theorem sum_bump (key : TelemetryKey) (es : List (TelemetryKey × Nat)) :
    ((bump key es).map Prod.snd).sum = (es.map Prod.snd).sum + 1 := by
  induction es with
  | nil => rfl
  | cons head rest ih =>
    unfold bump
    split
    · simp only [List.map_cons, List.sum_cons]
      omega
    · simp only [List.map_cons, List.sum_cons, ih]
      omega

/-- The stores that there may be after some records. Besides what a record does to its counter, all counters may be moved
at any time. -/
inductive After : List TelemetryKey → Telemetry → Prop
  | empty : After [] empty
  | record {keys : List TelemetryKey} {t : Telemetry} (key : TelemetryKey) (before : After keys t) :
      After (keys ++ [key]) (t.record key)
  | moved {keys : List TelemetryKey} {t u : Telemetry} (before : After keys t) (perm : u.entries.Perm t.entries) :
      After keys u

namespace After

theorem recordAll (left : After keys t) (more : List TelemetryKey) : After (keys ++ more) (t.recordAll more) := by
  induction more generalizing keys t with
  | nil => rwa [List.append_nil]
  | cons key rest ih =>
    have next := ih (left.record key)
    rwa [List.append_assoc] at next

theorem count_eq (left : After keys t) (k : TelemetryKey) : t.count k = keys.count k := by
  induction left with
  | empty => rfl
  | record key before ih =>
    rw [count_record, ih, List.count_append, List.count_singleton]
    simp only [beq_iff_eq]
  | moved before perm ih => rw [count_eq_of_perm perm, ih]

theorem mem_keys_iff (left : After keys t) : k ∈ t.entries.map Prod.fst ↔ k ∈ keys := by
  induction left with
  | empty => exact Iff.rfl
  | @record keys t key before ih =>
    have recorded : k ∈ (t.record key).entries.map Prod.fst ↔ k = key ∨ k ∈ t.entries.map Prod.fst := mem_keys_bump
    rw [recorded, ih, List.mem_append, List.mem_singleton, or_comm]
  | moved before perm ih => rw [(perm.map Prod.fst).mem_iff, ih]

theorem sum_eq (left : After keys t) : (t.entries.map Prod.snd).sum = keys.length := by
  induction left with
  | empty => rfl
  | @record keys t key before ih =>
    have recorded : ((t.record key).entries.map Prod.snd).sum = (t.entries.map Prod.snd).sum + 1 :=
      sum_bump key t.entries
    rw [recorded, ih, List.length_append, List.length_singleton]
  | moved before perm ih => rw [(perm.map Prod.snd).sum_nat, ih]

/-- What a snapshot lists: the recorded keys, each with the number of its records. -/
theorem mem_snapshot_iff (left : After keys t) : (k, n) ∈ t.snapshot ↔ k ∈ keys ∧ n = keys.count k := by
  rw [t.snapshot_perm.mem_iff, mem_entries_iff, left.mem_keys_iff, left.count_eq]

/-- Stores that the same records leave differ at most in where their counters lie. -/
theorem entries_perm (left : After keys t) (left' : After other u) (perm : other.Perm keys) :
    u.entries.Perm t.entries := by
  have nodup (t : Telemetry) : t.entries.Nodup :=
    (List.pairwise_map.1 t.nodup).imp fun apart same => apart (congrArg Prod.fst same)
  refine (List.perm_ext_iff_of_nodup (nodup u) (nodup t)).2 fun ⟨k, n⟩ => ?_
  rw [mem_entries_iff, mem_entries_iff, left'.mem_keys_iff, left'.count_eq, left.mem_keys_iff, left.count_eq,
    perm.mem_iff, perm.count_eq]

end After

/-- After any records, and wherever these leave the counters, each key has been counted as often as it was
recorded. The snapshot holds the recorded keys and no others, each once with its count, in strict order, and the
counts add up to the number of records. Counters of 64 bits hold the counts of fewer than `2 ^ 64` records. The
same records in another order, as from callers who come in between each other in another way, give the same
snapshot, also from counters that lie elsewhere. -/
theorem snapshot_accounted (keys : List TelemetryKey) :
    After keys (empty.recordAll keys) ∧
    ∀ t, After keys t →
      (∀ k, t.count k = keys.count k) ∧
      (∀ k n, (k, n) ∈ t.snapshot ↔ k ∈ keys ∧ n = keys.count k) ∧
      (t.snapshot.map Prod.fst).Nodup ∧
      (t.snapshot.map Prod.fst).Pairwise TelemetryKey.Precedes ∧
      (t.snapshot.map Prod.snd).sum = keys.length ∧
      (keys.length < UInt64.size → ∀ e ∈ t.snapshot, e.2 < UInt64.size) ∧
      ∀ other u, other.Perm keys → After other u → u.snapshot = t.snapshot := by
  refine ⟨After.empty.recordAll keys, fun t left => ⟨left.count_eq, fun k n => left.mem_snapshot_iff,
    t.nodup_keys_snapshot, ?_, ?_, fun few => ?_, fun other u perm left' => ?_⟩⟩
  · exact List.pairwise_map.2 (t.pairwise_snapshot.imp TelemetryKey.precedes_of_order_lt)
  · rw [(t.snapshot_perm.map Prod.snd).sum_nat, left.sum_eq]
  · rintro ⟨k, n⟩ member
    obtain ⟨-, rfl⟩ := left.mem_snapshot_iff.1 member
    exact Nat.lt_of_le_of_lt List.count_le_length few
  · exact snapshot_eq_of_perm (left.entries_perm left' perm)

/-- Three counters that lie in descending order. -/
def scattered : Telemetry :=
  ⟨[(⟨"toggle_ai", .none, true⟩, 2), (⟨"set_credits", .fallback, true⟩, 1), (⟨"set_credits", .fallback, false⟩, 1)],
    by decide⟩

theorem snapshot_accounted_scattered :
    After [⟨"set_credits", .fallback, false⟩, ⟨"toggle_ai", .none, true⟩, ⟨"set_credits", .fallback, true⟩,
      ⟨"toggle_ai", .none, true⟩] scattered ∧
    scattered.snapshot = (empty.recordAll [⟨"toggle_ai", .none, true⟩, ⟨"set_credits", .fallback, true⟩,
      ⟨"toggle_ai", .none, true⟩, ⟨"set_credits", .fallback, false⟩]).snapshot ∧
    ∀ e ∈ scattered.snapshot, e.2 < UInt64.size := by
  obtain ⟨recorded, counted⟩ := snapshot_accounted [⟨"set_credits", .fallback, false⟩,
    ⟨"toggle_ai", .none, true⟩, ⟨"set_credits", .fallback, true⟩, ⟨"toggle_ai", .none, true⟩]
  have scattered : After _ scattered := recorded.moved (by decide)
  obtain ⟨-, -, -, -, -, few, order⟩ := counted _ scattered
  exact ⟨scattered, (order _ _ (by decide) (snapshot_accounted _).1).symm, few (by decide)⟩

end Telemetry
end LiveControl
