import LiveControl.Symbol

namespace LiveControl

/-- What one counter counts. -/
structure TelemetryKey where
  action : String
  source : SymbolSource
  succeeded : Bool
  deriving DecidableEq, Repr

namespace TelemetryKey

/-- The order of listings: by action, then by how surely the symbol was found, then by success. -/
def order (a b : TelemetryKey) : Ordering :=
  (compare a.action b.action).then
    ((compare a.source.rank b.source.rank).then (compare a.succeeded b.succeeded))

end TelemetryKey

/-- The counters of the keys that were recorded, in any order. -/
structure Telemetry where
  entries : List (TelemetryKey × Nat)
  nodup : (entries.map Prod.fst).Nodup

namespace Telemetry

def empty : Telemetry := ⟨[], .nil⟩

/-- Counts a key once more; a key without a counter gets one. -/
def bump (key : TelemetryKey) : List (TelemetryKey × Nat) → List (TelemetryKey × Nat)
  | [] => [(key, 1)]
  | (k, n) :: rest => if key = k then (k, n + 1) :: rest else (k, n) :: bump key rest

theorem mem_keys_bump {key k : TelemetryKey} {es : List (TelemetryKey × Nat)} :
    k ∈ (bump key es).map Prod.fst ↔ k = key ∨ k ∈ es.map Prod.fst := by
  induction es with
  | nil => simp [bump]
  | cons head rest ih => grind [bump]

theorem nodup_bump (key : TelemetryKey) {es : List (TelemetryKey × Nat)} (nodup : (es.map Prod.fst).Nodup) :
    ((bump key es).map Prod.fst).Nodup := by
  induction es with
  | nil => simp [bump]
  | cons head rest ih =>
    obtain ⟨fresh, others⟩ := List.nodup_cons.1 nodup
    unfold bump
    split
    · exact nodup
    · rename_i other
      refine List.nodup_cons.2 ⟨fun member => ?_, ih others⟩
      rcases mem_keys_bump.1 member with same | old
      · exact other same.symm
      · exact fresh old

def record (t : Telemetry) (key : TelemetryKey) : Telemetry := ⟨bump key t.entries, nodup_bump key t.nodup⟩

/-- What the counter of a key says; a key without a counter was never recorded. -/
def tally (key : TelemetryKey) (es : List (TelemetryKey × Nat)) : Nat :=
  ((es.find? fun e => e.1 = key).map Prod.snd).getD 0

/-- How often a key was recorded. -/
def count (t : Telemetry) (key : TelemetryKey) : Nat := tally key t.entries

/-- The counters in order. -/
def snapshot (t : Telemetry) : List (TelemetryKey × Nat) :=
  t.entries.mergeSort fun a b => (a.1.order b.1).isLE

def entryToJson (e : TelemetryKey × Nat) : Json := .obj [
  ("action_id", .str e.1.action),
  ("address_source", .ofWord e.1.source),
  ("succeeded", .bool e.1.succeeded),
  ("count", .ofNat e.2)]

def toJson (t : Telemetry) : Json := .arr (t.snapshot.map entryToJson)

end Telemetry
end LiveControl
