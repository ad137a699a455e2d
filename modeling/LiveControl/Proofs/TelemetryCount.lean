import LiveControl.Telemetry

namespace LiveControl.Telemetry

theorem tally_cons (k : TelemetryKey) (head : TelemetryKey × Nat) (es : List (TelemetryKey × Nat)) :
    tally k (head :: es) = if head.1 = k then head.2 else tally k es := by
  by_cases same : head.1 = k <;> simp [tally, same]

theorem tally_bump (key k : TelemetryKey) (es : List (TelemetryKey × Nat)) :
    tally k (bump key es) = tally k es + if key = k then 1 else 0 := by
  induction es with
  | nil => by_cases same : key = k <;> simp [bump, tally, same]
  | cons head rest ih =>
    unfold bump
    split
    · rename_i same
      simp only [tally_cons, same]
      split <;> rfl
    · rename_i other
      rw [tally_cons, tally_cons, ih]
      split
      · rename_i found
        rw [if_neg fun equal => other (equal.trans found.symm), Nat.add_zero]
      · rfl

/-- To record a key adds one to its count and leaves every other count. -/
theorem count_record (t : Telemetry) (key k : TelemetryKey) :
    (t.record key).count k = t.count k + if key = k then 1 else 0 := tally_bump key k t.entries

def recordAll (t : Telemetry) (keys : List TelemetryKey) : Telemetry := keys.foldl record t

end LiveControl.Telemetry
