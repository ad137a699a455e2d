import LiveControl.DryRun

namespace LiveControl.DryRun

/-- The limits after a write to a symbol that came through. -/
def spend (symbol : String) (failing : Table Nat) : Table Nat :=
  match failing.get? symbol with
  | some allowed => failing.insert symbol (allowed - 1)
  | none => failing

theorem get?_spend_of_eq {failing : Table Nat} (symbol : String) :
    (spend symbol failing).get? symbol = (failing.get? symbol).map (· - 1) := by
  unfold spend
  split
  · rename_i allowed limited
    rw [Table.get?_insert, if_pos rfl, limited]
    rfl
  · rename_i free
    rw [free]
    rfl

theorem get?_spend_of_ne {failing : Table Nat} {key symbol : String} (other : key ≠ symbol) :
    (spend symbol failing).get? key = failing.get? key := by
  unfold spend
  split
  · rw [Table.get?_insert, if_neg other]
  · rfl

theorem get?_spend {failing : Table Nat} {key : String} (free : failing.get? key = none)
    (symbol : String) : (spend symbol failing).get? key = none := by
  by_cases same : key = symbol
  · rw [← same, get?_spend_of_eq, free]
    rfl
  · rw [get?_spend_of_ne same, free]

variable {d : DryRun} {action symbol : String} {value : Scalar}

theorem write_of_spent (spent : d.failing.get? symbol = some 0) :
    d.write action symbol value =
      ((Outcome.failure ("write to '" ++ symbol ++ "' failed") "write_failed").withSource
        (d.attachment.sourceOf symbol), d) := by
  simp only [write, spent]

theorem write_of_unspent (action : String) (value : Scalar) (left : d.failing.get? symbol ≠ some 0) :
    ∃ outcome : Outcome, outcome.succeeded = true ∧ d.write action symbol value =
      (outcome, { d with
        values := d.values.insert symbol value
        writes := d.writes ++ [⟨action, symbol, value⟩]
        failing := spend symbol d.failing }) := by
  unfold write spend
  cases limit : d.failing.get? symbol with
  | none => exact ⟨_, rfl, rfl⟩
  | some allowed =>
    cases allowed with
    | zero => exact absurd limit left
    | succ n => exact ⟨_, rfl, rfl⟩

/-- A write succeeds unless its symbol has no writes left. -/
theorem write_succeeds_iff :
    (d.write action symbol value).1.succeeded = true ↔ d.failing.get? symbol ≠ some 0 := by
  constructor
  · intro succeeded spent
    rw [write_of_spent spent] at succeeded
    cases succeeded
  · intro left
    obtain ⟨outcome, succeeded, run⟩ := write_of_unspent action value left
    rw [run, succeeded]

/-- What a write makes of a view: nothing if it fails, else what the view shows of the dry run after it. -/
theorem write_view {τ : Type} (view : DryRun → τ) {put : τ}
    (done : view { d with
      values := d.values.insert symbol value
      writes := d.writes ++ [⟨action, symbol, value⟩]
      failing := spend symbol d.failing } = put) :
    view (d.write action symbol value).2 = if (d.write action symbol value).1.succeeded then put else view d := by
  by_cases spent : d.failing.get? symbol = some 0
  · rw [write_of_spent spent]
    rfl
  · obtain ⟨outcome, succeeded, run⟩ := write_of_unspent action value spent
    rw [run, if_pos succeeded, done]

theorem write_values (d : DryRun) (action symbol : String) (value : Scalar) :
    (d.write action symbol value).2.values =
      if (d.write action symbol value).1.succeeded then d.values.insert symbol value else d.values :=
  write_view values rfl

theorem write_failing (d : DryRun) (action symbol : String) (value : Scalar) :
    (d.write action symbol value).2.failing =
      if (d.write action symbol value).1.succeeded then spend symbol d.failing else d.failing :=
  write_view failing rfl

theorem write_attachment (d : DryRun) (action symbol : String) (value : Scalar) :
    (d.write action symbol value).2.attachment = d.attachment :=
  (write_view attachment rfl).trans (ite_self _)

end LiveControl.DryRun
