import LiveControl.Task

namespace LiveControl

variable {α : Type}

/-- Some entry satisfies `event`, and every entry after it satisfies `quiet`. -/
def Since (quiet event : α → Prop) (history : List α) : Prop :=
  ∃ early x late, history = early ++ x :: late ∧ event x ∧ ∀ y ∈ late, quiet y

variable {quiet event : α → Prop} {history : List α} {x : α}

theorem not_since_nil : ¬Since quiet event [] := by
  rintro ⟨early, x, late, split, -⟩
  cases early <;> cases split

theorem since_cons :
    Since quiet event (x :: history) ↔ Since quiet event history ∨ event x ∧ ∀ y ∈ history, quiet y := by
  constructor
  · rintro ⟨early, y, late, split, happened, rest⟩
    cases early with
    | nil =>
      cases split
      exact .inr ⟨happened, rest⟩
    | cons first early =>
      cases split
      exact .inl ⟨early, y, late, rfl, happened, rest⟩
  · rintro (⟨early, y, late, rfl, happened, rest⟩ | ⟨happened, rest⟩)
    · exact ⟨x :: early, y, late, rfl, happened, rest⟩
    · exact ⟨[], x, history, rfl, happened, rest⟩

/-- What is known of all entries may be used of the one that is the event. -/
theorem Since.imp {event' : α → Prop} (since : Since quiet event history)
    (implies : ∀ x ∈ history, event x → event' x) : Since quiet event' history := by
  obtain ⟨early, x, late, rfl, happened, rest⟩ := since
  exact ⟨early, x, late, rfl, implies x (List.mem_append_right _ List.mem_cons_self) happened, rest⟩

theorem Since.congr {event' : α → Prop} (same : ∀ x ∈ history, event x ↔ event' x) :
    Since quiet event history ↔ Since quiet event' history :=
  ⟨fun since => since.imp fun x member => (same x member).1, fun since => since.imp fun x member => (same x member).2⟩

section Runs

variable {σ κ : Type} {step : κ → σ → σ} {inputs : List κ}

/-- The state after the inputs. -/
def runAll (step : κ → σ → σ) : List κ → σ → σ
  | [], s => s
  | k :: rest, s => runAll step rest (step k s)

/-- Each input with the state just before it. -/
def moments (step : κ → σ → σ) : List κ → σ → List (κ × σ)
  | [], _ => []
  | k :: rest, s => (k, s) :: moments step rest (step k s)

theorem runAll_concat (k : κ) (s : σ) : runAll step (inputs ++ [k]) s = step k (runAll step inputs s) := by
  induction inputs generalizing s with
  | nil => rfl
  | cons first rest ih => exact ih (step first s)

theorem moments_concat (k : κ) (s : σ) :
    moments step (inputs ++ [k]) s = moments step inputs s ++ [(k, runAll step inputs s)] := by
  induction inputs generalizing s with
  | nil => rfl
  | cons first rest ih => exact congrArg ((first, s) :: ·) (ih (step first s))

/-- A moment of a run: what came before it is a run of its own, which ends in the state of the moment. -/
theorem run_of_moments_eq_append {s : σ} {past future : List (κ × σ)} {m : κ × σ}
    (split : moments step inputs s = past ++ m :: future) :
    ∃ early, past = moments step early s ∧ m.2 = runAll step early s := by
  induction inputs generalizing s past with
  | nil => cases past <;> cases split
  | cons first rest ih =>
    cases past with
    | nil =>
      cases split
      exact ⟨[], rfl, rfl⟩
    | cons before past =>
      obtain ⟨rfl, later⟩ := List.cons.inj split
      obtain ⟨early, same, state⟩ := ih later
      exact ⟨first :: early, congrArg ((first, s) :: ·) same, state⟩

theorem input_of_mem_moments {s : σ} {m : κ × σ} (member : m ∈ moments step inputs s) : m.1 ∈ inputs := by
  induction inputs generalizing s with
  | nil => cases member
  | cons k rest ih =>
    rcases List.mem_cons.1 member with rfl | later
    · exact List.mem_cons_self
    · exact List.mem_cons_of_mem _ (ih later)

theorem holds_of_mem_moments {holds : σ → Prop} (keeps : ∀ k s, holds s → holds (step k s)) {s : σ} (start : holds s)
    {m : κ × σ} (member : m ∈ moments step inputs s) : holds m.2 := by
  induction inputs generalizing s with
  | nil => cases member
  | cons k rest ih =>
    rcases List.mem_cons.1 member with rfl | later
    · exact start
    · exact ih (keeps k s start) later

theorem holds_runAll_iff (holds : σ → Prop) {quiet event : κ × σ → Prop}
    (turn : ∀ k ∈ inputs, ∀ s, holds (step k s) ↔ event (k, s) ∨ quiet (k, s) ∧ holds s) (s : σ) :
    holds (runAll step inputs s) ↔ Since quiet event (moments step inputs s) ∨
      (∀ m ∈ moments step inputs s, quiet m) ∧ holds s := by
  -- The rest of a run starts from what the first input leaves, so the induction is for all starts.
  induction inputs generalizing s with
  | nil => simp [runAll, moments, not_since_nil]
  | cons k rest ih =>
    obtain ⟨first, others⟩ := List.forall_mem_cons.1 turn
    rw [runAll, ih others, first, moments, since_cons, List.forall_mem_cons]
    grind

theorem holds_runAll_iff_since (holds : σ → Prop) {quiet event : κ × σ → Prop}
    (turn : ∀ k ∈ inputs, ∀ s, holds (step k s) ↔ event (k, s) ∨ quiet (k, s) ∧ holds s) {s : σ}
    (start : ¬holds s) : holds (runAll step inputs s) ↔ Since quiet event (moments step inputs s) := by
  rw [holds_runAll_iff holds turn]
  simp only [start, and_false, or_false]

/-- What no input sets holds after a run just in case all inputs kept it. -/
theorem holds_runAll_iff_forall (holds : σ → Prop) {quiet : κ × σ → Prop}
    (turn : ∀ k ∈ inputs, ∀ s, holds (step k s) ↔ quiet (k, s) ∧ holds s) {s : σ} (start : holds s) :
    holds (runAll step inputs s) ↔ ∀ m ∈ moments step inputs s, quiet m := by
  have traced : holds (runAll step inputs s) ↔ Since quiet (fun _ => False) (moments step inputs s) ∨
      (∀ m ∈ moments step inputs s, quiet m) ∧ holds s :=
    holds_runAll_iff holds (fun k member s => (turn k member s).trans (by rw [false_or])) s
  have never : ¬Since quiet (fun _ => False) (moments step inputs s) := fun ⟨_, _, _, _, happened, _⟩ => happened
  rw [traced]
  simp only [never, start, and_true, false_or]

end Runs

end LiveControl
