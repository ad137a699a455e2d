import LiveControl.Proofs.Keeping

namespace LiveControl

variable {σ τ υ ε ε' α β : Type}

namespace Task

/-- How a task ends: with an answer or with a fault. -/
def ending (t : Task σ α) (s : σ) : Except Fault α :=
  match t s with
  | .ok a _ => .ok a
  | .error fault _ => .error fault

theorem ending_of_ok {t : Task σ α} {s s' : σ} {a : α} (run : t s = .ok a s') : t.ending s = .ok a := by
  rw [ending, run]

theorem ending_of_error {t : Task σ α} {s s' : σ} {fault : Fault} (run : t s = .error fault s') :
    t.ending s = .error fault := by rw [ending, run]

theorem ending_eq_ok_iff {t : Task σ α} {s : σ} {a : α} : t.ending s = .ok a ↔ ∃ s', t s = .ok a s' := by
  cases run : t s with
  | ok b s' => simp [ending_of_ok run]
  | error fault s' => simp [ending_of_error run]

theorem ending_bind (t : Task σ α) (f : α → Task σ β) (s : σ) :
    (t >>= f).ending s = match t.ending s with
      | .ok a => (f a).ending (t.leave s)
      | .error fault => .error fault := by
  cases run : t s with
  | ok a s' =>
    simp only [ending_of_ok run, leave_of_ok run]
    rw [ending, bind_of_ok run, ending]
  | error fault s' => rw [ending_of_error run, ending_of_error (bind_of_error run)]

theorem leave_bind (t : Task σ α) (f : α → Task σ β) (s : σ) :
    (t >>= f).leave s = match t.ending s with
      | .ok a => (f a).leave (t.leave s)
      | .error _ => t.leave s := by
  cases run : t s with
  | ok a s' =>
    simp only [ending_of_ok run, leave_of_ok run]
    rw [leave, bind_of_ok run, leave]
  | error fault s' => rw [ending_of_error run, leave_of_error (bind_of_error run), leave_of_error run]

theorem leave_ofExcept (answer : Except Fault α) (s : σ) : (ofExcept answer).leave s = s := by
  cases answer <;> rfl

/-- A task of which every fault is an answer always comes to an end. -/
theorem attempt_apply (t : Task σ α) (s : σ) : t.attempt s = .ok (t.ending s) (t.leave s) := by
  cases run : t s with
  | ok a s' => rw [attempt_of_ok run, ending_of_ok run, leave_of_ok run]
  | error fault s' => rw [attempt_of_error run, ending_of_error run, leave_of_error run]

theorem ending_attempt (t : Task σ α) (s : σ) : t.attempt.ending s = .ok (t.ending s) :=
  ending_of_ok (attempt_apply t s)

theorem leave_attempt (t : Task σ α) (s : σ) : t.attempt.leave s = t.leave s :=
  leave_of_ok (attempt_apply t s)

theorem leave_settle (t : Task σ α) (s : σ) : t.settle.leave s = t.leave s := by
  cases run : t s with
  | ok a s' => rw [leave_of_ok run, leave_of_ok (settle_of_ok run)]
  | error fault s' =>
    by_cases fired : fault = .cancelled
    · subst fired
      rw [leave_of_error run, leave_of_error (settle_of_cancelled run)]
    · rw [leave_of_error run, leave_of_ok (settle_of_error run fired)]

theorem Keeps.settle {t : Task σ α} {view : σ → τ} (keeps : t.Keeps view) : t.settle.Keeps view :=
  fun s => (congrArg view (leave_settle t s)).trans (keeps s)

theorem ending_settle {t : Task σ α} {s : σ} (other : t.ending s ≠ .error .cancelled) :
    t.settle.ending s = .ok (t.ending s) := by
  cases run : t s with
  | ok a s' => rw [ending_of_ok run, ending_of_ok (settle_of_ok run)]
  | error fault s' =>
    rw [ending_of_error run] at other ⊢
    rw [ending_of_ok (settle_of_error run fun fired => other (congrArg Except.error fired))]

theorem ending_settle_of_cancelled {t : Task σ α} {s : σ} (fired : t.ending s = .error .cancelled) :
    t.settle.ending s = .error .cancelled := by
  cases run : t s with
  | ok a s' =>
    rw [ending_of_ok run] at fired
    cases fired
  | error fault s' =>
    rw [ending_of_error run] at fired
    cases fired
    rw [ending_of_error (settle_of_cancelled run)]

theorem ending_on (p : Part σ τ) (t : Task τ α) (s : σ) : (Task.on p t).ending s = t.ending (p.get s) := by
  cases run : t (p.get s) with
  | ok a u => rw [ending_of_ok (on_of_ok run), ending_of_ok run]
  | error fault u => rw [ending_of_error (on_of_error run), ending_of_error run]

theorem leave_on (p : Part σ τ) (t : Task τ α) (s : σ) :
    (Task.on p t).leave s = p.set (t.leave (p.get s)) s := by
  cases run : t (p.get s) with
  | ok a u => rw [leave_of_ok (on_of_ok run), leave_of_ok run]
  | error fault u => rw [leave_of_error (on_of_error run), leave_of_error run]

/-- From states that are related by `before`, the two tasks end alike, and they leave states that are related by
`after`. -/
def Agrees (t : Task σ α) (before after : σ → τ → Prop) (u : Task τ α) : Prop :=
  ∀ s s', before s s' → t.ending s = u.ending s' ∧ after (t.leave s) (u.leave s')

section Agreement

variable {before middle after : σ → τ → Prop} {t : Task σ α} {u : Task τ α}

/-- Where the first tasks stop with a fault, it is enough that what they leave is still related. -/
theorem Agrees.bind {f : α → Task σ β} {g : α → Task τ β} (first : t.Agrees before middle u)
    (kept : ∀ s s', middle s s' → after s s') (rest : ∀ a, (f a).Agrees middle after (g a)) :
    (t >>= f).Agrees before after (u >>= g) := by
  intro s s' related
  obtain ⟨ending, left⟩ := first s s' related
  rw [ending_bind, leave_bind, ending_bind, leave_bind, ← ending]
  cases t.ending s with
  | error fault => exact ⟨rfl, kept _ _ left⟩
  | ok a => exact rest a _ _ left

theorem Agrees.settle (agrees : t.Agrees before after u) : t.settle.Agrees before after u.settle := by
  intro s s' related
  obtain ⟨ending, left⟩ := agrees s s' related
  rw [leave_settle, leave_settle]
  refine ⟨?_, left⟩
  by_cases fired : t.ending s = .error .cancelled
  · rw [ending_settle_of_cancelled fired, ending_settle_of_cancelled (ending ▸ fired)]
  · rw [ending_settle fired, ending_settle (ending ▸ fired), ending]

end Agreement

/-- Seen through `view`, the task does just what the plain one does. -/
def Mirrors (t : Task σ α) (view : σ → τ) (plain : Task τ α) : Prop :=
  ∀ s, t.ending s = plain.ending (view s) ∧ view (t.leave s) = plain.leave (view s)

theorem mirrors_iff_agrees {t : Task σ α} {view : σ → τ} {plain : Task τ α} :
    t.Mirrors view plain ↔ t.Agrees (fun s u => view s = u) (fun s u => view s = u) plain := by
  constructor
  · rintro mirrors s _ rfl
    exact mirrors s
  · exact fun agrees s => agrees s _ rfl

theorem mirrors_pure (a : α) (view : σ → τ) : (pure a : Task σ α).Mirrors view (pure a) :=
  fun _ => ⟨rfl, rfl⟩

theorem Mirrors.bind {t : Task σ α} {f : α → Task σ β} {view : σ → τ} {plain : Task τ α}
    {g : α → Task τ β} (first : t.Mirrors view plain) (rest : ∀ a, (f a).Mirrors view (g a)) :
    (t >>= f).Mirrors view (plain >>= g) :=
  mirrors_iff_agrees.2 ((mirrors_iff_agrees.1 first).bind (fun _ _ same => same) fun a =>
    mirrors_iff_agrees.1 (rest a))

theorem Mirrors.settle {t : Task σ α} {view : σ → τ} {plain : Task τ α} (mirrors : t.Mirrors view plain) :
    t.settle.Mirrors view plain.settle :=
  mirrors_iff_agrees.2 (mirrors_iff_agrees.1 mirrors).settle

theorem Mirrors.attempt {t : Task σ α} {view : σ → τ} {plain : Task τ α} (mirrors : t.Mirrors view plain) :
    t.attempt.Mirrors view plain.attempt := by
  intro s
  rw [ending_attempt, leave_attempt, ending_attempt, leave_attempt, (mirrors s).1]
  exact ⟨rfl, (mirrors s).2⟩

theorem mirrors_on (p : Part σ τ) (t : Task τ α) : (Task.on p t).Mirrors p.get t :=
  fun s => ⟨ending_on p t s, by rw [leave_on, p.get_set]⟩

/-- The task with a note on how it ended, put at the end of a journal that it does not read. -/
def noted (t : Task σ α) (note : Except Fault α → ε) : Task (σ × List ε) α := fun s =>
  match t s.1 with
  | .ok a u => .ok a (u, s.2 ++ [note (.ok a)])
  | .error fault u => .error fault (u, s.2 ++ [note (.error fault)])

theorem ending_noted (t : Task σ α) (note : Except Fault α → ε) (s : σ × List ε) :
    (t.noted note).ending s = t.ending s.1 := by
  unfold ending noted
  cases t s.1 <;> rfl

theorem leave_noted (t : Task σ α) (note : Except Fault α → ε) (s : σ × List ε) :
    (t.noted note).leave s = (t.leave s.1, s.2 ++ [note (t.ending s.1)]) := by
  unfold leave ending noted
  cases t s.1 <;> rfl

theorem noted_of_ok {t : Task σ α} {note : Except Fault α → ε} {s s' : σ × List ε} {a : α}
    (run : t.noted note s = .ok a s') : s'.2 = s.2 ++ [note (.ok a)] := by
  have left := leave_noted t note s
  rw [leave_of_ok run, ← ending_noted t note s, ending_of_ok run] at left
  exact congrArg Prod.snd left

theorem noted_of_error {t : Task σ α} {note : Except Fault α → ε} {s s' : σ × List ε} {fault : Fault}
    (run : t.noted note s = .error fault s') : s'.2 = s.2 ++ [note (.error fault)] := by
  have left := leave_noted t note s
  rw [leave_of_error run, ← ending_noted t note s, ending_of_error run] at left
  exact congrArg Prod.snd left

theorem mirrors_noted (t : Task σ α) (note : Except Fault α → ε) : (t.noted note).Mirrors Prod.fst t :=
  fun s => ⟨ending_noted t note s, by rw [leave_noted]⟩

/-- A task that mirrors another puts down the notes of that one, as far as a mask shows them. -/
theorem Mirrors.noted_masked {t : Task σ α} {view : σ → τ} {plain : Task τ α} (mirrors : t.Mirrors view plain)
    {mask : ε → ε'} {note : Except Fault α → ε} {seen : Except Fault α → ε'}
    (shown : ∀ answer, mask (note answer) = seen answer) :
    (t.noted note).Mirrors (Prod.map view (List.map mask)) (plain.noted seen) := by
  intro s
  obtain ⟨ending, left⟩ := mirrors s.1
  rw [ending_noted, leave_noted, ending_noted, leave_noted]
  exact ⟨ending, by simp [left, ending, shown]⟩

/-- Two tasks of which one mirrors the other put down the same notes. -/
theorem Mirrors.noted {t : Task σ α} {view : σ → τ} {plain : Task τ α} (mirrors : t.Mirrors view plain)
    (note : Except Fault α → ε) : (t.noted note).Mirrors (Prod.map view id) (plain.noted note) := by
  have masked := mirrors.noted_masked fun answer => id_eq (note answer)
  rwa [List.map_id_fun] at masked

/-- What a run of the task adds to a journal that the state keeps, the way in which it ends and what a view
shows before it and after it fit together. -/
def Reports (t : Task σ α) (journal : σ → List ε) (view : σ → τ)
    (story : τ → List ε → Except Fault α → τ → Prop) : Prop :=
  ∀ s, ∃ notes, journal (t.leave s) = journal s ++ notes ∧ story (view s) notes (t.ending s) (view (t.leave s))

section Reports

variable {t : Task σ α} {journal : σ → List ε} {view : σ → τ}
  {story : τ → List ε → Except Fault α → τ → Prop}

theorem Reports.mono {wider : τ → List ε → Except Fault α → τ → Prop} (told : t.Reports journal view story)
    (implies : ∀ {before notes ending after}, story before notes ending after → wider before notes ending after) :
    t.Reports journal view wider := by
  intro s
  obtain ⟨notes, added, fits⟩ := told s
  exact ⟨notes, added, implies fits⟩

theorem reports_pure (a : α) (journal : σ → List ε) (view : σ → τ) :
    (pure a : Task σ α).Reports journal view fun before notes ending after =>
      notes = [] ∧ ending = .ok a ∧ after = before :=
  fun s => ⟨[], (List.append_nil (journal s)).symm, rfl, rfl, rfl⟩

/-- A sequence reports what its first task did, and then what the rest does from where the first left off. -/
theorem Reports.bind {f : α → Task σ β} {whole : τ → List ε → Except Fault β → τ → Prop}
    (told : t.Reports journal view story)
    (rest : ∀ {before notes a between}, story before notes (.ok a) between →
      (f a).Reports journal view fun start more ending after =>
        start = between → whole before (notes ++ more) ending after)
    (stopped : ∀ {before notes fault after}, story before notes (.error fault) after →
      whole before notes (.error fault) after) :
    (t >>= f).Reports journal view whole := by
  intro s
  obtain ⟨notes, added, fits⟩ := told s
  rw [ending_bind, leave_bind]
  cases ended : t.ending s with
  | error fault =>
    rw [ended] at fits
    exact ⟨notes, added, stopped fits⟩
  | ok a =>
    rw [ended] at fits
    obtain ⟨more, added', fits'⟩ := rest fits (t.leave s)
    exact ⟨notes ++ more, by rw [added', added, List.append_assoc], fits' rfl⟩

/-- What a task does with the state it looks at is what it does in that state. -/
theorem reports_get {f : σ → Task σ β} {whole : τ → List ε → Except Fault β → τ → Prop}
    (told : ∀ s, (f s).Reports journal view fun before notes ending after =>
      before = view s → whole before notes ending after) :
    ((get : Task σ σ) >>= f).Reports journal view whole := by
  intro s
  obtain ⟨notes, added, fits⟩ := told s s
  exact ⟨notes, added, fits rfl⟩

/-- The answer of a task in another form. -/
theorem Reports.answer (told : t.Reports journal view story) (g : α → β) :
    (do pure (g (← t))).Reports journal view fun before notes ending after =>
      ∃ inner : Except Fault α, ending = inner.map g ∧ story before notes inner after := by
  refine told.bind ?_ fun fits => ⟨_, rfl, fits⟩
  intro before notes a between fits
  refine (reports_pure (g a) journal view).mono ?_
  rintro _ _ _ _ ⟨rfl, rfl, rfl⟩ rfl
  exact ⟨.ok a, rfl, (List.append_nil notes).symm ▸ fits⟩

theorem Reports.settle (told : t.Reports journal view story) :
    t.settle.Reports journal view fun before notes ending after => match ending with
      | .ok outcome => story before notes outcome after ∧ outcome ≠ .error .cancelled
      | .error fault => fault = .cancelled ∧ story before notes (.error .cancelled) after := by
  intro s
  obtain ⟨notes, added, fits⟩ := told s
  rw [leave_settle]
  by_cases fired : t.ending s = .error .cancelled
  · rw [fired] at fits
    rw [ending_settle_of_cancelled fired]
    exact ⟨notes, added, rfl, fits⟩
  · rw [ending_settle fired]
    exact ⟨notes, added, fits, fired⟩

theorem Reports.attempt (told : t.Reports journal view story) :
    t.attempt.Reports journal view fun before notes ending after =>
      ∃ outcome, ending = .ok outcome ∧ story before notes outcome after := by
  intro s
  obtain ⟨notes, added, fits⟩ := told s
  rw [leave_attempt, ending_attempt]
  exact ⟨notes, added, t.ending s, rfl, fits⟩

end Reports

/-- The notes that a run of the task adds to the journal fit the way in which it ends. -/
def Tells (t : Task (σ × List ε) α) (story : List ε → Except Fault α → Prop) : Prop :=
  ∀ s, ∃ notes, (t.leave s).2 = s.2 ++ notes ∧ story notes (t.ending s)

theorem tells_iff {t : Task (σ × List ε) α} {story : List ε → Except Fault α → Prop} :
    t.Tells story ↔ t.Reports Prod.snd (fun _ => ()) fun _ notes ending _ => story notes ending := .rfl

theorem Tells.mono {t : Task (σ × List ε) α} {story wider : List ε → Except Fault α → Prop}
    (told : t.Tells story) (implies : ∀ {notes ending}, story notes ending → wider notes ending) :
    t.Tells wider := by
  intro s
  obtain ⟨notes, added, fits⟩ := told s
  exact ⟨notes, added, implies fits⟩

theorem tells_pure (a : α) :
    (pure a : Task (σ × List ε) α).Tells fun notes ending => notes = [] ∧ ending = .ok a :=
  fun s => ⟨[], (List.append_nil s.2).symm, rfl, rfl⟩

/-- A sequence tells what its first task told, and then what the rest tells after that. -/
theorem Tells.bind {t : Task (σ × List ε) α} {f : α → Task (σ × List ε) β}
    {first : List ε → Except Fault α → Prop} {story : List ε → Except Fault β → Prop} (told : t.Tells first)
    (rest : ∀ {a notes}, first notes (.ok a) → (f a).Tells fun more ending => story (notes ++ more) ending)
    (stopped : ∀ {fault notes}, first notes (.error fault) → story notes (.error fault)) :
    (t >>= f).Tells story :=
  tells_iff.2 (Reports.bind (tells_iff.1 told)
    (fun fits => (tells_iff.1 (rest fits)).mono fun more _ => more) stopped)

theorem Tells.settle {t : Task (σ × List ε) α} {story : List ε → Except Fault α → Prop}
    (told : t.Tells story) :
    t.settle.Tells fun notes ending => match ending with
      | .ok outcome => story notes outcome ∧ outcome ≠ .error .cancelled
      | .error fault => fault = .cancelled ∧ story notes (.error .cancelled) :=
  (tells_iff.1 told).settle

theorem Tells.attempt {t : Task (σ × List ε) α} {story : List ε → Except Fault α → Prop}
    (told : t.Tells story) :
    t.attempt.Tells fun notes ending => ∃ outcome, ending = .ok outcome ∧ story notes outcome :=
  (tells_iff.1 told).attempt

theorem tells_noted (t : Task σ α) (note : Except Fault α → ε) :
    (t.noted note).Tells fun notes ending => notes = [note ending] := by
  intro s
  rw [leave_noted, ending_noted]
  exact ⟨_, rfl, rfl⟩

/-- Whatever the run, the task adds to a journal that the state keeps, and each note that it adds satisfies
`P`. -/
def NotesIn (t : Task σ α) (journal : σ → List ε) (P : ε → Prop) : Prop :=
  ∀ s, ∃ notes, journal (t.leave s) = journal s ++ notes ∧ ∀ e ∈ notes, P e

section NotesIn

variable {t : Task σ α} {journal : σ → List ε} {P : ε → Prop}

theorem notesIn_iff :
    t.NotesIn journal P ↔ t.Reports journal (fun _ => ()) fun _ notes _ _ => ∀ e ∈ notes, P e := .rfl

theorem notesIn_pure (a : α) (journal : σ → List ε) (P : ε → Prop) : (pure a : Task σ α).NotesIn journal P :=
  fun s => ⟨[], (List.append_nil (journal s)).symm, nofun⟩

theorem NotesIn.mono {Q : ε → Prop} (fits : t.NotesIn journal P) (implies : ∀ e, P e → Q e) : t.NotesIn journal Q :=
  (notesIn_iff.1 fits).mono fun each e member => implies e (each e member)

/-- What comes after a task matters only for the answers that the task can give. -/
theorem NotesIn.bind_of {f : α → Task σ β} (first : t.NotesIn journal P)
    (rest : ∀ {s a s'}, t s = .ok a s' → (f a).NotesIn journal P) : (t >>= f).NotesIn journal P := by
  intro s
  obtain ⟨notes, added, fits⟩ := first s
  cases run : t s with
  | error fault s' =>
    rw [leave_of_error run] at added
    rw [leave_of_error (bind_of_error run)]
    exact ⟨notes, added, fits⟩
  | ok a s' =>
    obtain ⟨more, added', fits'⟩ := rest run s'
    rw [leave_of_ok run] at added
    refine ⟨notes ++ more, ?_, fun e member => (List.mem_append.1 member).elim (fits e) (fits' e)⟩
    rw [leave, bind_of_ok run, ← leave, added', added, List.append_assoc]

theorem NotesIn.bind {f : α → Task σ β} (first : t.NotesIn journal P) (rest : ∀ a, (f a).NotesIn journal P) :
    (t >>= f).NotesIn journal P :=
  first.bind_of fun _ => rest _

theorem NotesIn.settle (fits : t.NotesIn journal P) : t.settle.NotesIn journal P :=
  fun s => leave_settle t s ▸ fits s

theorem NotesIn.attempt (fits : t.NotesIn journal P) : t.attempt.NotesIn journal P :=
  fun s => leave_attempt t s ▸ fits s

theorem NotesIn.on {p : Part τ σ} (fits : t.NotesIn journal P) :
    (Task.on p t).NotesIn (journal ∘ p.get) P := by
  intro s
  rw [leave_on, Function.comp_apply, p.get_set]
  exact fits (p.get s)

theorem NotesIn.of_mem (fits : t.NotesIn journal P) {s : σ} (fresh : journal s = []) {e : ε}
    (member : e ∈ journal (t.leave s)) : P e := by
  obtain ⟨notes, added, each⟩ := fits s
  rw [added, fresh, List.nil_append] at member
  exact each e member

/-- A task that leaves the journal alone puts nothing down. -/
theorem Keeps.notesIn (keeps : t.Keeps journal) (P : ε → Prop) : t.NotesIn journal P :=
  fun s => ⟨[], (keeps s).trans (List.append_nil (journal s)).symm, nofun⟩

end NotesIn

/-- Whatever the run, each note that the task adds to the journal satisfies `P`. -/
def Notes (t : Task (σ × List ε) α) (P : ε → Prop) : Prop :=
  t.Tells fun notes _ => ∀ e ∈ notes, P e

theorem notes_pure (a : α) (P : ε → Prop) : (pure a : Task (σ × List ε) α).Notes P :=
  notesIn_pure a Prod.snd P

theorem Notes.bind {t : Task (σ × List ε) α} {f : α → Task (σ × List ε) β} {P : ε → Prop} (first : t.Notes P)
    (rest : ∀ a, (f a).Notes P) : (t >>= f).Notes P := NotesIn.bind first rest

theorem Notes.settle {t : Task (σ × List ε) α} {P : ε → Prop} (fits : t.Notes P) : t.settle.Notes P :=
  NotesIn.settle fits

theorem Notes.attempt {t : Task (σ × List ε) α} {P : ε → Prop} (fits : t.Notes P) : t.attempt.Notes P :=
  NotesIn.attempt fits

theorem Keeps.notes {t : Task (σ × List ε) α} (keeps : t.Keeps Prod.snd) (P : ε → Prop) : t.Notes P :=
  keeps.notesIn P

theorem notes_noted {t : Task σ α} {note : Except Fault α → ε} {P : ε → Prop}
    (fits : ∀ s, P (note (t.ending s))) : (t.noted note).Notes P := by
  intro s
  rw [leave_noted]
  exact ⟨_, rfl, fun _ member => List.mem_singleton.1 member ▸ fits s.1⟩

end Task

namespace Query

/-- In alike states the two questions have the same answer, and they leave alike states. -/
def Agrees (q : Query σ α) (alike : σ → τ → Prop) (p : Query τ α) : Prop :=
  ∀ s s', alike s s' → (q s).1 = (p s').1 ∧ alike (q s).2 (p s').2

theorem Agrees.task {alike : σ → τ → Prop} {q : Query σ α} {p : Query τ α} (agrees : q.Agrees alike p) :
    q.task.Agrees alike alike p.task := by
  intro s s' related
  obtain ⟨answer, left⟩ := agrees s s' related
  exact ⟨congrArg Except.ok answer, left⟩

/-- Seen through `view`, the question does just what the plain one does. -/
def Mirrors (q : Query σ α) (view : σ → τ) (plain : Query τ α) : Prop :=
  ∀ s, (q s).1 = (plain (view s)).1 ∧ view (q s).2 = (plain (view s)).2

theorem mirrors_iff_agrees {q : Query σ α} {view : σ → τ} {plain : Query τ α} :
    q.Mirrors view plain ↔ q.Agrees (fun s u => view s = u) plain := by
  constructor
  · rintro mirrors s _ rfl
    exact mirrors s
  · exact fun agrees s => agrees s _ rfl

theorem Mirrors.task {q : Query σ α} {view : σ → τ} {plain : Query τ α} (mirrors : q.Mirrors view plain) :
    q.task.Mirrors view plain.task :=
  Task.mirrors_iff_agrees.2 (mirrors_iff_agrees.1 mirrors).task

theorem mirrors_on (p : Part σ τ) (q : Query τ α) : (Query.on p q).Mirrors p.get q :=
  fun s => ⟨rfl, p.get_set _ s⟩

/-- The question with a note of its answer. -/
def noted (q : Query σ α) (note : α → ε) : Query (σ × List ε) α := fun s =>
  ((q s.1).1, (q s.1).2, s.2 ++ [note (q s.1).1])

theorem mirrors_noted (q : Query σ α) (note : α → ε) : (q.noted note).Mirrors Prod.fst q :=
  fun _ => ⟨rfl, rfl⟩

theorem Mirrors.noted_masked {q : Query σ α} {view : σ → τ} {plain : Query τ α} (mirrors : q.Mirrors view plain)
    {mask : ε → ε'} {note : α → ε} {seen : α → ε'} (shown : ∀ answer, mask (note answer) = seen answer) :
    (q.noted note).Mirrors (Prod.map view (List.map mask)) (plain.noted seen) := by
  intro s
  obtain ⟨answer, left⟩ := mirrors s.1
  exact ⟨answer, Prod.ext left (by simp [Query.noted, answer, shown])⟩

theorem Mirrors.noted {q : Query σ α} {view : σ → τ} {plain : Query τ α} (mirrors : q.Mirrors view plain)
    (note : α → ε) : (q.noted note).Mirrors (Prod.map view id) (plain.noted note) := by
  have masked := mirrors.noted_masked fun answer => id_eq (note answer)
  rwa [List.map_id_fun] at masked

theorem tells_noted (q : Query σ α) (note : α → ε) :
    (q.noted note).task.Tells fun notes ending => match ending with
      | .ok a => notes = [note a]
      | .error _ => False :=
  fun _ => ⟨_, rfl, rfl⟩

theorem notes_noted {q : Query σ α} {note : α → ε} {P : ε → Prop} (fits : ∀ s, P (note (q s).1)) :
    (q.noted note).task.Notes P :=
  fun s => ⟨_, rfl, fun _ member => List.mem_singleton.1 member ▸ fits s.1⟩

end Query

namespace Token

theorem ending_check (t : Token σ) (s : σ) :
    t.check.ending s = if (t s).1 then .error .cancelled else .ok () := by
  cases fired : (t s).1 with
  | false => exact Task.ending_of_ok (check_of_unfired fired)
  | true => exact Task.ending_of_error (check_of_fired fired)

theorem leave_check (t : Token σ) (s : σ) : t.check.leave s = (t s).2 := by
  cases fired : (t s).1 with
  | false => exact Task.leave_of_ok (check_of_unfired fired)
  | true => exact Task.leave_of_error (check_of_fired fired)

theorem check_agrees {alike : σ → τ → Prop} {t : Token σ} {u : Token τ} (agrees : Query.Agrees t alike u) :
    t.check.Agrees alike alike u.check := by
  intro s s' related
  obtain ⟨answer, left⟩ := agrees s s' related
  rw [ending_check, leave_check, ending_check, leave_check, answer]
  exact ⟨rfl, left⟩

theorem check_mirrors {t : Token σ} {view : σ → τ} {plain : Token τ} (mirrors : Query.Mirrors t view plain) :
    t.check.Mirrors view plain.check :=
  Task.mirrors_iff_agrees.2 (check_agrees (Query.mirrors_iff_agrees.1 mirrors))

theorem check_tells (t : Token σ) (note : Bool → ε) :
    (check (Query.noted t note)).Tells fun notes ending => match ending with
      | .ok _ => notes = [note false]
      | .error fault => fault = .cancelled ∧ notes = [note true] := by
  intro s
  rw [ending_check, leave_check]
  refine ⟨_, rfl, ?_⟩
  cases fired : (Query.noted t note s).1 with
  | false => exact congrArg (fun b => [note b]) fired
  | true => exact ⟨rfl, congrArg (fun b => [note b]) fired⟩

theorem check_notes {t : Token σ} {note : Bool → ε} {P : ε → Prop} (fits : ∀ s, P (note (t s).1)) :
    (check (Query.noted t note)).Notes P := by
  intro s
  rw [leave_check]
  exact ⟨_, rfl, fun _ member => List.mem_singleton.1 member ▸ fits s.1⟩

end Token
end LiveControl
