import LiveControl.Task

namespace LiveControl

variable {σ τ υ α β : Type}

namespace Task

theorem bind_of_ok {t : Task σ α} {f : α → Task σ β} {s s' : σ} {a : α} (run : t s = .ok a s') :
    (t >>= f) s = f a s' := by rw [bind_apply, run]

theorem bind_of_error {t : Task σ α} {f : α → Task σ β} {s s' : σ} {fault : Fault}
    (run : t s = .error fault s') : (t >>= f) s = .error fault s' := by rw [bind_apply, run]

/-- A run of a sequence that comes to an end is a run of the first task and then one of the rest. -/
theorem bind_eq_ok {t : Task σ α} {f : α → Task σ β} {s s' : σ} {b : β} (run : (t >>= f) s = .ok b s') :
    ∃ a u, t s = .ok a u ∧ f a u = .ok b s' := by
  cases first : t s with
  | ok a u =>
    rw [bind_of_ok first] at run
    exact ⟨a, u, rfl, run⟩
  | error fault u =>
    rw [bind_of_error first] at run
    cases run

/-- A run of a sequence that stops with a fault stopped in the first task or in the rest. -/
theorem bind_eq_error {t : Task σ α} {f : α → Task σ β} {s s' : σ} {fault : Fault}
    (run : (t >>= f) s = .error fault s') :
    t s = .error fault s' ∨ ∃ a u, t s = .ok a u ∧ f a u = .error fault s' := by
  cases first : t s with
  | ok a u =>
    rw [bind_of_ok first] at run
    exact .inr ⟨a, u, rfl, run⟩
  | error fault u =>
    rw [bind_of_error first] at run
    cases run
    exact .inl rfl

theorem get_bind (f : σ → Task σ β) (s : σ) : ((get : Task σ σ) >>= f) s = f s s := rfl

theorem on_of_ok {p : Part σ τ} {t : Task τ α} {s : σ} {u : τ} {a : α} (run : t (p.get s) = .ok a u) :
    Task.on p t s = .ok a (p.set u s) := by rw [Task.on, run]

theorem on_of_error {p : Part σ τ} {t : Task τ α} {s : σ} {u : τ} {fault : Fault}
    (run : t (p.get s) = .error fault u) : Task.on p t s = .error fault (p.set u s) := by
  rw [Task.on, run]

theorem on_eq_ok {p : Part σ τ} {t : Task τ α} {s s' : σ} {a : α} (run : Task.on p t s = .ok a s') :
    ∃ u, t (p.get s) = .ok a u ∧ s' = p.set u s := by
  cases inner : t (p.get s) with
  | ok b u =>
    rw [on_of_ok inner] at run
    cases run
    exact ⟨u, rfl, rfl⟩
  | error fault u =>
    rw [on_of_error inner] at run
    cases run

theorem attempt_of_ok {t : Task σ α} {s s' : σ} {a : α} (run : t s = .ok a s') :
    Task.attempt t s = .ok (.ok a) s' := by rw [Task.attempt, run]

theorem attempt_of_error {t : Task σ α} {s s' : σ} {fault : Fault} (run : t s = .error fault s') :
    Task.attempt t s = .ok (.error fault) s' := by rw [Task.attempt, run]

theorem eq_of_attempt_ok {t : Task σ α} {s s' : σ} {a : α}
    (run : Task.attempt t s = .ok (.ok a) s') : t s = .ok a s' := by
  cases inner : t s with
  | ok b u =>
    rw [attempt_of_ok inner] at run
    cases run
    rfl
  | error fault u =>
    rw [attempt_of_error inner] at run
    cases run

theorem eq_of_attempt_error {t : Task σ α} {s s' : σ} {fault : Fault}
    (run : Task.attempt t s = .ok (.error fault) s') : t s = .error fault s' := by
  cases inner : t s with
  | ok a u =>
    rw [attempt_of_ok inner] at run
    cases run
  | error cause u =>
    rw [attempt_of_error inner] at run
    cases run
    rfl

theorem settle_of_ok {t : Task σ α} {s s' : σ} {a : α} (run : t s = .ok a s') :
    Task.settle t s = .ok (.ok a) s' := by rw [Task.settle, run]

theorem settle_of_error {t : Task σ α} {s s' : σ} {fault : Fault} (run : t s = .error fault s')
    (other : fault ≠ .cancelled) : Task.settle t s = .ok (.error fault) s' := by
  rw [Task.settle, run]
  cases fault <;> first | rfl | exact absurd rfl other

theorem settle_of_cancelled {t : Task σ α} {s s' : σ} (run : t s = .error .cancelled s') :
    Task.settle t s = .error .cancelled s' := by rw [Task.settle, run]

theorem settle_eq_ok_ok {t : Task σ α} {s s' : σ} {a : α} (run : Task.settle t s = .ok (.ok a) s') :
    t s = .ok a s' := by
  unfold Task.settle at run
  split at run
  · cases run
    assumption
  · cases run
  · cases run

/-- The state in which a task leaves off. -/
def leave (t : Task σ α) (s : σ) : σ :=
  match t s with
  | .ok _ s' | .error _ s' => s'

theorem leave_of_ok {t : Task σ α} {s s' : σ} {a : α} (run : t s = .ok a s') : t.leave s = s' := by
  rw [leave, run]

theorem leave_of_error {t : Task σ α} {s s' : σ} {fault : Fault} (run : t s = .error fault s') :
    t.leave s = s' := by rw [leave, run]

/-- Whatever comes of the task, the view is as it was. -/
def Keeps (t : Task σ α) (view : σ → τ) : Prop := ∀ s, view (t.leave s) = view s

theorem Keeps.ok {t : Task σ α} {view : σ → τ} (keeps : t.Keeps view) {s s' : σ} {a : α}
    (run : t s = .ok a s') : view s' = view s := by
  rw [← keeps s, leave_of_ok run]

theorem Keeps.error {t : Task σ α} {view : σ → τ} (keeps : t.Keeps view) {s s' : σ} {fault : Fault}
    (run : t s = .error fault s') : view s' = view s := by
  rw [← keeps s, leave_of_error run]

theorem Keeps.intro {t : Task σ α} {view : σ → τ}
    (ok : ∀ {s a s'}, t s = .ok a s' → view s' = view s)
    (error : ∀ {s fault s'}, t s = .error fault s' → view s' = view s) : t.Keeps view := by
  intro s
  cases run : t s with
  | ok a s' => rw [leave_of_ok run]; exact ok run
  | error fault s' => rw [leave_of_error run]; exact error run

/-- What is computed from a view that is kept is kept. -/
theorem Keeps.comp {t : Task σ α} {view : σ → τ} (keeps : t.Keeps view) (f : τ → υ) : t.Keeps (f ∘ view) :=
  fun s => congrArg f (keeps s)

theorem keeps_pure (a : α) (view : σ → τ) : (pure a : Task σ α).Keeps view := fun _ => rfl

theorem Keeps.bind {t : Task σ α} {f : α → Task σ β} {view : σ → τ} (keeps : t.Keeps view)
    (rest : ∀ a, (f a).Keeps view) : (t >>= f).Keeps view := by
  intro s
  cases run : t s with
  | ok a s' =>
    have tail := rest a s'
    rw [leave, ← bind_of_ok (f := f) run] at tail
    exact tail.trans (keeps.ok run)
  | error fault s' =>
    rw [leave_of_error (bind_of_error run)]
    exact keeps.error run

theorem Keeps.on {p : Part σ τ} {t : Task τ α} {view : τ → υ} (keeps : t.Keeps view) :
    (Task.on p t).Keeps (view ∘ p.get) := by
  intro s
  cases run : t (p.get s) with
  | ok a u =>
    rw [leave_of_ok (on_of_ok run), Function.comp_apply, p.get_set, keeps.ok run, Function.comp_apply]
  | error fault u =>
    rw [leave_of_error (on_of_error run), Function.comp_apply, p.get_set, keeps.error run,
      Function.comp_apply]

theorem attempt_ne_error {t : Task σ α} {s s' : σ} {fault : Fault} :
    Task.attempt t s ≠ .error fault s' := by
  cases run : t s with
  | ok a s' => rw [attempt_of_ok run]; nofun
  | error fault s' => rw [attempt_of_error run]; nofun

end Task

namespace Query

/-- Whatever is answered, the view is as it was. -/
def Keeps (q : Query σ α) (view : σ → τ) : Prop := ∀ s, view (q s).2 = view s

theorem keeps_const (a : α) (view : σ → τ) : (Query.const a : Query σ α).Keeps view := fun _ => rfl

theorem Keeps.comp {q : Query σ α} {view : σ → τ} (keeps : q.Keeps view) (f : τ → υ) : q.Keeps (f ∘ view) :=
  fun s => congrArg f (keeps s)

theorem Keeps.on {p : Part σ τ} {q : Query τ α} {view : τ → υ} (keeps : q.Keeps view) :
    (Query.on p q).Keeps (view ∘ p.get) := by
  intro s
  show view (p.get (p.set (q (p.get s)).2 s)) = view (p.get s)
  rw [p.get_set, keeps]

end Query

namespace Token

theorem check_of_unfired {t : Token σ} {s : σ} (unfired : (t s).1 = false) :
    t.check s = .ok () (t s).2 := by
  simp [check, unfired]

theorem check_of_fired {t : Token σ} {s : σ} (fired : (t s).1 = true) :
    t.check s = .error .cancelled (t s).2 := by
  simp [check, fired]

theorem never_keeps (view : σ → τ) : (never : Token σ).Keeps view := Query.keeps_const false view

@[simp] theorem check_never (s : σ) : (never : Token σ).check s = .ok () s := rfl

theorem check_keeps {t : Token σ} {view : σ → τ} (keeps : t.Keeps view) : t.check.Keeps view := by
  intro s
  cases fired : (t s).1 with
  | false => rw [Task.leave_of_ok (check_of_unfired fired)]; exact keeps s
  | true => rw [Task.leave_of_error (check_of_fired fired)]; exact keeps s

end Token
end LiveControl
