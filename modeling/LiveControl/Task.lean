import LiveControl.Fault

/-!
Tasks: computations that change a state and either answer or stop with a fault. A fault does not undo
the changes made before it. Collaborators of a component are tasks on a state of any type, so what is
proved of the component holds whatever they do.
-/

namespace LiveControl

/-- A computation on states `σ` that answers an `α` or stops with a fault. -/
abbrev Task (σ α : Type) := EStateM Fault σ α

/-- A question that changes the state at most, and always has an answer. -/
abbrev Query (σ α : Type) := σ → α × σ

/-- A cancellation token, asked at chosen moments whether it has fired. As the answer may depend on the
state in any way, a token may fire at any moment. -/
abbrev Token (σ : Type) := Query σ Bool

namespace Query

variable {σ τ α : Type}

/-- The question whose answer is fixed. -/
def const (a : α) : Query σ α := fun s => (a, s)

/-- The question as a task. -/
def task (q : Query σ α) : Task σ α := fun s =>
  let (a, s) := q s
  .ok a s

@[simp] theorem task_apply (q : Query σ α) (s : σ) : q.task s = .ok (q s).1 (q s).2 := rfl

end Query

namespace Token

variable {σ : Type}

/-- The token that never fires. -/
def never : Token σ := Query.const false

/-- Stops if the token has fired. -/
def check (t : Token σ) : Task σ Unit := fun s =>
  let (fired, s) := t s
  if fired then .error .cancelled s else .ok () s

end Token

/-- A component of a larger state, with the laws that make it one. -/
structure Part (σ τ : Type) where
  get : σ → τ
  set : τ → σ → σ
  get_set : ∀ t s, get (set t s) = t := by intros; rfl
  set_get : ∀ s, set (get s) s = s := by intros; rfl
  set_set : ∀ t u s, set u (set t s) = set u s := by intros; rfl

namespace Part

variable {σ τ : Type}

/-- The whole state as its own component. -/
def whole : Part σ σ where
  get := id
  set t _ := t

end Part

namespace Task

variable {σ τ α β : Type}

@[simp] theorem pure_apply (a : α) (s : σ) : (pure a : Task σ α) s = .ok a s := rfl

theorem bind_apply (t : Task σ α) (f : α → Task σ β) (s : σ) :
    (t >>= f) s = match t s with
      | .ok a s => f a s
      | .error e s => .error e s := by
  show EStateM.bind t f s = _
  unfold EStateM.bind
  cases t s <;> rfl

@[simp] theorem throw_apply (e : Fault) (s : σ) : (throw e : Task σ α) s = .error e s := rfl

/-- A task on a component, as a task on the whole. -/
def on (p : Part σ τ) (t : Task τ α) : Task σ α := fun s =>
  match t (p.get s) with
  | .ok a u => .ok a (p.set u s)
  | .error e u => .error e (p.set u s)

/-- A change of a component. -/
def change (p : Part σ τ) (f : τ → τ) : Task σ Unit := fun s => .ok () (p.set (f (p.get s)) s)

/-- A task that has come to an end: its fault, if any, is its answer. -/
def attempt (t : Task σ α) : Task σ (Except Fault α) := fun s =>
  match t s with
  | .ok a s => .ok (.ok a) s
  | .error e s => .ok (.error e) s

/-- A task of which only cancellation is a fault; every other fault is an answer. -/
def settle (t : Task σ α) : Task σ (Except Fault α) := fun s =>
  match t s with
  | .ok a s => .ok (.ok a) s
  | .error .cancelled s => .error .cancelled s
  | .error e s => .ok (.error e) s

/-- The answer of a pure computation. -/
def ofExcept : Except Fault α → Task σ α
  | .ok a => pure a
  | .error e => throw e

end Task

namespace Query

variable {σ τ α : Type}

/-- A question about a component, as a question about the whole. -/
def on (p : Part σ τ) (q : Query τ α) : Query σ α := fun s =>
  let (a, t) := q (p.get s)
  (a, p.set t s)

end Query
end LiveControl
