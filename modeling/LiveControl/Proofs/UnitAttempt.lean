import LiveControl.Proofs.UnitWrite

namespace LiveControl

/-- A write that is attempted for a change. -/
structure UnitAttempt where
  change : UnitChange
  value : Scalar
  operation : UnitOperation

namespace UnitAttempt

/-- The attempt to make a change. -/
def doing (operation : UnitOperation) (c : UnitChange) : UnitAttempt := ⟨c, c.new, operation⟩

/-- The attempt to take a change back. -/
def undoing (c : UnitChange) : UnitAttempt := ⟨c, c.old, .rollback⟩

/-- What comes of an attempt: the message of a write that failed, if it did, or a fault. -/
abbrev Answer := Except Fault (Option String)

def Answer.cameThrough : Answer → Bool
  | .ok none => true
  | _ => false

/-- Why an attempt failed, as the outcome of an edit tells it. -/
def Answer.complaint : Answer → String
  | .ok message => message.getD ""
  | .error fault => fault.message

theorem Answer.eq_of_cameThrough {answer : Answer} (through : answer.cameThrough = true) :
    answer = .ok none := by
  cases answer with
  | error fault => cases through
  | ok message =>
    cases message with
    | none => rfl
    | some text => cases through

variable {τ : Type}

/-- A view after attempts with the given answers, when a write does `put` to it. -/
def landed (put : String → Scalar → τ → τ) (t : τ) (attempts : List UnitAttempt) (answers : List Answer) : τ :=
  (attempts.zip answers).foldl
    (fun t p => if p.2.cameThrough then put p.1.change.symbol p.1.value t else t) t

theorem landed_cons (put : String → Scalar → τ → τ) (t : τ) (a : UnitAttempt) (rest : List UnitAttempt)
    (answer : Answer) (others : List Answer) :
    landed put t (a :: rest) (answer :: others) =
      landed put (if answer.cameThrough then put a.change.symbol a.value t else t) rest others := rfl

/-- What no write breaks holds after any attempts. -/
theorem landed_stable {put : String → Scalar → τ → τ} {P : τ → Prop}
    (stable : ∀ symbol value t, P t → P (put symbol value t)) {t : τ} (holds : P t)
    (attempts : List UnitAttempt) (answers : List Answer) : P (landed put t attempts answers) := by
  unfold landed
  generalize attempts.zip answers = pairs
  induction pairs generalizing t with
  | nil => exact holds
  | cons head rest ih =>
    refine ih ?_
    show P (if head.2.cameThrough then put head.1.change.symbol head.1.value t else t)
    split
    · exact stable _ _ t holds
    · exact holds

theorem get?_landed_of_not_mem {t : Table Scalar} {attempts : List UnitAttempt} {answers : List Answer}
    {key : String} (untouched : key ∉ attempts.map fun a => a.change.symbol) :
    (landed Table.put t attempts answers).get? key = t.get? key := by
  induction attempts generalizing t answers with
  | nil => rfl
  | cons a rest ih =>
    rw [List.map_cons, List.mem_cons, not_or] at untouched
    cases answers with
    | nil => rfl
    | cons answer others =>
      rw [landed_cons, ih untouched.2]
      split
      · rw [Table.put, Table.get?_insert, if_neg untouched.1]
      · rfl

/-- When no symbol is tried twice, each attempt alone decides on its symbol. -/
theorem get?_landed_of_mem {t : Table Scalar} {attempts : List UnitAttempt} {answers : List Answer}
    (distinct : (attempts.map fun a => a.change.symbol).Nodup) {a : UnitAttempt} {answer : Answer}
    (member : (a, answer) ∈ attempts.zip answers) :
    (landed Table.put t attempts answers).get? a.change.symbol =
      if answer.cameThrough then some a.value else t.get? a.change.symbol := by
  induction attempts generalizing t answers with
  | nil => simp at member
  | cons head rest ih =>
    rw [List.map_cons, List.nodup_cons] at distinct
    cases answers with
    | nil => simp at member
    | cons first others =>
      rw [landed_cons]
      rcases List.mem_cons.1 member with here | later
      · -- The symbol does not come again, so the attempts that follow leave it alone.
        cases here
        rw [get?_landed_of_not_mem distinct.1]
        cases answer.cameThrough <;> simp [Table.put]
      · rw [ih distinct.2 later]
        have other : a.change.symbol ≠ head.change.symbol := fun same =>
          distinct.1 (same ▸ List.mem_map_of_mem (List.of_mem_zip later).1)
        cases first.cameThrough <;> simp [Table.put, other]

end UnitAttempt

open UnitAttempt (Answer landed)

namespace UnitEditor

variable {σ : Type} {e : UnitEditor σ} {id : String} {cancel : Token σ}

/-- One attempt. It always comes to an end, and its answer is what came of it. -/
def attempt (e : UnitEditor σ) (id : String) (cancel : Token σ) (a : UnitAttempt) :
    Task (Runtime σ) Answer :=
  Task.attempt (e.write a.change a.value id a.operation cancel)

def attemptAll (e : UnitEditor σ) (id : String) (cancel : Token σ) :
    List UnitAttempt → Task (Runtime σ) (List Answer)
  | [] => pure []
  | a :: rest => do
    let answer ← e.attempt id cancel a
    let others ← e.attemptAll id cancel rest
    pure (answer :: others)

theorem exists_attempt (e : UnitEditor σ) (id : String) (cancel : Token σ) (a : UnitAttempt)
    (r : Runtime σ) : ∃ answer r', e.attempt id cancel a r = .ok answer r' := by
  cases run : e.attempt id cancel a r with
  | error fault r' => exact absurd run Task.attempt_ne_error
  | ok answer r' => exact ⟨answer, r', rfl⟩

theorem attemptAll_cons {a : UnitAttempt} {rest : List UnitAttempt} {answer : Answer}
    {others : List Answer} {r r₁ r₂ : Runtime σ} (first : e.attempt id cancel a r = .ok answer r₁)
    (later : e.attemptAll id cancel rest r₁ = .ok others r₂) :
    e.attemptAll id cancel (a :: rest) r = .ok (answer :: others) r₂ := by
  rw [attemptAll, Task.bind_of_ok first, Task.bind_of_ok later]
  rfl

theorem exists_attemptAll (e : UnitEditor σ) (id : String) (cancel : Token σ)
    (attempts : List UnitAttempt) (r : Runtime σ) :
    ∃ answers r', e.attemptAll id cancel attempts r = .ok answers r' := by
  induction attempts generalizing r with
  | nil => exact ⟨[], r, rfl⟩
  | cons a rest ih =>
    obtain ⟨answer, r₁, first⟩ := exists_attempt e id cancel a r
    obtain ⟨others, r₂, later⟩ := ih r₁
    exact ⟨answer :: others, r₂, attemptAll_cons first later⟩

theorem attemptAll_cons_eq_ok {a : UnitAttempt} {rest : List UnitAttempt} {answers : List Answer}
    {r r₂ : Runtime σ} (run : e.attemptAll id cancel (a :: rest) r = .ok answers r₂) :
    ∃ answer others r₁, answers = answer :: others ∧ e.attempt id cancel a r = .ok answer r₁ ∧
      e.attemptAll id cancel rest r₁ = .ok others r₂ := by
  obtain ⟨answer, r₁, first⟩ := exists_attempt e id cancel a r
  obtain ⟨others, r₃, later⟩ := exists_attemptAll e id cancel rest r₁
  rw [attemptAll_cons first later] at run
  cases run
  exact ⟨answer, others, r₁, rfl, first, later⟩

theorem length_attemptAll {attempts : List UnitAttempt} {answers : List Answer} {r r' : Runtime σ}
    (run : e.attemptAll id cancel attempts r = .ok answers r') : answers.length = attempts.length := by
  induction attempts generalizing r answers with
  | nil =>
    cases run
    rfl
  | cons a rest ih =>
    obtain ⟨answer, others, r₁, rfl, -, later⟩ := attemptAll_cons_eq_ok run
    rw [List.length_cons, List.length_cons, ih later]

/-- Undoing is attempting to take back every change in turn, with a token that never fires. -/
theorem undo_of_attempts {changes : List UnitChange} {answers : List Answer} {r r' : Runtime σ}
    (run : e.attemptAll id .never (changes.map .undoing) r = .ok answers r') :
    e.undo id changes r = .ok (answers.all Answer.cameThrough) r' := by
  induction changes generalizing r answers with
  | nil =>
    cases run
    rfl
  | cons c rest ih =>
    obtain ⟨answer, others, r₁, rfl, first, later⟩ := attemptAll_cons_eq_ok run
    rw [undo, Task.bind_of_ok (show Task.attempt (e.write c c.old id .rollback .never) r = _ from first),
      Task.bind_of_ok (ih later)]
    rfl

theorem settle_of_attempt {a : UnitAttempt} {answer : Answer} {r r' : Runtime σ}
    (run : e.attempt id cancel a r = .ok answer r') (other : answer ≠ .error .cancelled) :
    Task.settle (e.write a.change a.value id a.operation cancel) r = .ok answer r' := by
  cases answer with
  | ok message => exact Task.settle_of_ok (Task.eq_of_attempt_ok run)
  | error fault => exact Task.settle_of_error (Task.eq_of_attempt_error run) fun same => other (same ▸ rfl)

variable {operation : UnitOperation}

/-- Writes that all come through move on to the rest of the plan. -/
theorem writeFrom_append {done : List UnitChange} (applied rest : List UnitChange) {answers : List Answer}
    {r r' : Runtime σ} (run : e.attemptAll id cancel (done.map (.doing operation)) r = .ok answers r')
    (through : answers.all Answer.cameThrough = true) :
    e.writeFrom id operation cancel applied (done ++ rest) r =
      e.writeFrom id operation cancel (done.reverse ++ applied) rest r' := by
  -- Each write moves its change onto `applied`, so `applied` has to vary along the induction.
  induction done generalizing r answers applied with
  | nil =>
    cases run
    rfl
  | cons c others ih =>
    obtain ⟨answer, later, r₁, rfl, first, tail⟩ := attemptAll_cons_eq_ok run
    rw [List.all_cons, Bool.and_eq_true] at through
    obtain rfl := Answer.eq_of_cameThrough through.1
    have settled : Task.settle (e.write c c.new id operation cancel) r = .ok (.ok none) r₁ :=
      settle_of_attempt first nofun
    rw [List.cons_append, writeFrom, Task.bind_of_ok settled, List.reverse_cons, List.append_assoc]
    exact ih _ tail through.2

theorem writeFrom_of_failure {applied rest : List UnitChange} {c : UnitChange} {answer : Answer}
    {r r' : Runtime σ} (run : e.attempt id cancel (.doing operation c) r = .ok answer r')
    (fails : answer.cameThrough = false) (other : answer ≠ .error .cancelled) :
    e.writeFrom id operation cancel applied (c :: rest) r = .ok (.stopped applied c answer.complaint) r' := by
  have settled : Task.settle (e.write c c.new id operation cancel) r = .ok answer r' :=
    settle_of_attempt run other
  rw [writeFrom, Task.bind_of_ok settled]
  cases answer with
  | error fault => rfl
  | ok message =>
    cases message with
    | none => cases fails
    | some text => rfl

theorem writeFrom_of_cancelled {applied rest : List UnitChange} {c : UnitChange} {r r' : Runtime σ}
    (run : e.attempt id cancel (.doing operation c) r = .ok (.error .cancelled) r') :
    e.writeFrom id operation cancel applied (c :: rest) r = .error .cancelled r' := by
  have stopped : e.write c c.new id operation cancel r = .error .cancelled r' := Task.eq_of_attempt_error run
  rw [writeFrom, Task.bind_of_error (Task.settle_of_cancelled stopped)]

/-- The first attempt of a plan that does not come through, if there is one. -/
theorem exists_first_failure (e : UnitEditor σ) (id : String) (operation : UnitOperation)
    (cancel : Token σ) (changes : List UnitChange) (r : Runtime σ) :
    ∃ done rest answers r', changes = done ++ rest ∧
      e.attemptAll id cancel (done.map (.doing operation)) r = .ok answers r' ∧
      answers.all Answer.cameThrough = true ∧
      (rest = [] ∨ ∃ failed others answer r'', rest = failed :: others ∧
        e.attempt id cancel (.doing operation failed) r' = .ok answer r'' ∧
        answer.cameThrough = false) := by
  induction changes generalizing r with
  | nil => exact ⟨[], [], [], r, rfl, rfl, rfl, Or.inl rfl⟩
  | cons c others ih =>
    obtain ⟨answer, r₁, first⟩ := exists_attempt e id cancel (.doing operation c) r
    cases through : answer.cameThrough with
    | false =>
      exact ⟨[], c :: others, [], r, rfl, rfl, rfl, Or.inr ⟨c, others, answer, r₁, rfl, first, through⟩⟩
    | true =>
      obtain ⟨done, rest, answers, r', rfl, run, all, ending⟩ := ih r₁
      exact ⟨c :: done, rest, answer :: answers, r', rfl, attemptAll_cons first run,
        by rw [List.all_cons, through, all]; rfl, ending⟩

variable {before : UnitSnapshot} {changes : List UnitChange} {recorded : Bool} {d : UnitDesk σ}

def nextId (e : UnitEditor σ) (d : UnitDesk σ) : String := (e.freshId d.runtime.world).1

def afterId (e : UnitEditor σ) (d : UnitDesk σ) : UnitDesk σ :=
  { d with runtime := { d.runtime with world := (e.freshId d.runtime.world).2 } }

theorem takeId (e : UnitEditor σ) (d : UnitDesk σ) :
    Task.on UnitDesk.runtimePart (Task.on Runtime.worldPart e.freshId.task) d =
      .ok (e.nextId d) (e.afterId d) := rfl

theorem carryOut_of_complete {answers : List Answer} {r : Runtime σ}
    (written : e.attemptAll (e.nextId d) cancel (changes.map (.doing operation)) (e.afterId d).runtime =
      .ok answers r) (through : answers.all Answer.cameThrough = true) :
    e.carryOut before changes operation recorded cancel d =
      .ok (.committed (e.nextId d) changes.length)
        { d with
          history := if recorded then
            d.history.push (recordOf (e.nextId d) before changes operation) else d.history
          runtime := r } := by
  have complete := writeFrom_append [] [] written through
  rw [List.append_nil] at complete
  have run := Task.on_of_ok (p := UnitDesk.runtimePart) (s := e.afterId d) (complete.trans rfl)
  rw [carryOut, Task.bind_of_ok (e.takeId d), Task.bind_of_ok run]
  cases recorded <;> rfl

/-- At a failed attempt every change that was made is tried to be taken back, the latest first, and the
outcome tells whether all could be. -/
theorem carryOut_of_failure {done rest : List UnitChange} {failed : UnitChange} {answers : List Answer}
    {answer : Answer} {undone : List Answer} {r₁ r₂ r₃ : Runtime σ}
    (split : changes = done ++ failed :: rest)
    (written : e.attemptAll (e.nextId d) cancel (done.map (.doing operation)) (e.afterId d).runtime =
      .ok answers r₁) (through : answers.all Answer.cameThrough = true)
    (tried : e.attempt (e.nextId d) cancel (.doing operation failed) r₁ = .ok answer r₂)
    (fails : answer.cameThrough = false) (other : answer ≠ .error .cancelled)
    (back : e.attemptAll (e.nextId d) .never (done.reverse.map .undoing) r₂ = .ok undone r₃) :
    e.carryOut before changes operation recorded cancel d =
      .ok (.failed (e.nextId d) failed.action answer.complaint done.length
        (undone.all Answer.cameThrough)) { d with runtime := r₃ } := by
  have stopped := (writeFrom_append [] (failed :: rest) written through).trans
    (writeFrom_of_failure tried fails other)
  rw [← split, List.append_nil] at stopped
  have run := Task.on_of_ok (p := UnitDesk.runtimePart) (s := e.afterId d) stopped
  have taken := Task.on_of_ok (p := UnitDesk.runtimePart) (s := { d with runtime := r₂ }) (undo_of_attempts back)
  have length : done.reverse.length = done.length := List.length_reverse
  rw [carryOut, Task.bind_of_ok (e.takeId d), Task.bind_of_ok run, ← length]
  exact Task.bind_of_ok taken

theorem carryOut_of_cancelled {done rest : List UnitChange} {failed : UnitChange} {answers : List Answer}
    {r₁ r₂ : Runtime σ} (split : changes = done ++ failed :: rest)
    (written : e.attemptAll (e.nextId d) cancel (done.map (.doing operation)) (e.afterId d).runtime =
      .ok answers r₁) (through : answers.all Answer.cameThrough = true)
    (tried : e.attempt (e.nextId d) cancel (.doing operation failed) r₁ = .ok (.error .cancelled) r₂) :
    e.carryOut before changes operation recorded cancel d = .error .cancelled { d with runtime := r₂ } := by
  have stopped := (writeFrom_append [] (failed :: rest) written through).trans
    (writeFrom_of_cancelled tried)
  rw [← split] at stopped
  have run := Task.on_of_error (p := UnitDesk.runtimePart) (s := e.afterId d) stopped
  rw [carryOut, Task.bind_of_ok (e.takeId d), Task.bind_of_error run]
  rfl

/-- The ways in which a plan can be carried out. -/
inductive Course (e : UnitEditor σ) (before : UnitSnapshot) (changes : List UnitChange)
    (operation : UnitOperation) (recorded : Bool) (cancel : Token σ) (d : UnitDesk σ) :
    EStateM.Result Fault (UnitDesk σ) UnitOutcome → Prop
  | complete {answers : List Answer} {r : Runtime σ}
      (written : e.attemptAll (e.nextId d) cancel (changes.map (.doing operation)) (e.afterId d).runtime =
        .ok answers r) (through : answers.all Answer.cameThrough = true) :
      Course e before changes operation recorded cancel d
        (.ok (.committed (e.nextId d) changes.length)
          { d with
            history := if recorded then
              d.history.push (recordOf (e.nextId d) before changes operation) else d.history
            runtime := r })
  | failure {done rest : List UnitChange} {failed : UnitChange} {answers undone : List Answer}
      {answer : Answer} {r₁ r₂ r₃ : Runtime σ} (split : changes = done ++ failed :: rest)
      (written : e.attemptAll (e.nextId d) cancel (done.map (.doing operation)) (e.afterId d).runtime =
        .ok answers r₁) (through : answers.all Answer.cameThrough = true)
      (tried : e.attempt (e.nextId d) cancel (.doing operation failed) r₁ = .ok answer r₂)
      (fails : answer.cameThrough = false)
      (back : e.attemptAll (e.nextId d) .never (done.reverse.map .undoing) r₂ = .ok undone r₃) :
      Course e before changes operation recorded cancel d
        (.ok (.failed (e.nextId d) failed.action answer.complaint done.length
          (undone.all Answer.cameThrough)) { d with runtime := r₃ })
  | cancelled {done rest : List UnitChange} {failed : UnitChange} {answers : List Answer}
      {r₁ r₂ : Runtime σ} (split : changes = done ++ failed :: rest)
      (written : e.attemptAll (e.nextId d) cancel (done.map (.doing operation)) (e.afterId d).runtime =
        .ok answers r₁) (through : answers.all Answer.cameThrough = true)
      (tried : e.attempt (e.nextId d) cancel (.doing operation failed) r₁ = .ok (.error .cancelled) r₂) :
      Course e before changes operation recorded cancel d (.error .cancelled { d with runtime := r₂ })

theorem carryOut_course (e : UnitEditor σ) (before : UnitSnapshot) (changes : List UnitChange)
    (operation : UnitOperation) (recorded : Bool) (cancel : Token σ) (d : UnitDesk σ) :
    Course e before changes operation recorded cancel d
      (e.carryOut before changes operation recorded cancel d) := by
  obtain ⟨done, rest, answers, r₁, split, written, through, ending⟩ :=
    exists_first_failure e (e.nextId d) operation cancel changes (e.afterId d).runtime
  rcases ending with rfl | ⟨failed, others, answer, r₂, rfl, tried, fails⟩
  · rw [List.append_nil] at split
    rw [← split] at written
    rw [carryOut_of_complete written through]
    exact .complete written through
  · by_cases cancelled : answer = .error .cancelled
    · subst cancelled
      rw [carryOut_of_cancelled split written through tried]
      exact .cancelled split written through tried
    · obtain ⟨undone, r₃, back⟩ := exists_attemptAll e (e.nextId d) .never (done.reverse.map .undoing) r₂
      rw [carryOut_of_failure split written through tried fails cancelled back]
      exact .failure split written through tried fails back

end UnitEditor
end LiveControl
