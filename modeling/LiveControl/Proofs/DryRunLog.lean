import LiveControl.Proofs.DryRunWrites
import LiveControl.Proofs.History
import LiveControl.Proofs.Journal
import LiveControl.Proofs.RoutedEnvelope
import Mathlib.Data.List.Induction

namespace LiveControl

variable {σ : Type}

/-- The write that a request asks for: that of a value to memory, or that of the switch of a code patch. -/
def ExecutionRequest.write? (r : ExecutionRequest) : Option WriteRecord :=
  match r.payload with
  | .memory symbol value => some ⟨r.action.id, symbol, value⟩
  | .codePatch symbol enable => some ⟨r.action.id, symbol, .bool enable⟩
  | .freeze .. | .helper .. | .sdk .. => none

namespace DryRun

/-- A dry run over a table, of which nothing has been written and nothing is set to fail. -/
def ofValues (attachment : Attachment) (values : Table Scalar) : DryRun := ⟨attachment, values, [], .empty⟩

/-- A table with the writes of a log on it, in order. -/
def replayed (values : Table Scalar) (log : List WriteRecord) : Table Scalar :=
  log.foldl (fun t w => t.insert w.symbol w.value) values

theorem replayed_concat (values : Table Scalar) (log : List WriteRecord) (w : WriteRecord) :
    replayed values (log ++ [w]) = (replayed values log).insert w.symbol w.value := by
  rw [replayed, List.foldl_append]
  rfl

section Requests

variable {r : ExecutionRequest} {w : WriteRecord} {d : DryRun}

theorem perform_of_write (asks : r.write? = some w) : d.perform r = d.write w.action w.symbol w.value := by
  rw [ExecutionRequest.write?] at asks
  rw [perform]
  cases payload : r.payload with
  | memory | codePatch =>
    rw [payload] at asks
    cases asks
    rfl
  | freeze | helper | sdk =>
    rw [payload] at asks
    cases asks

theorem perform_of_no_write (asks : r.write? = none) : (d.perform r).2 = d := by
  rw [ExecutionRequest.write?] at asks
  rw [perform]
  cases payload : r.payload with
  | memory | codePatch =>
    rw [payload] at asks
    cases asks
  | freeze | helper | sdk => rfl

variable {cancel : Token σ} {s : σ}

theorem execute_of_fired (part : Part σ DryRun) (r : ExecutionRequest) (fired : (cancel s).1 = true) :
    (backend part).execute r cancel s = .error .cancelled (cancel s).2 :=
  Task.bind_of_error (Token.check_of_fired fired)

theorem execute_of_fit (part : Part σ DryRun) (unfired : (cancel s).1 = false) (fit : r.envelopeFlaw? = none) :
    (backend part).execute r cancel s = .ok ((part.get (cancel s).2).perform r).1
      (part.set ((part.get (cancel s).2).perform r).2 (cancel s).2) := by
  have performed : request r (part.get (cancel s).2) = (part.get (cancel s).2).perform r := by
    rw [request, fit]
  rw [execute_of_unfired part unfired, performed]

end Requests

/-- What a dry run is asked: to execute a request, under a token that leaves it alone, to let a number of
further writes to a symbol succeed and no more, or to let none fail any longer. -/
inductive Input (part : Part σ DryRun) where
  | execute (r : ExecutionRequest) (cancel : Token σ) (quiet : cancel.Keeps part.get)
  | failAfter (symbol : String) (allowed : Nat)
  | clearFailures

variable {part : Part σ DryRun}

namespace Input

def step : Input part → σ → σ
  | .execute r cancel _, s => ((backend part).execute r cancel).leave s
  | .failAfter symbol allowed, s => part.set ((part.get s).failAfter symbol allowed) s
  | .clearFailures, s => part.set (part.get s).clearFailures s

/-- How a request ends. -/
def answer? : Input part → σ → Option (Except Fault Outcome)
  | .execute r cancel _, s => some (((backend part).execute r cancel).ending s)
  | .failAfter .., _ | .clearFailures, _ => none

/-- The write that is tried: that of a fit request whose token has not fired. -/
def tried? : Input part → σ → Option WriteRecord
  | .execute r cancel _, s => if (cancel s).1 || r.envelopeFlaw?.isSome then none else r.write?
  | .failAfter .., _ | .clearFailures, _ => none

/-- The limit for a symbol is set anew or lifted. -/
def Resets (symbol : String) : Input part → Prop
  | .execute .. => False
  | .failAfter other _ => other = symbol
  | .clearFailures => True

/-- How a dry run takes an input: it writes, it fails to for want of writes left, its limits change, or
nothing happens. -/
inductive Turn (k : Input part) (s : σ) : Prop where
  | wrote {w : WriteRecord} {outcome : Outcome} (tried : k.tried? s = some w)
      (left : (part.get s).failing.get? w.symbol ≠ some 0) (answer : k.answer? s = some (.ok outcome))
      (succeeded : outcome.succeeded = true)
      (after : part.get (k.step s) = { part.get s with
        values := (part.get s).values.insert w.symbol w.value
        writes := (part.get s).writes ++ [w]
        failing := spend w.symbol (part.get s).failing })
  | failed {w : WriteRecord} {outcome : Outcome} (tried : k.tried? s = some w)
      (spent : (part.get s).failing.get? w.symbol = some 0) (answer : k.answer? s = some (.ok outcome))
      (failed : outcome.succeeded = false) (reason : outcome.reason = some "write_failed")
      (after : part.get (k.step s) = part.get s)
  | limited {symbol : String} {allowed : Nat} (input : k = .failAfter symbol allowed)
      (after : part.get (k.step s) = (part.get s).failAfter symbol allowed)
  | cleared (input : k = .clearFailures) (after : part.get (k.step s) = (part.get s).clearFailures)
  | idle (untried : k.tried? s = none) (after : part.get (k.step s) = part.get s)

theorem turn_execute (r : ExecutionRequest) (cancel : Token σ) (quiet : cancel.Keeps part.get) (s : σ) :
    Turn (.execute r cancel quiet) s := by
  have same : part.get (cancel s).2 = part.get s := quiet s
  by_cases fired : (cancel s).1 = true
  · have run := execute_of_fired part r fired
    have left : step (.execute r cancel quiet) s = (cancel s).2 := Task.leave_of_error run
    exact .idle (by simp [tried?, fired]) (by rw [left, same])
  have unfired : (cancel s).1 = false := by simpa using fired
  cases flawed : r.envelopeFlaw? with
  | some flaw =>
    have run := execute_of_flaw part flawed unfired
    have left : step (.execute r cancel quiet) s = (cancel s).2 := Task.leave_of_ok run
    exact .idle (by simp [tried?, flawed]) (by rw [left, same])
  | none =>
    have run := execute_of_fit part unfired flawed
    rw [same] at run
    have answer : answer? (.execute r cancel quiet) s = some (.ok ((part.get s).perform r).1) :=
      congrArg some (Task.ending_of_ok run)
    have after : part.get (step (.execute r cancel quiet) s) = ((part.get s).perform r).2 := by
      rw [step, Task.leave_of_ok run, part.get_set]
    have tried : tried? (.execute r cancel quiet) s = r.write? := by simp [tried?, unfired, flawed]
    cases asks : r.write? with
    | none =>
      rw [perform_of_no_write asks] at after
      exact .idle (tried.trans asks) after
    | some w =>
      rw [perform_of_write asks] at answer after
      by_cases spent : (part.get s).failing.get? w.symbol = some 0
      · rw [write_of_spent spent] at answer after
        exact .failed (tried.trans asks) spent answer rfl rfl after
      · obtain ⟨outcome, succeeded, wrote⟩ := write_of_unspent w.action w.value spent
        rw [wrote] at answer after
        exact .wrote (tried.trans asks) spent answer succeeded after

theorem turn (k : Input part) (s : σ) : Turn k s := by
  cases k with
  | execute r cancel quiet => exact turn_execute r cancel quiet s
  | failAfter symbol allowed => exact .limited rfl (part.get_set _ s)
  | clearFailures => exact .cleared rfl (part.get_set _ s)

end Input

open Input (step)

/-- What an input makes of table and log, by the write that it tries and the answer: the write is in both, or
it failed and is in neither; where none is tried both stay as they are. -/
inductive Explains (before after : DryRun) : Option WriteRecord → Option (Except Fault Outcome) → Prop
  | written {w outcome} (succeeded : outcome.succeeded = true) (log : after.writes = before.writes ++ [w])
      (table : after.values = before.values.insert w.symbol w.value) :
      Explains before after (some w) (some (.ok outcome))
  | failed {w outcome} (failed : outcome.succeeded = false) (reason : outcome.reason = some "write_failed")
      (log : after.writes = before.writes) (table : after.values = before.values) :
      Explains before after (some w) (some (.ok outcome))
  | untried {answer} (log : after.writes = before.writes) (table : after.values = before.values) :
      Explains before after none answer

theorem explains_step (k : Input part) (s : σ) :
    Explains (part.get s) (part.get (k.step s)) (k.tried? s) (k.answer? s) := by
  cases k.turn s with
  | wrote tried left answer succeeded after =>
    rw [tried, answer, after]
    exact .written succeeded rfl rfl
  | failed tried spent answer failed reason after =>
    rw [tried, answer, after]
    exact .failed failed reason rfl rfl
  | limited input after =>
    rw [after, input]
    exact .untried rfl rfl
  | cleared input after =>
    rw [after, input]
    exact .untried rfl rfl
  | idle untried after =>
    rw [untried, after]
    exact .untried rfl rfl

theorem Explains.replays {before after : DryRun} {tried : Option WriteRecord}
    {answer : Option (Except Fault Outcome)} {values : Table Scalar} (explains : Explains before after tried answer)
    (replays : before.values = replayed values before.writes) : after.values = replayed values after.writes := by
  cases explains with
  | written succeeded log table => rw [table, log, replayed_concat, replays]
  | failed _ _ log table | untried log table => rw [table, log, replays]

theorem values_runAll (values : Table Scalar) (inputs : List (Input part)) {s : σ}
    (start : (part.get s).values = replayed values (part.get s).writes) :
    (part.get (runAll step inputs s)).values = replayed values (part.get (runAll step inputs s)).writes := by
  induction inputs generalizing s with
  | nil => exact start
  | cons k rest ih => exact ih ((explains_step k s).replays start)

/-- At the moment a write to the symbol is tried. -/
def Tries (symbol : String) (m : Input part × σ) : Bool :=
  (m.1.tried? m.2).any fun w => w.symbol = symbol

/-- A limit for the symbol is in force: so many writes were allowed, since then the limit has neither been
lifted nor set anew, and so many writes to the symbol have been tried. -/
def InForce (symbol : String) (allowed tries : Nat) (past : List (Input part × σ)) : Prop :=
  ∃ before s since, past = before ++ (.failAfter symbol allowed, s) :: since ∧
    (∀ m ∈ since, ¬m.1.Resets symbol) ∧ tries = since.countP (Tries symbol)

variable {symbol : String} {allowed tries : Nat} {past : List (Input part × σ)}

theorem not_inForce_nil : ¬InForce symbol allowed tries ([] : List (Input part × σ)) := by
  rintro ⟨before, s, since, split, -⟩
  cases before <;> cases split

theorem inForce_concat {k : Input part} {s : σ} :
    InForce symbol allowed tries (past ++ [(k, s)]) ↔
      k = .failAfter symbol allowed ∧ tries = 0 ∨
      ¬k.Resets symbol ∧ ∃ earlier, InForce symbol allowed earlier past ∧
        tries = earlier + if Tries symbol (k, s) then 1 else 0 := by
  constructor
  · rintro ⟨before, s', since, split, kept, rfl⟩
    rcases List.eq_nil_or_concat since with rfl | ⟨since, latest, rfl⟩
    · obtain ⟨-, same⟩ := List.append_inj' split rfl
      cases same
      exact .inl ⟨rfl, rfl⟩
    · rw [List.concat_eq_append, ← List.cons_append, ← List.append_assoc] at split
      obtain ⟨rfl, same⟩ := List.append_inj' split rfl
      cases same
      have unset : ¬k.Resets symbol := kept (k, s) (by simp)
      have before_kept : ∀ m ∈ since, ¬m.1.Resets symbol := fun m member => kept m (by simp [member])
      refine .inr ⟨unset, _, ⟨before, s', since, rfl, before_kept, rfl⟩, ?_⟩
      rw [List.concat_eq_append, List.countP_append, List.countP_singleton]
  · rintro (⟨rfl, rfl⟩ | ⟨unset, earlier, ⟨before, s', since, rfl, kept, rfl⟩, rfl⟩)
    · have none_since : ∀ m ∈ ([] : List (Input part × σ)), ¬m.1.Resets symbol := fun m member => by cases member
      exact ⟨past, s, [], rfl, none_since, List.countP_nil.symm⟩
    · refine ⟨before, s', since ++ [(k, s)], by simp, fun m member => ?_, ?_⟩
      · rcases List.mem_append.1 member with old | latest
        · exact kept m old
        · obtain rfl := List.mem_singleton.1 latest
          exact unset
      · rw [List.countP_append, List.countP_singleton]

theorem tries_of_tried {k : Input part} {s : σ} {w : WriteRecord} (tried : k.tried? s = some w) :
    Tries symbol (k, s) = decide (w.symbol = symbol) := by
  rw [Tries, tried, Option.any_some]

theorem tries_of_untried {k : Input part} {s : σ} (untried : k.tried? s = none) : Tries symbol (k, s) = false := by
  rw [Tries, untried, Option.any_none]

/-- An input that lets the limit for a symbol be takes one off it for each write to the symbol that is tried. A
write that fails finds nothing left to take. -/
theorem failing_of_keeps {k : Input part} {s : σ} (keeps : ¬k.Resets symbol) :
    (part.get (k.step s)).failing.get? symbol =
      ((part.get s).failing.get? symbol).map (· - if Tries symbol (k, s) then 1 else 0) := by
  have same_of_untried (limit : Option Nat) : limit = limit.map (· - if false then 1 else 0) := by simp
  cases k.turn s with
  | @wrote w outcome tried left answer succeeded after =>
    rw [after, tries_of_tried tried]
    by_cases here : w.symbol = symbol
    · subst here
      simpa using get?_spend_of_eq w.symbol
    · have elsewhere : (spend w.symbol (part.get s).failing).get? symbol = (part.get s).failing.get? symbol :=
        get?_spend_of_ne (Ne.symm here)
      simpa [here] using elsewhere
  | @failed w outcome tried spent answer failed reason after =>
    rw [after, tries_of_tried tried]
    by_cases here : w.symbol = symbol
    · subst here
      rw [spent]
      simp
    · simp [here]
  | @limited other allowed input after =>
    have elsewhere : symbol ≠ other := fun same => keeps (by rw [input, same]; exact rfl)
    have untried : k.tried? s = none := by rw [input]; rfl
    rw [after, tries_of_untried untried, failAfter, Table.get?_insert, if_neg elsewhere]
    exact same_of_untried _
  | cleared input after => exact absurd (by rw [input]; exact trivial) keeps
  | idle untried after =>
    rw [after, tries_of_untried untried]
    exact same_of_untried _

theorem failing_of_resets {k : Input part} {s : σ} {left : Nat} (resets : k.Resets symbol) :
    (part.get (k.step s)).failing.get? symbol = some left ↔ k = .failAfter symbol left := by
  cases k with
  | execute => exact resets.elim
  | failAfter other allowed =>
    obtain rfl : other = symbol := resets
    rw [step, part.get_set, failAfter, Table.get?_insert, if_pos rfl, Option.some.injEq]
    exact ⟨fun same => same ▸ rfl, fun same => by cases same; rfl⟩
  | clearFailures =>
    rw [step, part.get_set, clearFailures, Table.get?_empty]
    constructor
    · intro limited
      cases limited
    · intro input
      cases input

theorem failing_step (k : Input part) (s : σ) (left : Nat) :
    (part.get (k.step s)).failing.get? symbol = some left ↔
      k = .failAfter symbol left ∨
      ¬k.Resets symbol ∧ ∃ earlier, (part.get s).failing.get? symbol = some earlier ∧
        left = earlier - if Tries symbol (k, s) then 1 else 0 := by
  by_cases resets : k.Resets symbol
  · rw [failing_of_resets resets]
    exact ⟨.inl, fun cases => cases.resolve_right fun kept => kept.1 resets⟩
  · have unset : k ≠ .failAfter symbol left := fun input => resets (by rw [input]; exact rfl)
    rw [failing_of_keeps resets, Option.map_eq_some_iff]
    simp only [unset, resets, false_or, not_false_eq_true, true_and, eq_comm]

/-- What a symbol has left after a run: what the limit in force allowed, less what was tried since. -/
theorem failing_runAll {s : σ} (start : (part.get s).failing = .empty) (inputs : List (Input part)) (left : Nat) :
    (part.get (runAll step inputs s)).failing.get? symbol = some left ↔
      ∃ allowed tries, InForce symbol allowed tries (moments step inputs s) ∧ left = allowed - tries := by
  -- Limits are set from the front and spent at the back, so the latest input is taken off.
  induction inputs using List.reverseRecOn generalizing left with
  | nil =>
    have free : (part.get s).failing.get? symbol = none := by rw [start, Table.get?_empty]
    constructor
    · intro limited
      rw [runAll, free] at limited
      cases limited
    · rintro ⟨allowed, tries, inForce, -⟩
      exact absurd inForce not_inForce_nil
  | append_singleton rest k ih =>
    rw [runAll_concat, failing_step, moments_concat]
    simp only [inForce_concat, ih]
    constructor
    · rintro (set | ⟨keeps, earlier, ⟨allowed, tries, inForce, rfl⟩, rfl⟩)
      · exact ⟨left, 0, .inl ⟨set, rfl⟩, rfl⟩
      · exact ⟨allowed, _, .inr ⟨keeps, tries, inForce, rfl⟩, Nat.sub_sub ..⟩
    · rintro ⟨allowed, tries, ⟨set, rfl⟩ | ⟨keeps, earlier, inForce, rfl⟩, rfl⟩
      · exact .inl set
      · exact .inr ⟨keeps, _, ⟨allowed, earlier, inForce, rfl⟩, (Nat.sub_sub ..).symm⟩

namespace Input

def Succeeds (k : Input part) (s : σ) : Prop :=
  ∃ outcome, k.answer? s = some (.ok outcome) ∧ outcome.succeeded = true

theorem succeeds_iff {k : Input part} {s : σ} {w : WriteRecord} (tried : k.tried? s = some w) :
    k.Succeeds s ↔ (part.get s).failing.get? w.symbol ≠ some 0 := by
  cases k.turn s with
  | wrote tried' left answer succeeded =>
    obtain rfl := Option.some.inj (tried.symm.trans tried')
    exact iff_of_true ⟨_, answer, succeeded⟩ left
  | failed tried' spent answer failed =>
    obtain rfl := Option.some.inj (tried.symm.trans tried')
    refine iff_of_false ?_ (not_not_intro spent)
    rintro ⟨outcome, answer', succeeded⟩
    cases answer.symm.trans answer'
    rw [failed] at succeeded
    cases succeeded
  | limited input | cleared input =>
    subst input
    cases tried
  | idle untried => exact absurd (untried.symm.trans tried) nofun

end Input

section Runs

variable {s : σ} {inputs : List (Input part)} {m : Input part × σ} {future : List (Input part × σ)} {w : WriteRecord}

theorem succeeds_iff_of_inForce (start : (part.get s).failing = .empty)
    (split : moments step inputs s = past ++ m :: future) (tried : m.1.tried? m.2 = some w)
    (inForce : InForce w.symbol allowed tries past) : m.1.Succeeds m.2 ↔ tries < allowed := by
  obtain ⟨early, rfl, state⟩ := run_of_moments_eq_append split
  have left : (part.get m.2).failing.get? w.symbol = some (allowed - tries) := by
    rw [state, failing_runAll start]
    exact ⟨allowed, tries, inForce, rfl⟩
  rw [Input.succeeds_iff tried, left, ne_eq, Option.some.injEq]
  omega

theorem succeeds_of_free (start : (part.get s).failing = .empty)
    (split : moments step inputs s = past ++ m :: future) (tried : m.1.tried? m.2 = some w)
    (free : ∀ allowed tries, ¬InForce w.symbol allowed tries past) : m.1.Succeeds m.2 := by
  obtain ⟨early, rfl, state⟩ := run_of_moments_eq_append split
  rw [Input.succeeds_iff tried, state]
  intro spent
  obtain ⟨allowed, tries, inForce, -⟩ := (failing_runAll start early 0).1 spent
  exact free allowed tries inForce

/-- Whatever is asked of a dry run, its table is the first one with the log on it, each request leaves its one
record in both or changes neither, and a write fails just in case a limit for its symbol is in force and as
many writes to the symbol as it allows have been tried since it was set. -/
theorem log_explains_table (part : Part σ DryRun) (attachment : Attachment) (values : Table Scalar)
    (inputs : List (Input part)) {s : σ} (start : part.get s = ofValues attachment values) :
    (part.get (runAll step inputs s)).values = replayed values (part.get (runAll step inputs s)).writes ∧
      (∀ m ∈ moments step inputs s,
        Explains (part.get m.2) (part.get (m.1.step m.2)) (m.1.tried? m.2) (m.1.answer? m.2)) ∧
      ∀ past m future w, moments step inputs s = past ++ m :: future → m.1.tried? m.2 = some w →
        (∀ allowed tries, InForce w.symbol allowed tries past → (m.1.Succeeds m.2 ↔ tries < allowed)) ∧
          ((∀ allowed tries, ¬InForce w.symbol allowed tries past) → m.1.Succeeds m.2) := by
  have unlimited : (part.get s).failing = .empty := by rw [start, ofValues]
  refine ⟨?_, fun m _ => explains_step m.1 m.2, fun past m future w split tried => ⟨?_, ?_⟩⟩
  · apply values_runAll
    rw [start]
    rfl
  · exact fun allowed tries inForce => succeeds_iff_of_inForce unlimited split tried inForce
  · exact succeeds_of_free unlimited split tried

end Runs

def creditsWrite (value : Int64) : Input (Part.whole : Part DryRun DryRun) :=
  .execute ⟨"drill", .plain "set_credits" .memory, .memory "credits" (.int value), Payload.schemaVersion, .galactic,
    .empty⟩ .never (Token.never_keeps _)

/-- Two writes where one is allowed, and a third when the limits are lifted. -/
def creditsInputs : List (Input (Part.whole : Part DryRun DryRun)) :=
  [.failAfter "credits" 1, creditsWrite 100, creditsWrite 200, .clearFailures, creditsWrite 300]

theorem credits_second_fails :
    let start := ofValues .detached (.ofList [("credits", .int 50)])
    let ends := runAll step creditsInputs start
    ends.writes = [⟨"set_credits", "credits", .int 100⟩, ⟨"set_credits", "credits", .int 300⟩] ∧
      ends.values = replayed start.values ends.writes ∧
      ¬(creditsWrite 200).Succeeds (runAll step (creditsInputs.take 2) start) := by
  intro start ends
  obtain ⟨table, -, writes⟩ := log_explains_table .whole .detached start.values creditsInputs (s := start) rfl
  have second := writes (moments step (creditsInputs.take 2) start)
    (creditsWrite 200, runAll step (creditsInputs.take 2) start) _ ⟨"set_credits", "credits", .int 200⟩ rfl rfl
  have limited : InForce "credits" 1 1 (moments step (creditsInputs.take 2) start) := by
    refine ⟨[], start, [(creditsWrite 100, _)], rfl, fun m member => ?_, rfl⟩
    obtain rfl := List.mem_singleton.1 member
    exact id
  have spent : ¬(1 < 1) := Nat.lt_irrefl 1
  exact ⟨rfl, table, fun succeeded => spent ((second.1 1 1 limited).1 succeeded)⟩

end DryRun
end LiveControl
