import LiveControl.DryRun
import LiveControl.Pins
import LiveControl.Proofs.ExecutorJournal
import LiveControl.Proofs.FreezePayload
import LiveControl.Proofs.History

namespace LiveControl

variable {σ τ υ : Type}

/-- Two parts of a state neither of which sees changes to the other. -/
structure Part.Apart (p : Part σ τ) (q : Part σ υ) : Prop where
  left : ∀ u s, p.get (q.set u s) = p.get s
  right : ∀ t s, q.get (p.set t s) = q.get s

/-- What a directive makes of its symbol. -/
def PinDirective.held? : PinDirective → Option Scalar
  | .pin value => some value
  | .release => none

namespace Pins

/-- The pins after a directive. -/
def carry (p : Pins) (symbol : String) : PinDirective → Pins
  | .pin value => p.pin symbol value
  | .release => p.release symbol

theorem pinned_carry (p : Pins) (symbol x : String) (directive : PinDirective) :
    (p.carry symbol directive).pinned x = if x = symbol then directive.held? else p.pinned x := by
  cases directive with
  | pin value => exact Table.get?_insert
  | release => exact Table.get?_erase

theorem carry_of_unpinned {p : Pins} {symbol : String} (unpinned : p.pinned symbol = none) :
    p.carry symbol .release = p := by
  have same : p.table.erase symbol = p.table := Table.ext fun key => by
    rw [Table.get?_erase]
    split
    · rename_i own
      exact own ▸ unpinned.symm
    · rfl
  exact congrArg Pins.mk same

end Pins

namespace Executor

/-- What is reported of a directive that pins carry out, where `pinned` tells whether the symbol was pinned. -/
def directiveReport (symbol : String) (pinned : Bool) : PinDirective → Outcome
  | .pin value => pinReport symbol value (.ok ())
  | .release => releaseReport symbol (.ok pinned)

/-- An executor over pins and a dry run that are parts of its world; nothing else in it touches them. -/
structure OverPins (e : Executor σ) (pins : Part σ Pins) (run : Part σ DryRun) : Prop where
  service : e.pins = Pins.service pins
  backend : e.backend = DryRun.backend run
  apart : pins.Apart run
  profiles : ∀ id, (e.profiles id).Keeps fun s => (pins.get s, run.get s)
  audit : ∀ entry, (e.audit entry).Keeps fun s => (pins.get s, run.get s)

section

variable (e : Executor σ) (call : ActionCall) (cancel : Token σ) (r : Runtime σ)

/-- The call is for the action and passes all checks. -/
def Accepts (a : ActionSpec) : Prop := e.spec? call cancel r = some a ∧ ∀ check ∈ checks, ¬e.Fails call cancel r check

/-- The call is accepted, and it is for an action that freezes the symbol or releases it. -/
def Aimed (symbol : String) : Prop :=
  ∃ a, e.Accepts call cancel r a ∧ a.kind = .freeze ∧ Payload.Aims call.payload symbol

/-- The call is accepted, and the directive is what it orders for the symbol. -/
def Orders (symbol : String) (directive : PinDirective) : Prop :=
  ∃ a, e.Accepts call cancel r a ∧ a.kind = .freeze ∧ Payload.Aims call.payload symbol ∧
    Payload.Freezes a call.payload directive

/-- What a call makes of the pins and the dry run, one case for each kind of call. -/
inductive Turn (pins : Part σ Pins) (run : Part σ DryRun) : Prop
  | refused (fails : ∃ check, e.Fails call cancel r check)
      (kept : pins.get ((e.execute call cancel).leave r).world = pins.get r.world)
      (left : run.get ((e.execute call cancel).leave r).world = run.get r.world)
  | other {a} (accepted : e.Accepts call cancel r a) (kind : a.kind ≠ .freeze)
      (kept : pins.get ((e.execute call cancel).leave r).world = pins.get r.world)
  | frozen {symbol directive source} (ordered : e.Orders call cancel r symbol directive)
      (carried : pins.get ((e.execute call cancel).leave r).world = (pins.get r.world).carry symbol directive)
      (left : run.get ((e.execute call cancel).leave r).world = run.get r.world)
      (told : (e.execute call cancel).ending r = .ok (framed (located symbol source
        (directiveReport symbol ((pins.get r.world).pinned symbol).isSome directive)) call.context))

end

section

variable {e : Executor σ} {pins : Part σ Pins} {run : Part σ DryRun} {call : ActionCall} {cancel : Token σ}
  {r : Runtime σ}

theorem freeze_service (service : e.pins = Pins.service pins) (symbol : String) (directive : PinDirective)
    (source : SymbolSource) (s : σ) :
    e.freeze symbol directive source s =
      .ok (located symbol source (directiveReport symbol ((pins.get s).pinned symbol).isSome directive))
        (pins.set ((pins.get s).carry symbol directive) s) := by
  cases directive <;> rw [freeze, service] <;> rfl

theorem backend_keeps (based : e.OverPins pins run) (quiet : cancel.Keeps pins.get) (request : ExecutionRequest) :
    (e.backend.execute request cancel).Keeps pins.get := by
  rw [based.backend]
  exact (Token.check_keeps quiet).bind fun _ s => based.apart.left _ s

theorem perform_keeps (based : e.OverPins pins run) (quiet : cancel.Keeps pins.get) (profile : Profile)
    (a : ActionSpec) {payload : Payload} (other : payload.kind ≠ .freeze) (attachment : Attachment) :
    (e.perform profile call a payload attachment cancel).Keeps pins.get := by
  rw [perform_of_other e profile call a attachment cancel other]
  exact (backend_keeps based quiet _).settle.bind fun _ => Task.keeps_pure _ _

theorem session_eq (based : e.OverPins pins run) (s : σ) : (e.backend.session s).2 = s := by
  rw [based.backend]
  exact run.set_get s

theorem accepts_of_enters {profile : Profile} {a : ActionSpec} {payload : Payload} {attachment : Attachment} {s : σ}
    (enters : e.Enters call cancel r profile a payload attachment s) : e.Accepts call cancel r a := by
  obtain ⟨before, opens, -⟩ := enters.opens
  obtain ⟨listed, passes⟩ := passes_of_screened opens.unfired (Task.ending_of_ok opens.found) enters.passed
  exact ⟨listed, fun check _ => passes check⟩

theorem Turn.of_same {r' : Runtime σ} (fails : ∃ check, e.Fails call cancel r check)
    (left : (e.execute call cancel).leave r = r')
    (same : (pins.get r'.world, run.get r'.world) = (pins.get r.world, run.get r.world)) :
    e.Turn call cancel r pins run := by
  subst left
  exact .refused fails (congrArg Prod.fst same) (congrArg Prod.snd same)

section Entered

variable (based : e.OverPins pins run) (quiet : cancel.Keeps fun s => (pins.get s, run.get s))
include based quiet

theorem Enters.same {profile : Profile} {a : ActionSpec} {payload : Payload} {attachment : Attachment} {s : σ}
    (enters : e.Enters call cancel r profile a payload attachment s) :
    (pins.get s, run.get s) = (pins.get r.world, run.get r.world) := by
  obtain ⟨before, opens, looked⟩ := enters.opens
  have unmoved : s = before := by rw [← session_eq based before, looked]
  exact unmoved ▸ opens.keeps (based.profiles call.profileId) quiet

theorem Enters.kept {profile : Profile} {a : ActionSpec} {payload : Payload} {attachment : Attachment} {s : σ}
    (enters : e.Enters call cancel r profile a payload attachment s) (other : payload.kind ≠ .freeze) :
    pins.get ((e.perform profile call a payload attachment cancel).leave s) = pins.get r.world :=
  (perform_keeps based (quiet.comp Prod.fst) profile a other attachment s).trans
    (congrArg Prod.fst (enters.same based quiet))

theorem Enters.frozen {profile : Profile} {a : ActionSpec} {symbol : String} {directive : PinDirective}
    {attachment : Attachment} {s : σ}
    (enters : e.Enters call cancel r profile a (.freeze symbol directive) attachment s) :
    e.Orders call cancel r symbol directive ∧
    ∃ s', e.perform profile call a (.freeze symbol directive) attachment cancel s =
        .ok (located symbol (attachment.sourceOf symbol)
          (directiveReport symbol ((pins.get r.world).pinned symbol).isSome directive)) s' ∧
      pins.get s' = (pins.get r.world).carry symbol directive ∧ run.get s' = run.get r.world := by
  have same := enters.same based quiet
  have pinsBefore : pins.get s = pins.get r.world := congrArg Prod.fst same
  obtain ⟨freezes, ⟨aims, -⟩, orders⟩ := Payload.read_eq_freeze_iff.1 (read_of_screen enters.passed).2
  have performed := freeze_service based.service symbol directive (attachment.sourceOf symbol) s
  rw [pinsBefore] at performed
  exact ⟨⟨a, accepts_of_enters enters, freezes, aims, orders⟩, _, performed, pins.get_set _ s,
    (based.apart.right _ s).trans (congrArg Prod.snd same)⟩

/-- Every call over pins is refused, is for an action that does not freeze, or carries out an order to freeze. -/
theorem turn_execute : e.Turn call cancel r pins run := by
  have course := course_execute e call cancel r
  generalize result : e.execute call cancel r = ended at course
  cases course with
  | cancelled fired => exact .of_same ⟨.token, fired⟩ (Task.leave_of_error result) (quiet r.world)
  | unknown unfired missing =>
    exact .of_same ⟨.profile, _, Task.ending_of_error missing⟩ (Task.leave_of_error result)
      (((based.profiles call.profileId).error missing).trans (quiet r.world))
  | refused opens barred =>
    obtain ⟨check, stops, -⟩ := stopsAt_of_refused opens.unfired (Task.ending_of_ok opens.found) barred
    exact .of_same ⟨check, stops.fails⟩ (Task.leave_of_ok result)
      (opens.keeps (based.profiles call.profileId) quiet)
  | @stopped profile a payload attachment fault s s' enters fails =>
    have kind := Payload.kind_of_read (read_of_screen enters.passed).2
    by_cases freezing : payload.kind = .freeze
    · -- Pins cannot fail, so what was stopped was an order to the backend.
      cases payload <;> cases freezing
      obtain ⟨-, _, frozen, -⟩ := enters.frozen based quiet
      rw [frozen] at fails
      cases fails
    · have kept := enters.kept based quiet freezing
      rw [Task.leave_of_error fails] at kept
      refine .other (accepts_of_enters enters) (kind ▸ freezing) ?_
      rw [Task.leave_of_error result]
      exact kept
  | @performed profile a payload attachment outcome s s' enters ran =>
    have kind := Payload.kind_of_read (read_of_screen enters.passed).2
    have written := recorded_keeps based.audit profile a attachment (framed outcome call.context) { r with world := s' }
    by_cases freezing : payload.kind = .freeze
    · cases payload <;> cases freezing
      obtain ⟨orders, _, frozen, carried, left⟩ := enters.frozen based quiet
      rw [frozen] at ran
      cases ran
      refine .frozen orders ?_ ?_ (Task.ending_of_ok result)
      · rw [Task.leave_of_ok result]
        exact (congrArg Prod.fst written).trans carried
      · rw [Task.leave_of_ok result]
        exact (congrArg Prod.snd written).trans left
    · have kept := enters.kept based quiet freezing
      rw [Task.leave_of_ok ran] at kept
      refine .other (accepts_of_enters enters) (kind ▸ freezing) ?_
      rw [Task.leave_of_ok result]
      exact (congrArg Prod.fst written).trans kept

end Entered

theorem Accepts.eq {a a' : ActionSpec} (accepts : e.Accepts call cancel r a) (accepts' : e.Accepts call cancel r a') :
    a = a' := Option.some.inj (accepts.1.symm.trans accepts'.1)

theorem Orders.eq {symbol symbol' : String} {directive directive' : PinDirective}
    (orders : e.Orders call cancel r symbol directive) (orders' : e.Orders call cancel r symbol' directive') :
    symbol = symbol' ∧ directive = directive' := by
  obtain ⟨a, accepts, kind, aims, freezes⟩ := orders
  obtain ⟨a', accepts', kind', aims', freezes'⟩ := orders'
  obtain rfl := accepts.eq accepts'
  exact ⟨aims.eq aims', freezes.eq freezes'⟩

theorem Orders.aimed_iff {symbol x : String} {directive : PinDirective}
    (orders : e.Orders call cancel r symbol directive) : e.Aimed call cancel r x ↔ x = symbol := by
  obtain ⟨a, accepts, kind, aims, -⟩ := orders
  constructor
  · rintro ⟨_, _, _, aims'⟩
    exact aims'.eq aims
  · rintro rfl
    exact ⟨a, accepts, kind, aims⟩

theorem not_accepts_of_fails (fails : ∃ check, e.Fails call cancel r check) (a : ActionSpec) :
    ¬e.Accepts call cancel r a := by
  obtain ⟨check, fails⟩ := fails
  exact fun accepts => accepts.2 check (mem_checks check) fails

theorem pinned_of_others {symbol : String} {value : Scalar}
    (others : ∀ a, e.Accepts call cancel r a → a.kind ≠ .freeze)
    (kept : pins.get ((e.execute call cancel).leave r).world = pins.get r.world) :
    (pins.get ((e.execute call cancel).leave r).world).pinned symbol = some value ↔
      e.Orders call cancel r symbol (.pin value) ∨
        ¬e.Aimed call cancel r symbol ∧ (pins.get r.world).pinned symbol = some value := by
  have unordered : ¬e.Orders call cancel r symbol (.pin value) := fun ⟨a, accepts, kind, _⟩ => others a accepts kind
  have unaimed : ¬e.Aimed call cancel r symbol := fun ⟨a, accepts, kind, _⟩ => others a accepts kind
  rw [kept]
  simp only [unordered, unaimed, false_or, not_false_eq_true, true_and]

/-- After a call a symbol is pinned at what the call ordered for it, or else as it was before. -/
theorem pinned_step (based : e.OverPins pins run) (quiet : cancel.Keeps fun s => (pins.get s, run.get s))
    {symbol : String} {value : Scalar} :
    (pins.get ((e.execute call cancel).leave r).world).pinned symbol = some value ↔
      e.Orders call cancel r symbol (.pin value) ∨
        ¬e.Aimed call cancel r symbol ∧ (pins.get r.world).pinned symbol = some value := by
  have turn : e.Turn call cancel r pins run := turn_execute based quiet
  cases turn with
  | refused fails kept _ =>
    exact pinned_of_others (fun a accepts => absurd accepts (not_accepts_of_fails fails a)) kept
  | other accepted kind kept =>
    refine pinned_of_others (fun a accepts => ?_) kept
    obtain rfl := accepts.eq accepted
    exact kind
  | @frozen x directive _ ordered carried _ _ =>
    rw [carried, Pins.pinned_carry, ordered.aimed_iff]
    by_cases own : symbol = x
    · subst own
      have orders_iff : e.Orders call cancel r symbol (.pin value) ↔ directive = .pin value :=
        ⟨fun orders => (ordered.eq orders).2, fun same => same ▸ ordered⟩
      rw [orders_iff]
      cases directive <;> simp [PinDirective.held?]
    · have unordered : ¬e.Orders call cancel r symbol (.pin value) := fun orders => own (orders.eq ordered).1
      simp [own, unordered]

/-- What a call may be relied on for beyond the order that it carries out. -/
structure Contained (e : Executor σ) (pins : Part σ Pins) (run : Part σ DryRun) (call : ActionCall)
    (cancel : Token σ) (r : Runtime σ) : Prop where
  /-- A call that is refused or that is for an action of another kind changes no pin. -/
  others : (∀ a, e.Accepts call cancel r a → a.kind ≠ .freeze) →
    pins.get ((e.execute call cancel).leave r).world = pins.get r.world
  /-- A call that is refused or that is for a freezing action changes nothing in the dry run. -/
  freezing : (∀ a, e.Accepts call cancel r a → a.kind = .freeze) →
    run.get ((e.execute call cancel).leave r).world = run.get r.world
  /-- To release what is not pinned succeeds, and changes nothing. -/
  idle : ∀ symbol, e.Orders call cancel r symbol .release → (pins.get r.world).pinned symbol = none →
    (∃ outcome, (e.execute call cancel).ending r = .ok outcome ∧ outcome.succeeded = true ∧
      outcome.reason = some "freeze_not_active") ∧
    pins.get ((e.execute call cancel).leave r).world = pins.get r.world ∧
    run.get ((e.execute call cancel).leave r).world = run.get r.world

theorem contained_execute (based : e.OverPins pins run) (quiet : cancel.Keeps fun s => (pins.get s, run.get s)) :
    e.Contained pins run call cancel r := by
  have turn : e.Turn call cancel r pins run := turn_execute based quiet
  cases turn with
  | refused fails kept left =>
    refine ⟨fun _ => kept, fun _ => left, fun symbol orders => ?_⟩
    obtain ⟨a, accepts, -⟩ := orders
    exact absurd accepts (not_accepts_of_fails fails a)
  | other accepted kind kept =>
    refine ⟨fun _ => kept, fun freezing => absurd (freezing _ accepted) kind, fun symbol orders => ?_⟩
    obtain ⟨a, accepts, freezing, -⟩ := orders
    obtain rfl := accepts.eq accepted
    exact absurd freezing kind
  | frozen ordered carried left told =>
    refine ⟨fun others => ?_, fun _ => left, fun symbol orders unpinned => ?_⟩
    · obtain ⟨a, accepts, freezing, -⟩ := ordered
      exact absurd freezing (others a accepts)
    · obtain ⟨rfl, rfl⟩ := ordered.eq orders
      rw [unpinned] at told
      exact ⟨⟨_, told, rfl, rfl⟩, carried.trans (Pins.carry_of_unpinned unpinned), left⟩

end

/-- The state after a call of a run. -/
def serve (e : Executor σ) (o : Occasion σ) (r : Runtime σ) : Runtime σ := (e.execute o.call o.cancel).leave (o.now r)

theorem afterAll_eq_runAll (e : Executor σ) (occasions : List (Occasion σ)) (r : Runtime σ) :
    e.afterAll occasions r = runAll e.serve occasions r := by
  induction occasions generalizing r with
  | nil => rfl
  | cons o rest ih => exact ih _

/-- Neither a token nor what happens between the calls touches the pins. The dry run may be changed between
calls. -/
structure Occasion.Quiet (pins : Part σ Pins) (run : Part σ DryRun) (o : Occasion σ) : Prop where
  token : o.cancel.Keeps fun s => (pins.get s, run.get s)
  meanwhile : ∀ s, pins.get (o.meanwhile s) = pins.get s

/-- Over pins that are empty at the start, a symbol is pinned at a value just in case the last accepted call of a
freezing action that aimed at it ordered that pin. All other calls leave the pins alone, and orders to freeze leave
the dry run alone. -/
theorem pinned_iff_since {e : Executor σ} {pins : Part σ Pins} {run : Part σ DryRun}
    {occasions : List (Occasion σ)} (based : e.OverPins pins run) (quiet : ∀ o ∈ occasions, o.Quiet pins run)
    {r : Runtime σ} (start : pins.get r.world = .empty) :
    (∀ symbol value, (pins.get (e.afterAll occasions r).world).pinned symbol = some value ↔
      Since (fun m => ¬e.Aimed m.1.call m.1.cancel (m.1.now m.2) symbol)
        (fun m => e.Orders m.1.call m.1.cancel (m.1.now m.2) symbol (.pin value)) (moments e.serve occasions r)) ∧
    ∀ m ∈ moments e.serve occasions r, e.Contained pins run m.1.call m.1.cancel (m.1.now m.2) := by
  constructor
  · intro symbol value
    rw [afterAll_eq_runAll]
    refine holds_runAll_iff_since (fun r : Runtime σ => (pins.get r.world).pinned symbol = some value)
      (fun o member r => ?_) ?_
    · have now : (pins.get (o.now r).world).pinned symbol = (pins.get r.world).pinned symbol :=
        congrArg (Pins.pinned · symbol) ((quiet o member).meanwhile r.world)
      rw [← now]
      exact pinned_step based (quiet o member).token
    · show (pins.get r.world).pinned symbol ≠ some value
      rw [start]
      nofun
  · exact fun m member => contained_execute based (quiet m.1 (input_of_mem_moments member)).token

/-- An executor whose world is pins and a dry run, with one action that freezes and one that releases. -/
def board : Executor (Pins × DryRun) where
  profiles _ := pure (((Profile.bare "drill").addAction (.plain "freeze_symbol" .freeze)).addAction
    (.plain "unfreeze_symbol" .freeze))
  backend := DryRun.backend .right
  pins := Pins.service .left
  audit _ := pure ()

/-- The credits are pinned, by a name with blanks around it, and what was never pinned is released. -/
def boardOccasions : List (Occasion (Pins × DryRun)) := [
  ⟨id, ⟨"drill", "freeze_symbol", .ofList [("symbol", .str " credits "), ("intValue", .int 500)], .galactic, .empty⟩,
    .never⟩,
  ⟨id, ⟨"drill", "unfreeze_symbol", .ofList [("symbol", .str "fog")], .galactic, .empty⟩, .never⟩]

def boardStart : Runtime (Pins × DryRun) := ⟨.empty, .empty, .start .detached⟩

theorem pinned_iff_since_board :
    (board.afterAll boardOccasions boardStart).world.1.toList = [("credits", .int 500)] ∧
    Since (fun m => ¬board.Aimed m.1.call m.1.cancel (m.1.now m.2) "credits")
      (fun m => board.Orders m.1.call m.1.cancel (m.1.now m.2) "credits" (.pin (.int 500)))
      (moments board.serve boardOccasions boardStart) := by
  have based : board.OverPins .left .right :=
    ⟨rfl, rfl, ⟨fun _ _ => rfl, fun _ _ => rfl⟩, fun _ => Task.keeps_pure _ _, fun _ => Task.keeps_pure _ _⟩
  have quiet : ∀ o ∈ boardOccasions, o.Quiet .left .right := by
    intro o member
    simp only [boardOccasions, List.mem_cons, List.not_mem_nil, or_false] at member
    rcases member with rfl | rfl <;> exact ⟨Token.never_keeps _, fun _ => rfl⟩
  exact ⟨by decide, ((pinned_iff_since based quiet rfl).1 _ _).1 (by decide)⟩

end Executor
end LiveControl
