import LiveControl.Proofs.RoutedEnvelope

namespace LiveControl

variable {σ α : Type}

/-- What completion from a session makes of one entry of a context: it can be read; one that could be read
before is as it was, and any other has given way to what the session knows. -/
structure Completed (read : Bag → String → Option α) (key : String) (own : Json) (given sent : Bag) : Prop where
  usable : (read sent key).isSome
  kept : (read given key).isSome → sent.get? key = given.get? key
  replaced : read given key = none → sent.get? key = some own

namespace Bag

variable {given sent : Bag} {key : String}

theorem text?_of_get? {text : String} (entry : given.get? key = some (.str text)) (filled : Text.trim text ≠ "") :
    given.text? key = some (Text.trim text) :=
  text?_eq_some_iff.2 ⟨text, entry, rfl, filled⟩

theorem text?_congr (same : sent.get? key = given.get? key) : sent.text? key = given.text? key := by
  rw [text?, same, text?]

/-- A process number is read back from the whole number that stands for it. -/
theorem uint32?_of_get? {n : UInt32} (entry : given.get? key = some (.ofNat n.toNat)) :
    given.uint32? key = some n := by
  have fits : (0 : Int) ≤ n.toNat ∧ (n.toNat : Int) < UInt32.size :=
    ⟨Int.natCast_nonneg _, Int.ofNat_lt.2 n.toNat_lt⟩
  have read : given.uint32? key =
      if (0 : Int) ≤ n.toNat ∧ (n.toNat : Int) < UInt32.size then some (UInt32.ofNat (n.toNat : Int).toNat)
      else none := by
    rw [uint32?, entry]
    rfl
  rw [read, if_pos fits, Int.toNat_natCast, UInt32.ofNat_toNat]

theorem uint32?_congr (same : sent.get? key = given.get? key) : sent.uint32? key = given.uint32? key := by
  rw [uint32?, same, uint32?]

theorem uint32?_of_absent (absent : given.get? key = none) : given.uint32? key = none := by
  rw [uint32?, absent]

end Bag

namespace Router

variable {session : Session} {context : Bag}

/-- The context as soon as it has been seen to for the path. -/
theorem get?_withPath (session : Session) (context : Bag) (key : String) :
    (if (context.text? ContextKey.processPath).isNone && session.processPath ≠ "" then
        context.insert ContextKey.processPath (.str session.processPath)
      else context).get? key =
      if key = ContextKey.processPath ∧ context.text? ContextKey.processPath = none ∧ session.processPath ≠ "" then
        some (.str session.processPath)
      else context.get? key := by
  by_cases lacking : context.text? ContextKey.processPath = none <;>
    by_cases present : session.processPath = "" <;> simp [lacking, present]

theorem get?_identified (session : Session) (context : Bag) (key : String) :
    (identified (.attached session) context).get? key =
      if key = ContextKey.processPath ∧ context.text? ContextKey.processPath = none ∧ session.processPath ≠ "" then
        some (.str session.processPath)
      else if key = ContextKey.processId ∧ context.get? ContextKey.processId = none then
        some (.ofNat session.processId.toNat)
      else context.get? key := by
  have apart : ContextKey.processId ≠ ContextKey.processPath := by decide
  have path := get?_withPath session context
  unfold identified
  simp only
  generalize (if (context.text? ContextKey.processPath).isNone && session.processPath ≠ "" then
    context.insert ContextKey.processPath (.str session.processPath) else context) = named at path ⊢
  -- The path is no entry for the number, so the number is missing just where it was.
  have number : named.contains ContextKey.processId = (context.get? ContextKey.processId).isSome := by
    rw [Table.contains, path, if_neg fun both => apart both.1]
  rw [number]
  cases absent : context.get? ContextKey.processId with
  | some entry => simp [path]
  | none =>
    simp only [Option.isSome_none, Bool.false_eq_true, if_false, Table.get?_insert, path, and_true]
    by_cases own : key = ContextKey.processId
    · simp [own, apart]
    · simp [own]

/-- The entry for the path is completed, whatever the caller put there. -/
theorem completed_processPath (context : Bag) (filled : Text.trim session.processPath ≠ "") :
    Completed Bag.text? ContextKey.processPath (.str session.processPath) context
      (identified (.attached session) context) := by
  have apart : ContextKey.processPath ≠ ContextKey.processId := by decide
  have present : session.processPath ≠ "" := by
    intro empty
    exact filled (by rw [empty]; rfl)
  have kept (usable : (context.text? ContextKey.processPath).isSome) :
      (identified (.attached session) context).get? ContextKey.processPath =
        context.get? ContextKey.processPath := by
    rw [get?_identified, if_neg, if_neg fun both => apart both.1]
    rintro ⟨-, lacking, -⟩
    rw [lacking] at usable
    cases usable
  have replaced (lacking : context.text? ContextKey.processPath = none) :
      (identified (.attached session) context).get? ContextKey.processPath = some (.str session.processPath) := by
    rw [get?_identified, if_pos ⟨rfl, lacking, present⟩]
  refine ⟨?_, kept, replaced⟩
  cases usable : context.text? ContextKey.processPath with
  | none => rw [Bag.text?_of_get? (replaced usable) filled, Option.isSome_some]
  | some path => rw [Bag.text?_congr (kept (by rw [usable, Option.isSome_some])), usable, Option.isSome_some]

/-- The entry for the number is completed exactly if the caller has none there or a process number. -/
theorem completed_processId_iff :
    Completed Bag.uint32? ContextKey.processId (.ofNat session.processId.toNat) context
        (identified (.attached session) context) ↔
      context.get? ContextKey.processId = none ∨ (context.uint32? ContextKey.processId).isSome := by
  have apart : ContextKey.processId ≠ ContextKey.processPath := by decide
  have number : (identified (.attached session) context).get? ContextKey.processId =
      if context.get? ContextKey.processId = none then some (.ofNat session.processId.toNat)
      else context.get? ContextKey.processId := by
    rw [get?_identified, if_neg fun both => apart both.1]
    simp only [true_and]
  constructor
  · intro completed
    by_cases absent : context.get? ContextKey.processId = none
    · exact .inl absent
    · -- An entry that is there stays, so the request has a process number only if the caller gave one.
      rw [if_neg absent] at number
      have usable := completed.usable
      rw [Bag.uint32?_congr number] at usable
      exact .inr usable
  · rintro (absent | usable)
    · rw [if_pos absent] at number
      refine ⟨by rw [Bag.uint32?_of_get? number, Option.isSome_some], fun usable => ?_, fun _ => number⟩
      rw [Bag.uint32?_of_absent absent] at usable
      cases usable
    · have present : context.get? ContextKey.processId ≠ none := by
        intro absent
        rw [Bag.uint32?_of_absent absent] at usable
        cases usable
      rw [if_neg present] at number
      refine ⟨by rw [Bag.uint32?_congr number]; exact usable, fun _ => number, fun unusable => ?_⟩
      rw [unusable] at usable
      cases usable

variable {raw : Backend σ} {r : ExecutionRequest} {arguments : Bag} {s s₁ : σ}

/-- While a session is attached, a request for the extension path comes to every router as one whose path is
completed, and which has the caller's entries under all other keys but the number. The number is completed
exactly if the caller's context has no entry for it or a process number there. -/
theorem identity_completed_iff (extension : r.payload = .sdk arguments)
    (attached : raw.session s = (.attached session, s₁)) (filled : Text.trim session.processPath ≠ "") :
    ∃ sent : OperationRequest,
      (∀ (router : Router σ) (cancel : Token σ), (router.routed raw).execute r cancel s =
        (do return outcomeOf (← router.route sent cancel) : Task σ Outcome) s₁) ∧
      Completed Bag.text? ContextKey.processPath (.str session.processPath) r.context sent.context ∧
      (∀ key, key ≠ ContextKey.processPath → key ≠ ContextKey.processId →
        sent.context.get? key = r.context.get? key) ∧
      (Completed Bag.uint32? ContextKey.processId (.ofNat session.processId.toNat) r.context sent.context ↔
        r.context.get? ContextKey.processId = none ∨ (r.context.uint32? ContextKey.processId).isSome) := by
  refine ⟨operationRequest (.attached session) r arguments, fun router cancel => ?_,
    completed_processPath r.context filled, fun key otherPath otherId => ?_, completed_processId_iff⟩
  · have looked : raw.session.task s = .ok (.attached session) s₁ := by rw [Query.task_apply, attached]
    rw [routed_of_sdk router raw extension, Task.bind_of_ok looked]
  · show (identified (.attached session) r.context).get? key = _
    rw [get?_identified, if_neg fun both => otherPath both.1, if_neg fun both => otherId both.1]

/-- A session of a process with number and path. -/
def gameSession : Session := { Session.bare 4242 .tactical with processPath := "/games/swfoc.exe" }

/-- A request for an operation of the extension path in a given context. -/
def operationIn (context : Bag) : ExecutionRequest :=
  ⟨"drill", .plain "toggle_ai" .sdk, .sdk .empty, Payload.schemaVersion, .tactical, context⟩

/-- A caller who gives a blank path and no number is given both. -/
theorem identity_completed_blank :
    ∃ sent : OperationRequest,
      (closed.routed (DryRun.backend reportedPart)).execute
          (operationIn (.ofList [(ContextKey.processPath, .str " ")])) .never (.start (.attached gameSession), []) =
        (do return outcomeOf (← closed.route sent .never) : Task _ Outcome) (.start (.attached gameSession), []) ∧
      sent.context.get? ContextKey.processPath = some (.str "/games/swfoc.exe") ∧
      sent.context.get? ContextKey.processId = some (.int 4242) := by
  have extension : (operationIn (.ofList [(ContextKey.processPath, .str " ")])).payload = .sdk .empty := rfl
  have attached : (DryRun.backend reportedPart).session (.start (.attached gameSession), []) =
      (.attached gameSession, (.start (.attached gameSession), [])) := rfl
  have filled : Text.trim gameSession.processPath ≠ "" := by decide
  obtain ⟨sent, runs, path, -, number⟩ := identity_completed_iff extension attached filled
  exact ⟨sent, runs closed .never, path.replaced (by decide), (number.2 (.inl (by decide))).replaced (by decide)⟩

/-- A caller whose number is null keeps it: the router is handed, and reports, a request without a process
number, though the session has one. -/
theorem identity_lost_null :
    ∃ sent : OperationRequest,
      (closed.routed (DryRun.backend reportedPart)).execute (operationIn (.ofList [(ContextKey.processId, .null)]))
          .never (.start (.attached gameSession), []) =
        .ok (outcomeOf (Refusal.result .gateClosed)) (.start (.attached gameSession), [sent]) ∧
      0 < gameSession.processId ∧ sent.context.get? ContextKey.processId = some .null ∧
      sent.context.uint32? ContextKey.processId = none :=
  ⟨operationRequest (.attached gameSession) (operationIn (.ofList [(ContextKey.processId, .null)])) .empty,
    rfl, by decide, by decide, by decide⟩

end Router
end LiveControl
