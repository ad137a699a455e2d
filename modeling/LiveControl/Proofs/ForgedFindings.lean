import LiveControl.Proofs.CheckedOperation

namespace LiveControl

variable {σ τ α ε : Type}

/-- The states are alike, and so far the same has been noted. -/
def Abreast (alike : σ → τ → Prop) (s : σ × List ε) (s' : τ × List ε) : Prop := alike s.1 s'.1 ∧ s.2 = s'.2

theorem Task.agrees_eq (t : Task σ α) : t.Agrees Eq Eq t := by
  rintro s _ rfl
  exact ⟨rfl, rfl⟩

theorem Query.agrees_eq (q : Query σ α) : q.Agrees Eq q := by
  rintro s _ rfl
  exact ⟨rfl, rfl⟩

section

variable {alike : σ → τ → Prop}

theorem Task.Agrees.noted {t : Task σ α} {u : Task τ α} (agrees : t.Agrees alike alike u)
    (note : Except Fault α → ε) : (t.noted note).Agrees (Abreast alike) (Abreast alike) (u.noted note) := by
  rintro s s' ⟨states, notes⟩
  obtain ⟨ending, left⟩ := agrees _ _ states
  rw [ending_noted, ending_noted, leave_noted, leave_noted, ending, notes]
  exact ⟨rfl, left, rfl⟩

theorem Query.Agrees.noted {q : Query σ α} {p : Query τ α} (agrees : q.Agrees alike p) (note : α → ε) :
    (q.noted note).Agrees (Abreast alike) (p.noted note) := by
  rintro s s' ⟨states, notes⟩
  obtain ⟨answer, left⟩ := agrees _ _ states
  exact ⟨answer, left, by simp only [Query.noted, notes, answer]⟩

end

/-- The requests differ at most in the mutation flag and under the keys of the router's findings. -/
structure OperationRequest.Twins (r r' : OperationRequest) : Prop where
  operation : r.operation = r'.operation
  payload : r.payload = r'.payload
  mode : r.mode = r'.mode
  profileId : r.profileId = r'.profileId
  context : ∀ key ∉ Router.findingKeys, r.context.get? key = r'.context.get? key

namespace Router

theorem isSome_findings {key : String} (found : key ∈ findingKeys) (resolved : Resolved) :
    ((findings resolved).get? key).isSome = true := by
  simp only [findingKeys, List.mem_cons, List.not_mem_nil, or_false] at found
  simp only [findings, Table.ofList, List.foldl_cons, List.foldl_nil, Table.get?_insert]
  grind

section Twins

variable {r r' : OperationRequest} (twins : r.Twins r')
include twins

theorem screen_of_twins (isOpen : Bool) : screen isOpen r = screen isOpen r' := by
  have path : r.context.text? ContextKey.processPath = r'.context.text? ContextKey.processPath := by
    simp only [Bag.text?, twins.context ContextKey.processPath (by decide)]
  simp only [screen, path, twins.operation, twins.mode]

theorem resolve_of_twins (router : Router σ) (operation : Operation) :
    router.resolve r operation = router.resolve r' operation := by
  simp only [resolve, Bag.text?, Bag.uint32?, twins.profileId, twins.context ContextKey.processPath (by decide),
    twins.context ContextKey.processId (by decide), twins.context ContextKey.anchors (by decide)]

/-- The findings cover all that the caller may have put in their place. -/
theorem forwarded_of_twins (operation : Operation) (resolved : Resolved) :
    forwarded r operation resolved = forwarded r' operation resolved := by
  have context : r.context.overlay (findings resolved) = r'.context.overlay (findings resolved) := by
    refine Table.ext fun key => ?_
    rw [Table.get?_overlay, Table.get?_overlay]
    by_cases found : key ∈ findingKeys
    · rw [Option.or_of_isSome (isSome_findings found resolved), Option.or_of_isSome (isSome_findings found resolved)]
    · rw [twins.context key found]
  simp only [forwarded, context, twins.operation, twins.payload, twins.mode]

theorem dispatch_of_twins (router : Router σ) (operation : Operation) (resolved : Resolved) :
    router.dispatch r operation resolved = router.dispatch r' operation resolved := by
  simp only [dispatch, forwarded_of_twins twins]

end Twins

/-- The collaborators of the router answer equal questions equally as long as they are in alike states. What the
sink does is left open, as nothing is asked after a report. -/
structure Steady (router : Router σ) (alike : σ → σ → Prop) : Prop where
  gate : router.gate.Agrees alike router.gate
  variants : ∀ profileId, (router.variants profileId).Agrees alike alike (router.variants profileId)
  fingerprints : ∀ path processId,
    (router.fingerprints path processId).Agrees alike alike (router.fingerprints path processId)
  capabilities : ∀ fingerprint variant operation anchors,
    (router.capabilities fingerprint variant operation anchors).Agrees alike alike
      (router.capabilities fingerprint variant operation anchors)
  guard : ∀ capability isMutation,
    (router.guard capability isMutation).Agrees alike (router.guard capability isMutation)
  backend : ∀ sent, (router.backend sent).Agrees alike alike (router.backend sent)

/-- All that was asked and ordered; what is left out are the reports. -/
def asked : List Event → List Event
  | [] => []
  | .report .. :: events => asked events
  | e :: events => e :: asked events

theorem asked_append (early late : List Event) : asked (early ++ late) = asked early ++ asked late := by
  fun_induction asked early <;> simp_all [asked]

theorem sentIn_asked (events : List Event) : sentIn (asked events) = sentIn events := by
  fun_induction asked events with
  | case1 => rfl
  | case2 r result events ih => exact ih
  | case3 e events other ih => cases e <;> simp_all [sentIn]

def SameAsked (s s' : σ × List Event) : Prop := asked s.2 = asked s'.2

variable {router : Router σ} {alike : σ → σ → Prop}

theorem sameAsked_of_abreast (s s' : σ × List Event) (abreast : Abreast alike s s') : SameAsked s s' :=
  congrArg asked abreast.2

theorem finish_agrees (r r' : OperationRequest) (result : OperationResult) :
    (router.noted.finish r result).Agrees (Abreast alike) SameAsked (router.noted.finish r' result) := by
  rintro s s' ⟨-, notes⟩
  rw [ending_finish, ending_finish, leave_finish, leave_finish]
  refine ⟨rfl, ?_⟩
  have left (r : OperationRequest) (s : σ × List Event) :
      ((router.noted.sink r result).leave s).2 = s.2 ++ [.report r result] :=
    congrArg Prod.snd (Task.leave_noted (router.sink r result) (fun _ => Event.report r result) s)
  rw [SameAsked, left, left, asked_append, asked_append, notes]
  rfl

theorem Steady.resolve (steady : router.Steady alike) (r : OperationRequest) (operation : Operation) :
    (router.noted.resolve r operation).Agrees (Abreast alike) (Abreast alike) (router.noted.resolve r operation) := by
  refine ((steady.variants _).noted _).bind (fun _ _ => id) fun variant => ?_
  refine ((steady.fingerprints _ _).noted _).bind (fun _ _ => id) fun fingerprint => ?_
  refine ((steady.capabilities _ _ _ _).noted _).bind (fun _ _ => id) fun capability => ?_
  exact fun _ _ abreast => ⟨rfl, abreast⟩

theorem Steady.dispatch (steady : router.Steady alike) (r : OperationRequest) (operation : Operation)
    (resolved : Resolved) :
    (router.noted.dispatch r operation resolved).Agrees (Abreast alike) SameAsked
      (router.noted.dispatch r operation resolved) := by
  refine ((steady.backend _).noted _).settle.bind sameAsked_of_abreast fun answer => ?_
  cases answer <;> exact finish_agrees _ _ _

theorem Steady.route (steady : router.Steady alike) {cancel cancel' : Token σ}
    (tokens : Query.Agrees cancel alike cancel') {r r' : OperationRequest} (twins : r.Twins r') :
    (router.noted.route r (cancel.noted .token)).Agrees (Abreast alike) SameAsked
      (router.noted.route r' (cancel'.noted .token)) := by
  have fires := Token.check_agrees (tokens.noted Event.token)
  refine fires.bind sameAsked_of_abreast fun _ => ?_
  refine (steady.gate.noted _).task.bind sameAsked_of_abreast fun isOpen => ?_
  -- From here on only the reports can tell the two apart, and after a report nothing is asked.
  rw [screen_of_twins twins isOpen]
  cases screen isOpen r' with
  | error refusal => exact finish_agrees r r' refusal.result
  | ok operation =>
    dsimp only
    rw [resolve_of_twins twins]
    refine (steady.resolve r' operation).settle.bind sameAsked_of_abreast fun outcome => ?_
    cases outcome with
    | error fault => exact finish_agrees r r' (unresolved fault)
    | ok resolved =>
      refine ((steady.guard _ _).noted _).task.bind sameAsked_of_abreast fun decision => ?_
      cases decision.allowed with
      | true =>
        refine fires.bind sameAsked_of_abreast fun _ => ?_
        rw [dispatch_of_twins twins]
        exact steady.dispatch r' operation resolved
      | false => exact finish_agrees r r' (denied operation resolved decision)

/-- Of two requests that differ at most in the mutation flag and in what they claim under the keys of the
findings, the router asks the same, hands on the same, if anything, and gives them the same answer, as long as its
collaborators answer equal questions equally. To note what is asked changes nothing. -/
theorem route_ignores_claims (steady : router.Steady alike) {cancel cancel' : Token σ}
    (tokens : Query.Agrees cancel alike cancel') {r r' : OperationRequest} (twins : r.Twins r') {s s' : σ}
    (start : alike s s') :
    (router.noted.route r (cancel.noted .token)).Mirrors Prod.fst (router.route r cancel) ∧
    (router.route r cancel).ending s = (router.route r' cancel').ending s' ∧
    asked (router.events r cancel s) = asked (router.events r' cancel' s') ∧
    sentIn (router.events r cancel s) = sentIn (router.events r' cancel' s') := by
  have plain (r : OperationRequest) (cancel : Token σ) :
      (router.noted.route r (cancel.noted .token)).Mirrors Prod.fst (router.route r cancel) :=
    router.mirrors_noted.route r (Query.mirrors_noted cancel Event.token)
  obtain ⟨ending, same⟩ := steady.route tokens twins (s, []) (s', []) ⟨start, rfl⟩
  rw [(plain r cancel (s, [])).1, (plain r' cancel' (s', [])).1] at ending
  have same : asked (router.events r cancel s) = asked (router.events r' cancel' s') := same
  refine ⟨plain r cancel, ending, same, ?_⟩
  rw [← sentIn_asked, same, sentIn_asked]

/-- In one and the same state equal questions have equal answers. -/
theorem steady_eq (router : Router σ) : router.Steady Eq where
  gate := Query.agrees_eq _
  variants _ := Task.agrees_eq _
  fingerprints _ _ := Task.agrees_eq _
  capabilities _ _ _ _ := Task.agrees_eq _
  guard _ _ := Query.agrees_eq _
  backend _ := Task.agrees_eq _

/-- The request as an honest caller would make it. -/
def honestRequest : OperationRequest :=
  { looseRequest with isMutation := true, context := looseRequest.context.erase ContextKey.fingerprintId }

theorem route_ignores_claims_drill :
    looseRequest ≠ honestRequest ∧ sentIn (drill.events looseRequest .never (.load [])) ≠ [] ∧
    (drill.route looseRequest .never).ending (.load []) = (drill.route honestRequest .never).ending (.load []) ∧
    sentIn (drill.events looseRequest .never (.load [])) = sentIn (drill.events honestRequest .never (.load [])) := by
  have twins : looseRequest.Twins honestRequest := {
    operation := rfl
    payload := rfl
    mode := rfl
    profileId := rfl
    context := fun key other => by
      have differs : key ≠ ContextKey.fingerprintId := fun same => other (same ▸ by decide)
      rw [honestRequest, Table.get?_erase, if_neg differs] }
  obtain ⟨-, ending, -, sent⟩ := route_ignores_claims (steady_eq drill) (Query.agrees_eq Token.never) twins
    (Eq.refl (Extender.load []))
  exact ⟨by decide, List.cons_ne_nil _ _, ending, sent⟩

end Router
end LiveControl
