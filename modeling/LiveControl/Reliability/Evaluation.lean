import LiveControl.Reliability.Rule
import LiveControl.Text.Lowercase

namespace LiveControl

/-- The order of listings: by lowercase, then as written. -/
def listedBefore (a b : String) : Bool :=
  let la := Text.lowercase a
  let lb := Text.lowercase b
  if la = lb then decide (a ≤ b) else decide (la < lb)

/-- A list in the order of listings of a key. Entries with equal keys keep their order. -/
def listed {α : Type} (key : α → String) (xs : List α) : List α :=
  xs.mergeSort fun a b => listedBefore (key a) (key b)

@[simp] theorem mem_listed {α : Type} {key : α → String} {xs : List α} {x : α} : x ∈ listed key xs ↔ x ∈ xs :=
  List.mem_mergeSort

/-- How a profile is rated: by which rules, under which policy. -/
structure Evaluator where
  rules : List Rule
  policy : Policy

namespace Evaluator

def standard (policy : Policy) : Evaluator := ⟨Rule.standard, policy⟩

/-- The verdict when no rule claims the action: it is refused rather than guessed at. -/
def unclaimed (action : String) : Rating := ⟨action, .unavailable, "no_rule_matched", 0.0, none⟩

/-- The verdict of the first rule that applies. -/
def rate (e : Evaluator) (s : Situation) : Rating :=
  match e.rules.find? fun r => r.applies s with
  | some r => r.verdict s
  | none => unclaimed s.action.id

/-- An action of a profile in a session. -/
def situation (e : Evaluator) (profile : Profile) (session : Session) (catalog : Option EntityCatalog)
    (action : ActionSpec) : Situation where
  action := action
  profile := profile
  session := session
  policy := e.policy
  catalog := catalog
  disabled := session.disabledActions e.policy
  critical := profile.criticalSymbols e.policy

/-- The ratings of all actions of a profile in a session. -/
def ratings (e : Evaluator) (profile : Profile) (session : Session) (catalog : Option EntityCatalog) :
    List Rating :=
  (listed ActionSpec.id profile.actions.values).map fun action =>
    e.rate (e.situation profile session catalog action)

end Evaluator
end LiveControl
