import LiveControl.Reliability.Evaluation

namespace LiveControl

/-- The outcome of validating the dependencies of a profile. -/
inductive DependencyStatus where
  | pass
  | softFail
  | hardFail
  deriving DecidableEq, Repr

namespace DependencyStatus

def text : DependencyStatus → String
  | .pass => "pass"
  | .softFail => "soft_fail"
  | .hardFail => "hard_fail"

instance : Vocabulary DependencyStatus := ⟨[.pass, .softFail, .hardFail], text⟩

/-- The status that a person's spelling means; hyphens and underscores are alike. -/
def read (s : String) : Except Fault DependencyStatus :=
  let plain := (Text.asciiLower (Text.trim s)).toList.map fun c => if c = '-' then '_' else c
  match String.ofList plain with
  | "pass" => .ok .pass
  | "soft_fail" | "softfail" => .ok .softFail
  | "hard_fail" | "hardfail" => .ok .hardFail
  | _ => .error (.invalidDependencyStatus s)

end DependencyStatus

structure CompatibilityReport where
  profileId : String
  sessionAttached : Bool
  runtimeMode : String
  dependencyStatus : Option DependencyStatus
  unresolvedCritical : Nat
  promotionReady : Bool
  actions : List Rating
  notes : List String
  deriving DecidableEq

namespace CompatibilityReport

/-- The rating of every action while no session is attached. -/
def unattached (action : String) : Rating := ⟨action, .unavailable, "session_unavailable", 0.0, none⟩

/-- The ratings of a profile. Without a session its catalog is listed by the keys of its entries. -/
def ratings (e : Evaluator) (profile : Profile) (attachment : Attachment)
    (catalog : Option EntityCatalog) : List Rating :=
  match attachment with
  | .attached session => e.ratings profile session catalog
  | .detached => listed Rating.action (profile.actions.keys.map unattached)

/-- The critical symbols that a session does not report or reports as unresolved; without a session
they all are. -/
def unresolved (attachment : Attachment) (critical : NameSet) : NameSet :=
  match attachment with
  | .attached session => critical.filter fun name =>
      match session.symbol? name with
      | some symbol => symbol.health == .unresolved
      | none => true
  | .detached => critical

def notesFor (attachment : Attachment) (status : Option DependencyStatus) (unresolved : Nat) :
    List String :=
  (if attachment.isAttached then [] else ["no session attached; all actions reported unavailable"]) ++
  (match status with
    | some .softFail => ["dependency validation soft-failed; some actions are disabled"]
    | some .hardFail => ["dependency validation hard-failed; profile cannot be promoted"]
    | _ => []) ++
  (if unresolved > 0 then [toString unresolved ++ " critical symbol(s) unresolved"] else [])

/-- A profile is ready when its dependencies have not failed hard, every critical symbol is resolved
and every action can be used. -/
def ready (status : Option DependencyStatus) (unresolved : Nat) (ratings : List Rating) : Bool :=
  status ≠ some .hardFail && unresolved == 0 && !ratings.any fun r => r.state == .unavailable

/-- The report on a profile. Nothing is executed for it. -/
def build (e : Evaluator) (profile : Profile) (attachment : Attachment)
    (status : Option DependencyStatus) (catalog : Option EntityCatalog) : CompatibilityReport :=
  let rated := ratings e profile attachment catalog
  let missing := (unresolved attachment (profile.criticalSymbols e.policy)).size
  { profileId := profile.id
    sessionAttached := attachment.isAttached
    runtimeMode := attachment.mode.text
    dependencyStatus := status
    unresolvedCritical := missing
    promotionReady := ready status missing rated
    actions := rated
    notes := notesFor attachment status missing }

def toJson (r : CompatibilityReport) : Json := .obj (Json.present [
  ("profileId", some (.str r.profileId)),
  ("sessionAttached", some (.bool r.sessionAttached)),
  ("runtimeMode", some (.str r.runtimeMode)),
  ("dependencyStatus", r.dependencyStatus.map .ofWord),
  ("unresolvedCriticalSymbols", some (.ofNat r.unresolvedCritical)),
  ("promotionReady", some (.bool r.promotionReady)),
  ("actions", some (.arr (r.actions.map Rating.toJson))),
  ("notes", some (.ofNames r.notes))])

def ofJson? (j : Json) : Option CompatibilityReport := do
  let fields ← j.fields?
  some {
    profileId := ← Json.required fields "profileId" Json.str?
    sessionAttached := ← Json.required fields "sessionAttached" Json.bool?
    runtimeMode := ← Json.required fields "runtimeMode" Json.str?
    dependencyStatus := ← Json.optional fields "dependencyStatus" Json.word
    unresolvedCritical := ← Json.required fields "unresolvedCriticalSymbols" fun j =>
      (Json.uint64? j).map UInt64.toNat
    promotionReady := ← Json.required fields "promotionReady" Json.bool?
    actions := ← Json.required fields "actions" (Json.list? Rating.ofJson?)
    notes := ← Json.required fields "notes" Json.names? }

end CompatibilityReport
end LiveControl
