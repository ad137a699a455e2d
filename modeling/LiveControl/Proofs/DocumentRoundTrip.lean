import LiveControl.Proofs.DocumentFields
import LiveControl.Proofs.UnitPlan
import LiveControl.Execution.Request
import LiveControl.Profile
import LiveControl.Session

namespace LiveControl

instance : Vocabulary.Lawful Mode := ⟨fun mode => by cases mode <;> rfl⟩

instance : Vocabulary.Lawful ExecutionKind := ⟨fun kind => by cases kind <;> rfl⟩

instance : Vocabulary.Lawful SymbolSource := ⟨fun source => by cases source <;> rfl⟩

instance : Vocabulary.Lawful SymbolHealth := ⟨fun health => by cases health <;> rfl⟩

instance : Vocabulary.Lawful ValueType := ⟨fun type => by cases type <;> rfl⟩

variable {name? : Json → Option String} {fields : List (String × Json)} {j : Json}

/-- The scalar that a payload carries. -/
def Payload.scalar? : Payload → Option Scalar
  | .memory _ value | .freeze _ (.pin value) => some value
  | .freeze _ .release | .helper .. | .sdk .. | .codePatch .. => none

/-- A scalar is read as it was by every decoder that takes a text for its kind. -/
theorem Scalar.named?_toJson {s : Scalar} (spelled : ∀ text, name? (.str text) = some text)
    (finite : s.isFinite = true) : named? name? s.toJson = some s := by
  cases s with
  | int n => simp [named?, toJson, Json.formed?, Json.required, Json.single?, spelled]
  | float x =>
    have read := Json.number?_ofFloat (show x.isFinite = true from finite)
    simp [named?, toJson, Json.formed?, Json.required, Json.single?, spelled, read]
  | bool b => simp [named?, toJson, Json.formed?, Json.required, Json.single?, spelled]

theorem Scalar.ofInner?_toJson {s : Scalar} (finite : s.isFinite = true) : ofInner? s.toJson = some s :=
  named?_toJson (fun _ => rfl) finite

theorem Payload.PinDirective.named?_toJson {d : PinDirective}
    (spelled : ∀ text, name? (.str text) = some text)
    (finite : ∀ value, d = .pin value → value.isFinite = true) :
    named? name? (toJson d) = some d := by
  cases d with
  | pin value =>
    have read := Scalar.ofInner?_toJson (finite value rfl)
    simp [named?, toJson, Json.formed?, Json.required, Json.single?, spelled, read]
  | release => simp [named?, toJson, Json.formed?, Json.required, Json.single?, spelled]

theorem Payload.ofJson?_toJson {p : Payload}
    (finite : ∀ value, p.scalar? = some value → value.isFinite = true) :
    ofJson? p.toJson = some p := by
  cases p with
  | memory symbol value =>
    have read := Scalar.ofInner?_toJson (finite value rfl)
    simp [ofJson?, toJson, Json.formed?, ofForm?, Json.required, Json.single?, read]
  | freeze symbol directive =>
    have read : PinDirective.named? PinDirective.nameOrPlace? (PinDirective.toJson directive) = some directive :=
      PinDirective.named?_toJson (fun _ => rfl) fun value pinned => finite value (pinned ▸ rfl)
    simp [ofJson?, toJson, Json.formed?, ofForm?, Json.required, Json.single?, read]
  | helper hook unit arguments =>
    -- a name that is missing is written as null, so each of the two is there or not
    cases hook <;> cases unit <;>
      simp [ofJson?, toJson, Json.formed?, ofForm?, Json.required, Json.optional, Json.single?, Json.ofOption]
  | sdk arguments => simp [ofJson?, toJson, Json.formed?, ofForm?, Json.required, Json.single?]
  | codePatch symbol enable => simp [ofJson?, toJson, Json.formed?, ofForm?, Json.required, Json.single?]

/-- What a document must say to be read as an action. -/
theorem ActionSpec.ofJson?_obj_eq_some {a : ActionSpec} :
    ofJson? (.obj fields) = some a ↔
      Json.required fields "id" Json.str? = some a.id ∧
      Json.defaulted fields "category" "" Json.str? = some a.category ∧
      Json.optional fields "required_mode" Json.word = some a.requiredMode ∧
      Json.required fields "execution_kind" Json.word = some a.kind ∧
      Json.defaulted fields "payload_schema" [] schemaOfJson? = some a.requiredFields ∧
      Json.defaulted fields "is_mutation" true Json.bool? = some a.isMutation := by
  obtain ⟨id, category, mode, kind, required, mutation⟩ := a
  simp only [ofJson?, Json.fields?, Option.bind_eq_bind, Option.bind_some, Option.bind_eq_some_iff,
    Option.some.injEq, mk.injEq]
  grind

theorem ActionSpec.schemaOfJson?_schemaToJson (names : List String) :
    schemaOfJson? (schemaToJson names) = some names := by
  simp [schemaOfJson?, schemaToJson, Json.fields?, Json.defaulted, Json.single?]

theorem ActionSpec.ofJson?_toJson (a : ActionSpec) : ofJson? a.toJson = some a := by
  refine ofJson?_obj_eq_some.2 ⟨?id, ?category, ?requiredMode, ?kind, ?schema, ?isMutation⟩
  case requiredMode =>
    exact Json.optional_ofOption .ofWord (fun _ => Json.noConfusion) Json.word_ofWord (by simp [Json.single?])
  case schema =>
    simpa [Json.defaulted, Json.single?] using schemaOfJson?_schemaToJson a.requiredFields
  all_goals simp [Json.required, Json.defaulted, Json.single?]

/-- What a document must say to be read as a request. -/
theorem ExecutionRequest.ofJson?_obj_eq_some {r : ExecutionRequest} :
    ofJson? (.obj fields) = some r ↔
      Json.required fields "profile_id" Json.str? = some r.profileId ∧
      Json.required fields "action" ActionSpec.ofJson? = some r.action ∧
      Json.required fields "payload" Payload.ofJson? = some r.payload ∧
      Json.defaulted fields "payload_version" Payload.schemaVersion Json.uint32? = some r.payloadVersion ∧
      Json.required fields "runtime_mode" Json.word = some r.mode ∧
      Json.defaulted fields "context" .empty Json.bag? = some r.context := by
  obtain ⟨profile, action, payload, version, mode, context⟩ := r
  simp only [ofJson?, Json.fields?, Option.bind_eq_bind, Option.bind_some, Option.bind_eq_some_iff,
    Option.some.injEq, mk.injEq]
  grind

/-- The double that a request would write is finite, if it writes any. Doubles within its loose values are
kept as they are. -/
def ExecutionRequest.IsFinite (r : ExecutionRequest) : Prop :=
  ∀ value, r.payload.scalar? = some value → value.isFinite = true

theorem ExecutionRequest.ofJson?_toJson {r : ExecutionRequest} (finite : r.IsFinite) :
    ofJson? r.toJson = some r := by
  have action := r.action.ofJson?_toJson
  have payload := Payload.ofJson?_toJson finite
  simp [ofJson?, toJson, Json.fields?, Json.required, Json.defaulted, Json.single?, action, payload]

theorem Profile.ofJson?_toJson (p : Profile) : ofJson? p.toJson = some p := by
  have actions : (Json.ofTable ActionSpec.toJson p.actions).table? ActionSpec.ofJson? = some p.actions :=
    Json.table?_ofTable fun _ a _ => a.ofJson?_toJson
  simp [ofJson?, toJson, Json.fields?, Json.required, Json.defaulted, Json.single?, actions]

theorem Policy.ofJson?_toJson {p : Policy} (finite : p.epsilon.isFinite = true) :
    ofJson? p.toJson = some p := by
  have epsilon := Json.number?_ofFloat finite
  simp [ofJson?, toJson, Json.fields?, Json.defaulted, Json.single?, epsilon]

theorem Symbol.ofJson?_toJson {s : Symbol} (finite : s.confidence.isFinite = true) :
    ofJson? s.toJson = some s := by
  have confidence := Json.number?_ofFloat finite
  simp [ofJson?, toJson, Json.fields?, Json.required, Json.defaulted, Json.single?, confidence]

/-- The confidence in every symbol of a session is finite. -/
def Session.IsFinite (s : Session) : Prop :=
  ∀ name symbol, s.symbol? name = some symbol → symbol.confidence.isFinite = true

theorem Session.ofJson?_toJson {s : Session} (finite : s.IsFinite) : ofJson? s.toJson = some s := by
  have symbols : (Json.ofTable Symbol.toJson s.symbols).table? Symbol.ofJson? = some s.symbols :=
    Json.table?_ofTable fun name _ held => Symbol.ofJson?_toJson (finite name _ held)
  simp [ofJson?, toJson, Json.fields?, Json.required, Json.defaulted, Json.single?, symbols]

/-- The fields that the document of an action may leave out. -/
inductive ActionSpec.SpareField where
  | category
  | requiredMode
  | payloadSchema
  | isMutation
  deriving DecidableEq, Repr

namespace ActionSpec.SpareField

def key : SpareField → String
  | .category => "category"
  | .requiredMode => "required_mode"
  | .payloadSchema => "payload_schema"
  | .isMutation => "is_mutation"

/-- The action with a field at its default. -/
def reset (a : ActionSpec) : SpareField → ActionSpec
  | .category => { a with category := "" }
  | .requiredMode => { a with requiredMode := none }
  | .payloadSchema => { a with requiredFields := [] }
  | .isMutation => { a with isMutation := true }

end ActionSpec.SpareField

/-- The fields that the document of a request may leave out, its own and those of its action. -/
inductive ExecutionRequest.SpareField where
  | payloadVersion
  | context
  | ofAction (field : ActionSpec.SpareField)
  deriving DecidableEq, Repr

namespace ExecutionRequest.SpareField

/-- The document of a request without a field. -/
def leaveOut (j : Json) : SpareField → Json
  | .payloadVersion => j.without "payload_version"
  | .context => j.without "context"
  | .ofAction field => j.within "action" (.without field.key)

/-- The request with a field at its default. -/
def reset (r : ExecutionRequest) : SpareField → ExecutionRequest
  | .payloadVersion => { r with payloadVersion := 1 }
  | .context => { r with context := .empty }
  | .ofAction field => { r with action := field.reset r.action }

end ExecutionRequest.SpareField

theorem ActionSpec.ofJson?_without {a : ActionSpec} (field : SpareField) (read : ofJson? j = some a) :
    ofJson? (j.without field.key) = some (field.reset a) := by
  cases j with
  | obj fields =>
    obtain ⟨id, category, mode, kind, schema, mutation⟩ := ofJson?_obj_eq_some.1 read
    rw [Json.without, ofJson?_obj_eq_some]
    simp only [Json.required_without, Json.optional_without, Json.defaulted_without]
    cases field <;> simp [SpareField.key, SpareField.reset, id, category, mode, kind, schema, mutation]
  | null | bool | int | float | str | arr => cases read

theorem ExecutionRequest.ofJson?_leaveOut {r : ExecutionRequest} (field : SpareField)
    (read : ofJson? j = some r) : ofJson? (field.leaveOut j) = some (field.reset r) := by
  cases j with
  | obj fields =>
    obtain ⟨profile, action, payload, version, mode, context⟩ := ofJson?_obj_eq_some.1 read
    cases field with
    | payloadVersion =>
      rw [SpareField.leaveOut, Json.without, ofJson?_obj_eq_some]
      simp only [Json.required_without, Json.defaulted_without]
      simp [SpareField.reset, profile, action, payload, mode, context, Payload.schemaVersion]
    | context =>
      rw [SpareField.leaveOut, Json.without, ofJson?_obj_eq_some]
      simp only [Json.required_without, Json.defaulted_without]
      simp [SpareField.reset, profile, action, payload, version, mode]
    | ofAction field =>
      have changed : Json.required _ "action" ActionSpec.ofJson? = some (field.reset r.action) :=
        Json.required_within_self (fun _ => ActionSpec.ofJson?_without field) action
      rw [SpareField.leaveOut, Json.within, ofJson?_obj_eq_some]
      simp only [SpareField.reset]
      simp [Json.required_within_ne, Json.defaulted_within_ne, profile, changed, payload, version, mode, context]
  | null | bool | int | float | str | arr => cases read

theorem ExecutionRequest.ofJson?_foldl_leaveOut {r : ExecutionRequest} (left : List SpareField)
    (read : ofJson? j = some r) :
    ofJson? (left.foldl SpareField.leaveOut j) = some (left.foldl SpareField.reset r) := by
  induction left generalizing j r with
  | nil => exact read
  | cons field left ih => exact ih (ofJson?_leaveOut field read)

/-- Requests, profiles, policies and sessions with finite doubles are read from their documents as they
were. Of a request's document any spare fields may be left out: what is read is the request with just
these fields at their defaults. -/
theorem documents_round_trip :
    (∀ r : ExecutionRequest, r.IsFinite →
      ExecutionRequest.ofJson? r.toJson = some r ∧
      ∀ left : List ExecutionRequest.SpareField,
        ExecutionRequest.ofJson? (left.foldl ExecutionRequest.SpareField.leaveOut r.toJson) =
          some (left.foldl ExecutionRequest.SpareField.reset r)) ∧
    (∀ p : Profile, Profile.ofJson? p.toJson = some p) ∧
    (∀ p : Policy, p.epsilon.isFinite = true → Policy.ofJson? p.toJson = some p) ∧
    ∀ s : Session, s.IsFinite → Session.ofJson? s.toJson = some s := by
  refine ⟨fun r finite => ?_, Profile.ofJson?_toJson, fun p finite => Policy.ofJson?_toJson finite,
    fun s finite => Session.ofJson?_toJson finite⟩
  have read := ExecutionRequest.ofJson?_toJson finite
  exact ⟨read, fun left => ExecutionRequest.ofJson?_foldl_leaveOut left read⟩

/-- A request that pins a float and has something to say in every spare field. -/
def pinningRequest : ExecutionRequest where
  profileId := "campaign"
  action := ⟨"freeze_timer", "economy", some .tactical, .freeze, ["symbol", "freeze"], false⟩
  payload := .freeze "game_timer" (.pin (.float 2.5))
  payloadVersion := 4
  mode := .tactical
  context := .ofList [("retries", .arr [.int 2, .float 0.5, .null])]

/-- A session with one symbol, found in half confidence. -/
def halfSureSession : Session :=
  (Session.bare 4 .tactical).addSymbol ⟨"game_timer", 4096, .float, .fallback, 0.5, .degraded, ""⟩

theorem halfSureSession_isFinite : halfSureSession.IsFinite := by
  intro name symbol held
  rw [Session.symbol?, halfSureSession, Session.addSymbol, Table.get?_insert] at held
  split at held
  · obtain rfl := Option.some.inj held
    decide
  · cases held

theorem documents_round_trip_pinning :
    pinningRequest.IsFinite ∧ Policy.standard.epsilon.isFinite = true ∧ halfSureSession.IsFinite ∧
    ExecutionRequest.ofJson? pinningRequest.toJson = some pinningRequest ∧
    ExecutionRequest.ofJson? ((pinningRequest.toJson.without "payload_version").within "action"
        (.without "category")) =
      some { pinningRequest with payloadVersion := 1, action.category := "" } ∧
    Profile.ofJson? ((Profile.bare "campaign").addAction pinningRequest.action).toJson =
      some ((Profile.bare "campaign").addAction pinningRequest.action) ∧
    Policy.ofJson? Policy.standard.toJson = some Policy.standard ∧
    Session.ofJson? halfSureSession.toJson = some halfSureSession := by
  have request : pinningRequest.IsFinite := by
    intro value held
    obtain rfl := Option.some.inj held
    decide
  have epsilon : Policy.standard.epsilon.isFinite = true := by decide
  obtain ⟨requests, profiles, policies, sessions⟩ := documents_round_trip
  exact ⟨request, epsilon, halfSureSession_isFinite, (requests _ request).1,
    (requests _ request).2 [.payloadVersion, .ofAction .category], profiles _, policies _ epsilon,
    sessions _ halfSureSession_isFinite⟩

end LiveControl
