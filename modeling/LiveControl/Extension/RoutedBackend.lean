import LiveControl.Execution.Backend
import LiveControl.Extension.Router

namespace LiveControl.Router

/-- The operation that a request asks for: its payload may name one, else it is the action's id. -/
def operationId (r : ExecutionRequest) (arguments : Bag) : String :=
  match (arguments.get? "operationId").bind Json.str? with
  | some text => if Text.isBlankText text then r.action.id else text
  | none => r.action.id

/-- The caller's context with what it lacks of the process's identity: the path if there is no usable
one, and the number if there is no entry for it. -/
def identified (attachment : Attachment) (context : Bag) : Bag :=
  match attachment with
  | .detached => context
  | .attached session =>
    let context :=
      if (context.text? ContextKey.processPath).isNone && session.processPath ≠ "" then
        context.insert ContextKey.processPath (.str session.processPath)
      else context
    if context.contains ContextKey.processId then context
    else context.insert ContextKey.processId (.ofNat session.processId.toNat)

/-- What a request asks of the router. -/
def operationRequest (attachment : Attachment) (r : ExecutionRequest) (arguments : Bag) :
    OperationRequest :=
  ⟨operationId r arguments, arguments, r.action.isMutation, r.mode, r.profileId,
    identified attachment r.context⟩

/-- A result of the router as the outcome of an action. -/
def outcomeOf (result : OperationResult) : Outcome :=
  ⟨result.succeeded, result.message, some result.reason.text, .none,
    result.diagnostics.insert ContextKey.capabilityState (.ofWord result.state)⟩

variable {σ : Type}

/-- A backend with the router in front of it. -/
def routed (router : Router σ) (raw : Backend σ) : Backend σ where
  session := raw.session
  execute r cancel :=
    match r.payload with
    | .sdk arguments => do
      let attachment ← raw.session.task
      let result ← router.route (operationRequest attachment r arguments) cancel
      pure (outcomeOf result)
    | _ => raw.execute r cancel
  read := raw.read

end LiveControl.Router
