import FormWidgets.Host.Script
import FormWidgets.Proofs.Session.Logging
import FormWidgets.Proofs.Widget.SlotRun

/-!
# Log of an invocation

Every invocation of a handler is one request.  It logs that it starts and that
it ends, and what its runner logs stands between the two.  Both events name the
operation of the gesture and the widget, and the event of the end carries the id
of the request.

The event of the start carries this id as well, with one exception: a creation
whose key cannot be read logs its start before it has asked for an id.
-/

namespace FormWidgets

/-- The id that the next request of a session gets. -/
def Session.nextRequest (session : Session) : String :=
  (Action.outcome Action.freshRequest session).1

namespace EditHandler

open FormWidgets.Action

variable (handler : EditHandler)

/-! ## Events -/

/-- The event by which an invocation starts. -/
def startEvent (request : Option String) : LogEvent :=
  .start (some .editHandler) handler.affordance.operationName (some handler.widget) request []

/-- The event by which an invocation ends well. -/
def finishEvent (request : String) (semanticChange : Bool) : LogEvent :=
  .finish (some .editHandler) handler.affordance.operationName (some handler.widget)
    (some request) [("semantic_change", if semanticChange then "true" else "false")]

/-- The event by which an invocation ends with a failure. -/
def failureEvent (request detail : String) : LogEvent :=
  .failed (some .editHandler) handler.affordance.operationName
    { kind := .operationFailed
      operation := some handler.affordance.operationName
      element := some handler.widget
      request := some request
      message := detail }
    (some handler.widget) (some request) []

/-- The event by which an invocation ends that ran its operations. -/
def closingEvent (request : String) : (result : Option Context) → LogEvent
  | some _ => handler.finishEvent request true
  | none => handler.failureEvent request "operation body did not complete"

/-- An event of the handler's own operation on its widget. -/
structure Emits (event : LogEvent) (phase : Phase) : Prop where
  marks : event.Marks handler.affordance.operationName phase
  widget : event.widget = some handler.widget

theorem emits_startEvent (request : Option String) :
    handler.Emits (handler.startEvent request) .start :=
  ⟨⟨rfl, rfl⟩, rfl⟩

theorem emits_finishEvent (request : String) (semanticChange : Bool) :
    handler.Emits (handler.finishEvent request semanticChange) .finish :=
  ⟨⟨rfl, rfl⟩, rfl⟩

theorem emits_failureEvent (request detail : String) :
    handler.Emits (handler.failureEvent request detail) .failure :=
  ⟨⟨rfl, rfl⟩, rfl⟩

/-- An invocation that ran its operations ends well exactly when they gave a context. -/
theorem emits_closingEvent (request : String) (result : Option Context) :
    handler.Emits (handler.closingEvent request result) (.ending result.isSome) := by
  cases result with
  | some scope => exact handler.emits_finishEvent request true
  | none => exact handler.emits_failureEvent request _

theorem request_closingEvent (request : String) (result : Option Context) :
    (handler.closingEvent request result).request = some request := by
  cases result with
  | some scope => rfl
  | none => rfl

/-! ## Ways through a handler -/

/-- The session in which an invocation has started under a fresh request. -/
def started (session : Session) : Session :=
  (outcome (handler.logStart (some session.nextRequest)) (outcome freshRequest session).2).2

variable {handler} {runner : OperationRunner} {session : Session}

theorem logs_fail (request detail : String) :
    Logs (handler.fail request detail) session [handler.failureEvent request detail] :=
  (logs_logEvent _ _).bind _ ((logs_takeFeedback _).bind_pure _)

/-- Running the operations of a handler logs what the runner logs, and then the end. -/
theorem logs_runAndEnd {operations : OperationBody} {called : Context} {inner : Log}
    (ran : Logs (runner operations called) session inner) (request : String) :
    Logs (handler.runAndEnd runner operations called request) session
      (inner ++ [handler.closingEvent request
        (outcome (runner operations called) session).1]) := by
  have recorded : Logs (runner.run operations called) session inner := by
    have whole := ran.bind (fun result => do
      record (.ran ⟨operations, called, result⟩)
      pure result) ((logs_record _ _).bind_pure _)
    rwa [List.append_nil] at whole
  refine recorded.bind _ ?_
  have sameResult : (outcome (runner.run operations called) session).1 =
      (outcome (runner operations called) session).1 := rfl
  rw [sameResult]
  cases (outcome (runner operations called) session).1 with
  | some scope => exact (logs_logEvent _ _).bind _ ((logs_takeFeedback _).bind_pure _)
  | none => exact logs_fail request _

theorem outcome_invoke_of_declared {operations : OperationBody}
    (declared : handler.operations? = some operations) (context : Context)
    (bindings : List (String × Value)) :
    outcome (handler.invoke runner context bindings) session =
      outcome (handler.runAndEnd runner operations (context.bindAll bindings)
        session.nextRequest) (handler.started session) := by
  rw [invoke, declared]
  rfl

theorem logs_invoke_of_declared {operations : OperationBody}
    (declared : handler.operations? = some operations) {context : Context}
    {bindings : List (String × Value)} {inner : Log}
    (ran : Logs (runner operations (context.bindAll bindings)) (handler.started session) inner) :
    Logs (handler.invoke runner context bindings) session
      (handler.startEvent (some session.nextRequest) ::
        inner ++ [handler.closingEvent session.nextRequest
          (outcome (runner operations (context.bindAll bindings))
            (handler.started session)).1]) := by
  rw [Logs, outcome_invoke_of_declared declared, logs_runAndEnd ran]
  exact List.append_assoc session.log [_] _

theorem logs_invoke_of_undeclared (undeclared : handler.operations? = none) (context : Context)
    (bindings : List (String × Value)) :
    Logs (handler.invoke runner context bindings) session
      [handler.startEvent (some session.nextRequest),
        handler.finishEvent session.nextRequest false] := by
  rw [invoke, undeclared]
  exact List.append_assoc session.log [_] [_]

/-- A key that cannot be read is noticed before the request has an id. -/
theorem logs_invokeCreate_of_unreadable {key : String}
    (unreadable : ChildCreation.decodeKey? key = none) (context : Context)
    (owner : Option Node) :
    Logs (handler.invokeCreate runner context owner key) session
      [handler.startEvent none, handler.failureEvent session.nextRequest
        ("undecodable child creation key '" ++ key ++ "'")] := by
  rw [invokeCreate, unreadable]
  exact List.append_assoc session.log [_] [_]

/-! ## Requests -/

/--
An invocation logs one event of its start and one of its end, well or with a
failure; between the two stands what its runner logs when there are operations
to run.
-/
structure LogsRequest (handler : EditHandler) (runner : OperationRunner)
    (invocation : Action Status) (session : Session) (opening : LogEvent) (inner : Log)
    (closing : LogEvent) : Prop where
  logged : Logs invocation session (opening :: inner ++ [closing])
  opens : handler.Emits opening .start
  ofRunner : inner = [] ∨ ∃ operations, handler.operations? = some operations ∧
    ∃ called before, Logs (runner operations called) before inner
  closes : handler.Emits closing .finish ∨ handler.Emits closing .failure
  request : closing.request = some session.nextRequest

variable (handler)

/-- An invocation that gets to its operations starts and ends under one request. -/
theorem exists_logsRequest_invoke {runner : OperationRunner}
    (onlyAdds : ∀ operations called before, ∃ events, Logs (runner operations called) before events)
    (context : Context) (bindings : List (String × Value)) (session : Session) :
    ∃ opening inner closing,
      handler.LogsRequest runner (handler.invoke runner context bindings) session opening inner
        closing ∧ opening.request = closing.request := by
  cases declared : handler.operations? with
  | none =>
      refine ⟨handler.startEvent (some session.nextRequest), [],
        handler.finishEvent session.nextRequest false, ?_, rfl⟩
      constructor
      case logged => exact logs_invoke_of_undeclared declared context bindings
      case opens => exact handler.emits_startEvent _
      case ofRunner => exact .inl rfl
      case closes => exact .inl (handler.emits_finishEvent _ _)
      case request => rfl
  | some operations =>
      obtain ⟨inner, ran⟩ :=
        onlyAdds operations (context.bindAll bindings) (handler.started session)
      have logged := logs_invoke_of_declared declared ran
      generalize (outcome (runner operations (context.bindAll bindings))
        (handler.started session)).1 = result at logged
      have closes := handler.emits_closingEvent session.nextRequest result
      refine ⟨handler.startEvent (some session.nextRequest), inner,
        handler.closingEvent session.nextRequest result, ?_,
        (handler.request_closingEvent _ _).symm⟩
      constructor
      case logged => exact logged
      case opens => exact handler.emits_startEvent _
      case ofRunner => exact .inr ⟨operations, declared, _, _, ran⟩
      case closes =>
        cases result with
        | some scope => exact .inl closes
        | none => exact .inr closes
      case request => exact handler.request_closingEvent _ _

/--
With a runner that only adds to the log, every invocation is logged by one start
and one end of its gesture on its widget, with nothing between them but what the
runner logs.  The two carry the same request, unless the invocation is a
creation whose key cannot be read: then the end carries the request and the
start none.
-/
theorem logsRequest_of_invocation {runner : OperationRunner}
    (onlyAdds : ∀ operations called before,
      ∃ events, Logs (runner operations called) before events) :
    (∀ context bindings session, ∃ opening inner closing,
      handler.LogsRequest runner (handler.invoke runner context bindings) session opening inner
        closing ∧ opening.request = closing.request) ∧
    ∀ context owner key session, ∃ opening inner closing,
      handler.LogsRequest runner (handler.invokeCreate runner context owner key) session opening
        inner closing ∧
      (opening.request = closing.request ↔ ChildCreation.decodeKey? key ≠ none) := by
  refine ⟨handler.exists_logsRequest_invoke onlyAdds, ?_⟩
  intro context owner key session
  cases decoded : ChildCreation.decodeKey? key with
  | some place =>
      obtain ⟨opening, inner, closing, logs, sameRequest⟩ :=
        handler.exists_logsRequest_invoke onlyAdds context
          (creationBindings place.1 place.2 owner) session
      refine ⟨opening, inner, closing, ?_, ?_⟩
      · rw [invokeCreate, decoded]
        exact logs
      · exact ⟨fun _ => Option.some_ne_none place, fun _ => sameRequest⟩
  | none =>
      refine ⟨handler.startEvent none, [], handler.failureEvent session.nextRequest
        ("undecodable child creation key '" ++ key ++ "'"), ?_, ?_⟩
      · constructor
        case logged => exact logs_invokeCreate_of_unreadable decoded context owner
        case opens => exact handler.emits_startEvent none
        case ofRunner => exact .inl rfl
        case closes => exact .inr (handler.emits_failureEvent _ _)
        case request => rfl
      · constructor
        · intro same
          cases same
        · exact fun readable => absurd rfl readable

/-- The creation of a novel among the books of a shelf. -/
def novelCreation : EditHandler :=
  ⟨.createElement, "books", some [.create "Novel" "books" none []]⟩

/-- A novel that is created by running the operations is logged under one request. -/
theorem logsRequest_novelCreation :
    let host : HostScript := {}
    let runner := Execution.runner (host.evaluator none) host.editService
    let shelf := Context.ofSelf (.node ⟨"shelf"⟩)
    (∀ operations called before, ∃ events, Logs (runner operations called) before events) ∧
      ∃ opening inner closing,
        novelCreation.LogsRequest runner
          (novelCreation.invokeCreate runner shelf (some ⟨"shelf"⟩) "books::Novel") {} opening
          inner closing ∧
        opening.request = closing.request := by
  intro host runner shelf
  have onlyAdds : ∀ operations called before,
      ∃ events, Logs (runner operations called) before events := by
    intro operations called before
    obtain ⟨failed, ran, _⟩ := Execution.exists_logs_runner (host.evaluator none)
      host.editService operations called before
    exact ⟨failed.toList, ran⟩
  have readable : ChildCreation.decodeKey? "books::Novel" ≠ none := by
    decide
  obtain ⟨opening, inner, closing, logs, sameRequest⟩ :=
    (novelCreation.logsRequest_of_invocation onlyAdds).2 shelf (some ⟨"shelf"⟩) "books::Novel" {}
  exact ⟨onlyAdds, opening, inner, closing, logs, sameRequest.mpr readable⟩

/-- A creation whose key cannot be read starts without the request under which it fails. -/
theorem not_sameRequest_of_unreadable_key :
    let host : HostScript := {}
    let runner := Execution.runner (host.evaluator none) host.editService
    let shelf := Context.ofSelf (.node ⟨"shelf"⟩)
    let invoked := outcome
      (novelCreation.invokeCreate runner shelf (some ⟨"shelf"⟩) "Novel") {}
    ∃ opening closing, invoked.2.log = [opening, closing] ∧
      novelCreation.Emits opening .start ∧ novelCreation.Emits closing .failure ∧
      opening.request = none ∧ closing.request = some "request-0" ∧
      opening.request ≠ closing.request := by
  intro host runner shelf invoked
  have undecoded : ChildCreation.decodeKey? "Novel" = none := by
    decide
  have logged : Logs (novelCreation.invokeCreate runner shelf (some ⟨"shelf"⟩) "Novel") {} _ :=
    logs_invokeCreate_of_unreadable undecoded shelf (some ⟨"shelf"⟩)
  refine ⟨_, _, logged, novelCreation.emits_startEvent none,
    novelCreation.emits_failureEvent _ _, rfl, rfl, ?_⟩
  exact fun same => nomatch same

end EditHandler

end FormWidgets
