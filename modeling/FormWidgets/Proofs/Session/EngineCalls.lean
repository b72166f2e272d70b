import FormWidgets.Proofs.Session.Instrumentation
import FormWidgets.Proofs.Widget.BlankExpressions
import FormWidgets.Proofs.Widget.EmptySlot
import FormWidgets.Proofs.Widget.FeedbackDelivery
import FormWidgets.Proofs.Widget.InvocationLog
import Mathlib.Data.List.Forall2

/-!
# Log of a sequence of calls

A host calls the engine to bind descriptions, to let the user do gestures, to
search for candidates, to enumerate places of creation and to load documents.  A
call logs one block or none: the start of an operation, at most one run of
operations that failed, and the end of that same operation.

What a block tells of its call is laid down in `CallMoment.IsBracketed`.  Whether a
run failed is read off the execution of the operations there, not off what the runner
gave or what was written down of it.  Every kind of call is shown to log such a block,
and the main statement puts the blocks of a sequence of calls one after the other.
-/

namespace FormWidgets

open FormWidgets.Action

/-! ## Blocks -/

/-- An operation starts, a run of operations may fail, and the operation ends, well or not. -/
structure LogBlock where
  operation : String
  opening : LogEvent
  failedRun : Option LogEvent
  closing : LogEvent
  endsWell : Bool
  opens : opening.Marks operation .start
  fails : ∀ event ∈ failedRun, event.Marks "execute_operations" .failure
  closes : closing.Marks operation (.ending endsWell)

namespace LogBlock

/-- The events of a block in order. -/
def events (block : LogBlock) : Log :=
  block.opening :: block.failedRun.toList ++ [block.closing]

/-- The events of a block, if there is one. -/
def eventsOf (block? : Option LogBlock) : Log :=
  block?.elim [] events

/-- Every event of a block belongs to an operation. -/
theorem instrumented_events (block : LogBlock) : block.events.instrumented = block.events := by
  rw [Log.instrumented, List.filter_eq_self]
  intro event member
  rw [events, List.mem_append, List.mem_cons, Option.mem_toList, List.mem_singleton] at member
  rcases member with (rfl | failed) | rfl
  · exact block.opens.isSome_operation
  · exact (block.fails event failed).isSome_operation
  · exact block.closes.isSome_operation

end LogBlock

/-! ## Failed runs -/

namespace Execution

variable {evaluator : Evaluator} {service : EditService} {slot : Option OperationBody}
  {operations : OperationBody} {called : Context} {given : Option Context}
  {before after start : Session}

/--
Between two sessions the operations of a slot were executed, before anything else was
run or edited, and stopped with an error.  The run was then written down, with whatever
the runner gave.
-/
inductive FailsBetween (evaluator : Evaluator) (service : EditService)
    (slot : Option OperationBody) (before after : Session) : Prop where
  | stopped {operations : OperationBody} {called : Context} {start : Session}
      {error : EngineError} {given : Option Context} (declared : slot = some operations)
      (runs : start.runs = before.runs) (edits : start.edits = before.edits)
      (stops : (Attempt.outcome (runBody evaluator service operations called) start).1 =
        .error error)
      (noted : after.trace =
        (Attempt.outcome (runBody evaluator service operations called) start).2.trace ++
          [.ran ⟨operations, called, given⟩])

theorem runs_of_noted
    (noted : after.trace =
      (Attempt.outcome (runBody evaluator service operations called) start).2.trace ++
        [.ran ⟨operations, called, given⟩]) :
    after.runs = start.runs ++ [⟨operations, called, given⟩] := by
  rw [Session.runs, noted, List.filterMap_append]
  exact congrArg (· ++ _) (runs_runBody evaluator service operations called start)

theorem not_failsBetween_of_sameRuns (same : after.runs = before.runs) :
    ¬ FailsBetween evaluator service slot before after := by
  rintro ⟨_, runs, _, _, noted⟩
  have one := runs_of_noted noted
  rw [runs, same] at one
  exact List.cons_ne_nil _ _ (List.self_eq_append_right.mp one)

/-- Where the operations were executed, their execution says whether they failed. -/
theorem failsBetween_iff (declared : slot = some operations)
    (runs : start.runs = before.runs) (edits : start.edits = before.edits)
    (noted : after.trace =
      (Attempt.outcome (runBody evaluator service operations called) start).2.trace ++
        [.ran ⟨operations, called, given⟩]) :
    FailsBetween evaluator service slot before after ↔
      ∃ error, (Attempt.outcome (runBody evaluator service operations called) start).1 =
        .error error := by
  constructor
  · rintro ⟨_, otherRuns, otherEdits, stops, otherNoted⟩
    -- Only one run was written down, so it is the same one, and it began after the same edits.
    have sameRun := (runs_of_noted noted).symm.trans (runs_of_noted otherNoted)
    rw [runs, otherRuns] at sameRun
    cases List.append_cancel_left sameRun
    rw [ending_runBody_of_edits (edits.trans otherEdits.symm)]
    exact ⟨_, stops⟩
  · rintro ⟨_, stops⟩
    exact .stopped declared runs edits stops noted

/-- What is done before a run, without a run or an edit, does not matter. -/
theorem FailsBetween.of_later {earlier : Session} (runs : before.runs = earlier.runs)
    (edits : before.edits = earlier.edits)
    (fails : FailsBetween evaluator service slot before after) :
    FailsBetween evaluator service slot earlier after := by
  obtain ⟨declared, sameRuns, sameEdits, stops, noted⟩ := fails
  exact .stopped declared (sameRuns.trans runs) (sameEdits.trans edits) stops noted

end Execution

/-! ## Gestures -/

/--
A block was logged while a gesture on a slot came to its status: it ends as the status
says, and it shows a failed run exactly when the operations of the slot were executed
and failed, which then is why it does not end well.
-/
structure LogBlock.TellsOf (block : LogBlock) (evaluator : Evaluator) (service : EditService)
    (slot : Option OperationBody) (before : Session) (status : Status) (after : Session) :
    Prop where
  logged : after.log = before.log ++ block.events
  endsWell : block.endsWell = status.isSuccess
  failedRun : block.failedRun.isSome ↔ Execution.FailsBetween evaluator service slot before after
  onFailedRun : block.failedRun.isSome → block.endsWell = false

namespace LogBlock.TellsOf

variable {block : LogBlock} {evaluator : Evaluator} {service : EditService}
  {slot : Option OperationBody} {before after : Session} {status : Status}

theorem of_sameRuns (logged : after.log = before.log ++ block.events)
    (endsWell : block.endsWell = status.isSuccess) (noneFailed : block.failedRun = none)
    (same : after.runs = before.runs) :
    block.TellsOf evaluator service slot before status after := by
  constructor
  case logged => exact logged
  case endsWell => exact endsWell
  case failedRun =>
    rw [noneFailed]
    exact ⟨fun given => (nomatch given),
      fun fails => absurd fails (Execution.not_failsBetween_of_sameRuns same)⟩
  case onFailedRun =>
    rw [noneFailed]
    exact fun given => nomatch given

/-- What is done before a gesture, without a word in the log, a run or an edit, does not matter. -/
theorem of_later {earlier : Session} (log : before.log = earlier.log)
    (runs : before.runs = earlier.runs) (edits : before.edits = earlier.edits)
    (tells : block.TellsOf evaluator service slot before status after) :
    block.TellsOf evaluator service slot earlier status after := by
  constructor
  case logged => exact log ▸ tells.logged
  case endsWell => exact tells.endsWell
  case failedRun =>
    rw [tells.failedRun]
    exact ⟨.of_later runs edits, .of_later runs.symm edits.symm⟩
  case onFailedRun => exact tells.onFailedRun

end LogBlock.TellsOf

namespace EditHandler

variable {handler : EditHandler} {evaluator : Evaluator} {service : EditService}
  {session : Session}

/-- An action of a handler is logged by a block that tells of its status. -/
def IsLogged (handler : EditHandler) (evaluator : Evaluator) (service : EditService)
    (action : Action Status) (session : Session) : Prop :=
  ∃ block : LogBlock, block.operation = handler.affordance.operationName ∧
    block.TellsOf evaluator service handler.body session (outcome action session).1
      (outcome action session).2

theorem isLogged_invoke_of_undeclared (undeclared : handler.operations? = none)
    (runner : OperationRunner) (context : Context) (bindings : List (String × Value)) :
    handler.IsLogged evaluator service (handler.invoke runner context bindings) session := by
  let block : LogBlock :=
    { operation := handler.affordance.operationName
      opening := handler.startEvent (some session.nextRequest)
      failedRun := none
      closing := handler.finishEvent session.nextRequest false
      endsWell := true
      opens := (handler.emits_startEvent _).marks
      fails := fun _ given => nomatch given
      closes := (handler.emits_finishEvent _ _).marks }
  have status := (outcome_invoke_of_undeclared undeclared runner context bindings session).1
  refine ⟨block, rfl, .of_sameRuns ?logged ?endsWell rfl ?same⟩
  case logged => exact logs_invoke_of_undeclared undeclared context bindings
  case endsWell =>
    rw [status]
    rfl
  case same => exact (ranNothing_through undeclared runner context bindings session).sameRuns

variable (evaluator service)

/-- The execution of the operations decides how the invocation ends, in the status and in the log. -/
theorem isLogged_invoke_of_declared {operations : OperationBody}
    (declared : handler.operations? = some operations) (context : Context)
    (bindings : List (String × Value)) :
    handler.IsLogged evaluator service
      (handler.invoke (Execution.runner evaluator service) context bindings) session := by
  let runner := Execution.runner evaluator service
  let called := context.bindAll bindings
  let start := handler.started session
  obtain ⟨failed, ran, fails, stopped⟩ :=
    Execution.exists_logs_runner evaluator service operations called start
  have logged := logs_invoke_of_declared declared ran
  obtain ⟨status, noted⟩ :=
    handler.outcome_runAndEnd runner operations called session.nextRequest start
  rw [← outcome_invoke_of_declared declared] at status noted
  rw [Execution.trace_runner] at noted
  have failedRun := Execution.failsBetween_iff (handler.operations?_eq_some_iff.mp declared).1
    (show start.runs = session.runs from rfl) (show start.edits = session.edits from rfl) noted
  let block : LogBlock :=
    { operation := handler.affordance.operationName
      opening := handler.startEvent (some session.nextRequest)
      failedRun := failed
      closing := handler.closingEvent session.nextRequest
        (outcome (runner operations called) start).1
      endsWell := (outcome (runner operations called) start).1.isSome
      opens := (handler.emits_startEvent _).marks
      fails := fails
      closes := (handler.emits_closingEvent _ _).marks }
  refine ⟨block, rfl, ?_⟩
  constructor
  case logged => exact logged
  case endsWell => rw [status, Status.isSuccess_ofRun]
  case failedRun => exact stopped.trans failedRun.symm
  case onFailedRun =>
    intro given
    obtain ⟨error, stops⟩ := stopped.mp given
    show (outcome (runner operations called) start).1.isSome = false
    rw [Execution.result_runner, stops]
    rfl

variable {evaluator service}

theorem isLogged_invokeCreate_of_unreadable {key : String}
    (unreadable : ChildCreation.decodeKey? key = none) (runner : OperationRunner)
    (context : Context) (owner : Option Node) :
    handler.IsLogged evaluator service (handler.invokeCreate runner context owner key)
      session := by
  let block : LogBlock :=
    { operation := handler.affordance.operationName
      opening := handler.startEvent none
      failedRun := none
      closing := handler.failureEvent session.nextRequest
        ("undecodable child creation key '" ++ key ++ "'")
      endsWell := false
      opens := (handler.emits_startEvent _).marks
      fails := fun _ given => nomatch given
      closes := (handler.emits_failureEvent _ _).marks }
  refine ⟨block, rfl, .of_sameRuns ?logged ?endsWell rfl ?same⟩
  case logged => exact logs_invokeCreate_of_unreadable unreadable context owner
  case endsWell =>
    rw [invokeCreate, unreadable]
    rfl
  case same =>
    rw [invokeCreate, unreadable]
    rfl

variable (handler session) (evaluator : Evaluator) (service : EditService) (context : Context)

theorem isLogged_invoke (bindings : List (String × Value)) :
    handler.IsLogged evaluator service
      (handler.invoke (Execution.runner evaluator service) context bindings) session := by
  cases declared : handler.operations? with
  | none => exact isLogged_invoke_of_undeclared declared _ context bindings
  | some operations => exact isLogged_invoke_of_declared evaluator service declared context bindings

theorem isLogged_invokeCreate (owner : Option Node) (key : String) :
    handler.IsLogged evaluator service
      (handler.invokeCreate (Execution.runner evaluator service) context owner key) session := by
  cases decoded : ChildCreation.decodeKey? key with
  | none => exact isLogged_invokeCreate_of_unreadable decoded _ context owner
  | some place =>
      rw [invokeCreate, decoded]
      exact handler.isLogged_invoke session evaluator service context _

end EditHandler

/--
A gesture that is not wired leaves no trace; one that is gives a status, and is logged
by a block that tells of it.
-/
inductive GestureOutcome.IsLogged (operation : String) (evaluator : Evaluator)
    (service : EditService) (slot : Option OperationBody) (unwired : Prop) (before : Session) :
    GestureOutcome → Session → Prop where
  | withoutStatus {outcome : GestureOutcome} (none : outcome.status? = none)
      (notWired : unwired) :
      IsLogged operation evaluator service slot unwired before outcome before
  | done {status : Status} {after : Session} {block : LogBlock} (wired : ¬ unwired)
      (named : block.operation = operation)
      (tells : block.TellsOf evaluator service slot before status after) :
      IsLogged operation evaluator service slot unwired before (.done status) after

theorem Binder.logs_ownerProvider (binder : Binder) (expression : Option String)
    (context : Context) (session : Session) :
    Logs (binder.ownerProvider expression context) session [] := by
  rw [ownerProvider]
  split
  · exact logs_pure _ _
  · exact (logs_evaluate? _ context expression session).bind_pure _

namespace GestureOutcome.IsLogged

variable {binder : Binder} {widget : String} {affordance : Affordance}
  {slot : Option OperationBody} {context : Context} {isOptional : Bool} {gesture : Gesture}
  {act : OperationRunner → Action GestureOutcome}

/-- On every route to a handler, what the handler logs is all that is logged. -/
theorem of_routes (routes : binder.Routes widget affordance slot context isOptional gesture act)
    (evaluator : Evaluator) (service : EditService) (session : Session) :
    (outcome (act (Execution.runner evaluator service)) session).1.IsLogged
      affordance.operationName evaluator service slot (isOptional = true ∧ slot = none) session
      (outcome (act (Execution.runner evaluator service)) session).2 := by
  let handler : EditHandler := ⟨affordance, widget, slot⟩
  cases routes with
  | direct bindings readable =>
      obtain ⟨block, named, tells⟩ :=
        handler.isLogged_invoke session evaluator service context bindings
      exact .done (fun unwired => nomatch unwired.1) named tells
  | whenDeclared bindings readable =>
      cases slot with
      | none => exact .withoutStatus rfl ⟨rfl, rfl⟩
      | some operations =>
          obtain ⟨block, named, tells⟩ :=
            handler.isLogged_invoke session evaluator service context bindings
          exact .done (fun unwired => nomatch unwired.2) named tells
  | @creation reference ownerExpression key asked creates =>
      -- The owner is asked for first, which is no event, no run and no edit.
      let asking := outcome (reference.owner context) session
      have log : asking.2.log = session.log := by
        have logs := binder.logs_ownerProvider ownerExpression context session
        rw [← asked, Logs, List.append_nil] at logs
        exact logs
      obtain ⟨runs, edits, _⟩ : asking.2.runs = session.runs ∧ asking.2.edits = session.edits ∧
          asking.2.feedback = session.feedback := by
        have asks := binder.onlyAsks_ownerProvider ownerExpression context session
        rwa [← asked] at asks
      obtain ⟨block, named, tells⟩ :=
        handler.isLogged_invokeCreate asking.2 evaluator service context asking.1 key
      exact .done (fun unwired => nomatch unwired.1) named (tells.of_later log runs edits)

end GestureOutcome.IsLogged

/-- A gesture that a kind of widget does not have does nothing. -/
theorem Binder.outcome_perform_of_unexposed (binder : Binder) {description : WidgetDescription}
    {gesture : Gesture} (unexposed : description.detail.slot? gesture = none)
    (runner : OperationRunner) (context : Context) (session : Session) :
    outcome ((binder.boundWidget description).perform runner context gesture) session =
      (.notOffered, session) := by
  have detail : (binder.boundWidget description).detail =
      binder.boundDetail description.id description.detail := rfl
  simp only [BoundWidget.perform, detail]
  cases kind : description.detail with
  | monoReference reference =>
      rw [kind] at unexposed
      cases gesture with
      | set value => cases unexposed
      | unset value => cases unexposed
      | clear => cases unexposed
      | createElement key => cases unexposed
      | _ => rfl
  | multiReference reference =>
      rw [kind] at unexposed
      cases gesture with
      | addAll values => cases unexposed
      | remove value => cases unexposed
      | clear => cases unexposed
      | reorder value fromIndex toIndex => cases unexposed
      | createElement key => cases unexposed
      | _ => rfl
  | containmentReference containment =>
      rw [kind] at unexposed
      cases gesture with
      | click value => cases unexposed
      | reorder value fromIndex toIndex => cases unexposed
      | createElement key => cases unexposed
      | _ => rfl
  | primitiveList list =>
      rw [kind] at unexposed
      cases gesture with
      | delete value => cases unexposed
      | add value => cases unexposed
      | reorder value fromIndex toIndex => cases unexposed
      | itemAction value => cases unexposed
      | _ => rfl
  | primitiveRadio radio =>
      rw [kind] at unexposed
      cases gesture with
      | select text => cases unexposed
      | _ => rfl
  | languageExpression => rfl

/-- The word for a gesture in the log. -/
def Gesture.word : Gesture → String
  | .set _ => "set"
  | .unset _ => "unset"
  | .clear => "clear"
  | .createElement _ => "createElement"
  | .add _ | .addAll _ => "add"
  | .remove _ => "remove"
  | .reorder .. => "reorder"
  | .click _ => "click"
  | .delete _ => "delete"
  | .itemAction _ => "itemAction"
  | .select _ => "select"

/-- The handler of a gesture logs under the word for the gesture, whatever the kind of widget. -/
theorem WidgetDetail.operationName_of_slot? {detail : WidgetDetail} {gesture : Gesture}
    {slot : Affordance × Option OperationBody} (exposed : detail.slot? gesture = some slot) :
    slot.1.operationName = "handler." ++ gesture.word := by
  cases detail <;> cases gesture <;> cases exposed <;> rfl

/-! ## Calls -/

/-- A call of the engine, with what it is made on. -/
inductive EngineCall where
  | bind (binder : Binder) (description : WidgetDescription)
  /-- A gesture with the widget of a description; its operations are executed. -/
  | perform (binder : Binder) (evaluator : Evaluator) (service : EditService)
      (description : WidgetDescription) (context : Context) (gesture : Gesture)
  | findCandidates (search : CandidateSearch) (target : Node) (searchScope : Option String)
      (id : String)
  | offerCreations (catalogue : ChildCreation.Catalogue) (kind referenceKind : String)
  | loadFile (file : FileContent)

/-- What a call of the engine gives. -/
inductive CallResult where
  | bound (widget : BoundWidget)
  | performed (outcome : GestureOutcome)
  | candidates (found : List Node)
  | offers (found : List ChildCreation.Offer)
  | loaded (index : Except EngineError DescriptionIndex)

namespace CallResult

/-- Whether nothing failed. -/
def isSuccess : CallResult → Bool
  | .performed (.done status) => status.isSuccess
  | .loaded index => index.isOk
  | _ => true

/-- Whether a gesture gave no status. -/
def isWithoutStatus : CallResult → Bool
  | .performed outcome => outcome.status?.isNone
  | _ => false

end CallResult

/-- A call with the sessions around it and what it gave. -/
structure CallMoment where
  call : EngineCall
  before : Session
  result : CallResult
  after : Session

namespace EngineCall

/-- Make a call. -/
def act : EngineCall → Action CallResult
  | .bind binder description => do
      let widget ← binder.bind description
      pure (.bound widget)
  | .perform binder evaluator service description context gesture => do
      let executing := binder.executing evaluator service
      let outcome ← executing.perform (executing.boundWidget description) context gesture
      pure (.performed outcome)
  | .findCandidates search target searchScope id => do
      let found ← search.find target searchScope id
      pure (.candidates found)
  | .offerCreations catalogue kind referenceKind => do
      let found ← catalogue.offers kind referenceKind
      pure (.offers found)
  | .loadFile file => do
      let index ← (DescriptionIndex.load file).run
      pure (.loaded index)

/-- The moment of a call that is made in a session. -/
def moment (call : EngineCall) (before : Session) : CallMoment :=
  ⟨call, before, (outcome call.act before).1, (outcome call.act before).2⟩

/-- Make calls in order. -/
def serve : List EngineCall → Session → List CallMoment × Session
  | [], session => ([], session)
  | call :: rest, session =>
      let moment := call.moment session
      let (moments, final) := serve rest moment.after
      (moment :: moments, final)

/-- The operation under which a call is logged. -/
def operation : EngineCall → String
  | .bind .. => "bind_widget"
  | .perform _ _ _ _ _ gesture => "handler." ++ gesture.word
  | .findCandidates .. => "find_candidates"
  | .offerCreations .. => "child_creation_descriptions"
  | .loadFile _ => "load_descriptions"

/-- Whether a call is a search without an expression to evaluate. -/
def isBlankSearch : EngineCall → Bool
  | .findCandidates _ _ searchScope _ => Text.isBlank? searchScope
  | _ => false

/--
A call is a gesture without a handler: its kind of widget has no slot for it, or wires
it only for a declared slot and the slot is absent.
-/
def IsUnwired : EngineCall → Prop
  | .perform _ _ _ description _ gesture =>
      ∀ slot, description.detail.slot? gesture = some slot →
        description.detail.isOptional gesture = true ∧ slot.2 = none
  | _ => False

/-- Between two sessions a call executed the operations of its gesture, and they failed. -/
def FailsBetween (before after : Session) : EngineCall → Prop
  | .perform _ evaluator service description _ gesture =>
      ∃ slot, description.detail.slot? gesture = some slot ∧
        Execution.FailsBetween evaluator service slot.2 before after
  | _ => False

variable {call : EngineCall} {before after : Session}

theorem not_failsBetween_of_sameRuns (same : after.runs = before.runs) :
    ¬ call.FailsBetween before after := by
  cases call with
  | perform binder evaluator service description context gesture =>
      rintro ⟨slot, _, fails⟩
      exact Execution.not_failsBetween_of_sameRuns same fails
  | _ => exact id

end EngineCall

/--
What a call adds to the log of operations is the given block, or nothing.

There is no block exactly for a search without an expression and for a gesture that is
not wired, which are the gestures without a status.  The block is one of the operation
of the call and ends well exactly when the call reports no failure.  It shows a failed
run exactly when operations were executed during the call and stopped with an error;
then the call is a gesture that reports a failure, and the block does not end well.
-/
structure CallMoment.IsBracketed (moment : CallMoment) (block? : Option LogBlock) : Prop where
  logged : moment.after.log.instrumented =
    moment.before.log.instrumented ++ LogBlock.eventsOf block?
  unlogged : block? = none ↔ moment.call.isBlankSearch ∨ moment.call.IsUnwired
  withoutStatus : moment.result.isWithoutStatus ↔ moment.call.IsUnwired
  operation : ∀ block ∈ block?, block.operation = moment.call.operation
  endsWell : ∀ block ∈ block?, block.endsWell = moment.result.isSuccess
  failedRun : (∃ block ∈ block?, block.failedRun.isSome) ↔
    moment.call.FailsBetween moment.before moment.after
  onFailedRun : ∀ block ∈ block?, block.failedRun.isSome →
    block.endsWell = false ∧ (∃ word, block.operation = "handler." ++ word) ∧
      ∃ text messages, moment.result = .performed (.done (.failure text messages))

theorem CallMoment.IsBracketed.of_unlogged {moment : CallMoment}
    (log : moment.after.log = moment.before.log)
    (runs : moment.after.runs = moment.before.runs)
    (silent : moment.call.isBlankSearch ∨ moment.call.IsUnwired)
    (withoutStatus : moment.result.isWithoutStatus ↔ moment.call.IsUnwired) :
    moment.IsBracketed none := by
  constructor
  case logged => rw [log, LogBlock.eventsOf, Option.elim_none, List.append_nil]
  case unlogged => exact ⟨fun _ => silent, fun _ => rfl⟩
  case withoutStatus => exact withoutStatus
  case operation => exact fun _ given => nomatch given
  case endsWell => exact fun _ given => nomatch given
  case failedRun =>
    exact ⟨fun ⟨_, given, _⟩ => (nomatch given),
      fun fails => absurd fails (EngineCall.not_failsBetween_of_sameRuns runs)⟩
  case onFailedRun => exact fun _ given => nomatch given

namespace EngineCall

variable (call : EngineCall)

/-- A call that runs no operations and is logged from its start to its end. -/
theorem exists_isBracketed_of_isLogged {well : Bool}
    (logged : Action.IsLogged call.act call.operation well) (session : Session)
    (visible : call.isBlankSearch = false)
    (ended : (call.moment session).result.isSuccess = well)
    (noGesture : (call.moment session).result.isWithoutStatus = false)
    (wired : ¬ call.IsUnwired) :
    ∃ block?, (call.moment session).IsBracketed block? := by
  obtain ⟨opening, closing, log, opens, closes⟩ := logged.exists_instrumented session
  let block : LogBlock :=
    { operation := call.operation
      opening := opening
      failedRun := none
      closing := closing
      endsWell := well
      opens := opens
      fails := fun _ given => nomatch given
      closes := closes }
  have runs : (call.moment session).after.runs = session.runs := (logged.onlyAsks session).1
  refine ⟨some block, ?_⟩
  constructor
  case logged => exact log
  case unlogged =>
    constructor
    · exact fun given => nomatch given
    · rintro (blank | unwired)
      · exact absurd (visible.symm.trans blank) Bool.false_ne_true
      · exact absurd unwired wired
  case withoutStatus =>
    rw [noGesture]
    exact ⟨fun given => (nomatch given), fun unwired => absurd unwired wired⟩
  case operation =>
    rintro _ ⟨⟩
    rfl
  case endsWell =>
    rintro _ ⟨⟩
    exact ended.symm
  case failedRun =>
    constructor
    · rintro ⟨_, ⟨⟩, given⟩
      cases given
    · exact fun fails => absurd fails (not_failsBetween_of_sameRuns runs)
  case onFailedRun =>
    rintro _ ⟨⟩ given
    cases given

/-- A gesture is logged as its outcome says. -/
theorem exists_isBracketed_of_outcome {binder : Binder} {evaluator : Evaluator}
    {service : EditService} {description : WidgetDescription} {context : Context}
    {gesture : Gesture} {slot : Affordance × Option OperationBody} {outcome : GestureOutcome}
    {before after : Session} (exposed : description.detail.slot? gesture = some slot)
    (logged : outcome.IsLogged slot.1.operationName evaluator service slot.2
      (description.detail.isOptional gesture = true ∧ slot.2 = none) before after) :
    ∃ block?, CallMoment.IsBracketed
      ⟨perform binder evaluator service description context gesture, before,
        .performed outcome, after⟩ block? := by
  have unwired_iff : (perform binder evaluator service description context gesture).IsUnwired ↔
      description.detail.isOptional gesture = true ∧ slot.2 = none := by
    simp only [IsUnwired, exposed, Option.some.injEq, forall_eq']
  have fails_iff : (perform binder evaluator service description context gesture).FailsBetween
      before after ↔ Execution.FailsBetween evaluator service slot.2 before after := by
    simp only [FailsBetween, exposed, Option.some.injEq, exists_eq_left']
  cases logged with
  | withoutStatus none notWired =>
      refine ⟨.none, .of_unlogged rfl rfl (.inr (unwired_iff.mpr notWired)) ?_⟩
      rw [unwired_iff, CallResult.isWithoutStatus, none]
      exact ⟨fun _ => notWired, fun _ => rfl⟩
  | @done status after block wired blockNamed tells =>
      have named := blockNamed.trans (WidgetDetail.operationName_of_slot? exposed)
      refine ⟨some block, ?_⟩
      constructor
      case logged =>
        rw [LogBlock.eventsOf, Option.elim_some, ← block.instrumented_events,
          ← Log.instrumented_append]
        exact congrArg Log.instrumented tells.logged
      case unlogged =>
        rw [unwired_iff]
        constructor
        · exact fun given => nomatch given
        · rintro (⟨⟨⟩⟩ | unwired)
          exact absurd unwired wired
      case withoutStatus =>
        rw [unwired_iff]
        exact ⟨fun given => (nomatch given), fun unwired => absurd unwired wired⟩
      case operation =>
        rintro _ ⟨⟩
        exact named
      case endsWell =>
        rintro _ ⟨⟩
        exact tells.endsWell
      case failedRun =>
        rw [fails_iff, ← tells.failedRun]
        simp only [Option.mem_def, Option.some.injEq, exists_eq_left']
      case onFailedRun =>
        rintro _ ⟨⟩ given
        have failed := tells.onFailedRun given
        refine ⟨failed, ⟨gesture.word, named⟩, ?_⟩
        rw [tells.endsWell] at failed
        cases status with
        | success semanticChange messages => cases failed
        | failure text messages => exact ⟨text, messages, rfl⟩

/-- Every call logs one block that tells of it, or nothing. -/
theorem exists_isBracketed (session : Session) :
    ∃ block?, (call.moment session).IsBracketed block? := by
  cases call with
  | bind binder description =>
      have logged := (binder.isLogged_bind description).bind_pure CallResult.bound
      exact (bind binder description).exists_isBracketed_of_isLogged logged session rfl rfl rfl
        not_false
  | perform binder evaluator service description context gesture =>
      let executing := binder.executing evaluator service
      cases exposed : description.detail.slot? gesture with
      | none =>
          have nothing := executing.outcome_perform_of_unexposed exposed executing.runner context
            session
          have unwired : (perform binder evaluator service description context gesture).IsUnwired :=
            fun slot given => nomatch exposed.symm.trans given
          refine ⟨none, .of_unlogged ?log ?runs (.inr unwired) ?withoutStatus⟩
          case log => exact congrArg (fun ended => ended.2.log) nothing
          case runs => exact congrArg (fun ended => ended.2.runs) nothing
          case withoutStatus =>
            have silent := congrArg (fun ended => ended.1.status?.isNone) nothing
            exact ⟨fun _ => unwired, fun _ => silent⟩
      | some slot =>
          have routes := executing.routes_perform description context exposed
          exact exists_isBracketed_of_outcome exposed (.of_routes routes evaluator service session)
  | findCandidates search target searchScope id =>
      cases visible : Text.isBlank? searchScope with
      | true =>
          have nothing := search.find_of_blank target id visible
          refine ⟨none, .of_unlogged ?log ?runs (.inl visible) ?withoutStatus⟩
          case log => exact congrArg (fun found => (outcome found session).2.log) nothing
          case runs => exact congrArg (fun found => (outcome found session).2.runs) nothing
          case withoutStatus => exact ⟨fun given => (nomatch given), fun unwired => unwired.elim⟩
      | false =>
          have logged := (search.isLogged_find target id visible).bind_pure CallResult.candidates
          exact (findCandidates search target searchScope id).exists_isBracketed_of_isLogged logged
            session visible rfl rfl not_false
  | offerCreations catalogue kind referenceKind =>
      have logged := (catalogue.isLogged_offers kind referenceKind).bind_pure CallResult.offers
      exact (offerCreations catalogue kind referenceKind).exists_isBracketed_of_isLogged logged
        session rfl rfl rfl not_false
  | loadFile file =>
      have logged := (DescriptionIndex.isLogged_load file).bind_pure CallResult.loaded
      have ended := congrArg Except.isOk (DescriptionIndex.outcome_load file session)
      exact (loadFile file).exists_isBracketed_of_isLogged logged session rfl ended rfl
        not_false

/--
The log of operations of a sequence of calls is the blocks of the calls one
after the other.  Each block is a start, at most one failed run and one end of
the same operation, and it tells of its call; a call without a block is a search
without an expression or a gesture that is not wired.
-/
theorem exists_blocks_of_serve (calls : List EngineCall) (start : Session) :
    let served := serve calls start
    ∃ blocks : List (Option LogBlock),
      served.2.log.instrumented = start.log.instrumented ++ blocks.flatMap LogBlock.eventsOf ∧
        served.1.map CallMoment.call = calls ∧
        List.Forall₂ CallMoment.IsBracketed served.1 blocks := by
  induction calls generalizing start with
  | nil => exact ⟨[], (List.append_nil _).symm, rfl, .nil⟩
  | cons call rest later =>
      obtain ⟨block?, bracketed⟩ := call.exists_isBracketed start
      obtain ⟨blocks, log, laterCalls, laterBracketed⟩ := later (call.moment start).after
      refine ⟨block? :: blocks, ?_, ?_, .cons bracketed laterBracketed⟩
      · calc
          (serve (call :: rest) start).2.log.instrumented
              = (call.moment start).after.log.instrumented ++
                  blocks.flatMap LogBlock.eventsOf := log
          _ = start.log.instrumented ++ LogBlock.eventsOf block? ++
                  blocks.flatMap LogBlock.eventsOf := by
                rw [bracketed.logged]
                rfl
          _ = start.log.instrumented ++ (block? :: blocks).flatMap LogBlock.eventsOf := by
                rw [List.flatMap_cons, List.append_assoc]
      · exact congrArg (call :: ·) laterCalls

/-- The title cannot be changed, so the run of the operations fails and the gesture with it. -/
example :
    let host := Binder.titleHost
    let call := perform (host.binder fun _ _ => pure none) (host.evaluator none) host.editService
      Binder.titleReference (Context.ofSelf (.node ⟨"book"⟩)) (.set (.text "Emma"))
    (serve [call] {}).2.log.map (fun event => (event.operation, event.phase)) =
      [(some "handler.set", some .start), (some "execute_operations", some .failure),
        (some "handler.set", some .failure)] := by
  decide +kernel

end EngineCall

end FormWidgets
