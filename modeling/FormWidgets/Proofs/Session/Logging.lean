import FormWidgets.Proofs.Execution.Comparison

/-!
# Events that are logged

The log of a session grows at its end.  What an action adds to it is read off
for every way in which actions are put together, in the same manner as the
evaluations that it makes.

A run of operations adds nothing while it goes on: asking for evaluations and for
edits is no event.  The runner adds one event when the run fails, and none when
it comes to its end.
-/

namespace FormWidgets

/-- The phase in which an operation ends, well or not. -/
def Phase.ending : (well : Bool) → Phase
  | true => .finish
  | false => .failure

/-- An event marks a phase of an operation of the engine. -/
structure LogEvent.Marks (event : LogEvent) (operation : String) (phase : Phase) : Prop where
  operation : event.operation = some operation
  phase : event.phase = some phase

namespace Action

variable {Result Next : Type}

/-- Started in a session, an action adds these events to the log, in this order. -/
def Logs (action : Action Result) (session : Session) (events : Log) : Prop :=
  (outcome action session).2.log = session.log ++ events

theorem logs_of_unchanged {action : Action Result} {session : Session}
    (same : (outcome action session).2.log = session.log) : Logs action session [] :=
  same.trans (List.append_nil _).symm

theorem logs_pure (result : Result) (session : Session) : Logs (pure result) session [] :=
  logs_of_unchanged rfl

theorem logs_logEvent (event : LogEvent) (session : Session) :
    Logs (logEvent event) session [event] := rfl

theorem logs_record (interaction : Interaction) (session : Session) :
    Logs (record interaction) session [] :=
  logs_of_unchanged rfl

theorem logs_takeFeedback (session : Session) : Logs takeFeedback session [] :=
  logs_of_unchanged rfl

theorem logs_evaluate (evaluator : Evaluator) (context : Context) (expression : String)
    (session : Session) : Logs (evaluator.evaluate context expression) session [] :=
  logs_of_unchanged rfl

theorem logs_evaluate? (evaluator : Evaluator) (context : Context) (expression : Option String)
    (session : Session) : Logs (evaluator.evaluate? context expression) session [] := by
  cases expression with
  | none => exact logs_pure _ _
  | some expression =>
      rw [Evaluator.evaluate?]
      split
      · exact logs_pure _ _
      · exact logs_evaluate evaluator context expression session

/-- The events of a sequence are those of its parts, one after the other. -/
theorem Logs.bind {action : Action Result} {session : Session} {events more : Log}
    (first : Logs action session events) (next : Result → Action Next)
    (rest : Logs (next (outcome action session).1) (outcome action session).2 more) :
    Logs (action >>= next) session (events ++ more) := by
  rw [Logs, outcome_bind, rest, first, List.append_assoc]

theorem Logs.bind_pure {action : Action Result} {session : Session} {events : Log}
    (first : Logs action session events) (give : Result → Next) :
    Logs (action >>= fun result => pure (give result)) session events := by
  have whole := first.bind (fun result => pure (give result)) (logs_pure _ _)
  rwa [List.append_nil] at whole

end Action

/-! ## Runs of operations -/

namespace Execution

variable (evaluator : Evaluator) (service : EditService)

/-- What no evaluation and no edit changes in a session, a run leaves as it is. -/
theorem unchanged_runBody {Part : Type} (part : Session → Part)
    (evaluated : ∀ session context expression,
      part (session.recorded (.evaluated ⟨evaluator.view, context, expression⟩)) = part session)
    (asked : ∀ session edit, part (service.sessionAfter edit session) = part session)
    (body : OperationBody) (context : Context) (session : Session) :
    part (Attempt.outcome (runBody evaluator service body context) session).2 = part session :=
  @step_runBody evaluator service (fun before after => part after = part before) (fun _ => rfl)
    (fun first second => second.trans first) evaluated asked body context session

theorem log_runBody (body : OperationBody) (context : Context) (session : Session) :
    (Attempt.outcome (runBody evaluator service body context) session).2.log = session.log :=
  unchanged_runBody evaluator service Session.log (fun _ _ _ => rfl) (fun _ _ => rfl) body context
    session

theorem runs_runBody (body : OperationBody) (context : Context) (session : Session) :
    (Attempt.outcome (runBody evaluator service body context) session).2.runs = session.runs :=
  unchanged_runBody evaluator service Session.runs
    (fun session _ _ => (session.runs_recorded _).trans (List.append_nil _))
    (fun _ _ => (Session.runs_recorded _ _).trans (List.append_nil _)) body context session

variable {evaluator service} {body : OperationBody} {context scope : Context}
  {session after : Session} {error : EngineError}

/-- The event of a run that failed. -/
def failureEvent (body : OperationBody) (error : EngineError) : LogEvent :=
  .failed (some .execution) "execute_operations" error.toFailure none none
    [("operation_count", toString body.length)]

theorem outcome_runner_of_ok
    (ends : Attempt.outcome (runBody evaluator service body context) session =
      (.ok scope, after)) :
    Action.outcome (runner evaluator service body context) session = (some scope, after) := by
  have ran : Action.outcome (runBody evaluator service body context).run session =
    (.ok scope, after) := ends
  simp only [runner, Action.outcome_bind, Action.outcome_pure, ran]

theorem outcome_runner_of_error
    (ends : Attempt.outcome (runBody evaluator service body context) session =
      (.error error, after)) :
    Action.outcome (runner evaluator service body context) session =
      (none, (Action.outcome (Action.logEvent (failureEvent body error)) after).2) := by
  have ran : Action.outcome (runBody evaluator service body context).run session =
    (.error error, after) := ends
  simp only [runner, Action.outcome_bind, Action.outcome_pure, ran]
  rfl

variable (evaluator service body context session)

/-- The runner gives the scope that the run ends with, if it comes to its end. -/
theorem result_runner :
    (Action.outcome (runner evaluator service body context) session).1 =
      (Attempt.outcome (runBody evaluator service body context) session).1.toOption := by
  rcases ends : Attempt.outcome (runBody evaluator service body context) session with
    ⟨error | scope, after⟩
  · rw [outcome_runner_of_error ends]
    rfl
  · rw [outcome_runner_of_ok ends]
    rfl

/-- The runner leaves it to its caller to write the run down. -/
theorem trace_runner :
    (Action.outcome (runner evaluator service body context) session).2.trace =
      (Attempt.outcome (runBody evaluator service body context) session).2.trace := by
  rcases ends : Attempt.outcome (runBody evaluator service body context) session with
    ⟨error | scope, after⟩
  · rw [outcome_runner_of_error ends]
    rfl
  · rw [outcome_runner_of_ok ends]

/-- A run that stops with an error is one event, and a run that comes to its end is none. -/
theorem exists_logs_runner :
    ∃ failed : Option LogEvent,
      Action.Logs (runner evaluator service body context) session failed.toList ∧
        (∀ event ∈ failed, event.Marks "execute_operations" .failure) ∧
        (failed.isSome ↔
          ∃ error, (Attempt.outcome (runBody evaluator service body context) session).1 =
            .error error) := by
  have same := log_runBody evaluator service body context session
  rcases ends : Attempt.outcome (runBody evaluator service body context) session with
    ⟨error | scope, after⟩
  · rw [ends] at same
    refine ⟨some (failureEvent body error), ?_, ?_, ?_⟩
    · rw [Action.Logs, outcome_runner_of_error ends, ← same]
      rfl
    · rintro event ⟨⟩
      exact ⟨rfl, rfl⟩
    · exact ⟨fun _ => ⟨error, rfl⟩, fun _ => rfl⟩
  · rw [ends] at same
    refine ⟨none, ?_, (fun _ given => nomatch given), ?_⟩
    · rw [Action.Logs, outcome_runner_of_ok ends, ← same]
      exact (List.append_nil _).symm
    · exact ⟨(fun given => nomatch given), fun ⟨_, stops⟩ => nomatch stops⟩

end Execution

end FormWidgets
