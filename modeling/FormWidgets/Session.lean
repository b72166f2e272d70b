import FormWidgets.Containment
import FormWidgets.Context
import FormWidgets.Log
import FormWidgets.Operation
import FormWidgets.Status

/-!
# Sessions

Everything the engine does to its surroundings is written down in a session:
which evaluators it asked for, which expressions it evaluated, which edits it
requested and which operation bodies it ran, in one trace in order of time, and
beside it the feedback not yet handed out and the log.

An `Action` is a computation that extends a session.  An `Attempt` is an action
that may stop with an error; what it did before that stays in the session.
-/

namespace FormWidgets

/-- One edit of the domain graph. -/
inductive Edit where
  | create (owner : Node) (typeName referenceName : String)
  | set (owner : Node) (feature : String) (value : Value)
  | unset (owner : Node) (feature : String) (element : Option Value)
  | add (owner : Node) (feature : String) (value : Value) (index : Option Nat)
  | remove (owner : Node) (feature : String) (value : Value)
  | move (owner : Node) (feature : String) (element : Value) (toIndex : Nat)
  | clear (owner : Node) (feature : String)
  | delete (node : Node)
  | custom (name : String) (selfValue : Value) (arguments : List (String × Value))
deriving DecidableEq

/-- One evaluation of an expression, by an evaluator made for a view or by the general one. -/
structure Evaluation where
  view : Option ViewRoot
  context : Context
  expression : String

/-- One run of an operation body, with the resulting context if it came to its end. -/
structure BodyRun where
  body : OperationBody
  context : Context
  result : Option Context

/-- One step of the engine that its surroundings notice. -/
inductive Interaction where
  | evaluatorRequested (view : ViewRoot)
  | evaluated (evaluation : Evaluation)
  | edited (edit : Edit) (accepted : Bool)
  | ran (run : BodyRun)

namespace Interaction

/-- The evaluation that an interaction is. -/
def evaluation? : Interaction → Option Evaluation
  | .evaluated evaluation => some evaluation
  | _ => none

/-- The edit that an interaction asks for. -/
def edit? : Interaction → Option Edit
  | .edited edit _ => some edit
  | _ => none

/-- The edit that an interaction makes. -/
def acceptedEdit? : Interaction → Option Edit
  | .edited edit true => some edit
  | _ => none

/-- The run that an interaction is. -/
def run? : Interaction → Option BodyRun
  | .ran run => some run
  | _ => none

/-- The view whose evaluator an interaction asks for. -/
def requestedView? : Interaction → Option ViewRoot
  | .evaluatorRequested view => some view
  | _ => none

end Interaction

/-- What the engine did so far and has not yet handed out. -/
structure Session where
  trace : List Interaction := []
  feedback : FeedbackBuffer := []
  log : Log := []
  requests : Nat := 0

namespace Session

/-- The edits asked for so far, refused ones included. -/
def edits (session : Session) : List Edit :=
  session.trace.filterMap Interaction.edit?

/-- The evaluations made so far. -/
def evaluations (session : Session) : List Evaluation :=
  session.trace.filterMap Interaction.evaluation?

/-- The runs of operation bodies so far. -/
def runs (session : Session) : List BodyRun :=
  session.trace.filterMap Interaction.run?

/-- The views for which an evaluator was asked so far. -/
def requestedViews (session : Session) : List ViewRoot :=
  session.trace.filterMap Interaction.requestedView?

end Session

/-- A computation that extends a session. -/
abbrev Action (Result : Type) := StateM Session Result

/-- A computation that extends a session and may stop with an error. -/
abbrev Attempt (Result : Type) := ExceptT EngineError (StateM Session) Result

namespace Action

/-- Write an interaction into the trace. -/
def record (interaction : Interaction) : Action Unit :=
  modify fun session => { session with trace := session.trace ++ [interaction] }

/-- Put messages into the feedback buffer. -/
def addFeedback (messages : List Message) : Action Unit :=
  modify fun session => { session with feedback := session.feedback ++ messages }

/-- Hand out all feedback. -/
def takeFeedback : Action (List Message) :=
  modifyGet fun session => (session.feedback, { session with feedback := [] })

/-- Write an event into the log. -/
def logEvent (event : LogEvent) : Action Unit :=
  modify fun session => { session with log := session.log ++ [event] }

/-- A request id that this session has not used before. -/
def freshRequest : Action String :=
  modifyGet fun session =>
    ("request-" ++ toString session.requests, { session with requests := session.requests + 1 })

end Action

end FormWidgets
