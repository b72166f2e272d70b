import FormWidgets.Session

/-!
# Collaborators

What the host supplies: evaluators of its expression language, an edit service
for its domain graph, and the presentation of its nodes.

A collaborator answers as a function of the edits asked for so far, so any
deterministic host is covered, also one whose answers change as it is edited.
Asking a collaborator is written into the session.
-/

namespace FormWidgets

/-- An evaluator of expressions, either the general one or one made for a view. -/
structure Evaluator where
  view : Option ViewRoot := none
  answer : List Edit → Context → String → Answer

/-- Makes the evaluator of a view. -/
abbrev EvaluatorFactory := ViewRoot → Evaluator

namespace Evaluator

variable (evaluator : Evaluator) (context : Context)

/-- Evaluate an expression as it is written. -/
def evaluate (expression : String) : Action Answer := do
  let session ← get
  Action.record (.evaluated ⟨evaluator.view, context, expression⟩)
  pure (evaluator.answer session.edits context expression)

/-- Evaluate an expression unless it is blank, which counts as no answer. -/
def evaluate? : (expression : Option String) → Action Answer
  | some expression =>
      if Text.isBlank expression then pure .absent
      else evaluator.evaluate context expression
  | none => pure .absent

/-- The truth value of an expression, with a default for none. -/
def truth (expression : Option String) (default : Bool) : Action Bool := do
  let answer ← evaluator.evaluate? context expression
  pure (answer.bool?.getD default)

/-- The text of an expression, empty for none. -/
def text (expression : Option String) : Action String := do
  let answer ← evaluator.evaluate? context expression
  pure (answer.text?.getD "")

/-- The nodes of an expression. -/
def nodes (expression : Option String) : Action (List Node) := do
  let answer ← evaluator.evaluate? context expression
  pure answer.nodes

/-- The values of an expression. -/
def values (expression : Option String) : Action (List Value) := do
  let answer ← evaluator.evaluate? context expression
  pure answer.values

end Evaluator

namespace EvaluatorFactory

/-- The factory that hands out one evaluator for every view. -/
def shared (evaluator : Evaluator) : EvaluatorFactory :=
  fun _ => evaluator

/-- Ask for the evaluator of a view. -/
def request (factory : EvaluatorFactory) (view : ViewRoot) : Action Evaluator := do
  Action.record (.evaluatorRequested view)
  pure (factory view)

end EvaluatorFactory

/-- The primitive edits of the domain graph, decided by the edits asked for before. -/
structure EditService where
  /-- The messages an edit leaves for the user, whether it is refused or not. -/
  feedback : List Edit → Edit → List Message
  /-- Why an edit is refused, if it is. -/
  refusal : List Edit → Edit → Option ErrorReport
  /-- The node that an accepted creation gives. -/
  created : List Edit → (owner : Node) → (typeName referenceName : String) → Node

namespace EditService

variable (service : EditService)

/-- Ask for an edit. -/
def submit (edit : Edit) : Attempt Unit := do
  let session ← get
  Action.addFeedback (service.feedback session.edits edit)
  match service.refusal session.edits edit with
  | some report =>
      Action.record (.edited edit false)
      throw (.ofReport report)
  | none => Action.record (.edited edit true)

/-- Ask for a creation, which gives a node. -/
def create (owner : Node) (typeName referenceName : String) : Attempt Node := do
  let session ← get
  service.submit (.create owner typeName referenceName)
  pure (service.created session.edits owner typeName referenceName)

end EditService

/-- Identity and presentation of nodes. -/
structure ObjectService where
  id : Node → String
  kind : Node → String
  label : Node → String
  iconPaths : Node → List String

/-- Runs operation bodies; gives the resulting context when the body came to its end. -/
abbrev OperationRunner := OperationBody → Context → Action (Option Context)

namespace OperationRunner

/-- Run a body and write the run into the session once it is over. -/
def run (runner : OperationRunner) (body : OperationBody) (context : Context) :
    Action (Option Context) := do
  let result ← runner body context
  Action.record (.ran ⟨body, context, result⟩)
  pure result

end OperationRunner

end FormWidgets
