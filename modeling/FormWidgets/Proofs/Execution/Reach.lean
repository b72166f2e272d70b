import FormWidgets.Execution
import FormWidgets.Proofs.Session.Outcome

/-!
# What a run reaches

An operation of a body is reached in the scope and in the session in which the
run comes to it: behind the operations before it, and inside the scope that an
operation around it opens, once for each repetition.

A body that fails does so at one operation that it reaches.  The main lemma
takes the failure of an operation apart: `self` is missing, one of its own
requests fails, or its children fail in the scope that it opens for them.
-/

namespace FormWidgets

namespace Operation

/-- The operations that an operation runs in a scope of its own. -/
def children : Operation → OperationBody
  | .changeContext _ children | .bind _ _ children | .when _ children
  | .forEach _ _ children | .create _ _ _ children => children
  | _ => []

theorem sizeOf_children_lt (operation : Operation) (rest : OperationBody) :
    sizeOf operation.children < sizeOf (operation :: rest) := by
  cases operation <;> simp [children] <;> omega

/-- What holds of a body when it holds of the children of its first operation and of the others. -/
theorem body_induction {motive : OperationBody → Prop} (nil : motive [])
    (cons : ∀ operation rest, motive operation.children → motive rest →
      motive (operation :: rest)) :
    ∀ body, motive body
  | [] => nil
  | operation :: rest =>
      cons operation rest (body_induction nil cons operation.children)
        (body_induction nil cons rest)
termination_by body => sizeOf body
decreasing_by
  · exact sizeOf_children_lt operation rest
  · simp only [List.cons.sizeOf_spec]
    omega

/-- An operation stands in a body, at any depth. -/
inductive Within (operation : Operation) : OperationBody → Prop where
  | here (rest : OperationBody) : Within operation (operation :: rest)
  | inside {first : Operation} {rest : OperationBody}
      (deeper : Within operation first.children) : Within operation (first :: rest)
  | later {first : Operation} {rest : OperationBody}
      (behind : Within operation rest) : Within operation (first :: rest)

/-- The operations that edit the node that `self` is bound to. -/
def needsSelf : Operation → Bool
  | .create .. | .set .. | .unset .. | .add .. | .remove .. | .reorder .. | .clear .. => true
  | _ => false

/-- The expressions that must give something, each with the word for what it must give. -/
def demands : Operation → List (String × String)
  | .changeContext expression _ => [(expression, "value")]
  | .unset _ (some expression) => [(expression, "element")]
  | .add _ _ (some indexExpression) => [(indexExpression, "index")]
  | .reorder _ expression toIndexExpression =>
      [(expression, "element"), (toIndexExpression, "index")]
  | _ => []

end Operation

namespace Execution

variable (evaluator : Evaluator) (service : EditService)

/-- An operation opens a scope for its children, in the session reached so far. -/
inductive Opens : Operation → Context → Session → Context → Session → Prop where
  | changeContext {expression : String} {children : List Operation} {scope : Context}
      {start opened : Session} {value : Value}
      (given : Attempt.outcome (required evaluator scope expression "value") start =
        (.ok value, opened)) :
      Opens (.changeContext expression children) scope start
        (scope.put Variable.self value) opened
  | bind {name expression : String} {children : List Operation} {scope : Context}
      {start opened : Session} {answer : Answer}
      (asked : Action.outcome (evaluator.evaluate scope expression) start = (answer, opened)) :
      Opens (.bind name expression children) scope start
        (scope.put name answer.valueOrNull) opened
  | when {condition : String} {children : List Operation} {scope : Context}
      {start opened : Session} {answer : Answer}
      (asked : Action.outcome (evaluator.evaluate scope condition) start = (answer, opened))
      (holds : answer.bool? = some true) :
      Opens (.when condition children) scope start scope opened
  | forEach {iterator expression : String} {children : List Operation} {scope : Context}
      {start first opened : Session} {answer : Answer} {earlier later : List Value}
      {value : Value}
      (asked : Action.outcome (evaluator.evaluate scope expression) start = (answer, first))
      (values : answer.values = earlier ++ value :: later)
      (passed : Attempt.outcome
        (inEach (runBody evaluator service children)
          (earlier.map fun value => scope.put iterator value)) first = (.ok (), opened)) :
      Opens (.forEach iterator expression children) scope start
        (scope.put iterator value) opened
  | create {typeName referenceName : String} {variableName : Option String}
      {children : List Operation} {scope : Context} {start opened : Session} {owner node : Node}
      (self : scope.selfNode? = some owner)
      (made : Attempt.outcome (service.create owner typeName referenceName) start =
        (.ok node, opened)) :
      Opens (.create typeName referenceName variableName children) scope start
        ((scope.put (variableName.getD Variable.newInstance) (.node node)).put
          Variable.self (.node node)) opened

/-- The run of a body comes to an operation in a scope, with a session. -/
inductive Reaches :
    OperationBody → Context → Session → Operation → Context → Session → Prop where
  | here (operation : Operation) (rest : OperationBody) (scope : Context) (start : Session) :
      Reaches (operation :: rest) scope start operation scope start
  | inside {first operation : Operation} {rest : OperationBody} {scope inner place : Context}
      {start opened reached : Session}
      (opens : Opens evaluator service first scope start inner opened)
      (deeper : Reaches first.children inner opened operation place reached) :
      Reaches (first :: rest) scope start operation place reached
  | later {first operation : Operation} {rest : OperationBody} {scope next place : Context}
      {start middle reached : Session}
      (passed : Attempt.outcome (runOperation evaluator service first scope) start =
        (.ok next, middle))
      (behind : Reaches rest next middle operation place reached) :
      Reaches (first :: rest) scope start operation place reached

variable {evaluator service}

theorem Reaches.within {body : OperationBody} {operation : Operation} {scope place : Context}
    {start reached : Session}
    (reaches : Reaches evaluator service body scope start operation place reached) :
    operation.Within body := by
  induction reaches with
  | here operation rest => exact .here rest
  | inside _ _ step => exact .inside step
  | later _ _ step => exact .later step

end Execution

end FormWidgets
