import FormWidgets.Collaborator

/-!
# Execution of operation bodies

The operations of a body run in order in one scope and stop at the first that
cannot complete.  A scope opened by an operation ends with it; the one binding
that an operation leaves behind is the element made by a creation, in the scope
the creation itself runs in.
-/

namespace FormWidgets

namespace Execution

variable (evaluator : Evaluator) (service : EditService)

/-- The node that `self` must be bound to. -/
def selfNode (scope : Context) : Attempt Node :=
  match scope.selfNode? with
  | some node => pure node
  | none => throw (.unboundVariable Variable.self)

/-- The value of an expression that must give something other than null. -/
def required (scope : Context) (expression expected : String) : Attempt Value := do
  let answer ← evaluator.evaluate scope expression
  match answer.value?.filter fun value => !value.isNull with
  | some value => pure value
  | none => throw (.yieldedNothing expression expected)

/-- The position that an expression must give. -/
def position (scope : Context) (expression : String) : Attempt Nat := do
  let answer ← evaluator.evaluate scope expression
  match answer.position? with
  | some position => pure position
  | none => throw (.yieldedNothing expression "index")

/-- Ask for the addition of values at consecutive positions from an optional first one. -/
def addAll (owner : Node) (feature : String) :
    (index : Option Nat) → List Value → Attempt Unit
  | _, [] => pure ()
  | index, value :: rest => do
      service.submit (.add owner feature value index)
      addAll owner feature (index.map (· + 1)) rest

/-- Ask for edits one after the other. -/
def submitAll (edits : List Edit) : Attempt Unit :=
  edits.forM service.submit

/-- The values of named expressions, in the order of the names. -/
def arguments (scope : Context) :
    List (String × String) → Action (List (String × Value))
  | [] => pure []
  | (name, expression) :: rest => do
      let answer ← evaluator.evaluate scope expression
      let others ← arguments scope rest
      pure ((name, answer.valueOrNull) :: others)

/-- Run an action once per scope, in order. -/
def inEach (run : Context → Attempt Context) : List Context → Attempt Unit
  | [] => pure ()
  | scope :: rest => do
      discard (run scope)
      inEach run rest

mutual

/-- Run one operation in a scope and give the scope as it is afterwards. -/
def runOperation : Operation → Context → Attempt Context
  | .changeContext expression children, scope => do
      let value ← required evaluator scope expression "value"
      discard (runBody children (scope.put Variable.self value))
      pure scope
  | .bind variableName expression children, scope => do
      let answer ← evaluator.evaluate scope expression
      discard (runBody children (scope.put variableName answer.valueOrNull))
      pure scope
  | .when condition children, scope => do
      let answer ← evaluator.evaluate scope condition
      if answer.bool?.getD false then
        discard (runBody children scope)
      pure scope
  | .forEach iterator expression children, scope => do
      let answer ← evaluator.evaluate scope expression
      inEach (runBody children) (answer.values.map fun value => scope.put iterator value)
      pure scope
  | .create typeName referenceName variableName children, scope => do
      let owner ← selfNode scope
      let created ← service.create owner typeName referenceName
      let bound := scope.put (variableName.getD Variable.newInstance) (.node created)
      discard (runBody children (bound.put Variable.self (.node created)))
      pure bound
  | .set feature expression, scope => do
      let owner ← selfNode scope
      let answer ← evaluator.evaluate scope expression
      service.submit (.set owner feature answer.valueOrNull)
      pure scope
  | .unset feature (some expression), scope => do
      let owner ← selfNode scope
      let element ← required evaluator scope expression "element"
      service.submit (.unset owner feature (some element))
      pure scope
  | .unset feature none, scope => do
      let owner ← selfNode scope
      service.submit (.unset owner feature none)
      pure scope
  | .add feature expression (some indexExpression), scope => do
      let owner ← selfNode scope
      let index ← position evaluator scope indexExpression
      let answer ← evaluator.evaluate scope expression
      addAll service owner feature (some index) answer.values
      pure scope
  | .add feature expression none, scope => do
      let owner ← selfNode scope
      let answer ← evaluator.evaluate scope expression
      addAll service owner feature none answer.values
      pure scope
  | .remove feature expression, scope => do
      let owner ← selfNode scope
      let answer ← evaluator.evaluate scope expression
      submitAll service (answer.values.map fun value => .remove owner feature value)
      pure scope
  | .reorder feature expression toIndexExpression, scope => do
      let owner ← selfNode scope
      let element ← required evaluator scope expression "element"
      let toIndex ← position evaluator scope toIndexExpression
      service.submit (.move owner feature element toIndex)
      pure scope
  | .clear feature, scope => do
      let owner ← selfNode scope
      service.submit (.clear owner feature)
      pure scope
  | .delete expression, scope => do
      let answer ← evaluator.evaluate scope expression
      submitAll service (answer.nodes.map fun node => .delete node)
      pure scope
  | .custom name expressions, scope => do
      let values ← arguments evaluator scope expressions.entries
      service.submit (.custom name (scope.self?.getD .null) values)
      pure scope

/-- Run operations in order, each in the scope that the one before leaves. -/
def runBody : OperationBody → Context → Attempt Context
  | [], scope => pure scope
  | operation :: rest, scope => do
      let next ← runOperation operation scope
      runBody rest next

end

/-- The runner that executes bodies; a failure is logged and gives no context. -/
def runner : OperationRunner := fun body context => do
  match ← (runBody evaluator service body context).run with
  | .ok scope => pure (some scope)
  | .error error =>
      Action.logEvent (.failed (some .execution) "execute_operations" error.toFailure
        none none [("operation_count", toString body.length)])
      pure none

end Execution

end FormWidgets
