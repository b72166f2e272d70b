import FormWidgets.ChildCreation.Key
import FormWidgets.Collaborator
import FormWidgets.Text.Quoted

/-!
# Edit handlers

A handler answers one gesture of the user: it binds the variables of the
gesture, runs the operations of its slot and reports how that ended, together
with all feedback accumulated until then.

An absent or empty slot succeeds without running anything.  Every invocation
logs a start event and one event for its end.
-/

namespace FormWidgets

/-- An editing gesture that a handler answers. -/
inductive Affordance where
  | createElement
  | set
  | unset
  | add
  | remove
  | clear
  | reorder
  | click
  | delete
  | itemAction
  | select
deriving DecidableEq, Repr

namespace Affordance

/-- The name of a gesture. -/
def name : Affordance → String
  | .createElement => "CreateElement"
  | .set => "Set"
  | .unset => "Unset"
  | .add => "Add"
  | .remove => "Remove"
  | .clear => "Clear"
  | .reorder => "Reorder"
  | .click => "Click"
  | .delete => "Delete"
  | .itemAction => "ItemAction"
  | .select => "Select"

/-- The gestures in order of declaration. -/
def all : List Affordance :=
  [.createElement, .set, .unset, .add, .remove, .clear, .reorder, .click, .delete,
    .itemAction, .select]

/-- The gesture with a name. -/
def ofName? (name : String) : Option Affordance :=
  all.find? fun affordance => decide (affordance.name = name)

@[simp]
theorem ofName?_name (affordance : Affordance) : ofName? affordance.name = some affordance := by
  cases affordance <;> decide

/-- The name of the logged operation. -/
def operationName : Affordance → String
  | .createElement => "handler.createElement"
  | .set => "handler.set"
  | .unset => "handler.unset"
  | .add => "handler.add"
  | .remove => "handler.remove"
  | .clear => "handler.clear"
  | .reorder => "handler.reorder"
  | .click => "handler.click"
  | .delete => "handler.delete"
  | .itemAction => "handler.itemAction"
  | .select => "handler.select"

/-- The text shown when the operations of the gesture fail. -/
def failureMessage : Affordance → String
  | .createElement => "Something went wrong while creating the element."
  | .set | .unset => "Something went wrong while setting the reference value."
  | .add | .remove => "Something went wrong while updating the list of values."
  | .clear => "Something went wrong while clearing the reference."
  | .reorder => "Something went wrong while reordering the items."
  | .click => "Something went wrong while handling the click."
  | .delete => "Something went wrong while deleting the item."
  | .itemAction => "Something went wrong while executing the item action."
  | .select => "Something went wrong while selecting the option."

end Affordance

/-- The handler of a gesture on a widget, with the operations of its slot. -/
structure EditHandler where
  affordance : Affordance
  widget : String
  body : Option OperationBody

namespace EditHandler

variable (handler : EditHandler)

/-- Whether the slot is declared, even with no operations. -/
def isDeclared : Bool :=
  handler.body.isSome

/-- The operations to run, if there are any. -/
def operations? : Option OperationBody :=
  handler.body.filter fun body => !body.isEmpty

/-- The bindings of a creation: the two parts of its key and, when known, the owner as `self`. -/
def creationBindings (relation typeName : String) (owner : Option Node) :
    List (String × Value) :=
  [(Variable.containmentReference, .text relation), (Variable.typeName, .text typeName)]
    ++ owner.toList.map fun node => (Variable.self, .node node)

/-- Log that an invocation starts. -/
def logStart (request : Option String) : Action Unit :=
  Action.logEvent (.start (some .editHandler) handler.affordance.operationName
    (some handler.widget) request [])

/-- Log that an invocation ends well. -/
def logFinish (request : String) (semanticChange : Bool) : Action Unit :=
  Action.logEvent (.finish (some .editHandler) handler.affordance.operationName
    (some handler.widget) (some request)
    [("semantic_change", if semanticChange then "true" else "false")])

/-- Log that an invocation fails, and give its status. -/
def fail (request detail : String) : Action Status := do
  let failure : Failure :=
    { kind := .operationFailed
      operation := some handler.affordance.operationName
      element := some handler.widget
      request := some request
      message := detail }
  Action.logEvent (.failed (some .editHandler) handler.affordance.operationName failure
    (some handler.widget) (some request) [])
  let messages ← Action.takeFeedback
  pure (.failure handler.affordance.failureMessage messages)

/-- Run the operations of the slot in a context with further bindings. -/
def invoke (runner : OperationRunner) (context : Context)
    (bindings : List (String × Value)) : Action Status := do
  let request ← Action.freshRequest
  handler.logStart (some request)
  match handler.operations? with
  | none =>
      handler.logFinish request false
      let messages ← Action.takeFeedback
      pure (.neutral messages)
  | some body =>
      match ← runner.run body (context.bindAll bindings) with
      | some _ =>
          handler.logFinish request true
          let messages ← Action.takeFeedback
          pure (.changed messages)
      | none => handler.fail request "operation body did not complete"

/-- Run the operations of a creation at the place that a key names; other keys fail. -/
def invokeCreate (runner : OperationRunner) (context : Context) (owner : Option Node)
    (key : String) : Action Status := do
  match ChildCreation.decodeKey? key with
  | some (relation, typeName) =>
      handler.invoke runner context (creationBindings relation typeName owner)
  | none =>
      handler.logStart none
      let request ← Action.freshRequest
      handler.fail request ("undecodable child creation key '" ++ key ++ "'")

/-- A one-line description of a handler. -/
def summary : String :=
  "EditHandler \x7b affordance: " ++ handler.affordance.name
    ++ ", widget_id: " ++ Text.quoted handler.widget ++ ", operations: "
    ++ (match handler.body with
      | some body => "Some(" ++ toString body.length ++ ")"
      | none => "None")
    ++ " \x7d"

end EditHandler

end FormWidgets
