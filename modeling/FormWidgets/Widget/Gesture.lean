import FormWidgets.Widget.Binding

/-!
# Gestures

What a user can do with a bound widget.  A gesture that a kind of widget does
not have is not offered; one that the kind has but the description does not
declare may be unwired.  Neither touches the session, apart from the owner
being asked for before a creation.
-/

namespace FormWidgets

/-- Something that a user does with a widget. -/
inductive Gesture where
  | set (value : Value)
  | unset (value : Value)
  | clear
  | createElement (key : String)
  /-- Add values to a reference, all in one run. -/
  | addAll (values : List Value)
  /-- Add one value to a list. -/
  | add (value : Value)
  | remove (value : Value)
  | reorder (value : Value) (fromIndex toIndex : UInt64)
  | click (value : Value)
  | delete (value : Value)
  | itemAction (value : Value)
  | select (text : String)

/-- What became of a gesture. -/
inductive GestureOutcome where
  | done (status : Status)
  /-- The widget does not wire the gesture. -/
  | notWired
  /-- The kind of widget does not have the gesture. -/
  | notOffered
deriving DecidableEq, Repr

namespace GestureOutcome

/-- The status of a gesture that was done. -/
def status? : GestureOutcome → Option Status
  | .done status => some status
  | .notWired | .notOffered => none

end GestureOutcome

namespace Gesture

/-- The bindings of a reordering. -/
def reorderBindings (value : Value) (fromIndex toIndex : UInt64) : List (String × Value) :=
  [(Variable.item, value), (Variable.fromIndex, .ofPosition fromIndex),
    (Variable.toIndex, .ofPosition toIndex)]

/-- Invoke a handler that is always wired. -/
def through (runner : OperationRunner) (context : Context) (handler : EditHandler)
    (bindings : List (String × Value)) : Action GestureOutcome := do
  let status ← handler.invoke runner context bindings
  pure (.done status)

/-- Invoke a handler that may not be wired. -/
def throughWired (runner : OperationRunner) (context : Context)
    (bindings : List (String × Value)) : Option EditHandler → Action GestureOutcome
  | some handler => through runner context handler bindings
  | none => pure .notWired

/-- Create an element under the owner of a reference. -/
def creation (runner : OperationRunner) (context : Context) (reference : ReferenceProviders)
    (handler : EditHandler) (key : String) : Action GestureOutcome := do
  let owner ← reference.owner context
  let status ← handler.invokeCreate runner context owner key
  pure (.done status)

end Gesture

namespace MonoReferenceWidget

/-- Do a gesture with a reference to one node. -/
def perform (widget : MonoReferenceWidget) (runner : OperationRunner) (context : Context) :
    Gesture → Action GestureOutcome
  | .set value =>
      Gesture.through runner context widget.setHandler [(Variable.newValue, value)]
  | .unset value =>
      Gesture.through runner context widget.unsetHandler [(Variable.item, value)]
  | .clear => Gesture.through runner context widget.clearHandler []
  | .createElement key =>
      Gesture.creation runner context widget.reference widget.createElementHandler key
  | _ => pure .notOffered

end MonoReferenceWidget

namespace MultiReferenceWidget

/-- Do a gesture with a reference to several nodes. -/
def perform (widget : MultiReferenceWidget) (runner : OperationRunner)
    (context : Context) : Gesture → Action GestureOutcome
  | .addAll values =>
      Gesture.through runner context widget.addHandler [(Variable.newValue, .list values)]
  | .remove value =>
      Gesture.through runner context widget.removeHandler [(Variable.item, value)]
  | .clear => Gesture.through runner context widget.clearHandler []
  | .reorder value fromIndex toIndex =>
      Gesture.through runner context widget.reorderHandler
        (Gesture.reorderBindings value fromIndex toIndex)
  | .createElement key =>
      Gesture.creation runner context widget.reference widget.createElementHandler key
  | _ => pure .notOffered

end MultiReferenceWidget

namespace ContainmentWidget

/-- Do a gesture with a reference to contained nodes. -/
def perform (widget : ContainmentWidget) (runner : OperationRunner) (context : Context) :
    Gesture → Action GestureOutcome
  | .createElement key =>
      Gesture.creation runner context widget.reference widget.createElementHandler key
  | .click value =>
      Gesture.throughWired runner context
        [(Variable.clickedElement, value), (Variable.item, value)] widget.clickHandler
  | .reorder value fromIndex toIndex =>
      Gesture.throughWired runner context
        (Gesture.reorderBindings value fromIndex toIndex) widget.reorderHandler
  | _ => pure .notOffered

end ContainmentWidget

namespace ListWidget

/-- Do a gesture with a list of values. -/
def perform (widget : ListWidget) (runner : OperationRunner) (context : Context) :
    Gesture → Action GestureOutcome
  | .delete value =>
      Gesture.throughWired runner context [(Variable.item, value)] widget.deleteHandler
  | .add value =>
      Gesture.throughWired runner context [(Variable.newValue, value)] widget.addHandler
  | .reorder value fromIndex toIndex =>
      Gesture.throughWired runner context
        (Gesture.reorderBindings value fromIndex toIndex) widget.reorderHandler
  | .itemAction value =>
      Gesture.throughWired runner context [(Variable.item, value)]
        (widget.itemAction.map BoundItemAction.handler)
  | _ => pure .notOffered

end ListWidget

namespace RadioWidget

/-- Do a gesture with a choice of one text. -/
def perform (widget : RadioWidget) (runner : OperationRunner) (context : Context) :
    Gesture → Action GestureOutcome
  | .select text =>
      Gesture.through runner context widget.selectHandler
        [(Variable.newValue, .text text)]
  | _ => pure .notOffered

end RadioWidget

namespace BoundWidget

/-- Do a gesture with a bound widget. -/
def perform (widget : BoundWidget) (runner : OperationRunner) (context : Context)
    (gesture : Gesture) : Action GestureOutcome :=
  match widget.detail with
  | .monoReference mono => mono.perform runner context gesture
  | .multiReference multi => multi.perform runner context gesture
  | .containmentReference containment => containment.perform runner context gesture
  | .primitiveList list => list.perform runner context gesture
  | .primitiveRadio radio => radio.perform runner context gesture
  | .languageExpression => pure .notOffered

end BoundWidget

namespace Binder

/-- Do a gesture with a widget that this binder bound. -/
def perform (binder : Binder) (widget : BoundWidget) (context : Context)
    (gesture : Gesture) : Action GestureOutcome :=
  widget.perform binder.runner context gesture

end Binder

end FormWidgets
