import FormWidgets.DescriptionId
import FormWidgets.Widget.EditHandler
import FormWidgets.Widget.Provider

/-!
# Bound widgets

Binding wires a description to providers and edit handlers, by the kind of the
widget.  A handler of a reference or of a radio is always wired, also when its
slot is absent; a click, a reordering of contained elements and every gesture of
a list is wired only when its slot is declared.
-/

namespace FormWidgets

/-- A bound reference to one node. -/
structure MonoReferenceWidget where
  reference : ReferenceProviders
  setHandler : EditHandler
  unsetHandler : EditHandler
  clearHandler : EditHandler
  createElementHandler : EditHandler

/-- A bound reference to several nodes. -/
structure MultiReferenceWidget where
  reference : ReferenceProviders
  addHandler : EditHandler
  removeHandler : EditHandler
  clearHandler : EditHandler
  reorderHandler : EditHandler
  createElementHandler : EditHandler

/-- A bound reference to contained nodes. -/
structure ContainmentWidget where
  reference : ReferenceProviders
  many : Provider Bool
  createElementHandler : EditHandler
  clickHandler : Option EditHandler
  reorderHandler : Option EditHandler

/-- A bound action on one item of a list. -/
structure BoundItemAction where
  handler : EditHandler
  iconUrl : Provider String
  precondition : Provider Bool

/-- A bound list of values. -/
structure ListWidget where
  items : Provider (List Value)
  item : ItemProviders
  options : Provider (List Value)
  deleteHandler : Option EditHandler
  addHandler : Option EditHandler
  reorderHandler : Option EditHandler
  itemAction : Option BoundItemAction

namespace ListWidget

/-- Items can be deleted as soon as the slot is declared. -/
def isDeletable (list : ListWidget) : Bool :=
  list.deleteHandler.isSome

end ListWidget

/-- A bound choice of one text. -/
structure RadioWidget where
  candidates : Provider (List String)
  value : Provider String
  selectHandler : EditHandler

/-- The part of a bound widget that depends on its kind. -/
inductive BoundDetail where
  | monoReference (widget : MonoReferenceWidget)
  | multiReference (widget : MultiReferenceWidget)
  | containmentReference (widget : ContainmentWidget)
  | primitiveList (widget : ListWidget)
  | primitiveRadio (widget : RadioWidget)
  | languageExpression

/-- A widget that can be shown and edited. -/
structure BoundWidget where
  common : CommonProviders
  detail : BoundDetail

namespace BoundDetail

/-- The kind of a bound widget. -/
def kind : BoundDetail → WidgetKind
  | .monoReference _ => .monoReference
  | .multiReference _ => .multiReference
  | .containmentReference _ => .containmentReference
  | .primitiveList _ => .primitiveList
  | .primitiveRadio _ => .primitiveRadio
  | .languageExpression => .languageExpression

/-- The handlers that a kind of widget has, under the names of their slots; some may not be wired. -/
def handlers : BoundDetail → List (String × Option EditHandler)
  | .monoReference widget =>
      [("createElement", some widget.createElementHandler), ("set", some widget.setHandler),
        ("unset", some widget.unsetHandler), ("clear", some widget.clearHandler)]
  | .multiReference widget =>
      [("createElement", some widget.createElementHandler), ("add", some widget.addHandler),
        ("remove", some widget.removeHandler), ("clear", some widget.clearHandler),
        ("reorder", some widget.reorderHandler)]
  | .containmentReference widget =>
      [("createElement", some widget.createElementHandler), ("click", widget.clickHandler),
        ("reorder", widget.reorderHandler)]
  | .primitiveList widget =>
      [("delete", widget.deleteHandler), ("add", widget.addHandler),
        ("reorder", widget.reorderHandler),
        ("itemAction", widget.itemAction.map BoundItemAction.handler)]
  | .primitiveRadio widget => [("set", some widget.selectHandler)]
  | .languageExpression => []

end BoundDetail

namespace BoundWidget

/-- The kind of a bound widget. -/
def kind (widget : BoundWidget) : WidgetKind :=
  widget.detail.kind

/-- The handlers of a bound widget, under the names of their slots. -/
def handlers (widget : BoundWidget) : List (String × Option EditHandler) :=
  widget.detail.handlers

end BoundWidget

namespace Binder

variable (binder : Binder)

/-- The wiring of a reference to one node. -/
def monoReference (widget : String) (description : ReferenceDescription) :
    MonoReferenceWidget where
  reference := binder.referenceProviders widget
    ⟨description.value, description.owner, description.type, description.searchScope⟩
  setHandler := ⟨.set, widget, description.slots.set⟩
  unsetHandler := ⟨.unset, widget, description.slots.unset⟩
  clearHandler := ⟨.clear, widget, description.slots.clear⟩
  createElementHandler := ⟨.createElement, widget, description.slots.createElement⟩

/-- The wiring of a reference to several nodes. -/
def multiReference (widget : String) (description : ReferenceDescription) :
    MultiReferenceWidget where
  reference := binder.referenceProviders widget
    ⟨description.value, description.owner, description.type, description.searchScope⟩
  addHandler := ⟨.add, widget, description.slots.add⟩
  removeHandler := ⟨.remove, widget, description.slots.remove⟩
  clearHandler := ⟨.clear, widget, description.slots.clear⟩
  reorderHandler := ⟨.reorder, widget, description.slots.reorder⟩
  createElementHandler := ⟨.createElement, widget, description.slots.createElement⟩

/-- The handler of a gesture that is offered only when its slot is declared. -/
def declaredHandler (affordance : Affordance) (widget : String)
    (body : Option OperationBody) : Option EditHandler :=
  body.map fun operations => ⟨affordance, widget, some operations⟩

/-- The wiring of a reference to contained nodes. -/
def containmentReference (widget : String) (description : ContainmentDescription) :
    ContainmentWidget where
  reference := binder.referenceProviders widget
    ⟨description.value, description.owner, description.type, none⟩
  many := fun _ => pure description.many
  createElementHandler := ⟨.createElement, widget, description.slots.createElement⟩
  clickHandler := declaredHandler .click widget description.slots.click
  reorderHandler := declaredHandler .reorder widget description.slots.reorder

/-- The wiring of an action on one item. -/
def itemAction (widget : String) (action : ItemAction) : BoundItemAction where
  handler := ⟨.itemAction, widget, some action.body⟩
  iconUrl := binder.textProvider action.iconUrl
  precondition := binder.preconditionProvider action.precondition

/-- An action on items is wired like any gesture that needs a declared slot. -/
theorem handler_itemAction (widget : String) (action? : Option ItemAction) :
    (action?.map (binder.itemAction widget)).map BoundItemAction.handler =
      declaredHandler .itemAction widget (action?.map ItemAction.body) := by
  cases action? with
  | none => rfl
  | some action => rfl

/-- The wiring of a list of values. -/
def primitiveList (widget : String) (description : ListDescription) : ListWidget where
  items := binder.valuesProvider description.value
  item := binder.itemProviders
  options := binder.valuesProvider description.options
  deleteHandler := declaredHandler .delete widget description.slots.delete
  addHandler := declaredHandler .add widget description.slots.add
  reorderHandler := declaredHandler .reorder widget description.slots.reorder
  itemAction := description.slots.itemAction.map (binder.itemAction widget)

/-- The wiring of a choice of one text. -/
def primitiveRadio (widget : String) (description : RadioDescription) : RadioWidget where
  candidates := binder.radioCandidatesProvider description.candidates
  value := binder.textProvider description.value
  selectHandler := ⟨.select, widget, description.set⟩

/-- The wiring of a widget by its kind. -/
def boundDetail (widget : String) : WidgetDetail → BoundDetail
  | .monoReference reference => .monoReference (binder.monoReference widget reference)
  | .multiReference reference => .multiReference (binder.multiReference widget reference)
  | .containmentReference containment =>
      .containmentReference (binder.containmentReference widget containment)
  | .primitiveList list => .primitiveList (binder.primitiveList widget list)
  | .primitiveRadio radio => .primitiveRadio (binder.primitiveRadio widget radio)
  | .languageExpression => .languageExpression

/-- The widget that a description stands for. -/
def boundWidget (description : WidgetDescription) : BoundWidget where
  common := binder.commonProviders description
  detail := binder.boundDetail description.id description.detail

/-- Bind a description, and log that. -/
def bind (description : WidgetDescription) : Action BoundWidget := do
  let details := [("widget_kind", description.kind.tag)]
  Action.logEvent
    (.start (some .binder) "bind_widget" (some description.id) none details)
  let widget := binder.boundWidget description
  Action.logEvent
    (.finish (some .binder) "bind_widget" (some description.id) none details)
  pure widget

/-- Whether a description id is handled. -/
def canHandle (text : String) : Bool :=
  binder.configuration.canHandle text

end Binder

end FormWidgets
