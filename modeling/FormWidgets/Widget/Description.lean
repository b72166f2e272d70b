import FormWidgets.Operation
import FormWidgets.Style
import FormWidgets.Widget.Kind

/-!
# Widget descriptions

What a document says about a widget: the parts that every widget has, and a
detail for its kind.  A slot holds the operations of one gesture; an absent
slot and an empty one differ, though neither runs anything.

The two reference kinds share their slots, of which each exposes the ones it
can use.
-/

namespace FormWidgets

/-- The slots of a reference. -/
structure ReferenceSlots where
  createElement : Option OperationBody := none
  set : Option OperationBody := none
  unset : Option OperationBody := none
  add : Option OperationBody := none
  remove : Option OperationBody := none
  clear : Option OperationBody := none
  reorder : Option OperationBody := none

/-- A reference to one node or to several. -/
structure ReferenceDescription where
  value : Option String := none
  owner : Option String := none
  type : Option String := none
  searchScope : Option String := none
  slots : ReferenceSlots := {}

/-- The slots of a containment reference. -/
structure ContainmentSlots where
  createElement : Option OperationBody := none
  click : Option OperationBody := none
  reorder : Option OperationBody := none

/-- A reference to nodes that are contained in their owner. -/
structure ContainmentDescription where
  value : Option String := none
  owner : Option String := none
  type : Option String := none
  /-- The declared cardinality. -/
  many : Bool := false
  slots : ContainmentSlots := {}

/-- An action on one item of a list. -/
structure ItemAction where
  iconUrl : Option String := none
  precondition : Option String := none
  body : OperationBody := []

/-- The slots of a list. -/
structure ListSlots where
  delete : Option OperationBody := none
  add : Option OperationBody := none
  reorder : Option OperationBody := none
  itemAction : Option ItemAction := none

/-- A list of values. -/
structure ListDescription where
  value : Option String := none
  options : Option String := none
  slots : ListSlots := {}

/-- A choice of one text among candidates. -/
structure RadioDescription where
  value : Option String := none
  candidates : Option String := none
  set : Option OperationBody := none

/-- The part of a description that depends on the kind of the widget. -/
inductive WidgetDetail where
  | monoReference (reference : ReferenceDescription)
  | multiReference (reference : ReferenceDescription)
  | containmentReference (containment : ContainmentDescription)
  | primitiveList (list : ListDescription)
  | primitiveRadio (radio : RadioDescription)
  | languageExpression

/-- A widget of a document. -/
structure WidgetDescription where
  id : String
  name : String
  label : Option String := none
  help : Option String := none
  isEnabled : Option String := none
  style : Option WidgetStyle := none
  conditionalStyles : List ConditionalStyle := []
  detail : WidgetDetail

/-- A declared slot and the number of its operations. -/
structure DeclaredSlot where
  name : String
  operationCount : Nat
deriving DecidableEq, Repr

namespace DeclaredSlot

/-- A slot as it is listed, nothing when it is absent. -/
def ofBody (name : String) (body : Option OperationBody) : List DeclaredSlot :=
  body.toList.map fun operations => ⟨name, operations.length⟩

end DeclaredSlot

namespace WidgetDetail

/-- The kind that a detail belongs to. -/
def kind : WidgetDetail → WidgetKind
  | .monoReference _ => .monoReference
  | .multiReference _ => .multiReference
  | .containmentReference _ => .containmentReference
  | .primitiveList _ => .primitiveList
  | .primitiveRadio _ => .primitiveRadio
  | .languageExpression => .languageExpression

/-- The declared slots among those that the kind exposes. -/
def declaredSlots : WidgetDetail → List DeclaredSlot
  | .monoReference reference =>
      DeclaredSlot.ofBody "createElement" reference.slots.createElement
        ++ DeclaredSlot.ofBody "set" reference.slots.set
        ++ DeclaredSlot.ofBody "unset" reference.slots.unset
        ++ DeclaredSlot.ofBody "clear" reference.slots.clear
  | .multiReference reference =>
      DeclaredSlot.ofBody "createElement" reference.slots.createElement
        ++ DeclaredSlot.ofBody "add" reference.slots.add
        ++ DeclaredSlot.ofBody "remove" reference.slots.remove
        ++ DeclaredSlot.ofBody "clear" reference.slots.clear
        ++ DeclaredSlot.ofBody "reorder" reference.slots.reorder
  | .containmentReference containment =>
      DeclaredSlot.ofBody "createElement" containment.slots.createElement
        ++ DeclaredSlot.ofBody "click" containment.slots.click
        ++ DeclaredSlot.ofBody "reorder" containment.slots.reorder
  | .primitiveList list =>
      DeclaredSlot.ofBody "delete" list.slots.delete
        ++ DeclaredSlot.ofBody "add" list.slots.add
        ++ DeclaredSlot.ofBody "reorder" list.slots.reorder
        ++ DeclaredSlot.ofBody "itemAction" (list.slots.itemAction.map ItemAction.body)
  | .primitiveRadio radio => DeclaredSlot.ofBody "set" radio.set
  | .languageExpression => []

end WidgetDetail

namespace WidgetDescription

/-- The kind of a widget. -/
def kind (description : WidgetDescription) : WidgetKind :=
  description.detail.kind

/-- The declared slots of a widget. -/
def declaredSlots (description : WidgetDescription) : List DeclaredSlot :=
  description.detail.declaredSlots

end WidgetDescription

end FormWidgets
