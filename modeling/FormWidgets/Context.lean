import FormWidgets.NameMap
import FormWidgets.Value

/-!
# Evaluation contexts

The variables an expression can read.  A context is a value: binding a variable
gives another context and leaves the first one as it was, so a child context is
the parent itself.
-/

namespace FormWidgets

/-- The variables that an expression can read. -/
abbrev Context := NameMap Value

namespace Variable

/-- The object that is displayed or edited. -/
def self : String := "self"

/-- The value to set or add. -/
def newValue : String := "newValue"

/-- The item a gesture acts on. -/
def item : String := "item"

/-- The position an item is dragged from. -/
def fromIndex : String := "fromIndex"

/-- The position an item is dragged to. -/
def toIndex : String := "toIndex"

/-- The relation under which an element is created. -/
def containmentReference : String := "containmentReference"

/-- The type of an element to create. -/
def typeName : String := "typeName"

/-- The element that was clicked. -/
def clickedElement : String := "clickedElement"

/-- The variable that holds a created element when none is named. -/
def newInstance : String := "newInstance"

end Variable

namespace Context

/-- The context without variables. -/
def empty : Context := NameMap.empty

/-- The value of `self`. -/
def self? (context : Context) : Option Value :=
  context.find? Variable.self

/-- The node that `self` is bound to. -/
def selfNode? (context : Context) : Option Node :=
  context.self?.bind Value.node?

/-- The context that binds `self` and nothing else. -/
def ofSelf (value : Value) : Context :=
  Context.empty.put Variable.self value

/-- The context with further bindings, of which a later one hides an earlier one. -/
def bindAll (context : Context) (bindings : List (String × Value)) : Context :=
  bindings.foldl (fun context (name, value) => context.put name value) context

end Context

end FormWidgets
