import FormWidgets.NameMap

/-!
# Operations

The declarative edits that a slot of a widget description lists.  Five
operations open a scope for child operations; the others ask for one kind of
edit each.  Operands are expressions.
-/

namespace FormWidgets

/-- A declarative edit or a scope for further ones. -/
inductive Operation where
  /-- Rebind `self` to the value of an expression for the children. -/
  | changeContext (expression : String) (children : List Operation)
  /-- Bind a variable for the children. -/
  | bind (variableName valueExpression : String) (children : List Operation)
  /-- Run the children when a condition holds. -/
  | when (condition : String) (children : List Operation)
  /-- Run the children once per value, with the iterator bound to it. -/
  | forEach (iterator expression : String) (children : List Operation)
  /-- Create an element under `self`, bind it, and run the children on it. -/
  | create (typeName referenceName : String) (variableName : Option String)
      (children : List Operation)
  /-- Set a feature of `self`. -/
  | set (feature valueExpression : String)
  /-- Remove an element from a feature of `self`, or reset the feature. -/
  | unset (feature : String) (elementExpression : Option String)
  /-- Add values to a feature of `self`, from a position on when one is given. -/
  | add (feature valueExpression : String) (indexExpression : Option String)
  /-- Remove values from a feature of `self`. -/
  | remove (feature elementExpression : String)
  /-- Move an element within a feature of `self`. -/
  | reorder (feature elementExpression toIndexExpression : String)
  /-- Empty a feature of `self`. -/
  | clear (feature : String)
  /-- Delete nodes. -/
  | delete (elementExpression : String)
  /-- An operation of the host, whose arguments are expressions. -/
  | custom (name : String) (arguments : NameMap String)

/-- The operations of a slot, run in order. -/
abbrev OperationBody := List Operation

/-- The kinds of operations. -/
inductive OperationKind where
  | changeContext
  | bind
  | when
  | forEach
  | create
  | set
  | unset
  | add
  | remove
  | reorder
  | clear
  | delete
  | custom
deriving DecidableEq, Repr

namespace OperationKind

/-- The kinds in order of declaration. -/
def all : List OperationKind :=
  [.changeContext, .bind, .when, .forEach, .create, .set, .unset, .add, .remove, .reorder,
    .clear, .delete, .custom]

/-- The tag of a kind. -/
def tag : OperationKind → String
  | .changeContext => "changeContext"
  | .bind => "let"
  | .when => "if"
  | .forEach => "for"
  | .create => "create"
  | .set => "set"
  | .unset => "unset"
  | .add => "add"
  | .remove => "remove"
  | .reorder => "reorder"
  | .clear => "clear"
  | .delete => "delete"
  | .custom => "custom"

/-- The kind with a tag. -/
def ofTag? (tag : String) : Option OperationKind :=
  all.find? fun kind => decide (kind.tag = tag)

@[simp]
theorem ofTag?_tag (kind : OperationKind) : ofTag? kind.tag = some kind := by
  cases kind <;> decide

end OperationKind

namespace Operation

/-- The kind of an operation. -/
def kind : Operation → OperationKind
  | .changeContext .. => .changeContext
  | .bind .. => .bind
  | .when .. => .when
  | .forEach .. => .forEach
  | .create .. => .create
  | .set .. => .set
  | .unset .. => .unset
  | .add .. => .add
  | .remove .. => .remove
  | .reorder .. => .reorder
  | .clear .. => .clear
  | .delete .. => .delete
  | .custom .. => .custom

end Operation

end FormWidgets
