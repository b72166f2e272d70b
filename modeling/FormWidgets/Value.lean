import FormWidgets.Text.Integer

/-!
# Values

What a variable holds and what an expression answers: scalars, nodes of the
domain graph and lists.  A node is an opaque handle; the engine never looks
inside it.

An `Answer` is what evaluating an expression gave.  Every reading of an answer
falls back to an absent value instead of failing.
-/

namespace FormWidgets

/-- A handle on a node of the domain graph. -/
structure Node where
  id : String
deriving DecidableEq, Repr

/-- A value bound to a variable or answered by an expression. -/
inductive Value where
  | null
  | bool (flag : Bool)
  | int (number : Int64)
  | text (content : String)
  | node (handle : Node)
  | list (items : List Value)

instance : Inhabited Value where
  default := .null

namespace Value

mutual

/-- Equality of values is decided by comparing them part by part. -/
def decideEq : (left right : Value) → Decidable (left = right)
  | .null, .null => isTrue rfl
  | .bool left, .bool right =>
      decidable_of_iff (left = right) (by simp)
  | .int left, .int right =>
      decidable_of_iff (left = right) (by simp)
  | .text left, .text right =>
      decidable_of_iff (left = right) (by simp)
  | .node left, .node right =>
      decidable_of_iff (left = right) (by simp)
  | .list left, .list right =>
      match decideEqList left right with
      | isTrue same => isTrue (by rw [same])
      | isFalse different => isFalse (by simpa using different)
  | .null, .bool _ | .null, .int _ | .null, .text _ | .null, .node _ | .null, .list _
  | .bool _, .null | .bool _, .int _ | .bool _, .text _ | .bool _, .node _ | .bool _, .list _
  | .int _, .null | .int _, .bool _ | .int _, .text _ | .int _, .node _ | .int _, .list _
  | .text _, .null | .text _, .bool _ | .text _, .int _ | .text _, .node _ | .text _, .list _
  | .node _, .null | .node _, .bool _ | .node _, .int _ | .node _, .text _ | .node _, .list _
  | .list _, .null | .list _, .bool _ | .list _, .int _ | .list _, .text _ | .list _, .node _ =>
      isFalse (by simp)

/-- Equality of lists of values is decided item by item. -/
def decideEqList : (left right : List Value) → Decidable (left = right)
  | [], [] => isTrue rfl
  | [], _ :: _ => isFalse (by simp)
  | _ :: _, [] => isFalse (by simp)
  | left :: lefts, right :: rights =>
      match decideEq left right, decideEqList lefts rights with
      | isTrue same, isTrue sameRest => isTrue (by rw [same, sameRest])
      | isFalse different, _ => isFalse (by simp [different])
      | _, isFalse different => isFalse (by simp [different])

end

instance : DecidableEq Value := decideEq

/-- Whether a value is null. -/
def isNull : Value → Bool
  | .null => true
  | _ => false

/-- The node that a value is. -/
def node? : Value → Option Node
  | .node handle => some handle
  | _ => none

/-- The truth value that a value is. -/
def bool? : Value → Option Bool
  | .bool flag => some flag
  | _ => none

/-- The integer that a value is. -/
def int? : Value → Option Int64
  | .int number => some number
  | _ => none

/-- The text of a scalar; nodes, lists and null have none. -/
def scalarText? : Value → Option String
  | .text content => some content
  | .int number => some (toString number.toInt)
  | .bool flag => some (if flag then "true" else "false")
  | .null | .node _ | .list _ => none

/-- A list as it is, null as no values, any other value alone. -/
def sequence : Value → List Value
  | .list items => items
  | .null => []
  | value => [value]

/-- A position as an integer; positions above the range are held at its end. -/
def ofPosition (position : UInt64) : Value :=
  .int (Int64.ofInt (min (position.toNat : Int) Int64.maxValue.toInt))

end Value

/-- What evaluating an expression gave, if anything. -/
structure Answer where
  value? : Option Value
deriving DecidableEq

namespace Answer

/-- The evaluation failed or gave nothing. -/
def absent : Answer where
  value? := none

/-- The evaluation gave a value. -/
def of (value : Value) : Answer where
  value? := some value

/-- The given value, or null. -/
def valueOrNull (answer : Answer) : Value :=
  answer.value?.getD .null

/-- A single node, or the first node that a list holds. -/
def node? (answer : Answer) : Option Node :=
  match answer.value? with
  | some (.node handle) => some handle
  | some (.list items) => items.findSome? Value.node?
  | _ => none

/-- The values of a list, a single value alone, nothing for null and for no answer. -/
def values (answer : Answer) : List Value :=
  match answer.value? with
  | some value => value.sequence
  | none => []

/-- The nodes among the values, in order. -/
def nodes (answer : Answer) : List Node :=
  answer.values.filterMap Value.node?

/-- A truth value, also one written as a text. -/
def bool? (answer : Answer) : Option Bool :=
  match answer.value? with
  | some (.bool flag) => some flag
  | some (.text content) =>
      if Text.trim content = "true" then some true
      else if Text.trim content = "false" then some false
      else none
  | _ => none

/-- The text of a scalar. -/
def text? (answer : Answer) : Option String :=
  answer.value?.bind Value.scalarText?

/-- An integer, also one written as a text. -/
def int? (answer : Answer) : Option Int64 :=
  match answer.value? with
  | some (.int number) => some number
  | some (.text content) => Text.int64? content
  | _ => none

/-- An integer that is a position: not negative. -/
def position? (answer : Answer) : Option Nat :=
  answer.int?.bind fun number =>
    if 0 ≤ number.toInt then some number.toInt.toNat else none

end Answer

end FormWidgets
