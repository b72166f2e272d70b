import FormWidgets.Data.Field
import FormWidgets.Operation

/-!
# Written operations

The form of operations in documents: a record with the tag of the kind under
`op` and the fields of the kind beside it.  Writing gives every field, absent
ones as null; reading takes absent and null fields alike.

Each entry of a record is paired with what its value reads as when it is a list
of operations, so that reading follows the tree.
-/

namespace FormWidgets

namespace OperationKind

/-- The name of the field that holds the tag. -/
def tagField : String := "op"

/-- The names of the fields of a kind, in order. -/
def fieldNames : OperationKind → List String
  | .changeContext => ["expression", "children"]
  | .bind => ["variable", "valueExpression", "children"]
  | .when => ["condition", "children"]
  | .forEach => ["iterator", "expression", "children"]
  | .create => ["typeName", "referenceName", "variableName", "children"]
  | .set => ["feature", "valueExpression"]
  | .unset => ["feature", "elementExpression"]
  | .add => ["feature", "valueExpression", "indexExpression"]
  | .remove => ["feature", "elementExpression"]
  | .reorder => ["feature", "elementExpression", "toIndexExpression"]
  | .clear => ["feature"]
  | .delete => ["elementExpression"]
  | .custom => ["name", "arguments"]

/-- The kind that a tag or the position of a kind stands for. -/
def ofData? : Data → Option OperationKind
  | .text tag => ofTag? tag
  | .natural position => all[position]?
  | _ => none

end OperationKind

namespace Operation

/-- A record with the tag of a kind and its fields. -/
def tagged (kind : OperationKind) (fields : List (Data × Data)) : Data :=
  .record (Data.textField OperationKind.tagField kind.tag :: fields)

mutual

/-- An operation as a record. -/
def toData : Operation → Data
  | .changeContext expression children =>
      tagged .changeContext
        [Data.textField "expression" expression,
          Data.field "children" (.list (listToData children))]
  | .bind variableName valueExpression children =>
      tagged .bind
        [Data.textField "variable" variableName,
          Data.textField "valueExpression" valueExpression,
          Data.field "children" (.list (listToData children))]
  | .when condition children =>
      tagged .when
        [Data.textField "condition" condition,
          Data.field "children" (.list (listToData children))]
  | .forEach iterator expression children =>
      tagged .forEach
        [Data.textField "iterator" iterator, Data.textField "expression" expression,
          Data.field "children" (.list (listToData children))]
  | .create typeName referenceName variableName children =>
      tagged .create
        [Data.textField "typeName" typeName, Data.textField "referenceName" referenceName,
          Data.optionalTextField "variableName" variableName,
          Data.field "children" (.list (listToData children))]
  | .set feature valueExpression =>
      tagged .set
        [Data.textField "feature" feature, Data.textField "valueExpression" valueExpression]
  | .unset feature elementExpression =>
      tagged .unset
        [Data.textField "feature" feature,
          Data.optionalTextField "elementExpression" elementExpression]
  | .add feature valueExpression indexExpression =>
      tagged .add
        [Data.textField "feature" feature, Data.textField "valueExpression" valueExpression,
          Data.optionalTextField "indexExpression" indexExpression]
  | .remove feature elementExpression =>
      tagged .remove
        [Data.textField "feature" feature,
          Data.textField "elementExpression" elementExpression]
  | .reorder feature elementExpression toIndexExpression =>
      tagged .reorder
        [Data.textField "feature" feature,
          Data.textField "elementExpression" elementExpression,
          Data.textField "toIndexExpression" toIndexExpression]
  | .clear feature => tagged .clear [Data.textField "feature" feature]
  | .delete elementExpression =>
      tagged .delete [Data.textField "elementExpression" elementExpression]
  | .custom name arguments =>
      tagged .custom
        [Data.textField "name" name, Data.field "arguments" (.ofTextTable arguments)]

/-- Operations as records. -/
def listToData : List Operation → List Data
  | [] => []
  | operation :: rest => operation.toData :: listToData rest

end

/-- A list of operations as a list of records. -/
def bodyToData (body : OperationBody) : Data :=
  .list (listToData body)

/-- A value, and what it reads as when it is a list of operations. -/
structure Operand where
  data : Data
  body? : Option OperationBody

namespace Operand

/-- The text that a value is. -/
def text? (operand : Operand) : Option String :=
  operand.data.text?

/-- The text that a value is, if it is not absent. -/
def optionalText? (operand : Operand) : Option (Option String) :=
  operand.data.optional Data.text?

end Operand

/-- The children among fields; none are given by default. -/
def childrenOf (fields : NameMap Operand) : Option OperationBody :=
  fields.defaulted "children" [] Operand.body?

/-- The operation of a kind with given fields. -/
def ofFields? (kind : OperationKind) (fields : NameMap Operand) : Option Operation := do
  let text (name : String) := fields.required name Operand.text?
  let optionalText (name : String) := fields.defaulted name none Operand.optionalText?
  match kind with
  | .changeContext => some (.changeContext (← text "expression") (← childrenOf fields))
  | .bind =>
      some (.bind (← text "variable") (← text "valueExpression") (← childrenOf fields))
  | .when => some (.when (← text "condition") (← childrenOf fields))
  | .forEach =>
      some (.forEach (← text "iterator") (← text "expression") (← childrenOf fields))
  | .create =>
      some (.create (← text "typeName") (← text "referenceName")
        (← optionalText "variableName") (← childrenOf fields))
  | .set => some (.set (← text "feature") (← text "valueExpression"))
  | .unset => some (.unset (← text "feature") (← optionalText "elementExpression"))
  | .add =>
      some (.add (← text "feature") (← text "valueExpression")
        (← optionalText "indexExpression"))
  | .remove => some (.remove (← text "feature") (← text "elementExpression"))
  | .reorder =>
      some (.reorder (← text "feature") (← text "elementExpression")
        (← text "toIndexExpression"))
  | .clear => some (.clear (← text "feature"))
  | .delete => some (.delete (← text "elementExpression"))
  | .custom =>
      some (.custom (← text "name")
        (← fields.defaulted "arguments" NameMap.empty fun operand => operand.data.textTable?))

/-- The operation that the entries of a record give. -/
def ofEntries? (entries : List (Data × Operand)) : Option Operation := do
  let (tag, others) ← Data.takeTag? OperationKind.tagField entries
  let kind ← OperationKind.ofData? tag.data
  let fields ← Data.collect .settled kind.fieldNames others
  ofFields? kind fields

/-- The operation that a list gives: the tag, then the fields in order. -/
def ofItems? : List Operand → Option Operation
  | [] => none
  | tag :: items => do
      let kind ← OperationKind.ofData? tag.data
      let fields ← Data.inOrder kind.fieldNames items
      ofFields? kind fields

mutual

/-- Read an operation from settled data. -/
def ofData? : Data → Option Operation
  | .record entries => ofEntries? (operandEntries entries)
  | .list items => ofItems? (operandItems items)
  | _ => none

/-- Read a list of operations from settled data. -/
def bodyOfData? : Data → Option OperationBody
  | .list items => listOfData? items
  | _ => none

/-- Read operations from settled items. -/
def listOfData? : List Data → Option (List Operation)
  | [] => some []
  | item :: rest => do
      let operation ← ofData? item
      let others ← listOfData? rest
      some (operation :: others)

/-- The entries of a record with what each value reads as. -/
def operandEntries : List (Data × Data) → List (Data × Operand)
  | [] => []
  | (key, value) :: rest => (key, ⟨value, bodyOfData? value⟩) :: operandEntries rest

/-- The items of a list with what each reads as. -/
def operandItems : List Data → List Operand
  | [] => []
  | item :: rest => ⟨item, bodyOfData? item⟩ :: operandItems rest

end

/-- Settle the entries of a record, of which the tag must be a text. -/
def settleEntries? : List (Data × Data) → Option (List (Data × Data))
  | [] => some []
  | (key, value) :: rest => do
      let settledKey ← key.settle
      let settledValue ←
        match settledKey with
        | .text name =>
            if name = OperationKind.tagField then value.text?.map Data.text else value.settle
        | _ => value.settle
      let others ← settleEntries? rest
      some ((settledKey, settledValue) :: others)

/-- Settle an operation that is read at its own place, where its tag must be a text. -/
def settle? : Data → Option Data
  | .record entries => (settleEntries? entries).map Data.record
  | .labelled _ => none
  | .list (tag :: items) => do
      let settledTag ← tag.text?
      let settledItems ← Data.settleItems items
      some (.list (.text settledTag :: settledItems))
  | _ => none

/-- Read a list of operations that stands at its own place in a document. -/
def readBody (data : Data) : Option OperationBody :=
  Data.listOf? (fun item => (settle? item).bind ofData?) data

end Operation

end FormWidgets
