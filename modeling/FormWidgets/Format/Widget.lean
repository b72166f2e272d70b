import FormWidgets.Format.Operation
import FormWidgets.Format.Style
import FormWidgets.Widget.Description

/-!
# Written widgets

The form of widget descriptions in documents: one record that holds the fields
of every widget, the tag of the kind under `kind`, and the fields of the kind.

The fields of the kind are settled before they are read: a text among them must
be one by itself, while any plain scalar is a text among the fields of every
widget.
-/

namespace FormWidgets

namespace Operation

/-- A slot as a list of operations or null. -/
def slotField (name : String) (body : Option OperationBody) : Data × Data :=
  Data.field name (.ofOption bodyToData body)

/-- A slot among settled fields. -/
def slotOf (fields : NameMap Data) (name : String) : Option (Option OperationBody) :=
  fields.defaulted name none (Data.optional bodyOfData?)

end Operation

/-- An optional text among fields. -/
def Data.optionalTextOf (fields : NameMap Data) (name : String) : Option (Option String) :=
  fields.defaulted name none (Data.optional Data.text?)

namespace ReferenceSlots

/-- The names of the slots of a reference, in order. -/
def fieldNames : List String :=
  ["createElement", "set", "unset", "add", "remove", "clear", "reorder"]

/-- The slots of a reference as a record. -/
def toData (slots : ReferenceSlots) : Data :=
  .record
    [Operation.slotField "createElement" slots.createElement,
      Operation.slotField "set" slots.set,
      Operation.slotField "unset" slots.unset,
      Operation.slotField "add" slots.add,
      Operation.slotField "remove" slots.remove,
      Operation.slotField "clear" slots.clear,
      Operation.slotField "reorder" slots.reorder]

/-- Read the slots of a reference. -/
def ofData? (data : Data) : Option ReferenceSlots := do
  let fields ← data.fields? .settled fieldNames
  some
    { createElement := ← Operation.slotOf fields "createElement"
      set := ← Operation.slotOf fields "set"
      unset := ← Operation.slotOf fields "unset"
      add := ← Operation.slotOf fields "add"
      remove := ← Operation.slotOf fields "remove"
      clear := ← Operation.slotOf fields "clear"
      reorder := ← Operation.slotOf fields "reorder" }

end ReferenceSlots

namespace ReferenceDescription

/-- The names of the fields of a reference, in order. -/
def fieldNames : List String :=
  ["valueExpression", "ownerExpression", "typeExpression",
    "candidatesSearchScopeExpression", "operations"]

/-- The fields of a reference. -/
def toFields (reference : ReferenceDescription) : List (Data × Data) :=
  [Data.optionalTextField "valueExpression" reference.value,
    Data.optionalTextField "ownerExpression" reference.owner,
    Data.optionalTextField "typeExpression" reference.type,
    Data.optionalTextField "candidatesSearchScopeExpression" reference.searchScope,
    Data.field "operations" reference.slots.toData]

/-- Read a reference from settled entries. -/
def ofEntries? (entries : List (Data × Data)) : Option ReferenceDescription := do
  let fields ← Data.collect .settled fieldNames entries
  some
    { value := ← Data.optionalTextOf fields "valueExpression"
      owner := ← Data.optionalTextOf fields "ownerExpression"
      type := ← Data.optionalTextOf fields "typeExpression"
      searchScope := ← Data.optionalTextOf fields "candidatesSearchScopeExpression"
      slots := ← fields.defaulted "operations" {} ReferenceSlots.ofData? }

end ReferenceDescription

namespace ContainmentSlots

/-- The names of the slots of a containment reference, in order. -/
def fieldNames : List String :=
  ["createElement", "click", "reorder"]

/-- The slots of a containment reference as a record. -/
def toData (slots : ContainmentSlots) : Data :=
  .record
    [Operation.slotField "createElement" slots.createElement,
      Operation.slotField "click" slots.click,
      Operation.slotField "reorder" slots.reorder]

/-- Read the slots of a containment reference. -/
def ofData? (data : Data) : Option ContainmentSlots := do
  let fields ← data.fields? .settled fieldNames
  some
    { createElement := ← Operation.slotOf fields "createElement"
      click := ← Operation.slotOf fields "click"
      reorder := ← Operation.slotOf fields "reorder" }

end ContainmentSlots

namespace ContainmentDescription

/-- The names of the fields of a containment reference, in order. -/
def fieldNames : List String :=
  ["valueExpression", "ownerExpression", "typeExpression", "many", "operations"]

/-- The fields of a containment reference. -/
def toFields (containment : ContainmentDescription) : List (Data × Data) :=
  [Data.optionalTextField "valueExpression" containment.value,
    Data.optionalTextField "ownerExpression" containment.owner,
    Data.optionalTextField "typeExpression" containment.type,
    Data.field "many" (.bool containment.many),
    Data.field "operations" containment.slots.toData]

/-- Read a containment reference from settled entries. -/
def ofEntries? (entries : List (Data × Data)) : Option ContainmentDescription := do
  let fields ← Data.collect .settled fieldNames entries
  some
    { value := ← Data.optionalTextOf fields "valueExpression"
      owner := ← Data.optionalTextOf fields "ownerExpression"
      type := ← Data.optionalTextOf fields "typeExpression"
      many := ← fields.defaulted "many" false Data.bool?
      slots := ← fields.defaulted "operations" {} ContainmentSlots.ofData? }

end ContainmentDescription

namespace ItemAction

/-- The names of the fields of an item action, in order. -/
def fieldNames : List String :=
  ["iconUrlExpression", "preconditionExpression", "body"]

/-- An item action as a record. -/
def toData (action : ItemAction) : Data :=
  .record
    [Data.optionalTextField "iconUrlExpression" action.iconUrl,
      Data.optionalTextField "preconditionExpression" action.precondition,
      Data.field "body" (Operation.bodyToData action.body)]

/-- Read an item action. -/
def ofData? (data : Data) : Option ItemAction := do
  let fields ← data.fields? .settled fieldNames
  some
    { iconUrl := ← Data.optionalTextOf fields "iconUrlExpression"
      precondition := ← Data.optionalTextOf fields "preconditionExpression"
      body := ← fields.defaulted "body" [] Operation.bodyOfData? }

end ItemAction

namespace ListSlots

/-- The names of the slots of a list, in order. -/
def fieldNames : List String :=
  ["delete", "add", "reorder", "itemAction"]

/-- The slots of a list as a record. -/
def toData (slots : ListSlots) : Data :=
  .record
    [Operation.slotField "delete" slots.delete,
      Operation.slotField "add" slots.add,
      Operation.slotField "reorder" slots.reorder,
      Data.field "itemAction" (.ofOption ItemAction.toData slots.itemAction)]

/-- Read the slots of a list. -/
def ofData? (data : Data) : Option ListSlots := do
  let fields ← data.fields? .settled fieldNames
  some
    { delete := ← Operation.slotOf fields "delete"
      add := ← Operation.slotOf fields "add"
      reorder := ← Operation.slotOf fields "reorder"
      itemAction := ← fields.defaulted "itemAction" none (Data.optional ItemAction.ofData?) }

end ListSlots

namespace ListDescription

/-- The names of the fields of a list, in order. -/
def fieldNames : List String :=
  ["valueExpression", "dropdownOptionsExpression", "operations"]

/-- The fields of a list. -/
def toFields (list : ListDescription) : List (Data × Data) :=
  [Data.optionalTextField "valueExpression" list.value,
    Data.optionalTextField "dropdownOptionsExpression" list.options,
    Data.field "operations" list.slots.toData]

/-- Read a list from settled entries. -/
def ofEntries? (entries : List (Data × Data)) : Option ListDescription := do
  let fields ← Data.collect .settled fieldNames entries
  some
    { value := ← Data.optionalTextOf fields "valueExpression"
      options := ← Data.optionalTextOf fields "dropdownOptionsExpression"
      slots := ← fields.defaulted "operations" {} ListSlots.ofData? }

end ListDescription

namespace RadioDescription

/-- The names of the fields of a radio, in order. -/
def fieldNames : List String :=
  ["valueExpression", "candidatesExpression", "operations"]

/-- The fields of a radio. -/
def toFields (radio : RadioDescription) : List (Data × Data) :=
  [Data.optionalTextField "valueExpression" radio.value,
    Data.optionalTextField "candidatesExpression" radio.candidates,
    Data.field "operations" (.record [Operation.slotField "set" radio.set])]

/-- Read the one slot of a radio. -/
def slotOfData? (data : Data) : Option (Option OperationBody) := do
  let fields ← data.fields? .settled ["set"]
  Operation.slotOf fields "set"

/-- Read a radio from settled entries. -/
def ofEntries? (entries : List (Data × Data)) : Option RadioDescription := do
  let fields ← Data.collect .settled fieldNames entries
  some
    { value := ← Data.optionalTextOf fields "valueExpression"
      candidates := ← Data.optionalTextOf fields "candidatesExpression"
      set := ← fields.defaulted "operations" none slotOfData? }

end RadioDescription

namespace WidgetKind

/-- The name of the field that holds the tag. -/
def tagField : String := "kind"

/-- The kind that a tag or the position of a kind stands for. -/
def ofData? : Data → Option WidgetKind
  | .text tag => ofTag? tag
  | .natural position => all[position]?
  | _ => none

end WidgetKind

namespace WidgetDetail

/-- The fields of a kind, with its tag. -/
def toFields (detail : WidgetDetail) : List (Data × Data) :=
  Data.textField WidgetKind.tagField detail.kind.tag ::
    match detail with
    | .monoReference reference | .multiReference reference => reference.toFields
    | .containmentReference containment => containment.toFields
    | .primitiveList list => list.toFields
    | .primitiveRadio radio => radio.toFields
    | .languageExpression => []

/-- Read the fields of a kind from settled entries. -/
def ofEntries? (entries : List (Data × Data)) : Option WidgetDetail := do
  let (tag, others) ← Data.takeTag? WidgetKind.tagField entries
  match ← WidgetKind.ofData? tag with
  | .monoReference => (ReferenceDescription.ofEntries? others).map .monoReference
  | .multiReference => (ReferenceDescription.ofEntries? others).map .multiReference
  | .containmentReference =>
      (ContainmentDescription.ofEntries? others).map .containmentReference
  | .primitiveList => (ListDescription.ofEntries? others).map .primitiveList
  | .primitiveRadio => (RadioDescription.ofEntries? others).map .primitiveRadio
  | .languageExpression => some .languageExpression

end WidgetDetail

namespace WidgetDescription

/-- The names of the fields that every widget has, in order. -/
def fieldNames : List String :=
  ["id", "name", "labelExpression", "helpExpression", "isEnabledExpression", "style",
    "conditionalStyles"]

/-- What is read of a widget: the fields that its kind has no use for are settled all the same. -/
def outline : Outline :=
  .fields
    [("style", WidgetStyle.outline), ("conditionalStyles", .items ConditionalStyle.outline)]
    .everything

/-- A widget as a record. -/
def toData (widget : WidgetDescription) : Data :=
  .record
    ([Data.textField "id" widget.id, Data.textField "name" widget.name,
        Data.optionalTextField "labelExpression" widget.label,
        Data.optionalTextField "helpExpression" widget.help,
        Data.optionalTextField "isEnabledExpression" widget.isEnabled,
        Data.field "style" (.ofOption WidgetStyle.toData widget.style),
        Data.field "conditionalStyles"
          (.list (widget.conditionalStyles.map ConditionalStyle.toData))]
      ++ widget.detail.toFields)

/-- The entries that are no field of every widget, settled; nothing when a key is no text. -/
def otherEntries? : List (Data × Data) → Option (List (Data × Data))
  | [] => some []
  | (key, value) :: rest => do
      let name ← key.text?
      if fieldNames.contains name then otherEntries? rest
      else
        let settled ← value.settle
        let others ← otherEntries? rest
        some (Data.field name settled :: others)

/-- Read a widget from the entries of a record. -/
def ofEntries? (form : Notation) (entries : List (Data × Data)) :
    Option WidgetDescription := do
  let fields ← Data.collect form fieldNames entries
  let others ← otherEntries? entries
  some
    { id := ← fields.required "id" Data.text?
      name := ← fields.required "name" Data.text?
      label := ← Data.optionalTextOf fields "labelExpression"
      help := ← Data.optionalTextOf fields "helpExpression"
      isEnabled := ← Data.optionalTextOf fields "isEnabledExpression"
      style := ← fields.defaulted "style" none (Data.optional (WidgetStyle.ofData? form))
      conditionalStyles := ←
        fields.defaulted "conditionalStyles" []
          (Data.listOf? (ConditionalStyle.ofData? form))
      detail := ← WidgetDetail.ofEntries? others }

/-- Read a widget. -/
def ofData? (form : Notation) : Data → Option WidgetDescription
  | .record entries => ofEntries? form entries
  | .labelled (.record entries) => ofEntries? form entries
  | _ => none

end WidgetDescription

end FormWidgets
