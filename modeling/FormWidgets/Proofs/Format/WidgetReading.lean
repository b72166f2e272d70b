import FormWidgets.Format.Widget
import FormWidgets.Proofs.Format.OperationReading
import Mathlib

/-!
# Reading written widgets

A widget is one record: the fields of every widget, the tag of its kind and the
fields of the kind.  No two of them share a name, so each part finds its own
fields in the record and takes no notice of the others.

What the kind is read from has been settled.  A written widget is settled
already, and stays so when null fields are taken out.
-/

namespace FormWidgets

open Data (Pruned Holds ReadsBack HasNames Renders)

/-! ## Styles -/

theorem WidgetStyle.readsBack (form : Notation) (style : WidgetStyle) :
    ReadsBack toData (ofData? form) style := by
  intro data pruned
  rcases pruned.exists_fields form fieldNames rfl (by decide) with
    ⟨fields, given, background, foreground, size, italic, bold, underline, strikeThrough⟩
  have fontSize := size.option (fun _ _ => trivial) fun inner _ => ReadsBack.word inner
  simp [ofData?, given, background.optionalText, foreground.optionalText, fontSize,
    italic.flag, bold.flag, underline.flag, strikeThrough.flag]

theorem ConditionalStyle.readsBack (form : Notation) (style : ConditionalStyle) :
    ReadsBack toData (ofData? form) style := by
  intro data pruned
  rcases pruned.exists_fields form fieldNames rfl (by decide) with
    ⟨fields, given, condition, inner⟩
  simp [ofData?, given, condition.requiredText,
    inner.required nofun (WidgetStyle.readsBack form style.style)]

/-! ## Slots -/

theorem Data.Holds.slot {fields : NameMap Data} {name : String} {body : Option OperationBody}
    (held : Holds Pruned fields (Operation.slotField name body)) :
    Operation.slotOf fields name = some body :=
  held.option (fun _ _ => trivial) fun inner _ => Operation.readsBack_body inner

theorem ReferenceSlots.readsBack (slots : ReferenceSlots) :
    ReadsBack toData ofData? slots := by
  intro data pruned
  rcases pruned.exists_fields .settled fieldNames rfl (by decide) with
    ⟨fields, given, createElement, set, unset, add, remove, clear, reorder⟩
  simp [ofData?, given, createElement.slot, set.slot, unset.slot, add.slot, remove.slot,
    clear.slot, reorder.slot]

theorem ContainmentSlots.readsBack (slots : ContainmentSlots) :
    ReadsBack toData ofData? slots := by
  intro data pruned
  rcases pruned.exists_fields .settled fieldNames rfl (by decide) with
    ⟨fields, given, createElement, click, reorder⟩
  simp [ofData?, given, createElement.slot, click.slot, reorder.slot]

theorem ItemAction.readsBack (action : ItemAction) : ReadsBack toData ofData? action := by
  intro data pruned
  rcases pruned.exists_fields .settled fieldNames rfl (by decide) with
    ⟨fields, given, iconUrl, precondition, body⟩
  simp [ofData?, given, Data.optionalTextOf, iconUrl.optionalText,
    precondition.optionalText, body.defaulted nofun (Operation.readsBack_body action.body)]

theorem ListSlots.readsBack (slots : ListSlots) : ReadsBack toData ofData? slots := by
  intro data pruned
  rcases pruned.exists_fields .settled fieldNames rfl (by decide) with
    ⟨fields, given, delete, add, reorder, itemAction⟩
  have action := itemAction.option (fun _ _ => trivial)
    fun inner _ => ItemAction.readsBack inner
  simp [ofData?, given, delete.slot, add.slot, reorder.slot, action]

/-! ## Fields of kinds -/

section Details

variable {entries : List (Data × Data)}

theorem ReferenceDescription.ofEntries?_of_renders (reference : ReferenceDescription)
    (renders : Renders Pruned reference.toFields entries) :
    ofEntries? entries = some reference := by
  rcases renders.exists_fields .settled fieldNames rfl with
    ⟨fields, given, value, owner, type, searchScope, operations⟩
  simp [ofEntries?, given, Data.optionalTextOf, value.optionalText, owner.optionalText,
    type.optionalText, searchScope.optionalText,
    operations.defaulted nofun (ReferenceSlots.readsBack reference.slots)]

theorem ContainmentDescription.ofEntries?_of_renders (containment : ContainmentDescription)
    (renders : Renders Pruned containment.toFields entries) :
    ofEntries? entries = some containment := by
  rcases renders.exists_fields .settled fieldNames rfl with
    ⟨fields, given, value, owner, type, many, operations⟩
  simp [ofEntries?, given, Data.optionalTextOf, value.optionalText, owner.optionalText,
    type.optionalText, many.flag,
    operations.defaulted nofun (ContainmentSlots.readsBack containment.slots)]

theorem ListDescription.ofEntries?_of_renders (list : ListDescription)
    (renders : Renders Pruned list.toFields entries) : ofEntries? entries = some list := by
  rcases renders.exists_fields .settled fieldNames rfl with
    ⟨fields, given, value, options, operations⟩
  simp [ofEntries?, given, Data.optionalTextOf, value.optionalText, options.optionalText,
    operations.defaulted nofun (ListSlots.readsBack list.slots)]

theorem RadioDescription.slot_readsBack (slot : Option OperationBody) :
    ReadsBack (fun slot => .record [Operation.slotField "set" slot]) slotOfData? slot := by
  intro data pruned
  rcases pruned.exists_fields .settled ["set"] rfl (by decide) with ⟨fields, given, set⟩
  simp [slotOfData?, given, set.slot]

theorem RadioDescription.ofEntries?_of_renders (radio : RadioDescription)
    (renders : Renders Pruned radio.toFields entries) : ofEntries? entries = some radio := by
  rcases renders.exists_fields .settled fieldNames rfl with
    ⟨fields, given, value, candidates, operations⟩
  simp [ofEntries?, given, Data.optionalTextOf, value.optionalText, candidates.optionalText,
    operations.defaulted nofun (RadioDescription.slot_readsBack radio.set)]

end Details

namespace WidgetKind

/-- The names of the fields of a kind, in order. -/
def fieldNames : WidgetKind → List String
  | .monoReference | .multiReference => ReferenceDescription.fieldNames
  | .containmentReference => ContainmentDescription.fieldNames
  | .primitiveList => ListDescription.fieldNames
  | .primitiveRadio => RadioDescription.fieldNames
  | .languageExpression => []

/-- No field of a kind, nor its tag, takes the name of a field that every widget has. -/
theorem nodup_fieldNames (kind : WidgetKind) :
    (WidgetDescription.fieldNames ++ tagField :: kind.fieldNames).Nodup := by
  cases kind <;> decide

end WidgetKind

namespace WidgetDetail

/-- The fields of a kind, without its tag. -/
def ownFields : WidgetDetail → List (Data × Data)
  | .monoReference reference | .multiReference reference => reference.toFields
  | .containmentReference containment => containment.toFields
  | .primitiveList list => list.toFields
  | .primitiveRadio radio => radio.toFields
  | .languageExpression => []

theorem toFields_eq_cons (detail : WidgetDetail) :
    detail.toFields =
      Data.textField WidgetKind.tagField detail.kind.tag :: detail.ownFields := by
  cases detail <;> rfl

theorem keys_ownFields (detail : WidgetDetail) :
    detail.ownFields.map Prod.fst = detail.kind.fieldNames.map .text := by
  cases detail <;> rfl

theorem keys_toFields (detail : WidgetDetail) :
    detail.toFields.map Prod.fst =
      (WidgetKind.tagField :: detail.kind.fieldNames).map .text := by
  rw [toFields_eq_cons, List.map_cons, keys_ownFields]
  rfl

theorem ofEntries?_of_renders (detail : WidgetDetail) {entries : List (Data × Data)}
    (renders : Renders Pruned detail.toFields entries) :
    ofEntries? entries = some detail := by
  have fresh : WidgetKind.tagField ∉ detail.kind.fieldNames :=
    (List.nodup_cons.mp (List.nodup_append.mp detail.kind.nodup_fieldNames).2.1).1
  rw [toFields_eq_cons] at renders
  obtain ⟨tag, others, taken, shown, renders⟩ :=
    renders.exists_takeTag? detail.keys_ownFields fresh
  obtain rfl := shown.eq_of_isScalar trivial
  have kind : WidgetKind.ofData? (.text detail.kind.tag) = some detail.kind :=
    WidgetKind.ofTag?_tag detail.kind
  simp only [ofEntries?, taken, Option.bind_eq_bind, Option.bind_some, kind]
  cases detail with
  | monoReference reference =>
      exact congrArg (Option.map monoReference) (reference.ofEntries?_of_renders renders)
  | multiReference reference =>
      exact congrArg (Option.map multiReference) (reference.ofEntries?_of_renders renders)
  | containmentReference containment =>
      exact congrArg (Option.map containmentReference)
        (containment.ofEntries?_of_renders renders)
  | primitiveList list =>
      exact congrArg (Option.map primitiveList) (list.ofEntries?_of_renders renders)
  | primitiveRadio radio =>
      exact congrArg (Option.map primitiveRadio) (radio.ofEntries?_of_renders renders)
  | languageExpression => rfl

end WidgetDetail

/-! ## Written widgets are settled -/

section Settled

open Data (textField optionalTextField field)
open Operation (slotField)

@[simp]
theorem WidgetStyle.isSettled (style : WidgetStyle) : style.toData.IsSettled := by
  simp [toData, optionalTextField, field]

@[simp]
theorem ConditionalStyle.isSettled (style : ConditionalStyle) : style.toData.IsSettled := by
  simp [toData, textField, field]

@[simp]
theorem ItemAction.isSettled (action : ItemAction) : action.toData.IsSettled := by
  simp [toData, optionalTextField, field]

theorem ReferenceDescription.isSettled (reference : ReferenceDescription) :
    (Data.record reference.toFields).IsSettled := by
  simp [toFields, ReferenceSlots.toData, optionalTextField, slotField, field]

theorem ContainmentDescription.isSettled (containment : ContainmentDescription) :
    (Data.record containment.toFields).IsSettled := by
  simp [toFields, ContainmentSlots.toData, optionalTextField, slotField, field]

theorem ListDescription.isSettled (list : ListDescription) :
    (Data.record list.toFields).IsSettled := by
  simp [toFields, ListSlots.toData, optionalTextField, slotField, field]

theorem RadioDescription.isSettled (radio : RadioDescription) :
    (Data.record radio.toFields).IsSettled := by
  simp [toFields, optionalTextField, slotField, field]

theorem WidgetDetail.isSettled (detail : WidgetDetail) :
    (Data.record detail.ownFields).IsSettled := by
  cases detail with
  | monoReference reference | multiReference reference => exact reference.isSettled
  | containmentReference containment => exact containment.isSettled
  | primitiveList list => exact list.isSettled
  | primitiveRadio radio => exact radio.isSettled
  | languageExpression => exact Data.isSettled_record.mpr nofun

theorem WidgetDescription.isSettled (widget : WidgetDescription) :
    widget.toData.IsSettled := by
  have detail := Data.isSettled_record.mp widget.detail.isSettled
  rw [toData, Data.isSettled_record, List.forall_mem_append]
  constructor
  · simp [textField, optionalTextField, field]
  · rw [WidgetDetail.toFields_eq_cons, List.forall_mem_cons]
    exact ⟨⟨rfl, rfl⟩, detail⟩

end Settled

/-! ## Widgets -/

namespace WidgetDescription

/-- The fields that every widget has. -/
def sharedFields (widget : WidgetDescription) : List (Data × Data) :=
  [Data.textField "id" widget.id, Data.textField "name" widget.name,
    Data.optionalTextField "labelExpression" widget.label,
    Data.optionalTextField "helpExpression" widget.help,
    Data.optionalTextField "isEnabledExpression" widget.isEnabled,
    Data.field "style" (.ofOption WidgetStyle.toData widget.style),
    Data.field "conditionalStyles"
      (.list (widget.conditionalStyles.map ConditionalStyle.toData))]

theorem toData_eq_record (widget : WidgetDescription) :
    widget.toData = .record (widget.sharedFields ++ widget.detail.toFields) := rfl

theorem hasNames (widget : WidgetDescription) :
    HasNames (widget.sharedFields ++ widget.detail.toFields) := by
  apply HasNames.of_names _ widget.detail.kind.nodup_fieldNames
  rw [List.map_append, List.map_append, WidgetDetail.keys_toFields]
  rfl

/-- Whether a key names a field that every widget has. -/
def isShared : Data → Bool
  | .text name => fieldNames.contains name
  | _ => false

theorem isShared_text (name : String) :
    isShared (.text name) = decide (name ∈ fieldNames) := by
  rw [isShared, List.contains_eq_mem]

theorem not_isShared_of_mem_toFields {detail : WidgetDetail} {entry : Data × Data}
    (member : entry ∈ detail.toFields) : (!isShared entry.1) = true := by
  have listed : entry.1 ∈ detail.toFields.map Prod.fst := List.mem_map_of_mem member
  rw [WidgetDetail.keys_toFields] at listed
  rcases List.mem_map.mp listed with ⟨name, own, same⟩
  have other : name ∉ fieldNames := by
    intro shared
    exact List.disjoint_of_nodup_append detail.kind.nodup_fieldNames shared own
  rw [← same, isShared_text, decide_eq_false other]
  rfl

/-- Beside the fields of every widget a widget has those of its kind. -/
theorem otherEntries?_eq {entries : List (Data × Data)} (named : HasNames entries)
    (settled : ∀ entry ∈ entries, entry.2.IsSettled) :
    otherEntries? entries = some (entries.filter fun entry => !isShared entry.1) := by
  induction entries with
  | nil => rfl
  | cons entry rest step =>
      rcases entry with ⟨key, value⟩
      rcases named.texts _ List.mem_cons_self with ⟨name, rfl⟩
      rcases List.forall_mem_cons.mp settled with ⟨first, later⟩
      have whole : value.settle = some value := first
      have others := step named.tail later
      by_cases shared : name ∈ fieldNames
      · simp [otherEntries?, Data.text?, isShared_text, shared, others]
      · simp [otherEntries?, Data.text?, isShared_text, shared, others, whole, Data.field]

/-- A widget reads back, with the fields of its kind among those of every widget. -/
theorem readsBack (form : Notation) (widget : WidgetDescription) :
    ReadsBack toData (ofData? form) widget := by
  intro data pruned
  have settled := pruned.isSettled widget.isSettled
  rw [toData_eq_record] at pruned
  rcases pruned.of_record with ⟨kept, entries, rfl, left, order⟩
  have renders := left.renders order widget.hasNames
  have shared := renders.of_subset (List.subset_append_left _ _)
  rcases shared.exists_fields form fieldNames rfl with
    ⟨fields, given, id, name, label, help, isEnabled, style, conditionalStyles⟩
  have others := otherEntries?_eq renders.named fun entry member =>
    (Data.isSettled_record.mp settled entry member).2
  have detail : WidgetDetail.ofEntries? (entries.filter fun entry => !isShared entry.1) =
      some widget.detail := by
    apply WidgetDetail.ofEntries?_of_renders
    apply renders.filter fun key => !isShared key
    intro entry member
    exact ⟨List.mem_append_right _ member, not_isShared_of_mem_toFields member⟩
  have style := style.option (fun _ _ => trivial)
    fun inner _ => WidgetStyle.readsBack form inner
  have conditionalStyles := conditionalStyles.list
    fun inner _ => ConditionalStyle.readsBack form inner
  simp [ofData?, ofEntries?, given, others, detail, Data.optionalTextOf, id.requiredText,
    name.requiredText, label.optionalText, help.optionalText, isEnabled.optionalText, style,
    conditionalStyles]

end WidgetDescription

end FormWidgets
