import FormWidgets.Format.Operation
import FormWidgets.Proofs.Data.RecordReading
import FormWidgets.Proofs.Execution.Reach
import Mathlib

/-!
# Reading written operations

An operation is read back from whatever is left of it as it is written, with the
operations inside it at any depth.
-/

namespace FormWidgets

open Data (Pruned Holds ReadsBack HasNames Renders)

/-! ## Tables of texts -/

/-- A text as it stands in a table. -/
def Data.tableEntry (entry : String × String) : Data × Data :=
  field entry.1 (.text entry.2)

theorem Data.mapM_map_eq_some {Part Whole : Type} {write : Part → Whole}
    {read : Whole → Option Part} (inverse : ∀ part, read (write part) = some part)
    (parts : List Part) : (parts.map write).mapM read = some parts := by
  induction parts with
  | nil => rfl
  | cons part rest step =>
      rw [List.map_cons, List.mapM_cons, inverse, step]
      rfl

theorem Data.ReadsBack.textTable (table : NameMap String) :
    ReadsBack .ofTextTable Data.textTable? table := by
  intro data pruned
  rcases pruned.of_record with ⟨kept, others, rfl, entries, order⟩
  have whole : kept = table.entries.map tableEntry := by
    apply entries.eq_of_isScalar
    intro entry member
    rcases List.mem_map.mp member with ⟨source, -, rfl⟩
    exact ⟨trivial, nofun⟩
  -- The record may list the texts in an order of its own, which the table does not keep.
  have listed : others.Perm (table.entries.map tableEntry) := whole ▸ order.symm
  rcases (congr_fun₂ (List.eq_map_comp_perm tableEntry) _ _).mpr listed with ⟨texts, rfl, perm⟩
  rw [textTable?, mapM_map_eq_some]
  · exact congrArg some (NameMap.ofList_of_perm perm)
  · intro entry
    rfl

namespace Operation

theorem nodup_fieldNames (kind : OperationKind) :
    (OperationKind.tagField :: kind.fieldNames).Nodup := by
  cases kind <;> decide

/-- A value with what it reads as. -/
def Operand.ofData (value : Data) : Operand where
  data := value
  body? := bodyOfData? value

/-- An operand holds what is left of a written value. -/
def Operand.Shows (value : Data) (operand : Operand) : Prop :=
  Pruned value operand.data ∧ operand.body? = bodyOfData? operand.data

theorem operandEntries_eq_map (entries : List (Data × Data)) :
    operandEntries entries =
      entries.map fun entry => (entry.1, Operand.ofData entry.2) := by
  induction entries with
  | nil => rw [operandEntries, List.map_nil]
  | cons entry rest step =>
      rw [operandEntries, step]
      rfl

/-- What is left of a tagged record reads as an operation of its kind with the written fields. -/
theorem exists_fields {kind : OperationKind} {written : List (Data × Data)} {data : Data}
    (pruned : Pruned (tagged kind written) data)
    (keys : written.map Prod.fst = kind.fieldNames.map .text) :
    ∃ fields, ofData? data = ofFields? kind fields ∧
      written.Forall (Holds Operand.Shows fields) := by
  rcases pruned.of_record with ⟨kept, others, rfl, entries, order⟩
  have named : HasNames (Data.textField OperationKind.tagField kind.tag :: written) := by
    have keys : (Data.textField OperationKind.tagField kind.tag :: written).map Prod.fst =
        (OperationKind.tagField :: kind.fieldNames).map .text :=
      congrArg (Data.text OperationKind.tagField :: ·) keys
    exact .of_names keys (nodup_fieldNames kind)
  have renders : Renders Operand.Shows
      (Data.textField OperationKind.tagField kind.tag :: written) (operandEntries others) := by
    rw [operandEntries_eq_map]
    exact (entries.renders order named).map Operand.ofData fun _ _ pruned => ⟨pruned, rfl⟩
  rcases List.nodup_cons.mp (nodup_fieldNames kind) with ⟨fresh, -⟩
  rcases renders.exists_takeTag? keys fresh with ⟨tag, beside, taken, tagShown, renders⟩
  rcases renders.exists_fields .settled kind.fieldNames keys with ⟨fields, collected, held⟩
  refine ⟨fields, ?_, held⟩
  have isTag : tag.data = .text kind.tag := tagShown.1.eq_of_isScalar trivial
  rw [ofData?, ofEntries?, taken]
  simp [isTag, OperationKind.ofData?, collected]

end Operation

/-! ## Fields of operations -/

namespace Data.Holds

open Operation (Operand)

variable {fields : NameMap Operand} {name : String}

theorem operandText {content : String}
    (held : Holds Operand.Shows fields (textField name content)) :
    fields.required name Operand.text? = some content :=
  held.required nofun fun _ shown => ReadsBack.text content _ shown.1

theorem optionalOperandText {content : Option String}
    (held : Holds Operand.Shows fields (optionalTextField name content)) :
    fields.defaulted name none Operand.optionalText? = some content :=
  held.optional (fun _ _ => trivial) fun _ shown => ReadsBack.optionalText content _ shown.1

theorem children {body : OperationBody}
    (held : Holds Operand.Shows fields (field "children" (Operation.bodyToData body)))
    (reads : ReadsBack Operation.bodyToData Operation.bodyOfData? body) :
    Operation.childrenOf fields = some body :=
  held.defaulted nofun fun _ shown => shown.2 ▸ reads _ shown.1

theorem arguments {table : NameMap String}
    (held : Holds Operand.Shows fields (field "arguments" (.ofTextTable table))) :
    (fields.defaulted "arguments" NameMap.empty fun operand => operand.data.textTable?) =
      some table :=
  held.defaulted nofun fun _ shown => ReadsBack.textTable table _ shown.1

end Data.Holds

namespace Operation

/-- An operation reads back when its children do. -/
theorem readsBack_of_children {operation : Operation}
    (reads : ReadsBack bodyToData bodyOfData? operation.children) :
    ReadsBack toData ofData? operation := by
  intro data pruned
  cases operation with
  | changeContext =>
      rcases exists_fields pruned rfl with ⟨fields, given, expression, children⟩
      simp [given, ofFields?, expression.operandText, children.children reads]
  | bind =>
      rcases exists_fields pruned rfl with ⟨fields, given, variableName, value, children⟩
      simp [given, ofFields?, variableName.operandText, value.operandText,
        children.children reads]
  | when =>
      rcases exists_fields pruned rfl with ⟨fields, given, condition, children⟩
      simp [given, ofFields?, condition.operandText, children.children reads]
  | forEach =>
      rcases exists_fields pruned rfl with ⟨fields, given, iterator, expression, children⟩
      simp [given, ofFields?, iterator.operandText, expression.operandText,
        children.children reads]
  | create =>
      rcases exists_fields pruned rfl with ⟨fields, given, typeName, reference, variableName, children⟩
      simp [given, ofFields?, typeName.operandText, reference.operandText,
        variableName.optionalOperandText, children.children reads]
  | set =>
      rcases exists_fields pruned rfl with ⟨fields, given, feature, value⟩
      simp [given, ofFields?, feature.operandText, value.operandText]
  | unset =>
      rcases exists_fields pruned rfl with ⟨fields, given, feature, element⟩
      simp [given, ofFields?, feature.operandText, element.optionalOperandText]
  | add =>
      rcases exists_fields pruned rfl with ⟨fields, given, feature, value, index⟩
      simp [given, ofFields?, feature.operandText, value.operandText, index.optionalOperandText]
  | remove =>
      rcases exists_fields pruned rfl with ⟨fields, given, feature, element⟩
      simp [given, ofFields?, feature.operandText, element.operandText]
  | reorder =>
      rcases exists_fields pruned rfl with ⟨fields, given, feature, element, toIndex⟩
      simp [given, ofFields?, feature.operandText, element.operandText, toIndex.operandText]
  | clear =>
      rcases exists_fields pruned rfl with ⟨fields, given, feature⟩
      simp [given, ofFields?, feature.operandText]
  | delete =>
      rcases exists_fields pruned rfl with ⟨fields, given, element⟩
      simp [given, ofFields?, element.operandText]
  | custom =>
      rcases exists_fields pruned rfl with ⟨fields, given, name, arguments⟩
      simp [given, ofFields?, name.operandText, arguments.arguments]

/-- A body reads back, whatever operations it holds. -/
theorem readsBack_body (body : OperationBody) :
    ReadsBack bodyToData bodyOfData? body := by
  induction body using body_induction with
  | nil =>
      intro data pruned
      rcases pruned.of_list with ⟨items, rfl, each⟩
      cases each
      rfl
  | cons operation rest inside later =>
      intro data pruned
      rcases pruned.of_list with ⟨items, rfl, each⟩
      cases each with
      | cons first others =>
          have head := readsBack_of_children inside _ first
          have tail : listOfData? _ = some rest := later _ (.list others)
          rw [bodyOfData?, listOfData?, head, tail]
          rfl

/-! ## Written operations are settled -/

@[simp]
theorem isSettled_ofTextTable (table : NameMap String) :
    (Data.ofTextTable table).IsSettled := by
  rw [Data.ofTextTable, Data.isSettled_record]
  intro entry member
  rcases List.mem_map.mp member with ⟨source, -, rfl⟩
  exact ⟨rfl, rfl⟩

theorem isSettled_tagged {kind : OperationKind} {fields : List (Data × Data)} :
    (tagged kind fields).IsSettled ↔
      ∀ entry ∈ fields, entry.1.IsSettled ∧ entry.2.IsSettled := by
  simp [tagged, Data.textField, Data.field]

/-- An operation is settled when its children are. -/
theorem isSettled_of_children {operation : Operation}
    (settled : ∀ item ∈ listToData operation.children, item.IsSettled) :
    operation.toData.IsSettled := by
  cases operation
  case changeContext | bind | when | forEach | create =>
    simpa [toData, children, isSettled_tagged, Data.textField, Data.optionalTextField,
      Data.field] using settled
  all_goals
    simp [toData, isSettled_tagged, Data.textField, Data.optionalTextField, Data.field]

@[simp]
theorem isSettled_body (body : OperationBody) : (bodyToData body).IsSettled := by
  rw [bodyToData, Data.isSettled_list]
  induction body using body_induction with
  | nil => simp [listToData]
  | cons operation rest inside later =>
      rw [listToData, List.forall_mem_cons]
      exact ⟨isSettled_of_children inside, later⟩

end Operation

end FormWidgets
