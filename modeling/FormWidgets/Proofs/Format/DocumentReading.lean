import FormWidgets.Format.Document
import FormWidgets.Proofs.Format.WidgetReading
import Mathlib

/-!
# Reading written documents

A document is read back from its record, and from the record with any of its
null fields taken out.  The records of every part, down to the operations in the
slots of the widgets, may lack null fields and may list their fields in any
order.
-/

namespace FormWidgets

open Data (Pruned Holds ReadsBack)

theorem GroupDescription.readsBack (form : Notation) (group : GroupDescription) :
    ReadsBack toData (ofData? form) group := by
  intro data pruned
  rcases pruned.exists_fields form fieldNames rfl (by decide) with
    ⟨fields, given, id, label, widgets⟩
  have widgets := widgets.list fun widget _ => WidgetDescription.readsBack form widget
  simp [ofData?, given, Data.optionalTextOf, id.requiredText, label.optionalText, widgets]

theorem ViewDescription.readsBack (form : Notation) (view : ViewDescription) :
    ReadsBack toData (ofData? form) view := by
  intro data pruned
  rcases pruned.exists_fields form fieldNames rfl (by decide) with
    ⟨fields, given, id, label, namespaces, groups⟩
  have namespaces := namespaces.list fun name _ => ReadsBack.text name
  have groups := groups.list fun group _ => GroupDescription.readsBack form group
  simp [ofData?, given, Data.optionalTextOf, id.requiredText, label.optionalText, namespaces,
    groups]

namespace DescriptionDocument

theorem readsBack (form : Notation) (document : DescriptionDocument) :
    ReadsBack toData (ofData? form) document := by
  intro data pruned
  rcases pruned.exists_fields form fieldNames rfl (by decide) with
    ⟨fields, given, version, views⟩
  have version := version.required nofun (ReadsBack.word document.schemaVersion)
  have views := views.list fun view _ => ViewDescription.readsBack form view
  simp [ofData?, given, version, views]

theorem toData_injective : Function.Injective toData := by
  intro left right same
  have fromLeft := readsBack .json left left.toData (.same _)
  have fromRight := readsBack .json right right.toData (.same _)
  rw [same, fromRight] at fromLeft
  exact (Option.some.inj fromLeft).symm

/--
A document is read from the record it is written as, and from whatever is left
of the record when null fields are taken out.
-/
theorem ofData?_of_pruned (document : DescriptionDocument) :
    ofData? .json document.toData = some document ∧
      ∀ data, document.toData.Pruned data → ofData? .json data = some document := by
  constructor
  · exact readsBack .json document document.toData (.same _)
  · intro data pruned
    exact readsBack .json document data pruned

/-- A widget whose slot holds an operation, with hardly anything given. -/
def bareShelf : DescriptionDocument where
  schemaVersion := 1
  views :=
    [{ id := "shelf"
       groups :=
        [{ id := "general"
           widgets :=
            [{ id := "title", name := "Title"
               detail := .primitiveRadio { set := some [.unset "title" none] } }] }] }]

/-- The record of the shelf without any of its null fields. -/
def compactShelf : Data :=
  .record
    [Data.field "schema_version" (.natural 1),
      Data.field "views" (.list
        [.record
          [Data.textField "id" "shelf", Data.field "domainNamespaces" (.list []),
            Data.field "groups" (.list
              [.record
                [Data.textField "id" "general",
                  Data.field "widgets" (.list
                    [.record
                      [Data.textField "id" "title", Data.textField "name" "Title",
                        Data.field "conditionalStyles" (.list []),
                        Data.textField "kind" "primitive-radio",
                        Data.field "operations" (.record
                          [Data.field "set" (.list
                            [.record
                              [Data.textField "op" "unset",
                                Data.textField "feature" "title"]])])]])]])]])]

theorem ofData?_compactShelf :
    bareShelf.toData.Pruned compactShelf ∧ ofData? .json compactShelf = some bareShelf := by
  have pruned : bareShelf.toData.Pruned compactShelf :=
    Data.pruned_withoutNulls bareShelf.toData
  exact ⟨pruned, (ofData?_of_pruned bareShelf).2 compactShelf pruned⟩

end DescriptionDocument

end FormWidgets
