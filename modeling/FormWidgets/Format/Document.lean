import FormWidgets.Document
import FormWidgets.Format.Widget

/-!
# Written documents

The form of description documents.  Writing gives every field, absent ones as
null; reading fills in a default for every field but ids, names, kinds and the
version.
-/

namespace FormWidgets

namespace GroupDescription

/-- The names of the fields of a group, in order. -/
def fieldNames : List String :=
  ["id", "label", "widgets"]

/-- What is read of a group. -/
def outline : Outline :=
  .ofFields ["id", "label"] [("widgets", .items WidgetDescription.outline)]

/-- A group as a record. -/
def toData (group : GroupDescription) : Data :=
  .record
    [Data.textField "id" group.id, Data.optionalTextField "label" group.label,
      Data.field "widgets" (.list (group.widgets.map WidgetDescription.toData))]

/-- Read a group. -/
def ofData? (form : Notation) (data : Data) : Option GroupDescription := do
  let fields ← data.fields? form fieldNames
  some
    { id := ← fields.required "id" Data.text?
      label := ← Data.optionalTextOf fields "label"
      widgets := ←
        fields.defaulted "widgets" [] (Data.listOf? (WidgetDescription.ofData? form)) }

end GroupDescription

namespace ViewDescription

/-- The names of the fields of a view, in order. -/
def fieldNames : List String :=
  ["id", "label", "domainNamespaces", "groups"]

/-- What is read of a view. -/
def outline : Outline :=
  .ofFields ["id", "label", "domainNamespaces"] [("groups", .items GroupDescription.outline)]

/-- A view as a record. -/
def toData (view : ViewDescription) : Data :=
  .record
    [Data.textField "id" view.id, Data.optionalTextField "label" view.label,
      Data.field "domainNamespaces" (.list (view.namespaces.map Data.text)),
      Data.field "groups" (.list (view.groups.map GroupDescription.toData))]

/-- Read a view. -/
def ofData? (form : Notation) (data : Data) : Option ViewDescription := do
  let fields ← data.fields? form fieldNames
  some
    { id := ← fields.required "id" Data.text?
      label := ← Data.optionalTextOf fields "label"
      namespaces := ← fields.defaulted "domainNamespaces" [] (Data.listOf? Data.text?)
      groups := ←
        fields.defaulted "groups" [] (Data.listOf? (GroupDescription.ofData? form)) }

end ViewDescription

namespace DescriptionDocument

/-- The names of the fields of a document, in order. -/
def fieldNames : List String :=
  ["schema_version", "views"]

/-- What is read of a document. -/
def outline : Outline :=
  .ofFields ["schema_version"] [("views", .items ViewDescription.outline)]

/-- A document as a record. -/
def toData (document : DescriptionDocument) : Data :=
  .record
    [Data.field "schema_version" (.natural document.schemaVersion.toNat),
      Data.field "views" (.list (document.views.map ViewDescription.toData))]

/-- Read a document. -/
def ofData? (form : Notation) (data : Data) : Option DescriptionDocument := do
  let fields ← data.fields? form fieldNames
  some
    { schemaVersion := ← fields.required "schema_version" Data.word?
      views := ← fields.defaulted "views" [] (Data.listOf? (ViewDescription.ofData? form)) }

end DescriptionDocument

end FormWidgets
