import FormWidgets.Configuration
import FormWidgets.Text.Cut
import FormWidgets.Widget.Kind

/-!
# Description ids

The id under which a host asks for a widget: the kind of the source, the tag of
the widget kind and the id of the element, joined by colons.  Reading cuts at
the first two colons, so the element id may hold further ones.
-/

namespace FormWidgets

/-- The three parts of a description id. -/
structure DescriptionId where
  sourceKind : String
  widgetKind : WidgetKind
  element : String
deriving DecidableEq, Repr

namespace DescriptionId

/-- The text of a description id. -/
def text (id : DescriptionId) : String :=
  id.sourceKind ++ ":" ++ id.widgetKind.tag ++ ":" ++ id.element

/-- Read a description id; the source kind and the element may not be empty. -/
def parse? (text : String) : Option DescriptionId := do
  let (sourceKind, tagged) ← Text.cut? [':'] text.toList
  let (tag, element) ← Text.cut? [':'] tagged
  let widgetKind ← WidgetKind.ofTag? (String.ofList tag)
  if sourceKind.isEmpty || element.isEmpty then none
  else some ⟨String.ofList sourceKind, widgetKind, String.ofList element⟩

end DescriptionId

namespace Configuration

/-- Whether an engine handles a description id. -/
def canHandle (configuration : Configuration) (text : String) : Bool :=
  (DescriptionId.parse? text).any fun id =>
    configuration.acceptedSourceKinds.contains id.sourceKind

end Configuration

end FormWidgets
