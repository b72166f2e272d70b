import FormWidgets.DescriptionId
import FormWidgets.Document

/-!
# Listings of documents

One line for each widget of a document: its description id, its place and its
declared slots.
-/

namespace FormWidgets

namespace DeclaredSlot

/-- A slot with the number of its operations. -/
def text (slot : DeclaredSlot) : String :=
  slot.name ++ "(" ++ toString slot.operationCount ++ ")"

/-- Slots in one line, a dash for none. -/
def lineOf (slots : List DeclaredSlot) : String :=
  if slots.isEmpty then "-" else ", ".intercalate (slots.map text)

end DeclaredSlot

namespace PlacedWidget

/-- The id under which a source of some kind shows a widget. -/
def descriptionId (sourceKind : String) (placed : PlacedWidget) : DescriptionId where
  sourceKind := sourceKind
  widgetKind := placed.widget.kind
  element := placed.widget.id

/-- The line for a widget. -/
def line (sourceKind : String) (placed : PlacedWidget) : String :=
  (placed.descriptionId sourceKind).text ++ "\t" ++ placed.view.id ++ "/" ++ placed.group.id
    ++ "\t" ++ DeclaredSlot.lineOf placed.widget.declaredSlots ++ "\n"

end PlacedWidget

namespace DescriptionDocument

/-- The lines for the widgets of a document, and their number. -/
def listing (document : DescriptionDocument) (sourceKind : String) : String :=
  let placed := document.placedWidgets
  String.join (placed.map (PlacedWidget.line sourceKind))
    ++ toString placed.length ++ " widget(s)\n"

end DescriptionDocument

end FormWidgets
