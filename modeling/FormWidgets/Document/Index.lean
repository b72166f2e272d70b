import FormWidgets.Document

/-!
# Index of a document

Widgets by id and the containers of groups and widgets by id.  Of elements that
share an id, the last in document order counts, a group being counted just
before its widgets.
-/

namespace FormWidgets

/-- A document with its widgets and containers by id. -/
structure DescriptionIndex where
  document : DescriptionDocument
  widgets : NameMap WidgetDescription
  links : ContainmentLinks

namespace DescriptionIndex

/-- The index of a document. -/
def ofDocument (document : DescriptionDocument) : DescriptionIndex where
  document := document
  widgets :=
    NameMap.ofList (document.placedWidgets.map fun placed => (placed.widget.id, placed.widget))
  links := NameMap.ofList document.links

variable (index : DescriptionIndex)

/-- The widget with an id. -/
def widget? (id : String) : Option WidgetDescription :=
  index.widgets.find? id

/-- The number of widgets with distinct ids. -/
def size : Nat :=
  index.widgets.size

/-- What an element lies in. -/
def container? (id : String) : Option Container :=
  index.links.find? id

/-- The view that an element lies in, over any number of levels. -/
def owningView? (id : String) : Option ViewRoot :=
  index.links.owningView? id

end DescriptionIndex

end FormWidgets
