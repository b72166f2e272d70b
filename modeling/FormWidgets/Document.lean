import FormWidgets.Containment
import FormWidgets.Widget.Description

/-!
# Description documents

A document holds views, a view holds groups and a group holds widgets.
-/

namespace FormWidgets

/-- A group of widgets. -/
structure GroupDescription where
  id : String
  label : Option String := none
  widgets : List WidgetDescription := []

/-- A view, with the namespaces that are visible from it. -/
structure ViewDescription where
  id : String
  label : Option String := none
  namespaces : List String := []
  groups : List GroupDescription := []

/-- A document of views. -/
structure DescriptionDocument where
  schemaVersion : UInt32
  views : List ViewDescription := []

/-- A widget with the view and the group that it lies in. -/
structure PlacedWidget where
  view : ViewDescription
  group : GroupDescription
  widget : WidgetDescription

namespace ViewDescription

/-- A view as the root of its elements. -/
def root (view : ViewDescription) : ViewRoot where
  id := view.id
  namespaces := view.namespaces

/-- The widgets of a view with their places, in order. -/
def placedWidgets (view : ViewDescription) : List PlacedWidget :=
  view.groups.flatMap fun group => group.widgets.map fun widget => ⟨view, group, widget⟩

/-- What the groups of a view and their widgets lie in, a group before its widgets. -/
def links (view : ViewDescription) : List (String × Container) :=
  view.groups.flatMap fun group =>
    (group.id, .view view.root)
      :: group.widgets.map fun widget => (widget.id, .element group.id)

end ViewDescription

namespace DescriptionDocument

/-- The version of the format that is supported. -/
def supportedVersion : UInt32 := 1

/-- The widgets of a document with their places, in document order. -/
def placedWidgets (document : DescriptionDocument) : List PlacedWidget :=
  document.views.flatMap ViewDescription.placedWidgets

/-- What the groups and widgets of a document lie in, in document order. -/
def links (document : DescriptionDocument) : List (String × Container) :=
  document.views.flatMap ViewDescription.links

end DescriptionDocument

end FormWidgets
