import FormWidgets.Document
import FormWidgets.EngineError

/-!
# Validation of documents

A document is valid when its version is the supported one, no id and no widget
name is blank, and no two elements share an id.  Views, groups and widgets
count as elements alike.

The first violation in document order is reported, the version before all
elements.
-/

namespace FormWidgets

/-- The sorts of elements of a document. -/
inductive ElementRole where
  | view
  | group
  | widget
deriving DecidableEq, Repr

namespace ElementRole

/-- The word for a sort of elements. -/
def word : ElementRole → String
  | .view => "view"
  | .group => "group"
  | .widget => "widget"

end ElementRole

/-- What validation looks at in an element of a document. -/
structure DocumentElement where
  role : ElementRole
  id : String
  /-- The name, which only widgets have. -/
  name : Option String := none
deriving DecidableEq, Repr

namespace DocumentElement

/-- Check an element that follows elements with given ids. -/
def check (taken : List String) (element : DocumentElement) : Except EngineError Unit :=
  if Text.isBlank element.id then
    .error (.invalidElement element.id (element.role.word ++ " id is blank"))
  else if taken.contains element.id then
    .error (.duplicateElement element.id)
  else if element.name.any Text.isBlank then
    .error (.invalidElement element.id "widget name is blank")
  else .ok ()

/-- Check elements in order, up to the first violation. -/
def checkAll (taken : List String) : List DocumentElement → Except EngineError Unit
  | [] => .ok ()
  | element :: rest => do
      element.check taken
      checkAll (element.id :: taken) rest

end DocumentElement

namespace GroupDescription

/-- A group and then its widgets, as elements. -/
def elements (group : GroupDescription) : List DocumentElement :=
  ⟨.group, group.id, none⟩
    :: group.widgets.map fun widget => ⟨.widget, widget.id, some widget.name⟩

end GroupDescription

namespace ViewDescription

/-- A view and then its groups, as elements. -/
def elements (view : ViewDescription) : List DocumentElement :=
  ⟨.view, view.id, none⟩ :: view.groups.flatMap GroupDescription.elements

end ViewDescription

namespace DescriptionDocument

/-- The elements of a document, in document order. -/
def elements (document : DescriptionDocument) : List DocumentElement :=
  document.views.flatMap ViewDescription.elements

/-- Check the rules that every document follows. -/
def validate (document : DescriptionDocument) : Except EngineError Unit :=
  if document.schemaVersion ≠ supportedVersion then
    .error (.unsupportedVersion document.schemaVersion supportedVersion)
  else DocumentElement.checkAll [] document.elements

end DescriptionDocument

end FormWidgets
