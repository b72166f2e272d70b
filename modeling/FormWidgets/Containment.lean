import FormWidgets.NameMap

/-!
# Containment of description elements

Each element of a description lies in a view or in another element.  The links
form a finite map that need not be a forest: they may dangle or run in a
circle.  Walking upward drops every link it follows, so the walk ends; dropping
a followed link loses nothing, because a second visit means a circle.
-/

namespace FormWidgets

/-- A view as the root of its elements, with the namespaces visible from it. -/
structure ViewRoot where
  id : String
  namespaces : List String
deriving DecidableEq, Repr

/-- What an element lies in. -/
inductive Container where
  | view (root : ViewRoot)
  | element (id : String)
deriving DecidableEq, Repr

/-- The containers of elements by element id. -/
abbrev ContainmentLinks := NameMap Container

namespace ContainmentLinks

/-- The view reached by walking upward from an element. -/
def owningView? (links : ContainmentLinks) (id : String) : Option ViewRoot :=
  match _found : links.find? id with
  | none => none
  | some (.view root) => some root
  | some (.element parent) => owningView? (links.erase id) parent
termination_by links.size
decreasing_by exact NameMap.size_erase_lt _found

end ContainmentLinks

end FormWidgets
