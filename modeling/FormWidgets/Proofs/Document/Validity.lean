import FormWidgets.Document.Validation
import Mathlib

/-!
# Valid documents

A document passes validation exactly when its version is the supported one and
its elements, taken together, have ids that are visible and distinct and names
that are visible.  The elements are the views on the one hand and what lies in a
view on the other, so no view shares its id with a group or a widget.
-/

namespace FormWidgets

namespace DocumentElement

/-- An element whose id and name, if it has one, can be seen. -/
def IsLegible (element : DocumentElement) : Prop :=
  Text.isBlank element.id = false ∧ element.name.any Text.isBlank = false

theorem check_eq_ok_iff (taken : List String) (element : DocumentElement) :
    element.check taken = .ok () ↔ element.IsLegible ∧ element.id ∉ taken := by
  rw [check, IsLegible]
  cases Text.isBlank element.id with
  | true => simp
  | false =>
      by_cases used : element.id ∈ taken
      · simp [used]
      · cases element.name.any Text.isBlank with
        | true => simp [used]
        | false => simp [used]

theorem checkAll_cons_eq_ok_iff (taken : List String) (element : DocumentElement)
    (rest : List DocumentElement) :
    checkAll taken (element :: rest) = .ok () ↔
      element.check taken = .ok () ∧ checkAll (element.id :: taken) rest = .ok () := by
  rw [checkAll]
  cases element.check taken with
  | error error =>
      constructor
      · intro fails
        cases fails
      · rintro ⟨⟨⟩, _⟩
  | ok passed =>
      constructor
      · intro passes
        exact ⟨rfl, passes⟩
      · rintro ⟨_, passes⟩
        exact passes

/-- Checking in order accepts legible elements with ids of their own. -/
theorem checkAll_eq_ok_iff (taken : List String) (elements : List DocumentElement) :
    checkAll taken elements = .ok () ↔
      (∀ element ∈ elements, element.IsLegible) ∧
        (elements.map DocumentElement.id).Nodup ∧
        ∀ element ∈ elements, element.id ∉ taken := by
  induction elements generalizing taken with
  | nil => simp [checkAll]
  | cons element rest step =>
      rw [checkAll_cons_eq_ok_iff, check_eq_ok_iff, step, List.forall_mem_cons,
        List.forall_mem_cons, List.map_cons, List.nodup_cons]
      simp only [List.mem_cons, not_or, List.mem_map, not_exists, not_and]
      constructor
      · rintro ⟨⟨legible, fresh⟩, others, distinct, apart⟩
        exact ⟨⟨legible, others⟩, ⟨fun other member => (apart other member).1, distinct⟩,
          fresh, fun other member => (apart other member).2⟩
      · rintro ⟨⟨legible, others⟩, ⟨own, distinct⟩, fresh, apart⟩
        exact ⟨⟨legible, fresh⟩, others, distinct,
          fun other member => ⟨own other member, apart other member⟩⟩

end DocumentElement

namespace ViewDescription

theorem ids_elements (view : ViewDescription) :
    view.elements.map DocumentElement.id = view.id :: view.links.map Prod.fst := by
  simp only [elements, links, GroupDescription.elements, List.map_cons, List.map_flatMap,
    List.map_map, Function.comp_def]

theorem widgetIds_sublist (view : ViewDescription) :
    (view.placedWidgets.map fun placed => placed.widget.id).Sublist
      (view.links.map Prod.fst) := by
  simp only [placedWidgets, links, List.map_flatMap, List.map_map, List.map_cons,
    Function.comp_def]
  exact List.Sublist.flatMap_right _ fun group _ => List.sublist_cons_self _ _

end ViewDescription

namespace DescriptionDocument

variable {document : DescriptionDocument}

theorem mem_elements_iff {element : DocumentElement} :
    element ∈ document.elements ↔
      ∃ view ∈ document.views, element = ⟨.view, view.id, none⟩ ∨
        ∃ group ∈ view.groups, element = ⟨.group, group.id, none⟩ ∨
          ∃ widget ∈ group.widgets, element = ⟨.widget, widget.id, some widget.name⟩ := by
  simp only [elements, ViewDescription.elements, GroupDescription.elements, List.mem_flatMap,
    List.mem_cons, List.mem_map, eq_comm (b := element)]

theorem validate_eq_ok_iff :
    document.validate = .ok () ↔
      document.schemaVersion = supportedVersion ∧
        (∀ element ∈ document.elements, element.IsLegible) ∧
        (document.elements.map DocumentElement.id).Nodup := by
  rw [validate]
  split
  · rename_i other
    simp [other]
  · rename_i supported
    rw [DocumentElement.checkAll_eq_ok_iff]
    simp [not_not.mp supported]

/-- The ids of a document are those of its views and of what lies in them. -/
theorem ids_elements_perm (document : DescriptionDocument) :
    (document.views.map ViewDescription.id ++ document.links.map Prod.fst).Perm
      (document.elements.map DocumentElement.id) := by
  have ids : document.elements.map DocumentElement.id =
      document.views.flatMap fun view => [view.id] ++ view.links.map Prod.fst := by
    simp only [elements, List.map_flatMap, ViewDescription.ids_elements,
      List.cons_append, List.nil_append]
  rw [ids, links, List.map_flatMap, List.map_eq_flatMap]
  exact List.flatMap_append_perm _ _ _

theorem widgetIds_sublist (document : DescriptionDocument) :
    (document.placedWidgets.map fun placed => placed.widget.id).Sublist
      (document.links.map Prod.fst) := by
  rw [placedWidgets, links, List.map_flatMap, List.map_flatMap]
  exact List.Sublist.flatMap_right _ fun view _ => view.widgetIds_sublist

variable (valid : document.validate = .ok ())
include valid

theorem isLegible_widget_of_valid {view : ViewDescription} (inDocument : view ∈ document.views)
    {group : GroupDescription} (inView : group ∈ view.groups)
    {widget : WidgetDescription} (inGroup : widget ∈ group.widgets) :
    (DocumentElement.mk .widget widget.id (some widget.name)).IsLegible := by
  apply (validate_eq_ok_iff.mp valid).2.1
  rw [mem_elements_iff]
  exact ⟨view, inDocument, .inr ⟨group, inView, .inr ⟨widget, inGroup, rfl⟩⟩⟩

theorem nodup_ids_of_valid :
    (document.views.map ViewDescription.id ++ document.links.map Prod.fst).Nodup :=
  document.ids_elements_perm.nodup_iff.mpr (validate_eq_ok_iff.mp valid).2.2

theorem nodup_linkedIds_of_valid : (document.links.map Prod.fst).Nodup :=
  (List.nodup_append.mp (nodup_ids_of_valid valid)).2.1

theorem nodup_widgetIds_of_valid :
    (document.placedWidgets.map fun placed => placed.widget.id).Nodup :=
  (nodup_linkedIds_of_valid valid).sublist document.widgetIds_sublist

theorem view_id_not_linked_of_valid {view : ViewDescription} (member : view ∈ document.views) :
    view.id ∉ document.links.map Prod.fst :=
  List.disjoint_of_nodup_append (nodup_ids_of_valid valid) (List.mem_map_of_mem member)

end DescriptionDocument

end FormWidgets
