import FormWidgets.Document.Index
import FormWidgets.Proofs.Containment.UpwardWalk
import FormWidgets.Proofs.Document.Validity
import Mathlib

/-!
# Placement in an index

The index of a document is filled by name, and later elements replace earlier
ones of their name.  For a valid document nothing is replaced: the index finds
every widget, gives the place of every group and widget, and knows of nothing
else.  Walking upward in it leads from a group and from a widget to the view in
which the document has them.
-/

namespace FormWidgets

namespace DescriptionDocument

theorem mem_links_iff {document : DescriptionDocument} {link : String × Container} :
    link ∈ document.links ↔
      ∃ view ∈ document.views, ∃ group ∈ view.groups,
        link = (group.id, .view ⟨view.id, view.namespaces⟩) ∨
          ∃ widget ∈ group.widgets, link = (widget.id, .element group.id) := by
  simp only [links, ViewDescription.links, ViewDescription.root, List.mem_flatMap, List.mem_cons,
    List.mem_map, eq_comm (a := link)]

theorem mem_placedWidgets_iff {document : DescriptionDocument} {placed : PlacedWidget} :
    placed ∈ document.placedWidgets ↔
      placed.view ∈ document.views ∧ placed.group ∈ placed.view.groups ∧
        placed.widget ∈ placed.group.widgets := by
  simp only [placedWidgets, ViewDescription.placedWidgets, List.mem_flatMap, List.mem_map]
  constructor
  · rintro ⟨view, inDocument, group, inView, widget, inGroup, rfl⟩
    exact ⟨inDocument, inView, inGroup⟩
  · rintro ⟨inDocument, inView, inGroup⟩
    exact ⟨_, inDocument, _, inView, _, inGroup, rfl⟩

end DescriptionDocument

namespace DescriptionIndex

/-- An index finds each element of a document where the document has it, and no others. -/
structure Locates (index : DescriptionIndex) (document : DescriptionDocument) : Prop where
  view : ∀ view ∈ document.views, index.container? view.id = none
  group : ∀ view ∈ document.views, ∀ group ∈ view.groups,
    index.container? group.id = some (.view ⟨view.id, view.namespaces⟩) ∧
      index.owningView? group.id = some ⟨view.id, view.namespaces⟩
  widget : ∀ view ∈ document.views, ∀ group ∈ view.groups, ∀ widget ∈ group.widgets,
    index.widget? widget.id = some widget ∧
      index.container? widget.id = some (.element group.id) ∧
      index.owningView? widget.id = some ⟨view.id, view.namespaces⟩
  size : index.size = document.placedWidgets.length
  noWidget : ∀ id,
    (∀ view ∈ document.views, ∀ group ∈ view.groups, ∀ widget ∈ group.widgets,
      widget.id ≠ id) →
    index.widget? id = none
  noElement : ∀ id,
    (∀ view ∈ document.views, ∀ group ∈ view.groups, group.id ≠ id ∧
      ∀ widget ∈ group.widgets, widget.id ≠ id) →
    index.container? id = none ∧ index.owningView? id = none

variable {document : DescriptionDocument}

section Valid

variable (valid : document.validate = .ok ())
include valid

theorem container?_of_mem_links {id : String} {container : Container}
    (linked : (id, container) ∈ document.links) :
    (ofDocument document).container? id = some container :=
  NameMap.find?_ofList_of_mem (DescriptionDocument.nodup_linkedIds_of_valid valid) linked

theorem widget?_of_mem_placedWidgets {placed : PlacedWidget}
    (member : placed ∈ document.placedWidgets) :
    (ofDocument document).widget? placed.widget.id = some placed.widget := by
  apply NameMap.find?_ofList_of_mem
  · rw [List.map_map]
    exact DescriptionDocument.nodup_widgetIds_of_valid valid
  · exact List.mem_map.mpr ⟨placed, member, rfl⟩

theorem size_of_valid : (ofDocument document).size = document.placedWidgets.length := by
  rw [size, ofDocument, NameMap.size_ofList, List.map_map]
  have distinct : (document.placedWidgets.map (Prod.fst ∘ fun placed =>
      (placed.widget.id, placed.widget))).Nodup :=
    DescriptionDocument.nodup_widgetIds_of_valid valid
  rw [distinct.dedup, List.length_map]

end Valid

theorem container?_eq_none_iff {id : String} :
    (ofDocument document).container? id = none ↔ id ∉ document.links.map Prod.fst :=
  NameMap.find?_ofList_eq_none_iff

theorem widget?_eq_none_iff {id : String} :
    (ofDocument document).widget? id = none ↔
      ∀ placed ∈ document.placedWidgets, placed.widget.id ≠ id := by
  rw [widget?, ofDocument, NameMap.find?_ofList_eq_none_iff, List.map_map, List.mem_map]
  simp only [Function.comp_apply, not_exists, not_and, ne_eq]

/-! ## The index of a valid document -/

/--
The index of a valid document agrees with the document, in what it finds, in
where it walks and in how much it holds.
-/
theorem locates_of_valid (valid : document.validate = .ok ()) :
    (ofDocument document).Locates document where
  view view member := by
    rw [container?_eq_none_iff]
    exact DescriptionDocument.view_id_not_linked_of_valid valid member
  group view inDocument group inView := by
    have linked : (group.id, Container.view ⟨view.id, view.namespaces⟩) ∈ document.links :=
      DescriptionDocument.mem_links_iff.mpr ⟨view, inDocument, group, inView, .inl rfl⟩
    have found := container?_of_mem_links valid linked
    exact ⟨found, ContainmentLinks.owningView?_of_view found⟩
  widget view inDocument group inView widget inGroup := by
    have placed : PlacedWidget.mk view group widget ∈ document.placedWidgets :=
      DescriptionDocument.mem_placedWidgets_iff.mpr ⟨inDocument, inView, inGroup⟩
    have inner : (widget.id, Container.element group.id) ∈ document.links :=
      DescriptionDocument.mem_links_iff.mpr
        ⟨view, inDocument, group, inView, .inr ⟨widget, inGroup, rfl⟩⟩
    have outer : (group.id, Container.view ⟨view.id, view.namespaces⟩) ∈ document.links :=
      DescriptionDocument.mem_links_iff.mpr ⟨view, inDocument, group, inView, .inl rfl⟩
    have found := container?_of_mem_links valid inner
    refine ⟨widget?_of_mem_placedWidgets valid placed, found, ?_⟩
    exact ContainmentLinks.owningView?_of_element_in_view found
      (container?_of_mem_links valid outer)
  size := size_of_valid valid
  noWidget id absent := by
    rw [widget?_eq_none_iff]
    intro placed member
    obtain ⟨inDocument, inView, inGroup⟩ :=
      DescriptionDocument.mem_placedWidgets_iff.mp member
    exact absent _ inDocument _ inView _ inGroup
  noElement id absent := by
    have unlinked : (ofDocument document).container? id = none := by
      rw [container?_eq_none_iff]
      intro listed
      obtain ⟨link, member, rfl⟩ := List.mem_map.mp listed
      obtain ⟨view, inDocument, group, inView, rfl | ⟨widget, inGroup, rfl⟩⟩ :=
        DescriptionDocument.mem_links_iff.mp member
      · exact (absent view inDocument group inView).1 rfl
      · exact (absent view inDocument group inView).2 widget inGroup rfl
    exact ⟨unlinked, ContainmentLinks.owningView?_eq_none unlinked⟩

/-- Two views, of which the second has a group without widgets. -/
def libraryDocument : DescriptionDocument where
  schemaVersion := 1
  views :=
    [{ id := "library", namespaces := ["books", "people"]
       groups :=
        [{ id := "general"
           widgets :=
            [{ id := "title", name := "Title", detail := .primitiveRadio {} },
              { id := "authors", name := "Authors", detail := .multiReference {} }] },
          { id := "details"
            widgets := [{ id := "notes", name := "Notes", detail := .primitiveList {} }] }] },
      { id := "shelf", groups := [{ id := "empty" }] }]

/-- From a widget and from its group the walk leads to the library, with both its namespaces. -/
theorem locates_libraryDocument :
    let index := ofDocument libraryDocument
    let library : ViewRoot := ⟨"library", ["books", "people"]⟩
    libraryDocument.validate = .ok () ∧ index.Locates libraryDocument ∧
      index.container? "details" = some (.view library) ∧
      index.owningView? "details" = some library ∧
      index.container? "notes" = some (.element "details") ∧
      index.owningView? "notes" = some library ∧
      index.owningView? "empty" = some ⟨"shelf", []⟩ := by
  intro index library
  have valid : libraryDocument.validate = .ok () := by decide +kernel
  have locates : index.Locates libraryDocument := locates_of_valid valid
  have inDocument : libraryDocument.views[0] ∈ libraryDocument.views := List.mem_cons_self
  have inView : libraryDocument.views[0].groups[1] ∈ libraryDocument.views[0].groups :=
    List.mem_cons_of_mem _ List.mem_cons_self
  obtain ⟨container, view⟩ := locates.group _ inDocument _ inView
  obtain ⟨_, group, viewOfWidget⟩ := locates.widget _ inDocument _ inView _ List.mem_cons_self
  have ofShelf := (locates.group _ (List.mem_cons_of_mem _ List.mem_cons_self) _
    List.mem_cons_self).2
  exact ⟨valid, locates, container, view, group, viewOfWidget, ofShelf⟩

end DescriptionIndex

end FormWidgets
