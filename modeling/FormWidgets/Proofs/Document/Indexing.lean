import FormWidgets.Proofs.Containment.Ending
import FormWidgets.Proofs.Document.Placement
import Mathlib

/-!
# Filling an index

An index is filled in one pass over the views, their groups and the widgets of these.
Every group and every widget puts its container under its id, and every widget its
position too, so an id that comes again replaces what stood under it.  What the pass
has entered so far is the invariant of its three loops.

No document is refused here: ids may be blank, they may come again in another role, and
a widget may have the id of its own group, which then lies in itself.  The index still
says what the last element of an id is, and walks upward end.
-/

namespace FormWidgets

/-- A group or a widget with its place in a document. -/
inductive PlacedElement where
  | group (view : ViewDescription) (own : GroupDescription)
  | widget (placed : PlacedWidget)

namespace PlacedElement

def id : PlacedElement → String
  | .group _ own => own.id
  | .widget placed => placed.widget.id

/-- A group lies in its view, and a widget in its group. -/
def container : PlacedElement → Container
  | .group view _ => .view ⟨view.id, view.namespaces⟩
  | .widget placed => .element placed.group.id

end PlacedElement

/-- The positions of a view in a document, of a group in the view and of a widget in the group. -/
structure WidgetPosition where
  view : Nat
  group : Nat
  widget : Nat
deriving DecidableEq, Repr

namespace DescriptionDocument

/-- The groups and widgets of a document, a group just before its widgets. -/
def placedElements (document : DescriptionDocument) : List PlacedElement :=
  document.views.flatMap fun view => view.groups.flatMap fun group =>
    .group view group :: group.widgets.map fun widget => .widget ⟨view, group, widget⟩

/-- The widgets of a document with their positions. -/
def positionedWidgets (document : DescriptionDocument) : List (PlacedWidget × WidgetPosition) :=
  document.views.zipIdx.flatMap fun view => view.1.groups.zipIdx.flatMap fun group =>
    group.1.widgets.zipIdx.map fun widget =>
      (⟨view.1, group.1, widget.1⟩, ⟨view.2, group.2, widget.2⟩)

/-- The widget that stands at a position. -/
def widgetAt? (document : DescriptionDocument) (position : WidgetPosition) :
    Option WidgetDescription := do
  let view ← document.views[position.view]?
  let group ← view.groups[position.group]?
  group.widgets[position.widget]?

variable {document : DescriptionDocument}

theorem links_eq_map (document : DescriptionDocument) :
    document.links = document.placedElements.map fun element => (element.id, element.container) := by
  simp only [placedElements, List.map_flatMap, List.map_cons, List.map_map]
  rfl

/-- Positions beside the items make no difference to what is made of the items. -/
theorem flatMap_zipIdx_eq {Item Result : Type} {items : List Item}
    {numbered : Item × Nat → List Result} {results : Item → List Result}
    (same : ∀ item, numbered item = results item.1) :
    items.zipIdx.flatMap numbered = items.flatMap results := by
  rw [funext same, ← List.flatMap_map, List.zipIdx_map_fst]

theorem map_fst_positionedWidgets (document : DescriptionDocument) :
    document.positionedWidgets.map Prod.fst = document.placedWidgets := by
  rw [positionedWidgets, List.map_flatMap]
  apply flatMap_zipIdx_eq
  intro view
  rw [List.map_flatMap]
  apply flatMap_zipIdx_eq
  intro group
  conv_rhs => rw [← List.zipIdx_map_fst 0 group.1.widgets]
  rw [List.map_map, List.map_map]
  rfl

theorem widgetAt?_of_mem_positionedWidgets {placed : PlacedWidget × WidgetPosition}
    (member : placed ∈ document.positionedWidgets) :
    document.widgetAt? placed.2 = some placed.1.widget := by
  simp only [positionedWidgets, List.mem_flatMap, List.mem_map] at member
  obtain ⟨view, inDocument, group, inView, widget, inGroup, rfl⟩ := member
  rw [List.mem_zipIdx_iff_getElem?] at inDocument inView inGroup
  simp [widgetAt?, inDocument, inView, inGroup]

end DescriptionDocument

/-! ## The pass over a document -/

/-- An index while it is filled: the containers by id, and the positions of the widgets by id. -/
structure IndexFilling where
  links : ContainmentLinks
  positions : NameMap WidgetPosition

namespace IndexFilling

def empty : IndexFilling where
  links := NameMap.empty
  positions := NameMap.empty

/-- Enter a widget of a group, whose view and which itself stand at given positions. -/
def enterWidget (group : GroupDescription) (viewPosition groupPosition : Nat)
    (filling : IndexFilling) (widget : WidgetDescription × Nat) : IndexFilling where
  links := filling.links.put widget.1.id (.element group.id)
  positions := filling.positions.put widget.1.id ⟨viewPosition, groupPosition, widget.2⟩

/-- Enter a group of a view, and then its widgets. -/
def enterGroup (view : ViewDescription) (viewPosition : Nat) (filling : IndexFilling)
    (group : GroupDescription × Nat) : IndexFilling :=
  group.1.widgets.zipIdx.foldl (enterWidget group.1 viewPosition group.2)
    { filling with links := filling.links.put group.1.id (.view ⟨view.id, view.namespaces⟩) }

/-- Enter the groups of a view. -/
def enterView (filling : IndexFilling) (view : ViewDescription × Nat) : IndexFilling :=
  view.1.groups.zipIdx.foldl (enterGroup view.1 view.2) filling

/-- Enter the views of a document. -/
def ofDocument (document : DescriptionDocument) : IndexFilling :=
  document.views.zipIdx.foldl enterView empty

/-- What a filling holds of the elements and the widgets that were entered: under each id the last. -/
structure Holds (filling : IndexFilling) (elements : List PlacedElement)
    (widgets : List (PlacedWidget × WidgetPosition)) : Prop where
  links : filling.links =
    NameMap.ofList (elements.map fun element => (element.id, element.container))
  positions : filling.positions =
    NameMap.ofList (widgets.map fun placed => (placed.1.widget.id, placed.2))

variable {filling : IndexFilling} {elements : List PlacedElement}
  {widgets : List (PlacedWidget × WidgetPosition)}

/-- A loop over numbered items holds what was entered before it and what each of its rounds enters. -/
theorem Holds.foldl {Item : Type} {enter : IndexFilling → Item × Nat → IndexFilling}
    {itsElements : Item → List PlacedElement}
    {itsWidgets : Item × Nat → List (PlacedWidget × WidgetPosition)}
    (round : ∀ {filling elements widgets} item, Holds filling elements widgets →
      Holds (enter filling item) (elements ++ itsElements item.1) (widgets ++ itsWidgets item))
    (holds : Holds filling elements widgets) (items : List Item) (first : Nat) :
    Holds ((items.zipIdx first).foldl enter filling) (elements ++ items.flatMap itsElements)
      (widgets ++ (items.zipIdx first).flatMap itsWidgets) := by
  induction items generalizing filling elements widgets first with
  | nil => simpa using holds
  | cons item rest later =>
      simp only [List.zipIdx_cons, List.foldl_cons, List.flatMap_cons, ← List.append_assoc]
      exact later (round (item, first) holds) (first + 1)

theorem Holds.enterWidget (holds : Holds filling elements widgets) (view : ViewDescription)
    (group : GroupDescription) (viewPosition groupPosition : Nat)
    (widget : WidgetDescription × Nat) :
    Holds (filling.enterWidget group viewPosition groupPosition widget)
      (elements ++ [.widget ⟨view, group, widget.1⟩])
      (widgets ++ [(⟨view, group, widget.1⟩, ⟨viewPosition, groupPosition, widget.2⟩)]) := by
  constructor
  case links =>
    rw [List.map_append, List.map_singleton, NameMap.ofList_append_singleton, ← holds.links]
    rfl
  case positions =>
    rw [List.map_append, List.map_singleton, NameMap.ofList_append_singleton, ← holds.positions]
    rfl

theorem Holds.enterGroup (holds : Holds filling elements widgets) (view : ViewDescription)
    (viewPosition : Nat) (group : GroupDescription × Nat) :
    Holds (filling.enterGroup view viewPosition group)
      (elements ++ .group view group.1 ::
        group.1.widgets.map fun widget => .widget ⟨view, group.1, widget⟩)
      (widgets ++ group.1.widgets.zipIdx.map fun widget =>
        (⟨view, group.1, widget.1⟩, ⟨viewPosition, group.2, widget.2⟩)) := by
  have entered : Holds
      { filling with links := filling.links.put group.1.id (.view ⟨view.id, view.namespaces⟩) }
      (elements ++ [.group view group.1]) widgets := by
    constructor
    case links =>
      rw [List.map_append, List.map_singleton, NameMap.ofList_append_singleton, ← holds.links]
      rfl
    case positions => exact holds.positions
  rw [List.append_cons, List.map_eq_flatMap, List.map_eq_flatMap]
  exact entered.foldl
    (fun widget before => before.enterWidget view group.1 viewPosition group.2 widget)
    group.1.widgets 0

theorem Holds.enterView (holds : Holds filling elements widgets) (view : ViewDescription × Nat) :
    Holds (filling.enterView view)
      (elements ++ view.1.groups.flatMap fun group => .group view.1 group ::
        group.widgets.map fun widget => .widget ⟨view.1, group, widget⟩)
      (widgets ++ view.1.groups.zipIdx.flatMap fun group => group.1.widgets.zipIdx.map fun widget =>
        (⟨view.1, group.1, widget.1⟩, ⟨view.2, group.2, widget.2⟩)) :=
  holds.foldl (fun group before => before.enterGroup view.1 view.2 group) view.1.groups 0

/-- The pass over a document enters its groups and widgets in document order. -/
theorem holds_ofDocument (document : DescriptionDocument) :
    Holds (ofDocument document) document.placedElements document.positionedWidgets := by
  have nothing : Holds empty [] [] := ⟨rfl, rfl⟩
  exact nothing.foldl (fun view before => before.enterView view) document.views 0

end IndexFilling

/-! ## The index of a document -/

namespace DescriptionIndex

variable {document : DescriptionDocument} {id : String}

theorem widget?_eq_find? :
    (ofDocument document).widget? id =
      (document.positionedWidgets.reverse.find? fun placed => placed.1.widget.id = id).map
        fun placed => placed.1.widget := by
  rw [widget?, ofDocument, ← document.map_fst_positionedWidgets, List.map_map]
  exact NameMap.find?_ofList_map _ _ _ _

/-- The widget at the position under an id is the one that the index finds. -/
theorem bind_widgetAt?_eq_widget? :
    ((IndexFilling.ofDocument document).positions.find? id).bind document.widgetAt? =
      (ofDocument document).widget? id := by
  rw [(IndexFilling.holds_ofDocument document).positions, NameMap.find?_ofList_map,
    widget?_eq_find?]
  cases found : document.positionedWidgets.reverse.find? fun placed => placed.1.widget.id = id with
  | none => rfl
  | some placed =>
      have member := List.mem_reverse.mp (List.mem_of_find?_eq_some found)
      exact DescriptionDocument.widgetAt?_of_mem_positionedWidgets member

theorem links_eq_of_filling :
    (IndexFilling.ofDocument document).links = (ofDocument document).links := by
  rw [(IndexFilling.holds_ofDocument document).links, ofDocument, document.links_eq_map]

theorem size_eq_of_filling :
    (IndexFilling.ofDocument document).positions.size = (ofDocument document).size := by
  rw [(IndexFilling.holds_ofDocument document).positions, size, ofDocument, NameMap.size_ofList,
    NameMap.size_ofList, ← document.map_fst_positionedWidgets, List.map_map, List.map_map,
    List.map_map]
  rfl

theorem size_eq_card :
    (ofDocument document).size =
      (document.placedWidgets.map fun placed => placed.widget.id).toFinset.card := by
  rw [List.card_toFinset, size, ofDocument, NameMap.size_ofList, List.map_map]
  rfl

theorem widget?_eq_some_iff {widget : WidgetDescription} :
    (ofDocument document).widget? id = some widget ↔
      ∃ placed, NameMap.IsLastUnder (fun placed => placed.widget.id) id
        document.placedWidgets placed ∧ placed.widget = widget :=
  NameMap.find?_ofList_map_eq_some_iff

theorem container?_eq_some_iff {container : Container} :
    (ofDocument document).container? id = some container ↔
      ∃ element, NameMap.IsLastUnder PlacedElement.id id document.placedElements element ∧
        element.container = container := by
  rw [container?, ofDocument, document.links_eq_map]
  exact NameMap.find?_ofList_map_eq_some_iff

theorem container?_eq_none_iff_of_placedElements :
    (ofDocument document).container? id = none ↔
      ∀ element ∈ document.placedElements, element.id ≠ id := by
  rw [container?_eq_none_iff, document.links_eq_map, List.map_map, List.mem_map]
  simp only [Function.comp_apply, not_exists, not_and, ne_eq]

/-- Only groups are linked to views, and each to a view of the document. -/
theorem exists_view_of_owningView?_eq_some {root : ViewRoot}
    (walked : (ofDocument document).owningView? id = some root) :
    ∃ view ∈ document.views, root.id = view.id ∧ root.namespaces = view.namespaces := by
  obtain ⟨steps, leads⟩ := ContainmentLinks.owningView?_eq_some_iff.mp walked
  obtain ⟨top, _, linked⟩ := ContainmentLinks.exists_leadsTo_iff.mp ⟨steps, leads⟩
  have found : (ofDocument document).container? top = some (.view root) := linked
  obtain ⟨element, ⟨_, before, after, listed, _⟩, isView⟩ := container?_eq_some_iff.mp found
  have member : element ∈ document.placedElements := by
    rw [listed]
    exact List.mem_append_right _ List.mem_cons_self
  simp only [DescriptionDocument.placedElements, List.mem_flatMap, List.mem_cons, List.mem_map]
    at member
  obtain ⟨view, inDocument, group, _, rfl | ⟨widget, _, rfl⟩⟩ := member
  · cases isView
    exact ⟨view, inDocument, rfl, rfl⟩
  · cases isView

/--
For every document, whatever its ids, the index finds under an id the last widget that
has it and counts the ids of widgets; the container of an id is that of the last group or
widget that has it, a group being counted just before its widgets.  The pass that keeps
positions of widgets gives just this index.  Every walk upward ends, and a view that it
finds has the id and the namespaces of a view of the document.
-/
theorem ofDocument_keeps_last (document : DescriptionDocument) :
    let index := ofDocument document
    let filling := IndexFilling.ofDocument document
    (∀ id widget, index.widget? id = some widget ↔
      ∃ placed, NameMap.IsLastUnder (fun placed => placed.widget.id) id
        document.placedWidgets placed ∧ placed.widget = widget) ∧
    (∀ id, index.widget? id = none ↔
      ∀ placed ∈ document.placedWidgets, placed.widget.id ≠ id) ∧
    index.size = (document.placedWidgets.map fun placed => placed.widget.id).toFinset.card ∧
    (∀ id container, index.container? id = some container ↔
      ∃ element, NameMap.IsLastUnder PlacedElement.id id document.placedElements element ∧
        element.container = container) ∧
    (∀ id, index.container? id = none ↔
      ∀ element ∈ document.placedElements, element.id ≠ id) ∧
    (filling.links = index.links ∧ filling.positions.size = index.size ∧
      ∀ id, (filling.positions.find? id).bind document.widgetAt? = index.widget? id) ∧
    (∀ id, ∃ steps ≤ index.links.size + 1, ∃ lookedUp,
      (UpwardWalk.step index.links)^[steps] (UpwardWalk.start id) =
        ⟨lookedUp, .ended (index.owningView? id)⟩) ∧
    ∀ id root, index.owningView? id = some root →
      ∃ view ∈ document.views, root.id = view.id ∧ root.namespaces = view.namespaces := by
  intro index filling
  refine ⟨?_, ?_, size_eq_card, ?_, ?_, ?_, ?_, ?_⟩
  · exact fun id widget => widget?_eq_some_iff
  · exact fun id => widget?_eq_none_iff
  · exact fun id container => container?_eq_some_iff
  · exact fun id => container?_eq_none_iff_of_placedElements
  · exact ⟨links_eq_of_filling, size_eq_of_filling, fun id => bind_widgetAt?_eq_widget?⟩
  · exact fun id => UpwardWalk.exists_iterate_step_eq index.links [] id
  · exact fun id root => exists_view_of_owningView?_eq_some

/-- A title comes again in another view, and a shelf lies in itself. -/
def clashingDocument : DescriptionDocument where
  schemaVersion := 1
  views :=
    [{ id := "library", namespaces := ["books"]
       groups :=
        [{ id := "general"
           widgets :=
            [{ id := "title", name := "Title", detail := .primitiveRadio {} },
              { id := "", name := "Notes", detail := .primitiveList {} }] },
          { id := "shelf"
            widgets := [{ id := "shelf", name := "Shelf", detail := .multiReference {} }] }] },
      { id := "archive", namespaces := ["records", "books"]
        groups :=
          [{ id := "old"
             widgets := [{ id := "title", name := "Old title", detail := .primitiveList {} }] }] }]

theorem ofDocument_keeps_last_title :
    let index := ofDocument clashingDocument
    let archive : ViewRoot := ⟨"archive", ["records", "books"]⟩
    index.size = 3 ∧
      (∃ widget, index.widget? "title" = some widget ∧ widget.name = "Old title") ∧
      index.container? "general" = some (.view ⟨"library", ["books"]⟩) ∧
      index.container? "old" = some (.view archive) ∧
      index.container? "title" = some (.element "old") ∧
      index.owningView? "title" = some archive ∧
      (∃ view ∈ clashingDocument.views,
        archive.id = view.id ∧ archive.namespaces = view.namespaces) ∧
      index.container? "shelf" = some (.element "shelf") ∧ index.owningView? "shelf" = none := by
  intro index archive
  obtain ⟨widgets, _, size, containers, _, _, _, views⟩ := ofDocument_keeps_last clashingDocument
  have general : index.container? "general" = some (.view ⟨"library", ["books"]⟩) := by
    refine (containers "general" _).mpr ⟨_, ⟨rfl, [], clashingDocument.placedElements.tail, rfl,
      ?_⟩, rfl⟩
    decide +kernel
  have old : index.container? "old" = some (.view archive) := by decide +kernel
  have title : index.container? "title" = some (.element "old") := by decide +kernel
  have shelf : index.container? "shelf" = some (.element "shelf") := by decide +kernel
  have inArchive : index.owningView? "title" = some archive :=
    ContainmentLinks.owningView?_of_element_in_view title old
  have circles : index.links.Circles "shelf" := ⟨"shelf", .refl, .single shelf⟩
  refine ⟨size.trans (by decide +kernel), ?_, general, old, title, inArchive,
    views "title" archive inArchive, shelf, ?_⟩
  · refine ⟨_, (widgets "title" _).mpr ⟨_, ⟨rfl, clashingDocument.placedWidgets.dropLast, [],
      rfl, fun later member => absurd member List.not_mem_nil⟩, rfl⟩, rfl⟩
  · exact ContainmentLinks.owningView?_eq_none_iff.mpr (.inr circles)

end DescriptionIndex

end FormWidgets
