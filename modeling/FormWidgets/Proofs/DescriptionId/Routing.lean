import FormWidgets.CommandLine
import FormWidgets.Proofs.DescriptionId.Reading
import FormWidgets.Proofs.Document.Placement
import Mathlib

/-!
# Routing of listed ids

A listing writes the id of every widget with the kind of source that was asked
for, and an engine reads such an id again before it takes it.  An id is read back
when its source kind is there and holds no colon.  Source kinds are free texts in a
configuration, and one that is empty or holds a colon is never found in an id.
-/

namespace FormWidgets

/-- An engine takes a text for a widget of a source. -/
structure Configuration.Takes (configuration : Configuration) (sourceKind : String)
    (widget : WidgetDescription) (text : String) : Prop where
  canHandle : configuration.canHandle text = true
  read : DescriptionId.parse? text = some ⟨sourceKind, widget.kind, widget.id⟩
  routed : CommandLine.route configuration text = .success ("handled: " ++ text ++ "\n")

namespace PlacedWidget

variable (placed : PlacedWidget) {sourceKind : String}

/-- What a line says behind the id: the place of the widget and its slots. -/
def remarks : String :=
  "\t" ++ placed.view.id ++ "/" ++ placed.group.id ++ "\t" ++
    DeclaredSlot.lineOf placed.widget.declaredSlots ++ "\n"

theorem line_eq (sourceKind : String) :
    placed.line sourceKind = (placed.descriptionId sourceKind).text ++ placed.remarks := by
  simp only [line, remarks, String.append_assoc]

theorem isLegible_descriptionId {document : DescriptionDocument}
    (valid : document.validate = .ok ()) (member : placed ∈ document.placedWidgets)
    (nonempty : sourceKind ≠ "") (undivided : ':' ∉ sourceKind.toList) :
    (placed.descriptionId sourceKind).IsLegible := by
  obtain ⟨inDocument, inView, inGroup⟩ := DescriptionDocument.mem_placedWidgets_iff.mp member
  have visible := DescriptionDocument.isLegible_widget_of_valid valid inDocument inView inGroup
  refine ⟨nonempty, undivided, ?_⟩
  intro absent
  have blank : Text.isBlank placed.widget.id = false := visible.1
  rw [show placed.widget.id = "" from absent] at blank
  cases blank

theorem takes_descriptionId {configuration : Configuration}
    (accepted : sourceKind ∈ configuration.acceptedSourceKinds)
    (legible : (placed.descriptionId sourceKind).IsLegible) :
    configuration.Takes sourceKind placed.widget (placed.descriptionId sourceKind).text := by
  have handled : configuration.canHandle (placed.descriptionId sourceKind).text = true :=
    DescriptionId.canHandle_eq_true_iff.mpr ⟨_, rfl, legible, accepted⟩
  constructor
  case canHandle => exact handled
  case read => exact DescriptionId.parse?_eq_some_iff.mpr ⟨rfl, legible⟩
  case routed => rw [CommandLine.route, if_pos handled]

end PlacedWidget

namespace DescriptionDocument

/--
A listing has a line for each widget, which begins with the id of the widget.  For
a source kind that is there and holds no colon, every engine that accepts the
source kind takes these ids, and reads out of each the source kind and the kind
and the id of the widget.
-/
theorem takes_listed_ids {document : DescriptionDocument} (valid : document.validate = .ok ())
    {configuration : Configuration} {sourceKind : String}
    (accepted : sourceKind ∈ configuration.acceptedSourceKinds)
    (nonempty : sourceKind ≠ "") (undivided : ':' ∉ sourceKind.toList) :
    document.listing sourceKind =
        String.join (document.placedWidgets.map fun placed =>
          (placed.descriptionId sourceKind).text ++ placed.remarks)
        ++ toString document.placedWidgets.length ++ " widget(s)\n" ∧
      ∀ placed ∈ document.placedWidgets,
        configuration.Takes sourceKind placed.widget (placed.descriptionId sourceKind).text := by
  constructor
  · have lines : PlacedWidget.line sourceKind = fun placed =>
        (placed.descriptionId sourceKind).text ++ placed.remarks :=
      funext fun placed => placed.line_eq sourceKind
    rw [listing, lines]
  · intro placed member
    apply placed.takes_descriptionId accepted
    exact placed.isLegible_descriptionId valid member nonempty undivided

/-- A list of tags, with a colon in its id. -/
def tagsDocument : DescriptionDocument where
  schemaVersion := 1
  views :=
    [{ id := "page"
       groups :=
        [{ id := "head"
           widgets := [{ id := "tags:all", name := "Tags", detail := .primitiveList {} }] }] }]

/-- A source kind beside the usual one is listed and taken, and so is a colon in the id of a widget. -/
theorem takes_listed_tags :
    let configuration : Configuration := { acceptedSourceKinds := ["view", "form"] }
    tagsDocument.validate = .ok () ∧ "form" ∈ configuration.acceptedSourceKinds ∧
      "form" ≠ "" ∧ ':' ∉ "form".toList ∧
      tagsDocument.listing "form" =
        "form:primitive-list:tags:all\tpage/head\t-\n1 widget(s)\n" ∧
      ∀ placed ∈ tagsDocument.placedWidgets,
        configuration.Takes "form" placed.widget (placed.descriptionId "form").text := by
  have valid : tagsDocument.validate = .ok () := by decide +kernel
  have accepted : "form" ∈ ["view", "form"] := by decide
  refine ⟨valid, accepted, by decide, by decide, by decide +kernel, ?_⟩
  exact (takes_listed_ids valid accepted (by decide) (by decide)).2

/-- What is listed for the empty source kind, or for one with a colon, is read as no id at all. -/
theorem not_takes_listed_tags :
    let configuration : Configuration := { acceptedSourceKinds := ["", "form:wide"] }
    tagsDocument.validate = .ok () ∧
      (tagsDocument.listing "" = ":primitive-list:tags:all\tpage/head\t-\n1 widget(s)\n" ∧
        configuration.canHandle ":primitive-list:tags:all" = false ∧
        DescriptionId.parse? ":primitive-list:tags:all" = none) ∧
      tagsDocument.listing "form:wide" =
        "form:wide:primitive-list:tags:all\tpage/head\t-\n1 widget(s)\n" ∧
      configuration.canHandle "form:wide:primitive-list:tags:all" = false ∧
      DescriptionId.parse? "form:wide:primitive-list:tags:all" = none := by
  decide +kernel

end DescriptionDocument

end FormWidgets
