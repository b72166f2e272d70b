import FormWidgets.DescriptionId
import Mathlib.Data.List.Infix

/-!
# Reading of description ids

The text of an id has no quoting: its first colon ends the source kind, its
second one the tag.  So an id is read back when its source kind is there and
holds no colon; the element may hold as many as it likes.

The main statement says which texts are read, that each of them splits in one way
only, and which of them an engine handles.
-/

namespace FormWidgets

theorem WidgetKind.colon_not_mem_tag (kind : WidgetKind) : ':' ∉ kind.tag.toList := by
  cases kind <;> decide

namespace DescriptionId

/-- An id whose parts can be told apart in its text. -/
structure IsLegible (id : DescriptionId) : Prop where
  sourceKind_ne : id.sourceKind ≠ ""
  undivided : ':' ∉ id.sourceKind.toList
  element_ne : id.element ≠ ""

theorem cut?_colon_eq_some_iff {chars before after : List Char} :
    Text.cut? [':'] chars = some (before, after) ↔
      chars = before ++ ':' :: after ∧ ':' ∉ before := by
  rw [Text.cut?_eq_some_iff (List.cons_ne_nil _ _), List.dropLast_singleton, List.append_nil,
    List.singleton_infix_iff, List.append_assoc, List.singleton_append]

theorem toList_text (id : DescriptionId) :
    id.text.toList =
      id.sourceKind.toList ++ ':' :: (id.widgetKind.tag.toList ++ ':' :: id.element.toList) := by
  simp [text]

/-- Reading an id cuts its text at the first two colons. -/
theorem parse?_eq_some_iff_cuts {text : String} {id : DescriptionId} :
    parse? text = some id ↔
      ∃ tagged, Text.cut? [':'] text.toList = some (id.sourceKind.toList, tagged) ∧
        Text.cut? [':'] tagged = some (id.widgetKind.tag.toList, id.element.toList) ∧
        id.sourceKind ≠ "" ∧ id.element ≠ "" := by
  simp only [parse?, Option.bind_eq_bind, Option.bind_eq_some_iff, Prod.exists]
  constructor
  · rintro ⟨source, tagged, cutSource, tag, rest, cutTag, kind, ofTag, given⟩
    have sameTag : tag = kind.tag.toList := by
      rw [← WidgetKind.eq_tag_of_ofTag? ofTag, String.toList_ofList]
    split at given
    · cases given
    · rename_i nonempty
      obtain rfl := Option.some.inj given
      rw [Bool.or_eq_true, not_or, List.isEmpty_iff, List.isEmpty_iff] at nonempty
      simp only [String.toList_ofList, ← sameTag, ne_eq, String.ofList_eq_empty_iff]
      exact ⟨tagged, cutSource, cutTag, nonempty⟩
  · rintro ⟨tagged, cutSource, cutTag, source_ne, element_ne⟩
    refine ⟨_, _, cutSource, _, _, cutTag, id.widgetKind, ?_, ?_⟩
    · rw [String.ofList_toList, WidgetKind.ofTag?_tag]
    · have nonempty : ¬ (id.sourceKind.toList.isEmpty || id.element.toList.isEmpty) = true := by
        rw [Bool.or_eq_true, not_or, List.isEmpty_iff, List.isEmpty_iff,
          String.toList_eq_nil_iff, String.toList_eq_nil_iff]
        exact ⟨source_ne, element_ne⟩
      rw [if_neg nonempty, String.ofList_toList, String.ofList_toList]

/-- A text is read as an id exactly when it is the text of that id and the id is legible. -/
theorem parse?_eq_some_iff {text : String} {id : DescriptionId} :
    parse? text = some id ↔ text = id.text ∧ id.IsLegible := by
  rw [← String.toList_inj, toList_text]
  simp only [parse?_eq_some_iff_cuts, cut?_colon_eq_some_iff]
  constructor
  · rintro ⟨_, ⟨whole, undivided⟩, ⟨rfl, _⟩, source_ne, element_ne⟩
    exact ⟨whole, source_ne, undivided, element_ne⟩
  · rintro ⟨whole, source_ne, undivided, element_ne⟩
    exact ⟨_, ⟨whole, undivided⟩, ⟨rfl, id.widgetKind.colon_not_mem_tag⟩, source_ne, element_ne⟩

theorem canHandle_eq_true_iff {configuration : Configuration} {text : String} :
    configuration.canHandle text = true ↔
      ∃ id : DescriptionId, text = id.text ∧ id.IsLegible ∧
        id.sourceKind ∈ configuration.acceptedSourceKinds := by
  simp only [Configuration.canHandle, Option.any_eq_true, parse?_eq_some_iff,
    List.contains_iff_mem, and_assoc]

/-! ## The one reading of a text -/

/--
A text is the source kind, the tag and the element of an id, with a colon after each
of the first two, and the id is legible.
-/
structure SplitsInto (text : String) (id : DescriptionId) : Prop extends id.IsLegible where
  whole : text.toList =
    id.sourceKind.toList ++ ':' :: (id.widgetKind.tag.toList ++ ':' :: id.element.toList)

theorem splitsInto_iff {text : String} {id : DescriptionId} :
    SplitsInto text id ↔ text = id.text ∧ id.IsLegible := by
  rw [← String.toList_inj, toList_text]
  constructor
  · intro splits
    exact ⟨splits.whole, splits.toIsLegible⟩
  · rintro ⟨whole, legible⟩
    exact ⟨legible, whole⟩

theorem parse?_eq_some_iff_splitsInto {text : String} {id : DescriptionId} :
    parse? text = some id ↔ SplitsInto text id :=
  parse?_eq_some_iff.trans splitsInto_iff.symm

/-- Both splits are what reading the text gives. -/
theorem SplitsInto.unique {text : String} {id other : DescriptionId} (splits : SplitsInto text id)
    (again : SplitsInto text other) : other = id := by
  have read := parse?_eq_some_iff_splitsInto.mpr splits
  have readAgain := parse?_eq_some_iff_splitsInto.mpr again
  exact Option.some.inj (readAgain.symm.trans read)

/--
A text is read as an id exactly when it splits into its parts; then it is the text of
that id and splits into no other.  An engine handles the texts that split with a
source kind that it accepts.
-/
theorem has_one_reading (configuration : Configuration) (text : String) :
    (∀ id, parse? text = some id ↔ SplitsInto text id) ∧
      (∀ id, SplitsInto text id → id.text = text ∧ ∀ other, SplitsInto text other → other = id) ∧
      (configuration.canHandle text = true ↔
        ∃ id, SplitsInto text id ∧ id.sourceKind ∈ configuration.acceptedSourceKinds) := by
  refine ⟨fun id => parse?_eq_some_iff_splitsInto, ?_, ?_⟩
  · intro id splits
    obtain ⟨whole, _⟩ := splitsInto_iff.mp splits
    exact ⟨whole.symm, fun other again => splits.unique again⟩
  · rw [canHandle_eq_true_iff]
    simp only [splitsInto_iff, and_assoc]

/-- The element of an id may begin and end with a colon; the id is handled for its source kind. -/
theorem has_one_reading_of_surrounded_element :
    let text := "view:primitive-list::tags:"
    let id : DescriptionId := ⟨"view", .primitiveList, ":tags:"⟩
    let configuration : Configuration := { acceptedSourceKinds := ["form", "view"] }
    SplitsInto text id ∧ parse? text = some id ∧ id.text = text ∧
      (∀ other, SplitsInto text other → other = id) ∧ configuration.canHandle text = true := by
  intro text id configuration
  obtain ⟨read, split, handled⟩ := has_one_reading configuration text
  have splits : SplitsInto text id := ⟨⟨by decide, by decide, by decide⟩, by decide⟩
  obtain ⟨whole, only⟩ := split id splits
  exact ⟨splits, (read id).mpr splits, whole, only, handled.mpr ⟨id, splits, by decide⟩⟩

end DescriptionId

end FormWidgets
