/-!
# Kinds of widgets

The closed set of widget kinds and the tag of each in documents and in
description ids.
-/

namespace FormWidgets

/-- What a widget shows and edits. -/
inductive WidgetKind where
  | monoReference
  | multiReference
  | containmentReference
  | primitiveList
  | primitiveRadio
  | languageExpression
deriving DecidableEq, Repr

namespace WidgetKind

/-- The kinds in order of declaration. -/
def all : List WidgetKind :=
  [.monoReference, .multiReference, .containmentReference, .primitiveList, .primitiveRadio,
    .languageExpression]

/-- The tag of a kind. -/
def tag : WidgetKind → String
  | .monoReference => "mono-reference"
  | .multiReference => "multi-reference"
  | .containmentReference => "containment-reference"
  | .primitiveList => "primitive-list"
  | .primitiveRadio => "primitive-radio"
  | .languageExpression => "language-expression"

/-- The kind with a tag. -/
def ofTag? (tag : String) : Option WidgetKind :=
  all.find? fun kind => decide (kind.tag = tag)

theorem mem_all (kind : WidgetKind) : kind ∈ all := by
  cases kind <;> decide

@[simp]
theorem ofTag?_tag (kind : WidgetKind) : ofTag? kind.tag = some kind := by
  cases kind <;> decide

/-- A tag names at most one kind. -/
theorem eq_tag_of_ofTag? {tag : String} {kind : WidgetKind} (found : ofTag? tag = some kind) :
    tag = kind.tag := by
  unfold ofTag? at found
  simpa [eq_comm] using List.find?_some found

end WidgetKind

end FormWidgets
