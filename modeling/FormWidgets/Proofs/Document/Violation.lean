import FormWidgets.Proofs.Document.Validity
import Mathlib

/-!
# The first violation

Elements are checked one after the other, against the ids of all that came
before.  A document is refused for one element only: the first that breaks a
rule, while everything before it follows the rules.

The rules are laid down here apart from the check, for a whole document by its
views, groups and widgets, and for one element by the elements before it.  So is the
order in which the elements of a document come.
-/

namespace FormWidgets

namespace DocumentElement

/-- Elements that together follow the rules. -/
structure FollowRules (elements : List DocumentElement) : Prop where
  legible : ∀ element ∈ elements, element.IsLegible
  distinct : (elements.map DocumentElement.id).Nodup

/-- The rule that an element breaks behind other elements.  Its id is looked at before its name. -/
inductive Breaks (earlier : List DocumentElement) (element : DocumentElement) :
    EngineError → Prop where
  | blankId (blank : Text.isBlank element.id = true) :
      Breaks earlier element
        (.invalidElement element.id (element.role.word ++ " id is blank"))
  | repeatedId (visible : Text.isBlank element.id = false)
      (used : element.id ∈ earlier.map DocumentElement.id) :
      Breaks earlier element (.duplicateElement element.id)
  | blankName (visible : Text.isBlank element.id = false)
      (fresh : element.id ∉ earlier.map DocumentElement.id) (name : String)
      (named : element.name = some name) (blank : Text.isBlank name = true) :
      Breaks earlier element (.invalidElement element.id "widget name is blank")

/-- The first of some elements that breaks a rule, with the error that tells of it. -/
def FirstViolation (elements : List DocumentElement) (error : EngineError) : Prop :=
  ∃ before element after, elements = before ++ element :: after ∧
    FollowRules before ∧ Breaks before element error

theorem checkAll_eq_ok_iff_followRules (elements : List DocumentElement) :
    checkAll [] elements = .ok () ↔ FollowRules elements := by
  rw [checkAll_eq_ok_iff]
  constructor
  · rintro ⟨legible, distinct, _⟩
    exact ⟨legible, distinct⟩
  · rintro ⟨legible, distinct⟩
    exact ⟨legible, distinct, fun _ _ => List.not_mem_nil⟩

theorem check_eq_error_iff {taken : List String} {earlier : List DocumentElement}
    (takes : ∀ id, id ∈ taken ↔ id ∈ earlier.map DocumentElement.id)
    {element : DocumentElement} {error : EngineError} :
    element.check taken = .error error ↔ Breaks earlier element error := by
  have used : taken.contains element.id = true ↔
      element.id ∈ earlier.map DocumentElement.id := by
    rw [List.contains_iff_mem, takes]
  constructor
  · intro fails
    rw [check] at fails
    split at fails
    · rename_i blank
      cases fails
      exact .blankId blank
    · rename_i visible
      rw [Bool.not_eq_true] at visible
      split at fails
      · rename_i repeated
        cases fails
        exact .repeatedId visible (used.mp repeated)
      · rename_i fresh
        split at fails
        · rename_i blank
          cases fails
          obtain ⟨name, named, blank⟩ := (Option.any_eq_true _ _).mp blank
          exact .blankName visible (mt used.mpr fresh) name named blank
        · cases fails
  · intro breaks
    rw [check]
    cases breaks with
    | blankId blank => rw [if_pos blank]
    | repeatedId visible repeated =>
        rw [visible, if_neg Bool.false_ne_true, if_pos (used.mpr repeated)]
    | blankName visible fresh name named blank =>
        rw [visible, if_neg Bool.false_ne_true, if_neg (mt used.mp fresh), named,
          Option.any_some, if_pos blank]

theorem checkAll_cons_eq_error_iff {taken : List String} {element : DocumentElement}
    {rest : List DocumentElement} {error : EngineError} :
    checkAll taken (element :: rest) = .error error ↔
      element.check taken = .error error ∨
        element.check taken = .ok () ∧ checkAll (element.id :: taken) rest = .error error := by
  rw [checkAll]
  cases element.check taken with
  | error failure =>
      constructor
      · intro fails
        exact .inl fails
      · rintro (fails | ⟨⟨⟩, _⟩)
        exact fails
  | ok passed =>
      constructor
      · intro fails
        exact .inr ⟨rfl, fails⟩
      · rintro (⟨⟨⟩⟩ | ⟨_, fails⟩)
        exact fails

/-- A check fails at the element up to which it goes well, with the ids up to there taken. -/
theorem checkAll_eq_error_iff {taken : List String} {elements : List DocumentElement}
    {error : EngineError} :
    checkAll taken elements = .error error ↔
      ∃ before element after, elements = before ++ element :: after ∧
        checkAll taken before = .ok () ∧
        element.check ((before.map DocumentElement.id).reverse ++ taken) = .error error := by
  induction elements generalizing taken with
  | nil => simp [checkAll]
  | cons first rest later =>
      rw [checkAll_cons_eq_error_iff]
      constructor
      · rintro (fails | ⟨passes, fails⟩)
        · exact ⟨[], first, rest, rfl, rfl, fails⟩
        · obtain ⟨before, element, after, rfl, passesBefore, fails⟩ := later.mp fails
          refine ⟨first :: before, element, after, rfl, ?_, ?_⟩
          · rw [checkAll_cons_eq_ok_iff]
            exact ⟨passes, passesBefore⟩
          · rw [List.map_cons, List.reverse_cons, List.append_assoc]
            exact fails
      · rintro ⟨_ | ⟨_, before⟩, element, after, whole, passes, fails⟩
        · obtain ⟨rfl, rfl⟩ := List.cons.inj whole
          exact .inl fails
        · obtain ⟨rfl, rfl⟩ := List.cons.inj whole
          rw [checkAll_cons_eq_ok_iff] at passes
          rw [List.map_cons, List.reverse_cons, List.append_assoc] at fails
          exact .inr ⟨passes.1, later.mpr ⟨before, element, after, rfl, passes.2, fails⟩⟩

theorem checkAll_eq_error_iff_firstViolation {elements : List DocumentElement}
    {error : EngineError} :
    checkAll [] elements = .error error ↔ FirstViolation elements error := by
  have takes : ∀ (before : List DocumentElement) id,
      id ∈ (before.map DocumentElement.id).reverse ++ [] ↔
        id ∈ before.map DocumentElement.id := by
    intro before id
    rw [List.append_nil, List.mem_reverse]
  simp only [checkAll_eq_error_iff, check_eq_error_iff (takes _),
    checkAll_eq_ok_iff_followRules, FirstViolation]

end DocumentElement

namespace DescriptionDocument

/--
A document whose ids and widget names can all be seen and whose views, groups and
widgets have ids of their own.
-/
structure FollowsRules (document : DescriptionDocument) : Prop where
  viewId : ∀ view ∈ document.views, Text.isBlank view.id = false
  groupId : ∀ view ∈ document.views, ∀ group ∈ view.groups, Text.isBlank group.id = false
  widgetId : ∀ view ∈ document.views, ∀ group ∈ view.groups, ∀ widget ∈ group.widgets,
    Text.isBlank widget.id = false
  widgetName : ∀ view ∈ document.views, ∀ group ∈ view.groups, ∀ widget ∈ group.widgets,
    Text.isBlank widget.name = false
  distinct : (document.views.flatMap fun view =>
    view.id :: view.groups.flatMap fun group =>
      group.id :: group.widgets.map WidgetDescription.id).Nodup

/-- Each view before its groups, and each group before its widgets. -/
def inOrder (document : DescriptionDocument) : List DocumentElement :=
  document.views.flatMap fun view =>
    ⟨.view, view.id, none⟩ :: view.groups.flatMap fun group =>
      ⟨.group, group.id, none⟩ :: group.widgets.map fun widget =>
        ⟨.widget, widget.id, some widget.name⟩

variable {document : DescriptionDocument}

theorem elements_eq_inOrder (document : DescriptionDocument) :
    document.elements = document.inOrder := rfl

/-- The rules for a document are the rules for its elements taken together. -/
theorem followRules_elements_iff :
    DocumentElement.FollowRules document.elements ↔ document.FollowsRules := by
  have ids : document.elements.map DocumentElement.id =
      document.views.flatMap fun view =>
        view.id :: view.groups.flatMap fun group =>
          group.id :: group.widgets.map WidgetDescription.id := by
    simp only [elements, ViewDescription.elements, GroupDescription.elements, List.map_flatMap,
      List.map_cons, List.map_map, Function.comp_def]
  constructor
  · rintro ⟨legible, distinct⟩
    have listed {element} member := legible element (mem_elements_iff.mpr member)
    constructor
    case viewId =>
      intro view inDocument
      exact (listed ⟨view, inDocument, .inl rfl⟩).1
    case groupId =>
      intro view inDocument group inView
      exact (listed ⟨view, inDocument, .inr ⟨group, inView, .inl rfl⟩⟩).1
    case widgetId =>
      intro view inDocument group inView widget inGroup
      exact (listed ⟨view, inDocument, .inr ⟨group, inView, .inr ⟨widget, inGroup, rfl⟩⟩⟩).1
    case widgetName =>
      intro view inDocument group inView widget inGroup
      exact (listed ⟨view, inDocument, .inr ⟨group, inView, .inr ⟨widget, inGroup, rfl⟩⟩⟩).2
    case distinct => exact ids ▸ distinct
  · intro follows
    constructor
    case legible =>
      intro element member
      obtain ⟨view, inDocument, rfl | ⟨group, inView, rfl | ⟨widget, inGroup, rfl⟩⟩⟩ :=
        mem_elements_iff.mp member
      · exact ⟨follows.viewId view inDocument, rfl⟩
      · exact ⟨follows.groupId view inDocument group inView, rfl⟩
      · exact ⟨follows.widgetId view inDocument group inView widget inGroup,
          follows.widgetName view inDocument group inView widget inGroup⟩
    case distinct => exact ids ▸ follows.distinct

/--
Validation accepts the documents of the supported version that follow the rules.
Of another version it tells as such, whatever the document holds; otherwise it
tells of the first element that breaks a rule, where a view comes before its groups and
a group before its widgets.
-/
theorem validate_decides (document : DescriptionDocument) :
    (document.validate = .ok () ↔ document.schemaVersion = 1 ∧ document.FollowsRules) ∧
    ∀ error, document.validate = .error error ↔
      (document.schemaVersion ≠ 1 ∧ error = .unsupportedVersion document.schemaVersion 1) ∨
        (document.schemaVersion = 1 ∧
          DocumentElement.FirstViolation document.inOrder error) := by
  rw [← elements_eq_inOrder, validate, show supportedVersion = 1 from rfl]
  by_cases supported : document.schemaVersion = 1
  · rw [if_neg (not_not.mpr supported), DocumentElement.checkAll_eq_ok_iff_followRules,
      followRules_elements_iff]
    simp only [supported, DocumentElement.checkAll_eq_error_iff_firstViolation, ne_eq,
      not_true_eq_false, false_and, false_or, true_and, implies_true, and_self]
  · rw [if_pos supported]
    simp only [supported, reduceCtorEq, false_and, true_and, or_false, ne_eq,
      not_false_eq_true, Except.error.injEq, eq_comm, implies_true, and_self]

/-- A group repeats the id of its view, and its widget has a blank name. -/
def shadowedDocument : DescriptionDocument where
  schemaVersion := 1
  views :=
    [{ id := "books"
       groups :=
        [{ id := "books"
           widgets := [{ id := "title", name := " ", detail := .primitiveRadio {} }] }] }]

example : shadowedDocument.validate = .error (.duplicateElement "books") := by decide +kernel

end DescriptionDocument

end FormWidgets
