import FormWidgets.Proofs.Session.Outcome
import FormWidgets.Widget.Binding
import Mathlib.Data.List.Basic

/-!
# The listing of slots and the handlers

What a description lists as its declared slots and what binding wires are
written down apart from each other, kind by kind.  Both are compared with one
table here: the slots that a kind exposes, in the order of the listing, each
with what the description says about it.

The main statement is that the listing is what the wired handlers hold.  It does
not see the slots that a reference shares with the other kind of reference, and
neither does binding.
-/

namespace FormWidgets

namespace WidgetDetail

/-- The slots that a kind exposes, in the order in which they are listed. -/
def exposedSlots : WidgetDetail → List (String × Option OperationBody)
  | .monoReference reference =>
      [("createElement", reference.slots.createElement), ("set", reference.slots.set),
        ("unset", reference.slots.unset), ("clear", reference.slots.clear)]
  | .multiReference reference =>
      [("createElement", reference.slots.createElement), ("add", reference.slots.add),
        ("remove", reference.slots.remove), ("clear", reference.slots.clear),
        ("reorder", reference.slots.reorder)]
  | .containmentReference containment =>
      [("createElement", containment.slots.createElement), ("click", containment.slots.click),
        ("reorder", containment.slots.reorder)]
  | .primitiveList list =>
      [("delete", list.slots.delete), ("add", list.slots.add), ("reorder", list.slots.reorder),
        ("itemAction", list.slots.itemAction.map ItemAction.body)]
  | .primitiveRadio radio => [("set", radio.set)]
  | .languageExpression => []

/-- A detail without the slots that only the other kind of reference exposes. -/
def withoutForeignSlots : WidgetDetail → WidgetDetail
  | .monoReference reference =>
      .monoReference
        { reference with
          slots := { reference.slots with add := none, remove := none, reorder := none } }
  | .multiReference reference =>
      .multiReference
        { reference with slots := { reference.slots with set := none, unset := none } }
  | detail => detail

theorem declaredSlots_eq_flatMap (detail : WidgetDetail) :
    detail.declaredSlots =
      detail.exposedSlots.flatMap fun slot => DeclaredSlot.ofBody slot.1 slot.2 := by
  cases detail <;> simp [declaredSlots, exposedSlots]

/-- A slot is listed, with whatever count, exactly when it is exposed and declared. -/
theorem exists_listed_iff {detail : WidgetDetail} {name : String} :
    (∃ count, ⟨name, count⟩ ∈ detail.declaredSlots) ↔
      ∃ operations, (name, some operations) ∈ detail.exposedSlots := by
  rw [declaredSlots_eq_flatMap]
  constructor
  · rintro ⟨count, listed⟩
    rcases List.mem_flatMap.mp listed with ⟨⟨exposed, body⟩, member, counted⟩
    rcases body with _ | operations
    · cases counted
    · rcases List.mem_singleton.mp counted with ⟨⟩
      exact ⟨operations, member⟩
  · rintro ⟨operations, member⟩
    exact ⟨operations.length, List.mem_flatMap.mpr ⟨_, member, List.mem_singleton.mpr rfl⟩⟩

theorem exposedSlots_withoutForeignSlots (detail : WidgetDetail) :
    detail.withoutForeignSlots.exposedSlots = detail.exposedSlots := by
  cases detail <;> rfl

end WidgetDetail

/-! ## Handlers -/

namespace EditHandler

/-- The number of operations that a handler holds. -/
def operationCount (handler : EditHandler) : Nat :=
  (handler.body.getD []).length

/-- A handler lists its slot exactly when it is wired and the slot is declared. -/
theorem ofBody_eq_toList (name : String) (handler? : Option EditHandler) :
    DeclaredSlot.ofBody name (handler?.bind body) =
      ((handler?.filter isDeclared).map fun handler =>
        DeclaredSlot.mk name handler.operationCount).toList := by
  cases handler? with
  | none => rfl
  | some handler =>
      obtain ⟨affordance, widget, body⟩ := handler
      cases body with
      | none => rfl
      | some operations => rfl

end EditHandler

/-- The handlers that are wired and whose slot is declared, under the names of their slots. -/
def BoundWidget.declaredHandlers (widget : BoundWidget) : List (String × EditHandler) :=
  widget.handlers.filterMap fun entry =>
    (entry.2.filter EditHandler.isDeclared).map (Prod.mk entry.1)

theorem BoundWidget.map_declaredHandlers (widget : BoundWidget) :
    (widget.declaredHandlers.map fun entry => DeclaredSlot.mk entry.1 entry.2.operationCount) =
      (widget.handlers.map fun entry => (entry.1, entry.2.bind EditHandler.body)).flatMap
        fun slot => DeclaredSlot.ofBody slot.1 slot.2 := by
  rw [declaredHandlers, List.map_filterMap, List.filterMap_eq_flatMap_toList, List.flatMap_map]
  congr 1
  funext entry
  rw [EditHandler.ofBody_eq_toList, Option.map_map]
  rfl

namespace Binder

theorem bind_body_declaredHandler (affordance : Affordance) (widget : String)
    (slot : Option OperationBody) :
    (declaredHandler affordance widget slot).bind EditHandler.body = slot := by
  cases slot with
  | none => rfl
  | some operations => rfl

variable (binder : Binder)

/-- Each handler holds the slot of the description that it is named after. -/
theorem bodies_of_handlers (widget : String) (detail : WidgetDetail) :
    ((binder.boundDetail widget detail).handlers.map fun entry =>
        (entry.1, entry.2.bind EditHandler.body)) =
      detail.exposedSlots := by
  cases detail with
  | monoReference reference => rfl
  | multiReference reference => rfl
  | containmentReference containment =>
      simp only [boundDetail, containmentReference, BoundDetail.handlers, List.map_cons,
        List.map_nil, bind_body_declaredHandler]
      rfl
  | primitiveList list =>
      simp only [boundDetail, primitiveList, BoundDetail.handlers, List.map_cons,
        List.map_nil, handler_itemAction, bind_body_declaredHandler]
      rfl
  | primitiveRadio radio => rfl
  | languageExpression => rfl

theorem boundWidget_withoutForeignSlots (description : WidgetDescription) :
    binder.boundWidget { description with detail := description.detail.withoutForeignSlots } =
      binder.boundWidget description := by
  obtain ⟨id, name, label, help, isEnabled, style, conditionalStyles, detail⟩ := description
  cases detail <;> rfl

theorem isDeletable_primitiveList (widget : String) (list : ListDescription) :
    (binder.primitiveList widget list).isDeletable = true ↔
      ∃ operations, list.slots.delete = some operations := by
  rw [ListWidget.isDeletable, primitiveList, declaredHandler, Option.isSome_map,
    Option.isSome_iff_exists]

/-! ## The listing -/

/-- The slots that a description lists are those that the handlers of a widget hold. -/
structure ListsHandlers (description : WidgetDescription) (widget : BoundWidget) : Prop where
  listed : description.declaredSlots =
    widget.declaredHandlers.map fun entry => ⟨entry.1, entry.2.operationCount⟩
  /-- There is a handler of every exposed slot, unless it is not wired for want of a body. -/
  bound : (widget.handlers.map fun entry => (entry.1, entry.2.bind EditHandler.body)) =
    description.detail.exposedSlots
  deletable : ∀ list, widget.detail = .primitiveList list →
    (list.isDeletable = true ↔ ∃ count, ⟨"delete", count⟩ ∈ description.declaredSlots)
  /-- What a description says about foreign slots makes no difference. -/
  foreign : ∀ other : WidgetDescription,
    { other with detail := other.detail.withoutForeignSlots } =
        { description with detail := description.detail.withoutForeignSlots } →
      other.declaredSlots = description.declaredSlots ∧ binder.boundWidget other = widget

/-- Binding a description wires the handlers that its listing tells of. -/
theorem listsHandlers_of_bind (description : WidgetDescription) (session : Session) :
    binder.ListsHandlers description
      (Action.outcome (binder.bind description) session).1 := by
  have bodies := binder.bodies_of_handlers description.id description.detail
  constructor
  case listed =>
    rw [BoundWidget.map_declaredHandlers]
    exact description.detail.declaredSlots_eq_flatMap.trans (by rw [← bodies]; rfl)
  case bound => exact bodies
  case deletable =>
    intro list wired
    change binder.boundDetail description.id description.detail = .primitiveList list at wired
    rw [WidgetDescription.declaredSlots, WidgetDetail.exists_listed_iff]
    cases described : description.detail with
    | primitiveList slots =>
        rw [described] at wired
        obtain rfl := BoundDetail.primitiveList.inj wired
        rw [isDeletable_primitiveList]
        simp [WidgetDetail.exposedSlots, eq_comm]
    | _ =>
        rw [described] at wired
        cases wired
  case foreign =>
    intro other same
    have sameDetail := congrArg WidgetDescription.detail same
    constructor
    · have sameSlots := congrArg WidgetDetail.exposedSlots sameDetail
      simp only [WidgetDetail.exposedSlots_withoutForeignSlots] at sameSlots
      rw [WidgetDescription.declaredSlots, WidgetDescription.declaredSlots,
        WidgetDetail.declaredSlots_eq_flatMap, sameSlots, ← WidgetDetail.declaredSlots_eq_flatMap]
    · have sameWidget := congrArg binder.boundWidget same
      rwa [boundWidget_withoutForeignSlots, boundWidget_withoutForeignSlots] at sameWidget

end Binder

end FormWidgets
