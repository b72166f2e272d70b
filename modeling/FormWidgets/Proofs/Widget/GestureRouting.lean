import FormWidgets.Host.Script
import FormWidgets.Proofs.Widget.SlotRun

/-!
# Routing of gestures

Every kind of widget has its own gestures, and every gesture a slot of the
description and bindings that the operations of the slot may read.  Both are
laid down here apart from the wiring; the main statement says that a bound widget
follows them.
-/

namespace FormWidgets

namespace Context

/-- A context has the given values for some variables and is another one in all others. -/
def BindsOnly (context base : Context) (bindings : List (String × Value)) : Prop :=
  (∀ name value, (name, value) ∈ bindings → context.find? name = some value) ∧
    ∀ name, name ∉ bindings.map Prod.fst → context.find? name = base.find? name

theorem find?_bindAll_of_not_mem {bindings : List (String × Value)} {name : String}
    (free : name ∉ bindings.map Prod.fst) (context : Context) :
    (context.bindAll bindings).find? name = context.find? name := by
  induction bindings generalizing context with
  | nil => rfl
  | cons binding rest later =>
      obtain ⟨different, freeLater⟩ := not_or.mp (mt List.mem_cons.mpr free)
      exact (later freeLater _).trans (context.find?_put_of_ne _ different)

/-- Bindings of different variables are all found after binding them. -/
theorem bindsOnly_bindAll {bindings : List (String × Value)}
    (different : (bindings.map Prod.fst).Nodup) (context : Context) :
    BindsOnly (context.bindAll bindings) context bindings := by
  refine ⟨?_, fun name free => find?_bindAll_of_not_mem free context⟩
  induction bindings generalizing context with
  | nil => exact fun _ _ member => nomatch member
  | cons binding rest later =>
      obtain ⟨notLater, differentLater⟩ := List.nodup_cons.mp different
      intro name value member
      rcases List.mem_cons.mp member with rfl | member
      · exact (find?_bindAll_of_not_mem notLater _).trans (context.find?_put_self name value)
      · exact later differentLater _ name value member

end Context

/-! ## Slots and bindings -/

/--
The slot that a gesture stands for on a kind of widget, with the affordance under
which it fails.  Nothing for a gesture that the kind does not have.
-/
def WidgetDetail.slot? : WidgetDetail → Gesture → Option (Affordance × Option OperationBody)
  | .monoReference reference, .set _ => some (.set, reference.slots.set)
  | .monoReference reference, .unset _ => some (.unset, reference.slots.unset)
  | .monoReference reference, .clear => some (.clear, reference.slots.clear)
  | .monoReference reference, .createElement _ =>
      some (.createElement, reference.slots.createElement)
  | .multiReference reference, .addAll _ => some (.add, reference.slots.add)
  | .multiReference reference, .remove _ => some (.remove, reference.slots.remove)
  | .multiReference reference, .clear => some (.clear, reference.slots.clear)
  | .multiReference reference, .reorder .. => some (.reorder, reference.slots.reorder)
  | .multiReference reference, .createElement _ =>
      some (.createElement, reference.slots.createElement)
  | .containmentReference containment, .click _ => some (.click, containment.slots.click)
  | .containmentReference containment, .reorder .. =>
      some (.reorder, containment.slots.reorder)
  | .containmentReference containment, .createElement _ =>
      some (.createElement, containment.slots.createElement)
  | .primitiveList list, .delete _ => some (.delete, list.slots.delete)
  | .primitiveList list, .add _ => some (.add, list.slots.add)
  | .primitiveList list, .reorder .. => some (.reorder, list.slots.reorder)
  | .primitiveList list, .itemAction _ =>
      some (.itemAction, list.slots.itemAction.map ItemAction.body)
  | .primitiveRadio radio, .select _ => some (.select, radio.set)
  | _, _ => none

/--
The bindings of a gesture.  Those of a creation are the parts of its key and the
owner of the new element; a key that cannot be read has none.
-/
def Gesture.bindings? (owner : Node) : Gesture → Option (List (String × Value))
  | .set value | .add value => some [("newValue", value)]
  | .addAll values => some [("newValue", .list values)]
  | .select text => some [("newValue", .text text)]
  | .unset value | .remove value | .delete value | .itemAction value =>
      some [("item", value)]
  | .reorder value fromIndex toIndex =>
      some [("item", value), ("fromIndex", .ofPosition fromIndex),
        ("toIndex", .ofPosition toIndex)]
  | .click value => some [("clickedElement", value), ("item", value)]
  | .clear => some []
  | .createElement key =>
      (ChildCreation.decodeKey? key).map fun (relation, typeName) =>
        [("containmentReference", .text relation), ("typeName", .text typeName),
          ("self", .node owner)]

/-- A gesture has no variable twice. -/
theorem Gesture.nodup_bindings {gesture : Gesture} {owner : Node}
    {bindings : List (String × Value)} (given : gesture.bindings? owner = some bindings) :
    (bindings.map Prod.fst).Nodup := by
  cases gesture with
  | createElement key =>
      obtain ⟨place, _, rfl⟩ := Option.map_eq_some_iff.mp given
      exact show ["containmentReference", "typeName", "self"].Nodup by decide
  | reorder value fromIndex toIndex =>
      obtain rfl := Option.some.inj given
      exact show ["item", "fromIndex", "toIndex"].Nodup by decide
  | click value =>
      obtain rfl := Option.some.inj given
      exact show ["clickedElement", "item"].Nodup by decide
  | clear =>
      obtain rfl := Option.some.inj given
      exact List.nodup_nil
  | _ =>
      obtain rfl := Option.some.inj given
      exact List.pairwise_singleton _ _

/-- What the reference widgets show, for the kinds that are references. -/
def BoundDetail.reference? : BoundDetail → Option ReferenceProviders
  | .monoReference widget => some widget.reference
  | .multiReference widget => some widget.reference
  | .containmentReference widget => some widget.reference
  | .primitiveList _ | .primitiveRadio _ | .languageExpression => none

/--
A gesture runs the operations of a slot, with bindings that the operations find and
nothing else changed; without operations, or without bindings to give them, it runs
nothing.
-/
structure RunsSlot (affordance : Affordance) (slot : Option OperationBody)
    (bindings? : Option (List (String × Value))) (context : Context)
    (act : OperationRunner → Action GestureOutcome) (runner : OperationRunner)
    (session : Session) : Prop where
  ran : ∀ operations bindings, slot = some operations → operations ≠ [] →
    bindings? = some bindings →
      ∃ called : Context, called.BindsOnly context bindings ∧
        RanOnce runner operations called affordance.failureMessage session
          (Action.outcome (act runner) session)
  ranNothing : slot = none ∨ slot = some [] ∨ bindings? = none →
    RanNothing act runner session

namespace RunsSlot

variable {context : Context} {runner : OperationRunner} {session : Session} {owner : Node}
  {gesture : Gesture} {bindings : List (String × Value)}

/-- A handler runs its slot when it binds what belongs to the gesture. -/
theorem through (handler : EditHandler) (given : gesture.bindings? owner = some bindings) :
    RunsSlot handler.affordance handler.body (gesture.bindings? owner) context
      (fun runner => Gesture.through runner context handler bindings) runner session := by
  rw [given]
  constructor
  case ran =>
    rintro operations _ declared nonempty ⟨⟩
    have operations? := handler.operations?_eq_some_iff.mpr ⟨declared, nonempty⟩
    exact ⟨_, Context.bindsOnly_bindAll (Gesture.nodup_bindings given) context,
      EditHandler.ranOnce_through operations? runner context bindings session⟩
  case ranNothing =>
    intro nothing
    have undeclared : handler.operations? = none := by
      rw [handler.operations?_eq_none_iff]
      rcases nothing with absent | empty | ⟨⟨⟩⟩
      · exact .inl absent
      · exact .inr empty
    exact EditHandler.ranNothing_through undeclared runner context bindings session

/-- A handler that is wired only for a declared slot runs that slot. -/
theorem throughWired (affordance : Affordance) (widget : String) (slot : Option OperationBody)
    (given : gesture.bindings? owner = some bindings) :
    RunsSlot affordance slot (gesture.bindings? owner) context
      (fun runner => Gesture.throughWired runner context bindings
        (Binder.declaredHandler affordance widget slot)) runner session := by
  cases slot with
  | some operations => exact through ⟨affordance, widget, some operations⟩ given
  | none =>
      constructor
      case ran => exact fun _ _ absent => nomatch absent
      case ranNothing => exact fun _ => ⟨fun _ => rfl, rfl, rfl⟩

/-- A creation runs its slot when there is an owner to create under. -/
theorem creation (reference : ReferenceProviders) (handler : EditHandler) (key : String)
    (asks : Action.OnlyAsks (reference.owner context))
    (owned : (Action.outcome (reference.owner context) session).1 = some owner) :
    RunsSlot handler.affordance handler.body ((Gesture.createElement key).bindings? owner)
      context (fun runner => Gesture.creation runner context reference handler key) runner
      session := by
  constructor
  case ran =>
    intro operations bindings declared nonempty given
    obtain ⟨⟨relation, typeName⟩, decoded, rfl⟩ := Option.map_eq_some_iff.mp given
    have operations? := handler.operations?_eq_some_iff.mpr ⟨declared, nonempty⟩
    have ran := Gesture.ranOnce_creation decoded operations? asks runner session
    rw [owned] at ran
    exact ⟨_, Context.bindsOnly_bindAll (Gesture.nodup_bindings given) context, ran⟩
  case ranNothing =>
    intro nothing
    refine Gesture.ranNothing_creation ?_ asks runner session
    rw [handler.operations?_eq_none_iff]
    rcases nothing with absent | empty | unread
    · exact .inl (.inl absent)
    · exact .inl (.inr empty)
    · exact .inr (Option.map_eq_none_iff.mp unread)

end RunsSlot

/-! ## Kinds of widgets -/

/-- A gesture with a widget runs the slot that its kind has for it, or is not offered at all. -/
def Follows (slot? : Option (Affordance × Option OperationBody))
    (bindings? : Option (List (String × Value))) (context : Context)
    (act : OperationRunner → Action GestureOutcome) (runner : OperationRunner)
    (session : Session) : Prop :=
  match slot? with
  | some (affordance, slot) =>
      RunsSlot affordance slot bindings? context act runner session
  | none => Action.outcome (act runner) session = (.notOffered, session)

section Kinds

variable (binder : Binder) (widget : String) {context : Context} {runner : OperationRunner}
  {session : Session} {owner : Node}

theorem MonoReferenceWidget.follows_perform (description : ReferenceDescription)
    (gesture : Gesture) (owned : ∀ key, gesture = .createElement key →
      (Action.outcome (binder.ownerProvider description.owner context) session).1 = some owner) :
    Follows ((WidgetDetail.monoReference description).slot? gesture)
      (gesture.bindings? owner) context
      (fun runner => (binder.monoReference widget description).perform runner context gesture)
      runner session := by
  let bound := binder.monoReference widget description
  cases gesture with
  | set value => exact .through bound.setHandler rfl
  | unset value => exact .through bound.unsetHandler rfl
  | clear => exact .through bound.clearHandler rfl
  | createElement key =>
      exact .creation bound.reference bound.createElementHandler key
        (binder.onlyAsks_ownerProvider _ _) (owned key rfl)
  | _ => rfl

theorem MultiReferenceWidget.follows_perform (description : ReferenceDescription)
    (gesture : Gesture) (owned : ∀ key, gesture = .createElement key →
      (Action.outcome (binder.ownerProvider description.owner context) session).1 = some owner) :
    Follows ((WidgetDetail.multiReference description).slot? gesture)
      (gesture.bindings? owner) context
      (fun runner => (binder.multiReference widget description).perform runner context gesture)
      runner session := by
  let bound := binder.multiReference widget description
  cases gesture with
  | addAll values => exact .through bound.addHandler rfl
  | remove value => exact .through bound.removeHandler rfl
  | clear => exact .through bound.clearHandler rfl
  | reorder value fromIndex toIndex => exact .through bound.reorderHandler rfl
  | createElement key =>
      exact .creation bound.reference bound.createElementHandler key
        (binder.onlyAsks_ownerProvider _ _) (owned key rfl)
  | _ => rfl

theorem ContainmentWidget.follows_perform (description : ContainmentDescription)
    (gesture : Gesture) (owned : ∀ key, gesture = .createElement key →
      (Action.outcome (binder.ownerProvider description.owner context) session).1 = some owner) :
    Follows ((WidgetDetail.containmentReference description).slot? gesture)
      (gesture.bindings? owner) context
      (fun runner =>
        (binder.containmentReference widget description).perform runner context gesture)
      runner session := by
  let bound := binder.containmentReference widget description
  cases gesture with
  | click value => exact .throughWired .click widget description.slots.click rfl
  | reorder value fromIndex toIndex =>
      exact .throughWired .reorder widget description.slots.reorder rfl
  | createElement key =>
      exact .creation bound.reference bound.createElementHandler key
        (binder.onlyAsks_ownerProvider _ _) (owned key rfl)
  | _ => rfl

theorem ListWidget.follows_perform (description : ListDescription) (gesture : Gesture) :
    Follows ((WidgetDetail.primitiveList description).slot? gesture)
      (gesture.bindings? owner) context
      (fun runner => (binder.primitiveList widget description).perform runner context gesture)
      runner session := by
  cases gesture with
  | delete value => exact .throughWired .delete widget description.slots.delete rfl
  | add value => exact .throughWired .add widget description.slots.add rfl
  | reorder value fromIndex toIndex =>
      exact .throughWired .reorder widget description.slots.reorder rfl
  | itemAction value =>
      simp only [ListWidget.perform, Binder.primitiveList, Binder.handler_itemAction]
      exact .throughWired .itemAction widget _ rfl
  | _ => rfl

theorem RadioWidget.follows_perform (description : RadioDescription) (gesture : Gesture) :
    Follows ((WidgetDetail.primitiveRadio description).slot? gesture)
      (gesture.bindings? owner) context
      (fun runner => (binder.primitiveRadio widget description).perform runner context gesture)
      runner session := by
  cases gesture with
  | select text => exact .through (binder.primitiveRadio widget description).selectHandler rfl
  | _ => rfl

end Kinds

/-! ## Bound widgets -/

/--
After binding a description, in any later session, a gesture runs the slot that the
kind of the widget has for it, with its own bindings and in a context that is the
given one in all others; it is not offered when the kind does not have it.  For a
creation the reference must have an owner.
-/
theorem Binder.perform_runs_own_slot (binder : Binder) (description : WidgetDescription)
    (bound session : Session) (context : Context) (gesture : Gesture) (owner : Node) :
    let widget := (Action.outcome (binder.bind description) bound).1
    (∀ key reference, gesture = .createElement key →
        widget.detail.reference? = some reference →
          (Action.outcome (reference.owner context) session).1 = some owner) →
      Follows (description.detail.slot? gesture) (gesture.bindings? owner) context
        (fun runner => widget.perform runner context gesture) binder.runner session := by
  intro widget
  have detail : widget.detail = binder.boundDetail description.id description.detail := rfl
  simp only [BoundWidget.perform, detail]
  cases description.detail with
  | monoReference reference =>
      intro owned
      exact MonoReferenceWidget.follows_perform binder _ reference gesture
        fun key creates => owned key _ creates rfl
  | multiReference reference =>
      intro owned
      exact MultiReferenceWidget.follows_perform binder _ reference gesture
        fun key creates => owned key _ creates rfl
  | containmentReference containment =>
      intro owned
      exact ContainmentWidget.follows_perform binder _ containment gesture
        fun key creates => owned key _ creates rfl
  | primitiveList list => exact fun _ => ListWidget.follows_perform binder _ list gesture
  | primitiveRadio radio => exact fun _ => RadioWidget.follows_perform binder _ radio gesture
  | languageExpression => exact fun _ => rfl

/-- The binder of a scripted host that has no types and no views. -/
def HostScript.binder (host : HostScript) (runner : OperationRunner) : Binder where
  evaluator := host.evaluator none
  runner := runner
  objects := host.objects
  registry := TypeRegistry.empty
  evaluators := host.evaluators
  links := NameMap.empty

/-- A containment reference of books whose owner is given by an expression. -/
def booksOf (owner : String) : WidgetDescription where
  id := "books"
  name := "books"
  detail := .containmentReference
    { owner := some owner
      slots := { createElement := some [.create "Novel" "books" none []] } }

/-- A novel is created by one run, under the shelf that the owner expression gives. -/
theorem Binder.perform_creation_of_novel :
    let host : HostScript := { answers := NameMap.empty.put "self.shelf" (.node ⟨"shelf"⟩) }
    let binder := host.binder fun _ context => pure (some context)
    let widget := (Action.outcome (binder.bind (booksOf "self.shelf")) {}).1
    let caller := Context.ofSelf (.node ⟨"caller"⟩)
    let gesture := Gesture.createElement "books::Novel"
    (∀ key reference, gesture = .createElement key →
        widget.detail.reference? = some reference →
          (Action.outcome (reference.owner caller) {}).1 = some ⟨"shelf"⟩) ∧
      ∃ called : Context,
        called.BindsOnly caller
          [("containmentReference", .text "books"), ("typeName", .text "Novel"),
            ("self", .node ⟨"shelf"⟩)] ∧
        ∃ result status,
          (Action.outcome (binder.perform widget caller gesture) {}).2.runs =
              [⟨[.create "Novel" "books" none []], called, result⟩] ∧
            (Action.outcome (binder.perform widget caller gesture) {}).1 = .done status ∧
            status.isSemanticChange = result.isSome := by
  intro host binder widget caller gesture
  have owned : ∀ key reference, gesture = .createElement key →
      widget.detail.reference? = some reference →
        (Action.outcome (reference.owner caller) {}).1 = some ⟨"shelf"⟩ := by
    intro key reference _ shown
    obtain rfl : (binder.containmentReference "books" _).reference = reference :=
      Option.some.inj shown
    rfl
  have follows := binder.perform_runs_own_slot (booksOf "self.shelf") {} {} caller gesture
    ⟨"shelf"⟩ owned
  have decoded : ChildCreation.decodeKey? "books::Novel" = some ("books", "Novel") := by
    decide
  have read : gesture.bindings? ⟨"shelf"⟩ =
      some [("containmentReference", .text "books"), ("typeName", .text "Novel"),
        ("self", .node ⟨"shelf"⟩)] := by
    simp [gesture, Gesture.bindings?, decoded]
  obtain ⟨called, binds, ran⟩ := follows.ran _ _ rfl (List.cons_ne_nil _ _) read
  obtain ⟨result, runs, messages, ended⟩ := ran.runs_eq fun _ => rfl
  exact ⟨owned, called, binds, result, _, runs, ended,
    Status.isSemanticChange_ofRun _ result messages⟩

end FormWidgets
