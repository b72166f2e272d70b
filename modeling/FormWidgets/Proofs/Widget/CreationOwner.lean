import FormWidgets.Execution
import FormWidgets.Proofs.Widget.GestureRouting

/-!
# Owners of created elements

A reference widget asks for the owner before it creates an element, and rebinds
`self` to the answer.  Without an answer `self` stays what the caller has bound it
to, although no place for an element is offered then.

The main statement says under which `self` the operations of a creation run, and
when that is the owner.
-/

namespace FormWidgets

/-- The operations of a creation find the owner as `self`, or else what the caller bound to it. -/
theorem Context.self?_bindAll_creationBindings (context : Context) (relation typeName : String)
    (owner : Option Node) :
    (context.bindAll (EditHandler.creationBindings relation typeName owner)).self? =
      (owner.map Value.node).or context.self? := by
  cases owner with
  | some node => exact NameMap.find?_put_self _ _ _
  | none =>
      have free : Variable.self ∉ ["containmentReference", "typeName"] := by
        decide
      exact find?_bindAll_of_not_mem free context

/-- The owner is what the operations find unless there is none and the caller has bound `self`. -/
theorem Context.or_self?_eq_iff (context : Context) (owner : Option Node) :
    (owner.map Value.node).or context.self? = owner.map Value.node ↔
      (owner = none → context.self? = none) := by
  cases owner with
  | some node => simp
  | none => simp

namespace Binder

variable (binder : Binder)

/-- Without an owner no place for a new element is offered. -/
theorem childCreationProvider_of_no_owner {owner type : Option String} {context : Context}
    {session : Session}
    (unowned : (Action.outcome (binder.ownerProvider owner context) session).1 = none) :
    (Action.outcome (binder.childCreationProvider owner type context) session).1 = [] := by
  rw [childCreationProvider, Action.outcome_bind, unowned]
  rfl

/-- How a bound widget with a reference creates an element, and where it offers to. -/
structure CreatesBy (widget : BoundWidget) (reference : ReferenceProviders)
    (ownerExpression typeExpression : Option String) (handler : EditHandler) : Prop where
  owner : reference.owner = binder.ownerProvider ownerExpression
  childCreation :
    reference.childCreation = binder.childCreationProvider ownerExpression typeExpression
  perform : ∀ runner context key,
    widget.perform runner context (.createElement key) =
      Gesture.creation runner context reference handler key

/-- The three kinds of references create alike. -/
theorem createsBy_of_reference {description : WidgetDescription} {reference : ReferenceProviders}
    (shown : (binder.boundWidget description).detail.reference? = some reference)
    (key : String) :
    ∃ slot ownerExpression typeExpression,
      description.detail.slot? (.createElement key) = some (.createElement, slot) ∧
        binder.CreatesBy (binder.boundWidget description) reference ownerExpression
          typeExpression ⟨.createElement, description.id, slot⟩ := by
  obtain ⟨id, name, label, help, isEnabled, style, conditionalStyles, detail⟩ := description
  cases detail with
  | monoReference mono =>
      obtain rfl := Option.some.inj shown
      exact ⟨mono.slots.createElement, mono.owner, mono.type, rfl, rfl, rfl, fun _ _ _ => rfl⟩
  | multiReference multi =>
      obtain rfl := Option.some.inj shown
      exact ⟨multi.slots.createElement, multi.owner, multi.type, rfl, rfl, rfl,
        fun _ _ _ => rfl⟩
  | containmentReference containment =>
      obtain rfl := Option.some.inj shown
      exact ⟨containment.slots.createElement, containment.owner, containment.type, rfl, rfl, rfl,
        fun _ _ _ => rfl⟩
  | primitiveList | primitiveRadio | languageExpression => cases shown

/--
When a bound reference creates an element, its operations run at most once, and
under the answered owner exactly when there is one or the caller has bound no
`self`: without an owner they run under the `self` of the caller, although no place
for an element is offered.
-/
theorem self?_of_creation {description : WidgetDescription} {bound : Session}
    {reference : ReferenceProviders}
    (shown : (Action.outcome (binder.bind description) bound).1.detail.reference? =
      some reference)
    (session : Session) (context : Context) (key : String) :
    let creation := fun runner =>
      (Action.outcome (binder.bind description) bound).1.perform runner context
        (.createElement key)
    let owner := (Action.outcome (reference.owner context) session).1
    ∃ slot,
      description.detail.slot? (.createElement key) = some (.createElement, slot) ∧
        (owner = none → (Action.outcome (reference.childCreation context) session).1 = []) ∧
        (∀ operations place, slot = some operations → operations ≠ [] →
          ChildCreation.decodeKey? key = some place →
            ∃ called : Context,
              RanOnce binder.runner operations called Affordance.createElement.failureMessage
                  session (Action.outcome (creation binder.runner) session) ∧
                called.self? = (owner.map Value.node).or context.self? ∧
                (called.self? = owner.map Value.node ↔
                  (owner = none → context.self? = none))) ∧
        (slot = none ∨ slot = some [] ∨ ChildCreation.decodeKey? key = none →
          RanNothing creation binder.runner session) := by
  intro creation owner
  obtain ⟨slot, ownerExpression, typeExpression, exposed, creates⟩ :=
    binder.createsBy_of_reference shown key
  have asks : Action.OnlyAsks (reference.owner context) := by
    rw [creates.owner]
    exact binder.onlyAsks_ownerProvider ownerExpression context
  let handler : EditHandler := ⟨.createElement, description.id, slot⟩
  have performs : creation = fun runner =>
      Gesture.creation runner context reference handler key :=
    funext fun runner => creates.perform runner context key
  refine ⟨slot, exposed, ?offers, ?ran, ?ranNothing⟩
  case offers =>
    intro unowned
    rw [creates.childCreation]
    refine binder.childCreationProvider_of_no_owner ?_
    rw [← creates.owner]
    exact unowned
  case ran =>
    rintro operations ⟨relation, typeName⟩ declared nonempty decoded
    have operations? := handler.operations?_eq_some_iff.mpr ⟨declared, nonempty⟩
    have ran := Gesture.ranOnce_creation decoded operations? asks binder.runner session
    have self := context.self?_bindAll_creationBindings relation typeName owner
    rw [performs]
    refine ⟨_, ran, self, ?_⟩
    rw [self]
    exact context.or_self?_eq_iff owner
  case ranNothing =>
    intro nothing
    rw [performs]
    refine Gesture.ranNothing_creation ?_ asks binder.runner session
    rw [handler.operations?_eq_none_iff]
    exact or_assoc.mpr nothing

/-- A novel that no shelf answers for is created by one run, under its caller. -/
theorem self?_of_creation_without_shelf :
    let binder := HostScript.binder {} fun _ context => pure (some context)
    let widget := (Action.outcome (binder.bind (booksOf "self.shelf")) {}).1
    let caller := Context.ofSelf (.node ⟨"caller"⟩)
    ∃ reference, widget.detail.reference? = some reference ∧
      (Action.outcome (reference.owner caller) {}).1 = none ∧
      (Action.outcome (reference.childCreation caller) {}).1 = [] ∧
      ∃ called : Context,
        RanOnce binder.runner [.create "Novel" "books" none []] called
            Affordance.createElement.failureMessage {}
            (Action.outcome (binder.perform widget caller (.createElement "books::Novel")) {}) ∧
          called.self? = some (.node ⟨"caller"⟩) := by
  intro binder widget caller
  have shown : widget.detail.reference? =
      some (binder.referenceProviders "books" ⟨none, some "self.shelf", none, none⟩) := rfl
  have unowned : (Action.outcome (binder.ownerProvider (some "self.shelf") caller) {}).1 =
      none := rfl
  obtain ⟨slot, exposed, offers, runs, _⟩ :=
    binder.self?_of_creation shown {} caller "books::Novel"
  obtain rfl := (Prod.ext_iff.mp (Option.some.inj exposed)).2
  have decoded : ChildCreation.decodeKey? "books::Novel" = some ("books", "Novel") := by
    decide
  obtain ⟨called, ran, self, _⟩ := runs _ _ rfl (List.cons_ne_nil _ _) decoded
  exact ⟨_, shown, unowned, offers unowned, called, ran, self⟩

/-- A novel is created under the caller although its owner expression gives no owner. -/
theorem creation_without_owner_under_caller :
    let host : HostScript := {}
    let binder := host.binder (Execution.runner (host.evaluator none) host.editService)
    let widget := (Action.outcome (binder.bind (booksOf "self.shelf")) {}).1
    let caller := Context.ofSelf (.node ⟨"caller"⟩)
    let after := (Action.outcome
      (binder.perform widget caller (.createElement "books::Novel")) {}).2
    ∃ reference, widget.detail.reference? = some reference ∧
      (Action.outcome (reference.owner caller) {}).1 = none ∧
      (Action.outcome (reference.childCreation caller) {}).1 = [] ∧
      after.runs.map (fun run => run.context.selfNode?) = [some ⟨"caller"⟩] ∧
      after.edits = [.create ⟨"caller"⟩ "Novel" "books"] := by
  intro host binder widget caller after
  refine ⟨_, rfl, ?owner, ?offers, ?ranUnder, ?created⟩
  case owner => rfl
  case offers => rfl
  case ranUnder => decide +kernel
  case created => decide +kernel

end Binder

end FormWidgets
