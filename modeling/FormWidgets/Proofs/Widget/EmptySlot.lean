import FormWidgets.Proofs.Widget.GestureRouting

/-!
# Gestures on empty slots

A slot that is absent, or declared without operations, has nothing to run.  A
gesture on it comes to its handler on one of three routes: at once, by a handler
that is wired only when the slot is declared, or by way of a creation, which
reads its key before it looks at the slot.

The main statement says how a gesture ends then.  It calls no runner and changes
nothing; a creation fails when its key cannot be read.
-/

namespace FormWidgets

/-- Whether a kind of widget wires a gesture only when its slot is declared. -/
def WidgetDetail.isOptional : WidgetDetail → Gesture → Bool
  | .containmentReference _, .click _ | .containmentReference _, .reorder .. => true
  | .primitiveList _, _ => true
  | _, _ => false

/-- A gesture is a creation with a key that cannot be read. -/
def Gesture.IsUnreadable : Gesture → Prop
  | .createElement key => ChildCreation.decodeKey? key = none
  | _ => False

/-! ## Routes to a handler -/

/-- The routes on which a gesture comes to the handler of its slot. -/
inductive Binder.Routes (binder : Binder) (widget : String) (affordance : Affordance)
    (slot : Option OperationBody) (context : Context) :
    Bool → Gesture → (OperationRunner → Action GestureOutcome) → Prop where
  | direct {gesture : Gesture} (bindings : List (String × Value))
      (readable : ¬ gesture.IsUnreadable) :
      Routes binder widget affordance slot context false gesture fun runner =>
        Gesture.through runner context ⟨affordance, widget, slot⟩ bindings
  | whenDeclared {gesture : Gesture} (bindings : List (String × Value))
      (readable : ¬ gesture.IsUnreadable) :
      Routes binder widget affordance slot context true gesture fun runner =>
        Gesture.throughWired runner context bindings
          (Binder.declaredHandler affordance widget slot)
  | creation {reference : ReferenceProviders} {ownerExpression : Option String} (key : String)
      (asked : reference.owner = binder.ownerProvider ownerExpression)
      (creates : affordance = .createElement) :
      Routes binder widget affordance slot context false (.createElement key) fun runner =>
        Gesture.creation runner context reference ⟨affordance, widget, slot⟩ key

section Kinds

variable (binder : Binder) (widget : String) (context : Context) {affordance : Affordance}
  {slot : Option OperationBody} {gesture : Gesture}

theorem MonoReferenceWidget.routes_perform {description : ReferenceDescription}
    (exposed : (WidgetDetail.monoReference description).slot? gesture = some (affordance, slot)) :
    binder.Routes widget affordance slot context
      ((WidgetDetail.monoReference description).isOptional gesture) gesture
      fun runner => (binder.monoReference widget description).perform runner context gesture := by
  cases gesture with
  | set value => cases exposed; exact .direct _ id
  | unset value => cases exposed; exact .direct _ id
  | clear => cases exposed; exact .direct _ id
  | createElement key => cases exposed; exact .creation key rfl rfl
  | _ => cases exposed

theorem MultiReferenceWidget.routes_perform {description : ReferenceDescription}
    (exposed : (WidgetDetail.multiReference description).slot? gesture = some (affordance, slot)) :
    binder.Routes widget affordance slot context
      ((WidgetDetail.multiReference description).isOptional gesture) gesture
      fun runner => (binder.multiReference widget description).perform runner context gesture := by
  cases gesture with
  | addAll values => cases exposed; exact .direct _ id
  | remove value => cases exposed; exact .direct _ id
  | clear => cases exposed; exact .direct _ id
  | reorder value fromIndex toIndex => cases exposed; exact .direct _ id
  | createElement key => cases exposed; exact .creation key rfl rfl
  | _ => cases exposed

theorem ContainmentWidget.routes_perform {description : ContainmentDescription}
    (exposed : (WidgetDetail.containmentReference description).slot? gesture =
      some (affordance, slot)) :
    binder.Routes widget affordance slot context
      ((WidgetDetail.containmentReference description).isOptional gesture) gesture
      fun runner =>
        (binder.containmentReference widget description).perform runner context gesture := by
  cases gesture with
  | click value => cases exposed; exact .whenDeclared _ id
  | reorder value fromIndex toIndex => cases exposed; exact .whenDeclared _ id
  | createElement key => cases exposed; exact .creation key rfl rfl
  | _ => cases exposed

theorem ListWidget.routes_perform {description : ListDescription}
    (exposed : (WidgetDetail.primitiveList description).slot? gesture = some (affordance, slot)) :
    binder.Routes widget affordance slot context
      ((WidgetDetail.primitiveList description).isOptional gesture) gesture
      fun runner => (binder.primitiveList widget description).perform runner context gesture := by
  cases gesture with
  | delete value => cases exposed; exact .whenDeclared _ id
  | add value => cases exposed; exact .whenDeclared _ id
  | reorder value fromIndex toIndex => cases exposed; exact .whenDeclared _ id
  | itemAction value =>
      cases exposed
      simp only [ListWidget.perform, Binder.primitiveList, Binder.handler_itemAction]
      exact .whenDeclared _ id
  | _ => cases exposed

theorem RadioWidget.routes_perform {description : RadioDescription}
    (exposed : (WidgetDetail.primitiveRadio description).slot? gesture = some (affordance, slot)) :
    binder.Routes widget affordance slot context
      ((WidgetDetail.primitiveRadio description).isOptional gesture) gesture
      fun runner => (binder.primitiveRadio widget description).perform runner context gesture := by
  cases gesture with
  | select text => cases exposed; exact .direct _ id
  | _ => cases exposed

end Kinds

/-- Every gesture that a kind of widget has takes one of the routes. -/
theorem Binder.routes_perform (binder : Binder) (description : WidgetDescription)
    (context : Context) {gesture : Gesture} {affordance : Affordance}
    {slot : Option OperationBody}
    (exposed : description.detail.slot? gesture = some (affordance, slot)) :
    binder.Routes description.id affordance slot context
      (description.detail.isOptional gesture) gesture
      fun runner => (binder.boundWidget description).perform runner context gesture := by
  have detail : (binder.boundWidget description).detail =
      binder.boundDetail description.id description.detail := rfl
  simp only [BoundWidget.perform, detail]
  cases kind : description.detail with
  | monoReference reference =>
      exact MonoReferenceWidget.routes_perform binder _ context (kind ▸ exposed)
  | multiReference reference =>
      exact MultiReferenceWidget.routes_perform binder _ context (kind ▸ exposed)
  | containmentReference containment =>
      exact ContainmentWidget.routes_perform binder _ context (kind ▸ exposed)
  | primitiveList list => exact ListWidget.routes_perform binder _ context (kind ▸ exposed)
  | primitiveRadio radio => exact RadioWidget.routes_perform binder _ context (kind ▸ exposed)
  | languageExpression =>
      rw [kind] at exposed
      cases exposed

/-! ## How a gesture without operations ends -/

/-- A handler without operations succeeds without a change and takes all feedback. -/
theorem EditHandler.outcome_invoke_of_undeclared {handler : EditHandler}
    (undeclared : handler.operations? = none) (runner : OperationRunner) (context : Context)
    (bindings : List (String × Value)) (session : Session) :
    let invoked := Action.outcome (handler.invoke runner context bindings) session
    invoked.1 = .neutral session.feedback ∧ invoked.2.feedback = [] := by
  rw [invoke, undeclared]
  exact ⟨rfl, rfl⟩

/--
A gesture had no operations: it called no runner, and it ended unwired, as a
failure to read its key, or well and without a change.  A status carries all
feedback.
-/
structure EndsIdle (act : OperationRunner → Action GestureOutcome) (runner : OperationRunner)
    (session : Session) (unwired unreadable : Prop) : Prop where
  ranNothing : RanNothing act runner session
  notWired : unwired → Action.outcome (act runner) session = (.notWired, session)
  failed : unreadable → (Action.outcome (act runner) session).1 =
    .done (.failure Affordance.createElement.failureMessage session.feedback)
  neutral : ¬ unwired → ¬ unreadable →
    (Action.outcome (act runner) session).1 = .done (.neutral session.feedback)
  emptied : ¬ unwired → (Action.outcome (act runner) session).2.feedback = []

namespace EndsIdle

variable {handler : EditHandler} {unwired unreadable : Prop}

theorem through (undeclared : handler.operations? = none) (wired : ¬ unwired)
    (readable : ¬ unreadable) (runner : OperationRunner) (context : Context)
    (bindings : List (String × Value)) (session : Session) :
    EndsIdle (fun runner => Gesture.through runner context handler bindings) runner session
      unwired unreadable := by
  obtain ⟨status, feedback⟩ :=
    EditHandler.outcome_invoke_of_undeclared undeclared runner context bindings session
  constructor
  case ranNothing =>
    exact EditHandler.ranNothing_through undeclared runner context bindings session
  case notWired => exact fun unwired => absurd unwired wired
  case failed => exact fun unreadable => absurd unreadable readable
  case neutral => exact fun _ _ => congrArg GestureOutcome.done status
  case emptied => exact fun _ => feedback

/-- A creation looks at its key first; asking for the owner leaves the feedback alone. -/
theorem creation {reference : ReferenceProviders} {context : Context} {key : String}
    (undeclared : handler.operations? = none) (wired : ¬ unwired)
    (creates : handler.affordance = .createElement)
    (asks : Action.OnlyAsks (reference.owner context)) (runner : OperationRunner)
    (session : Session) :
    EndsIdle (fun runner => Gesture.creation runner context reference handler key) runner
      session unwired (ChildCreation.decodeKey? key = none) := by
  have heard := (asks session).2.2
  have invoked := fun bindings => EditHandler.outcome_invoke_of_undeclared undeclared runner
    context bindings (Action.outcome (reference.owner context) session).2
  constructor
  case ranNothing => exact Gesture.ranNothing_creation (.inl undeclared) asks runner session
  case notWired => exact fun unwired => absurd unwired wired
  case failed =>
    intro unread
    rw [← heard, ← creates, Gesture.creation, Action.outcome_bind, EditHandler.invokeCreate,
      unread]
    rfl
  case neutral =>
    intro _ readable
    obtain ⟨place, decoded⟩ := Option.ne_none_iff_exists'.mp readable
    rw [← heard, Gesture.creation, Action.outcome_bind, EditHandler.invokeCreate, decoded]
    exact congrArg GestureOutcome.done (invoked _).1
  case emptied =>
    intro _
    rw [Gesture.creation, Action.outcome_bind, EditHandler.invokeCreate]
    cases ChildCreation.decodeKey? key with
    | none => rfl
    | some place => exact (invoked _).2

/-- On every route the handler finds nothing to run in an empty slot. -/
theorem of_routes {binder : Binder} {widget : String} {affordance : Affordance}
    {slot : Option OperationBody} {context : Context} {isOptional : Bool} {gesture : Gesture}
    {act : OperationRunner → Action GestureOutcome}
    (routes : binder.Routes widget affordance slot context isOptional gesture act)
    (empty : slot = none ∨ slot = some []) (runner : OperationRunner) (session : Session) :
    EndsIdle act runner session (isOptional = true ∧ slot = none) gesture.IsUnreadable := by
  have undeclared : (EditHandler.mk affordance widget slot).operations? = none :=
    (EditHandler.operations?_eq_none_iff _).mpr empty
  cases routes with
  | direct bindings readable =>
      exact through undeclared (fun unwired => nomatch unwired.1) readable runner context
        bindings session
  | creation key asked creates =>
      refine creation undeclared (fun unwired => nomatch unwired.1) creates ?_ runner session
      rw [asked]
      exact binder.onlyAsks_ownerProvider _ context
  | whenDeclared bindings readable =>
      -- An absent slot leaves no handler behind, an empty one a handler that has nothing to run.
      cases slot with
      | some operations =>
          exact through undeclared (fun unwired => nomatch unwired.2) readable runner context
            bindings session
      | none =>
          have unwired : true = true ∧ (none : Option OperationBody) = none := ⟨rfl, rfl⟩
          constructor
          case ranNothing => exact ⟨fun _ => rfl, rfl, rfl⟩
          case notWired => exact fun _ => rfl
          case failed => exact fun unreadable => absurd unreadable readable
          case neutral => exact fun wired => absurd unwired wired
          case emptied => exact fun wired => absurd unwired wired

end EndsIdle

namespace Binder

/--
A gesture whose slot is absent or empty calls no runner.  It gives no status when
the kind of widget wires it only for a declared slot and the slot is absent;
otherwise its status hands out all feedback and reports success without a change,
unless it is a creation whose key cannot be read.  Such a creation fails.
-/
theorem endsIdle_of_empty_slot (binder : Binder) (description : WidgetDescription)
    (bound session : Session) (context : Context) {gesture : Gesture} {affordance : Affordance}
    {slot : Option OperationBody}
    (exposed : description.detail.slot? gesture = some (affordance, slot))
    (empty : slot = none ∨ slot = some []) :
    EndsIdle
      (fun runner =>
        (Action.outcome (binder.bind description) bound).1.perform runner context gesture)
      binder.runner session
      (description.detail.isOptional gesture = true ∧ slot = none) gesture.IsUnreadable :=
  .of_routes (binder.routes_perform description context exposed) empty binder.runner session

/-- A containment reference whose creation is declared without operations. -/
def idleBooks : WidgetDescription where
  id := "books"
  name := "books"
  detail := .containmentReference { slots := { createElement := some [] } }

/-- A novel that is created without operations changes nothing and takes the message along. -/
theorem endsIdle_of_creation_without_operations :
    let binder := HostScript.binder {} fun _ _ => pure none
    let gesture := Gesture.createElement "books::Novel"
    let shelf := Context.ofSelf (.node ⟨"shelf"⟩)
    let waiting : Session := { feedback := [⟨"Saved.", .info⟩] }
    let widget := (Action.outcome (binder.bind idleBooks) {}).1
    let ended := Action.outcome (binder.perform widget shelf gesture) waiting
    idleBooks.detail.slot? gesture = some (.createElement, some []) ∧
      ended.1 = .done (.neutral [⟨"Saved.", .info⟩]) ∧
      ended.2.runs = [] ∧ ended.2.feedback = [] := by
  intro binder gesture shelf waiting widget ended
  have exposed : idleBooks.detail.slot? gesture = some (.createElement, some []) := rfl
  have ends := binder.endsIdle_of_empty_slot idleBooks {} waiting shelf exposed (.inr rfl)
  have readable : ChildCreation.decodeKey? "books::Novel" ≠ none := by
    decide
  refine ⟨exposed, ends.neutral ?wired readable, ends.ranNothing.sameRuns, ends.emptied ?wired⟩
  exact fun unwired => nomatch unwired.2

/-- Without operations a creation still fails for a key that cannot be read. -/
theorem not_neutral_without_operations :
    let binder := HostScript.binder {} fun _ _ => pure none
    let gesture := Gesture.createElement "Novel"
    let shelf := Context.ofSelf (.node ⟨"shelf"⟩)
    let widget := (Action.outcome (binder.bind idleBooks) {}).1
    let ended := Action.outcome (binder.perform widget shelf gesture) {}
    idleBooks.detail.slot? gesture = some (.createElement, some []) ∧
      ended.1 = .done (.failure "Something went wrong while creating the element." []) ∧
      ended.1.status? ≠ none ∧ ∀ messages, ended.1 ≠ .done (.neutral messages) := by
  intro binder gesture shelf widget ended
  have exposed : idleBooks.detail.slot? gesture = some (.createElement, some []) := rfl
  have ends := EndsIdle.of_routes (binder.routes_perform idleBooks shelf exposed) (.inr rfl)
    binder.runner {}
  have undecoded : ChildCreation.decodeKey? "Novel" = none := by
    decide
  have failed : ended.1 =
      .done (.failure "Something went wrong while creating the element." []) :=
    ends.failed undecoded
  rw [failed]
  refine ⟨exposed, rfl, Option.some_ne_none _, ?notNeutral⟩
  rintro messages ⟨⟩

end Binder

end FormWidgets
