import FormWidgets.Proofs.ChildCreation.KeyReading
import FormWidgets.Proofs.Session.Logging
import FormWidgets.Proofs.Widget.CreationOwner

/-!
# Names of created elements

The key of a creation names a relation and a type, and the operations find both as
variables.  A creation among the operations has two names of its own, though, and
with these it asks the service: names are no expressions, so that a variable
written in their place is not looked up.

The main statement follows the names from the key to the service.  A creation is
asked for with the names of the key only where the description writes them down
itself.
-/

namespace FormWidgets

namespace Execution

variable (evaluator : Evaluator) (service : EditService)

/-- What was asked for before a run stays in front of what the run asks for. -/
theorem edits_prefix_runBody (body : OperationBody) (context : Context) (session : Session) :
    session.edits <+:
      (Attempt.outcome (runBody evaluator service body context) session).2.edits := by
  refine @step_runBody evaluator service (fun before after => before.edits <+: after.edits)
    (fun _ => List.prefix_rfl) (fun first second => first.trans second) ?evaluated ?asked
    body context session
  case evaluated =>
    intro session _ _
    rw [Session.edits_recorded]
    exact List.prefix_append _ _
  case asked =>
    intro session edit
    rw [service.edits_sessionAfter]
    exact List.prefix_append _ _

theorem edits_prefix_runBody_bind (first second : OperationBody) (inner outer : Context)
    (session : Session) :
    session.edits <+: (Attempt.outcome
      (runBody evaluator service first inner >>= fun _ => runBody evaluator service second outer)
      session).2.edits := by
  have grows := edits_prefix_runBody evaluator service first inner session
  rw [Attempt.outcome_bind]
  rcases ends : Attempt.outcome (runBody evaluator service first inner) session with
    ⟨error | scope, after⟩
  · rw [ends] at grows
    exact grows
  · rw [ends] at grows
    exact grows.trans (edits_prefix_runBody evaluator service second outer after)

/-- The runner asks for what the run asks for: the event of a failure is no edit. -/
theorem edits_runner (body : OperationBody) (context : Context) (session : Session) :
    (Action.outcome (runner evaluator service body context) session).2.edits =
      (Attempt.outcome (runBody evaluator service body context) session).2.edits := by
  rcases ends : Attempt.outcome (runBody evaluator service body context) session with
    ⟨error | scope, after⟩
  · rw [outcome_runner_of_error ends]
    rfl
  · rw [outcome_runner_of_ok ends]

/-- After the request of a creation come the runs of its children and of the rest of the body. -/
theorem runBody_create_cons {typeName referenceName : String} {variableName : Option String}
    {children rest : OperationBody} {scope : Context} {owner : Node}
    (owned : scope.selfNode? = some owner) :
    runBody evaluator service (.create typeName referenceName variableName children :: rest)
        scope =
      service.create owner typeName referenceName >>= fun created =>
        let bound := scope.put (variableName.getD Variable.newInstance) (.node created)
        runBody evaluator service children (bound.put Variable.self (.node created)) >>=
          fun _ => runBody evaluator service rest bound := by
  rw [runBody, runOperation]
  simp only [selfNode, owned, Attempt.discard_bind, pure_bind, bind_assoc]

/-- A creation is the first that a run asks for, with the names as they are written. -/
theorem exists_edits_runBody_create_cons {typeName referenceName : String}
    {variableName : Option String} {children rest : OperationBody} {scope : Context}
    {owner : Node} (owned : scope.selfNode? = some owner) (session : Session) :
    ∃ more,
      (Attempt.outcome (runBody evaluator service
          (.create typeName referenceName variableName children :: rest) scope) session).2.edits =
          session.edits ++ .create owner typeName referenceName :: more ∧
        (children = [] → rest = [] → more = []) := by
  rw [runBody_create_cons evaluator service owned, Attempt.outcome_bind, service.outcome_create]
  cases service.verdict session.edits (.create owner typeName referenceName) with
  | error error =>
      refine ⟨[], ?_, fun _ _ => rfl⟩
      exact service.edits_sessionAfter _ session
  | ok accepted =>
      let asked := service.sessionAfter (.create owner typeName referenceName) session
      let node := service.created session.edits owner typeName referenceName
      let bound := scope.put (variableName.getD Variable.newInstance) (.node node)
      let inner := bound.put Variable.self (.node node)
      have grows := edits_prefix_runBody_bind evaluator service children rest inner bound asked
      rcases grows with ⟨more, whole⟩
      refine ⟨more, ?_, ?_⟩
      · show (Attempt.outcome _ asked).2.edits = _
        rw [← whole, service.edits_sessionAfter, List.append_assoc]
        rfl
      · rintro rfl rfl
        exact List.append_right_eq_self.mp whole

end Execution

/-- What a gesture asked for is what its one run asked for. -/
theorem RanOnce.exists_edits_eq {runner : OperationRunner} {operations : OperationBody}
    {called : Context} {failureText : String} {session : Session}
    {ended : GestureOutcome × Session}
    (ran : RanOnce runner operations called failureText session ended) :
    ∃ before : Session, before.edits = session.edits ∧
      ended.2.edits = (Action.outcome (runner operations called) before).2.edits := by
  obtain ⟨before, same, edits, _⟩ := ran.exists_ended
  exact ⟨before, same, edits⟩

/-- A context in which the operations of a creation find the parts of its key and the owner. -/
def Context.NamesCreation (called context : Context) (relation typeName : String)
    (owner : Node) : Prop :=
  called.BindsOnly context
    [("containmentReference", .text relation), ("typeName", .text typeName),
      ("self", .node owner)]

theorem Context.NamesCreation.selfNode? {called context : Context} {relation typeName : String}
    {owner : Node} (names : called.NamesCreation context relation typeName owner) :
    called.selfNode? = some owner := by
  have self : called.find? "self" = some (.node owner) := by
    apply names.1
    simp
  rw [Context.selfNode?, Context.self?, Variable.self, self]
  rfl

namespace Binder

open ChildCreation (encodeKey EndsInColon keySeparator decodeKey?_eq_some_iff)

variable {binder : Binder} {description : WidgetDescription} {bound : Session}
  {reference : ReferenceProviders} {session : Session} {context : Context} {owner : Node}
  {relation typeName : String}

/-- The operations of a creation find the relation and the type that its key was made of. -/
theorem exists_ranOnce_of_encodeKey
    (shown : (Action.outcome (binder.bind description) bound).1.detail.reference? =
      some reference)
    (owned : (Action.outcome (reference.owner context) session).1 = some owner)
    (relationNonempty : relation ≠ "") (unseparated : ¬ keySeparator <:+: relation.toList)
    (noColon : ¬ EndsInColon relation) (typeNonempty : typeName ≠ "")
    {operations : OperationBody} (nonempty : operations ≠ [])
    (declared : description.detail.slot? (.createElement (encodeKey relation typeName)) =
      some (.createElement, some operations)) :
    let widget := (Action.outcome (binder.bind description) bound).1
    ∃ called : Context, called.NamesCreation context relation typeName owner ∧
      RanOnce binder.runner operations called Affordance.createElement.failureMessage session
        (Action.outcome
          (binder.perform widget context (.createElement (encodeKey relation typeName)))
          session) := by
  intro widget
  let key := encodeKey relation typeName
  obtain ⟨slot, ownerExpression, typeExpression, exposed, creates⟩ :=
    binder.createsBy_of_reference shown key
  obtain rfl : slot = some operations :=
    (Prod.ext_iff.mp (Option.some.inj (exposed.symm.trans declared))).2
  have asks : Action.OnlyAsks (reference.owner context) := by
    rw [creates.owner]
    exact binder.onlyAsks_ownerProvider ownerExpression context
  have decoded : ChildCreation.decodeKey? key = some (relation, typeName) :=
    decodeKey?_eq_some_iff.mpr ⟨rfl, relationNonempty, typeNonempty, noColon, unseparated⟩
  have given : (Gesture.createElement key).bindings? owner =
      some [("containmentReference", .text relation), ("typeName", .text typeName),
        ("self", .node owner)] :=
    congrArg (Option.map _) decoded
  let handler : EditHandler := ⟨.createElement, description.id, some operations⟩
  have runsSlot : RunsSlot handler.affordance handler.body _ context _ binder.runner session :=
    .creation reference handler key asks owned
  obtain ⟨called, binds, ran⟩ := runsSlot.ran operations _ rfl nonempty given
  refine ⟨called, binds, ?_⟩
  rw [← creates.perform binder.runner context key] at ran
  exact ran

/--
A creation by the key of a relation and a type runs the operations of its slot once,
and they find both parts of the key as variables.  A creation at their front is asked
for first, under the answered owner and with the names that the description has for
it; it is the only one when no operations are below and after it.  So what is asked
for is what the key says exactly when these names are those of the key.
-/
theorem creation_asks_as_written {evaluator : Evaluator} {service : EditService}
    (executes : binder.runner = Execution.runner evaluator service)
    (shown : (Action.outcome (binder.bind description) bound).1.detail.reference? =
      some reference)
    (owned : (Action.outcome (reference.owner context) session).1 = some owner)
    (relationNonempty : relation ≠ "") (unseparated : ¬ keySeparator <:+: relation.toList)
    (noColon : ¬ EndsInColon relation) (typeNonempty : typeName ≠ "")
    {writtenType writtenReference : String} {variableName : Option String}
    {children rest : OperationBody}
    (declared : description.detail.slot? (.createElement (encodeKey relation typeName)) =
      some (.createElement,
        some (.create writtenType writtenReference variableName children :: rest))) :
    let widget := (Action.outcome (binder.bind description) bound).1
    let ended := Action.outcome
      (binder.perform widget context (.createElement (encodeKey relation typeName))) session
    (∃ called : Context, called.NamesCreation context relation typeName owner ∧
      RanOnce binder.runner
        (.create writtenType writtenReference variableName children :: rest) called
        Affordance.createElement.failureMessage session ended) ∧
      ∃ more,
        ended.2.edits = session.edits ++ .create owner writtenType writtenReference :: more ∧
          (children = [] → rest = [] → more = []) ∧
          (ended.2.edits = session.edits ++ [.create owner typeName relation] ↔
            writtenType = typeName ∧ writtenReference = relation ∧ more = []) := by
  intro widget ended
  obtain ⟨called, names, ran⟩ := exists_ranOnce_of_encodeKey shown owned relationNonempty
    unseparated noColon typeNonempty (List.cons_ne_nil _ _) declared
  refine ⟨⟨called, names, ran⟩, ?_⟩
  obtain ⟨before, same, edits⟩ := ran.exists_edits_eq
  obtain ⟨more, first, only⟩ :=
    Execution.exists_edits_runBody_create_cons evaluator service names.selfNode? before
  rw [executes, Execution.edits_runner, first, same] at edits
  refine ⟨more, edits, only, ?_⟩
  rw [edits]
  simp only [List.append_cancel_left_eq, List.cons.injEq, Edit.create.injEq, true_and, and_assoc]

/-- A description that writes a novel down gets a novel, also by the key of an atlas. -/
theorem creation_of_novel_by_key_of_atlas :
    let host : HostScript := { answers := NameMap.empty.put "self.shelf" (.node ⟨"shelf"⟩) }
    let binder := host.binder (Execution.runner (host.evaluator none) host.editService)
    let widget := (Action.outcome (binder.bind (booksOf "self.shelf")) {}).1
    let caller := Context.ofSelf (.node ⟨"caller"⟩)
    let ended := Action.outcome
      (binder.perform widget caller (.createElement (encodeKey "maps" "Atlas"))) {}
    (∃ reference, widget.detail.reference? = some reference ∧
        (Action.outcome (reference.owner caller) {}).1 = some ⟨"shelf"⟩) ∧
      ended.2.edits = [.create ⟨"shelf"⟩ "Novel" "books"] ∧
      ended.2.edits ≠ [.create ⟨"shelf"⟩ "Atlas" "maps"] := by
  intro host binder widget caller ended
  have shown : widget.detail.reference? =
      some (binder.referenceProviders "books" ⟨none, some "self.shelf", none, none⟩) := rfl
  have owned : (Action.outcome (binder.ownerProvider (some "self.shelf") caller) {}).1 =
      some ⟨"shelf"⟩ := rfl
  have executes : binder.runner = Execution.runner (host.evaluator none) host.editService := rfl
  have declared : (booksOf "self.shelf").detail.slot?
      (.createElement (encodeKey "maps" "Atlas")) =
        some (.createElement, some [.create "Novel" "books" none []]) := rfl
  obtain ⟨_, more, first, only, key⟩ := creation_asks_as_written executes shown owned
    (by decide) (by decide) (by decide) (by decide) declared
  refine ⟨⟨_, shown, owned⟩, ?_, ?_⟩
  · rw [first, only rfl rfl]
    rfl
  · intro asked
    obtain ⟨different, _⟩ := key.mp asked
    exact absurd different (by decide)

/-- A containment reference whose creation has the variables of the key in place of names. -/
def booksByKey : WidgetDescription where
  id := "books"
  name := "books"
  detail := .containmentReference
    { slots :=
        { createElement :=
            some [.create Variable.typeName Variable.containmentReference none []] } }

/-- The variables of the key are taken for names, though their evaluation gives its parts. -/
theorem creation_with_names_of_variables :
    let host : HostScript := {}
    let evaluator := host.evaluator none
    let binder := host.binder (Execution.runner evaluator host.editService)
    let widget := (Action.outcome (binder.bind booksByKey) {}).1
    let caller := Context.ofSelf (.node ⟨"shelf"⟩)
    let ended := Action.outcome
      (binder.perform widget caller (.createElement (encodeKey "books" "Novel"))) {}
    (∀ history context name value, context.find? name = some value →
        evaluator.answer history context name = ⟨some value⟩) ∧
      (∃ reference, widget.detail.reference? = some reference ∧
        (Action.outcome (reference.owner caller) {}).1 = some ⟨"shelf"⟩) ∧
      (¬ keySeparator <:+: "books".toList ∧ ¬ EndsInColon "books") ∧
      ended.2.edits = [.create ⟨"shelf"⟩ "typeName" "containmentReference"] ∧
      ended.2.edits ≠ [.create ⟨"shelf"⟩ "Novel" "books"] := by
  intro host evaluator binder widget caller ended
  have answersVariables : ∀ history context name value, context.find? name = some value →
      evaluator.answer history context name = ⟨some value⟩ := by
    intro history context name value found
    simp [evaluator, host, HostScript.evaluator, HostScript.answer, found, NameMap.find?_empty]
  have edits : ended.2.edits = [.create ⟨"shelf"⟩ "typeName" "containmentReference"] := by
    decide +kernel
  refine ⟨answersVariables, ⟨_, rfl, rfl⟩, ⟨by decide, by decide⟩, edits, ?_⟩
  rw [edits]
  decide

end Binder

end FormWidgets
