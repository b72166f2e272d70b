import FormWidgets.Proofs.Execution.Evaluated
import FormWidgets.Proofs.Execution.Failure
import FormWidgets.Proofs.Widget.CreationNames

/-!
# Positions of a reordering

A gesture has positions without a sign, expressions see them as integers with one, and
an edit gets back positions without a sign.  The two conversions agree: a position
comes back as it was, and the positions that no integer can hold come back as the
last one that an integer can.
-/

namespace FormWidgets

theorem Answer.position?_ofPosition (position : UInt64) :
    (Answer.of (.ofPosition position)).position? = some (min position.toNat (2 ^ 63 - 1)) := by
  have held : (Int64.ofInt (min (position.toNat : Int) Int64.maxValue.toInt)).toInt =
      (min position.toNat (2 ^ 63 - 1) : Nat) := by
    rw [Int64.toInt_maxValue, Int64.toInt_ofInt_of_le (by omega) (by omega)]
    omega
  apply position?_eq_some_iff.mpr
  constructor
  · omega
  · rw [← held]
    exact .int _

namespace Execution

variable {evaluator : Evaluator} {scope : Context} {owner : Node}
  {elementExpression placeExpression : String} {value : Value} {position : Nat}

/-- A reordering whose expressions are answered asks for one move, as they were answered. -/
theorem outcome_runBody_reorder (service : EditService) (feature : String)
    (owned : scope.selfNode? = some owner) (given : value ≠ .null)
    (element : ∀ history, evaluator.answer history scope elementExpression = .of value)
    (place : ∀ history,
      (evaluator.answer history scope placeExpression).position? = some position)
    (start : Session) :
    let move := Edit.move owner feature value position
    let ended := Attempt.outcome (runBody evaluator service
      [.reorder feature elementExpression placeExpression] scope) start
    ended.1 = (service.verdict start.edits move).map (fun _ => scope) ∧
      ended.2.edits = start.edits ++ [move] := by
  intro move ended
  let asked := start.recorded (.evaluated (evaluator.evaluation scope elementExpression))
  let placed := asked.recorded (.evaluated (evaluator.evaluation scope placeExpression))
  have same : placed.edits = start.edits := by
    rw [Session.edits_evaluated, Session.edits_evaluated]
  have found := outcome_selfNode owned start
  have answered : Attempt.outcome (required evaluator scope elementExpression "element") start =
      (.ok value, asked) := by
    rw [outcome_required, element]
    cases value with
    | null => exact absurd rfl given
    | _ => rfl
  have reached : Attempt.outcome (Execution.position evaluator scope placeExpression) asked =
      (.ok position, placed) := by
    rw [outcome_position, place]
    rfl
  have moved : ended =
      ((service.verdict start.edits move).map (fun _ => scope),
        service.sessionAfter move placed) := by
    simp only [ended, runBody, runOperation, bind_pure]
    rw [Attempt.outcome_bind_of_ok _ found, Attempt.outcome_bind_of_ok _ answered,
      Attempt.outcome_bind_of_ok _ reached, Attempt.outcome_bind, service.outcome_submit, same]
    cases service.verdict start.edits move with
    | error error => rfl
    | ok accepted => rfl
  rw [moved]
  constructor
  · rfl
  · rw [service.edits_sessionAfter, same]

end Execution

namespace Binder

variable {binder : Binder} {description : WidgetDescription} {bound session : Session}
  {context : Context} {value : Value} {fromIndex toIndex : UInt64}

/-- On the kinds of widgets that have one, a reordering runs its slot with its bindings. -/
theorem runsSlot_reorder {body : OperationBody}
    (declared : description.detail.slot? (.reorder value fromIndex toIndex) =
      some (.reorder, some body)) (owner : Node) :
    let gesture := Gesture.reorder value fromIndex toIndex
    RunsSlot .reorder (some body) (gesture.bindings? owner) context
      (fun runner => (binder.boundWidget description).perform runner context gesture)
      binder.runner session := by
  intro gesture
  have detail : (binder.boundWidget description).detail =
      binder.boundDetail description.id description.detail := rfl
  have createsNothing (key : String) : gesture ≠ .createElement key := by
    simp [gesture]
  have follows : Follows (description.detail.slot? gesture) (gesture.bindings? owner) context
      (fun runner => (binder.boundWidget description).perform runner context gesture)
      binder.runner session := by
    simp only [BoundWidget.perform, detail]
    cases kind : description.detail with
    | multiReference reference =>
        exact MultiReferenceWidget.follows_perform binder _ reference gesture
          fun key creates => absurd creates (createsNothing key)
    | containmentReference containment =>
        exact ContainmentWidget.follows_perform binder _ containment gesture
          fun key creates => absurd creates (createsNothing key)
    | primitiveList list => exact ListWidget.follows_perform binder _ list gesture
    | _ =>
        rw [kind] at declared
        cases declared
  rw [declared] at follows
  exact follows

/--
A reordering asks for one move of the element, to the position of the gesture: to the
same one where integers hold it, and to the last one they hold otherwise.  It fails
only when this move is refused.
-/
theorem reorder_moves_to_position {evaluator : Evaluator} {service : EditService}
    (executes : binder.runner = Execution.runner evaluator service)
    (answersVariables : ∀ history context name value, context.find? name = some value →
      evaluator.answer history context name = .of value)
    {feature : String}
    (declared : description.detail.slot? (.reorder value fromIndex toIndex) =
      some (.reorder, some [.reorder feature "item" "toIndex"]))
    {owner : Node} (owned : context.selfNode? = some owner) (given : value ≠ .null) :
    let widget := (Action.outcome (binder.bind description) bound).1
    let ended := Action.outcome
      (binder.perform widget context (.reorder value fromIndex toIndex)) session
    ∃ (position : Nat) (status : Status),
      (toIndex.toNat ≤ 2 ^ 63 - 1 → position = toIndex.toNat) ∧
        (2 ^ 63 - 1 < toIndex.toNat → position = 2 ^ 63 - 1) ∧
        ended.2.edits = session.edits ++ [.move owner feature value position] ∧
        ended.1 = .done status ∧
        status.isSemanticChange =
          (service.refusal session.edits (.move owner feature value position)).isNone := by
  intro widget ended
  have runsSlot : RunsSlot .reorder _ _ context _ binder.runner session :=
    runsSlot_reorder declared owner
  obtain ⟨called, binds, ran⟩ := runsSlot.ran _ _ rfl (List.cons_ne_nil _ _) rfl
  have ran : RanOnce binder.runner _ called _ session ended := ran
  obtain ⟨before, same, edits, messages, status⟩ := ran.exists_ended
  have item : called.find? "item" = some value := by
    apply binds.1
    simp
  have place : called.find? "toIndex" = some (.ofPosition toIndex) := by
    apply binds.1
    simp
  have self : called.selfNode? = some owner := by
    have unbound : called.find? Variable.self = context.find? Variable.self := by
      apply binds.2
      simp [Variable.self]
    rw [Context.selfNode?, Context.self?, unbound]
    exact owned
  obtain ⟨ends, moved⟩ := Execution.outcome_runBody_reorder service feature self given
    (fun history => answersVariables history called "item" _ item)
    (fun history => by
      rw [answersVariables history called "toIndex" _ place, Answer.position?_ofPosition])
    before
  rw [executes, Execution.edits_runner, moved, same] at edits
  rw [executes, Execution.result_runner, ends, same] at status
  refine ⟨_, _, ?held, ?beyond, edits, status, ?changes⟩
  case held =>
    intro small
    exact Nat.min_eq_left small
  case beyond =>
    intro large
    exact Nat.min_eq_right large.le
  case changes =>
    rw [Status.isSemanticChange_ofRun, EditService.verdict]
    cases service.refusal session.edits _ with
    | none => rfl
    | some report => rfl

/-- A list of titles that can be put in another order. -/
def orderedTitles : WidgetDescription where
  id := "titles"
  name := "titles"
  detail := .primitiveList
    { slots := { reorder := some [.reorder "titles" "item" "toIndex"] } }

/-- The last position of 64 bits becomes the last one of 63 bits, and the move is accepted. -/
theorem reorder_of_title_to_last_position :
    let host : HostScript := {}
    let binder := host.binder (Execution.runner (host.evaluator none) host.editService)
    let widget := (Action.outcome (binder.bind orderedTitles) {}).1
    let shelf := Context.ofSelf (.node ⟨"shelf"⟩)
    let gesture := Gesture.reorder (.text "Emma") 2 18446744073709551615
    let ended := Action.outcome (binder.perform widget shelf gesture) {}
    ended.2.edits = [.move ⟨"shelf"⟩ "titles" (.text "Emma") 9223372036854775807] ∧
      ∃ status, ended.1 = .done status ∧ status.isSemanticChange = true := by
  intro host binder widget shelf gesture ended
  have answersVariables : ∀ history context name value, context.find? name = some value →
      (host.evaluator none).answer history context name = .of value := by
    intro history context name value found
    simp [host, HostScript.evaluator, HostScript.answer, found, NameMap.find?_empty, Answer.of]
  have declared : orderedTitles.detail.slot? gesture =
      some (.reorder, some [.reorder "titles" "item" "toIndex"]) := rfl
  have executes : binder.runner = Execution.runner (host.evaluator none) host.editService := rfl
  have owned : shelf.selfNode? = some ⟨"shelf"⟩ := rfl
  obtain ⟨position, status, _, beyond, edits, done, changes⟩ :=
    reorder_moves_to_position executes answersVariables declared owned (by decide)
  have last : position = 9223372036854775807 := beyond (by decide)
  rw [last] at edits
  exact ⟨edits, status, done, changes⟩

end Binder

end FormWidgets
