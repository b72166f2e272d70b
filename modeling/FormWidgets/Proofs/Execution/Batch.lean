import FormWidgets.Proofs.Execution.Evaluated
import FormWidgets.Proofs.Execution.FailStop
import FormWidgets.Proofs.Execution.Failure

/-!
# Batches

Additions, removals and deletions ask for one edit per value of one expression.
The values are the answer from before the first of these edits, so what the
edits do to the domain graph changes nothing about them.  The edits are asked for
in order and end with the first refusal; those of an addition with a position
come at consecutive ones from it.
-/

namespace FormWidgets

/-! ## Values of an answer -/

/-- An answer spreads into values: a list as it is, nothing and null none, any other value alone. -/
inductive Answer.Spreads : Answer → List Value → Prop where
  | absent : Spreads .absent []
  | null : Spreads (.of .null) []
  | list (items : List Value) : Spreads (.of (.list items)) items
  | alone {value : Value} (given : value ≠ .null) (single : ∀ items, value ≠ .list items) :
      Spreads (.of value) [value]

theorem Answer.spreads_values (answer : Answer) : answer.Spreads answer.values := by
  rcases answer with ⟨_ | value⟩
  · exact .absent
  cases value with
  | null => exact .null
  | list items => exact .list items
  | _ => exact .alone (by simp) (by simp)

/-! ## Edits in order -/

/-- The position at which an edit adds a value, if it does so at one. -/
def Edit.addedAt? : Edit → Option Nat
  | .add _ _ _ index => index
  | _ => none

/--
The calls ask for edits in order, after a history of earlier ones, up to and
including the first that is refused.
-/
inductive EditService.AsksInOrder (service : EditService) :
    List Edit → List Edit → List Interaction → Except EngineError Unit → Prop where
  | allAsked (history : List Edit) : AsksInOrder service history [] [] (.ok ())
  | refused {history rest : List Edit} {edit : Edit} {report : ErrorReport}
      (refusal : service.refusal history edit = some report) :
      AsksInOrder service history (edit :: rest) [.edited edit false] (.error (.ofReport report))
  | accepted {history rest : List Edit} {edit : Edit} {calls : List Interaction}
      {ending : Except EngineError Unit} (unrefused : service.refusal history edit = none)
      (later : AsksInOrder service (history ++ [edit]) rest calls ending) :
      AsksInOrder service history (edit :: rest) (.edited edit true :: calls) ending

theorem EditService.AsksInOrder.exists_eq_edited {service : EditService}
    {history edits : List Edit} {calls : List Interaction} {ending : Except EngineError Unit}
    (asks : service.AsksInOrder history edits calls ending) {k : Nat} {call : Interaction}
    (made : calls[k]? = some call) :
    ∃ edit accepted, edits[k]? = some edit ∧ call = .edited edit accepted := by
  induction asks generalizing k with
  | allAsked history => cases made
  | @refused history rest edit =>
      cases k with
      | zero => exact ⟨edit, false, rfl, (Option.some.inj made).symm⟩
      | succ k => cases made
  | @accepted history rest edit calls ending unrefused later step =>
      cases k with
      | zero => exact ⟨edit, true, rfl, (Option.some.inj made).symm⟩
      | succ k => exact step made

namespace Operation

/-- The expression whose values a batch adds, removes or deletes. -/
def valueExpression? : Operation → Option String
  | .add _ expression _ | .remove _ expression | .delete expression => some expression
  | _ => none

/-- The expression for the position of the first value. -/
def indexExpression? : Operation → Option String
  | .add _ _ index => index
  | _ => none

/-- The edits of a batch, one per value, or per node when nodes are deleted. -/
def batchEdits (operation : Operation) (owner : Node) (first : Option Nat)
    (values : List Value) : List Edit :=
  match operation with
  | .add feature _ _ =>
      values.mapIdx fun k value => .add owner feature value (first.map (· + k))
  | .remove feature _ => values.map (.remove owner feature)
  | .delete _ => (values.filterMap Value.node?).map .delete
  | _ => []

/-- Where a batch starts when its expressions are answered like this. -/
inductive StartsAt (operation : Operation) (answer : String → Answer) : Option Nat → Prop where
  | anywhere (unplaced : operation.indexExpression? = none) : StartsAt operation answer none
  | position {expression : String} {position : Nat}
      (placed : operation.indexExpression? = some expression)
      (small : position < 2 ^ 63) (reads : (answer expression).ReadsAs position) :
      StartsAt operation answer (some position)

/-- The values of a batch with a position come at consecutive positions from it on. -/
theorem addedAt?_of_startsAt {operation : Operation} {answer : String → Answer}
    {position k : Nat} (starts : operation.StartsAt answer (some position)) {owner : Node}
    {values : List Value} {edit : Edit}
    (planned : (operation.batchEdits owner (some position) values)[k]? = some edit) :
    edit.addedAt? = some (position + k) := by
  cases starts with
  | @position expression _ placed =>
      cases operation with
      | add feature expression index =>
          rw [batchEdits, List.getElem?_mapIdx, Option.map_eq_some_iff] at planned
          obtain ⟨value, _, rfl⟩ := planned
          rfl
      | _ => cases placed

end Operation

namespace Execution

variable {evaluator : Evaluator} {service : EditService} {scope : Context}

theorem submitAll_cons (service : EditService) (edit : Edit) (rest : List Edit) :
    submitAll service (edit :: rest) = service.submit edit >>= fun _ => submitAll service rest :=
  rfl

/-- Adding at consecutive positions is asking for one addition after the other. -/
theorem addAll_eq_submitAll (service : EditService) (owner : Node) (feature : String)
    (index : Option Nat) (values : List Value) :
    addAll service owner feature index values =
      submitAll service
        (values.mapIdx fun k value => .add owner feature value (index.map (· + k))) := by
  induction values generalizing index with
  | nil => rfl
  | cons value rest step =>
      have shifted (k : Nat) : (index.map (· + 1)).map (· + k) = index.map (· + (k + 1)) := by
        rw [Option.map_map]
        congr 1
        funext position
        show position + 1 + k = position + (k + 1)
        omega
      have head : index.map (· + 0) = index := congrFun Option.map_id index
      rw [addAll, step, List.mapIdx_cons, submitAll_cons, head]
      simp only [shifted]

/-- Edits that are asked for one after the other are the only thing that happens. -/
theorem exists_asksInOrder (service : EditService) (edits : List Edit) (start : Session) :
    ∃ calls ending after,
      Attempt.outcome (submitAll service edits) start = (ending, after) ∧
        service.AsksInOrder start.edits edits calls ending ∧
        after.trace = start.trace ++ calls := by
  induction edits generalizing start with
  | nil => exact ⟨[], .ok (), start, rfl, .allAsked _, (List.append_nil _).symm⟩
  | cons edit rest step =>
      have asked := service.outcome_submit edit start
      have trace := service.trace_sessionAfter edit start
      rw [EditService.verdict] at asked
      rw [submitAll_cons]
      cases refusal : service.refusal start.edits edit with
      | some report =>
          rw [refusal] at asked trace
          exact ⟨_, _, _, Attempt.outcome_bind_of_error _ asked, .refused refusal, trace⟩
      | none =>
          rw [refusal] at asked trace
          obtain ⟨calls, ending, after, ends, asks, later⟩ :=
            step (service.sessionAfter edit start)
          rw [service.edits_sessionAfter] at asks
          refine ⟨.edited edit true :: calls, ending, after, ?_, .accepted refusal asks, ?_⟩
          · rw [Attempt.outcome_bind_of_ok _ asked]
            exact ends
          · rw [later, trace, List.append_assoc]
            rfl

/-- Ask for the values of an expression, and then for the edits planned for them. -/
def submitPlanned (evaluator : Evaluator) (service : EditService) (scope : Context)
    (expression : String) (plan : List Value → List Edit) : Attempt Context := do
  let answer ← evaluator.evaluate scope expression
  submitAll service (plan answer.values)
  pure scope

theorem exists_asksInOrder_submitPlanned (evaluator : Evaluator) (service : EditService)
    (scope : Context) (expression : String) (plan : List Value → List Edit) (start : Session) :
    ∃ calls ending after,
      Attempt.outcome (submitPlanned evaluator service scope expression plan) start =
          (ending.map fun _ => scope, after) ∧
        service.AsksInOrder start.edits
          (plan (evaluator.answer start.edits scope expression).values) calls ending ∧
        after.trace =
          start.trace ++ [.evaluated (evaluator.evaluation scope expression)] ++ calls := by
  let asked := start.recorded (.evaluated (evaluator.evaluation scope expression))
  have same : asked.edits = start.edits := start.edits_evaluated _
  obtain ⟨calls, ending, after, ends, asks, trace⟩ := exists_asksInOrder service
    (plan (evaluator.answer start.edits scope expression).values) asked
  rw [same] at asks
  refine ⟨calls, ending, after, ?_, asks, ?_⟩
  · rw [submitPlanned, Attempt.outcome_bind, Attempt.outcome_liftM, evaluator.outcome_evaluate]
    show Attempt.outcome (submitAll service _ >>= fun _ => pure scope) asked = _
    rw [Attempt.outcome_bind, ends]
    cases ending with
    | error error => rfl
    | ok accepted => rfl
  · rw [trace, Session.trace_recorded]

/-! ## Batches are planned -/

section Planned

variable {operation : Operation} {owner : Node} {expression : String}
  (batch : operation.valueExpression? = some expression)
  (self : operation.needsSelf = true → scope.selfNode? = some owner) (start : Session)
include batch self

theorem outcome_batch_of_unplaced (unplaced : operation.indexExpression? = none) :
    Attempt.outcome (runOperation evaluator service operation scope) start =
      Attempt.outcome (submitPlanned evaluator service scope expression
        (operation.batchEdits owner none)) start := by
  cases operation with
  | add feature values index =>
      cases batch
      cases unplaced
      rw [runOperation, Attempt.outcome_bind_of_ok _ (outcome_selfNode (self rfl) start)]
      simp only [addAll_eq_submitAll]
      rfl
  | remove feature values =>
      cases batch
      rw [runOperation, Attempt.outcome_bind_of_ok _ (outcome_selfNode (self rfl) start)]
      rfl
  | delete values =>
      cases batch
      rw [runOperation]
      rfl
  | _ => cases batch

theorem outcome_batch_of_placed {indexExpression : String}
    (placed : operation.indexExpression? = some indexExpression) :
    Attempt.outcome (runOperation evaluator service operation scope) start =
      Attempt.outcome
        (position evaluator scope indexExpression >>= fun first =>
          submitPlanned evaluator service scope expression
            (operation.batchEdits owner (some first))) start := by
  cases operation with
  | add feature values index =>
      cases batch
      cases placed
      rw [runOperation, Attempt.outcome_bind_of_ok _ (outcome_selfNode (self rfl) start)]
      simp only [addAll_eq_submitAll]
      rfl
  | remove => cases placed
  | delete => cases placed
  | _ => cases batch

end Planned

/--
How the run of a batch ends in a scope and a session.  Either its position is
asked for in vain, and that is all that happens; or the values are asked for
once, behind the position if there is one, and the edits follow.
-/
inductive RunsBatch (evaluator : Evaluator) (service : EditService) (operation : Operation)
    (owner : Node) (expression : String) (scope : Context) (start : Session) :
    Except EngineError Context × Session → Prop where
  | withoutPosition {indexExpression : String}
      (placed : operation.indexExpression? = some indexExpression)
      (lacks : ¬ ∃ position : Nat, position < 2 ^ 63 ∧
        (evaluator.answer start.edits scope indexExpression).ReadsAs position) :
      RunsBatch evaluator service operation owner expression scope start
        (.error (.yieldedNothing indexExpression "index"),
          start.recorded (.evaluated (evaluator.evaluation scope indexExpression)))
  | inOrder {first : Option Nat} {values : List Value} {calls : List Interaction}
      {ending : Except EngineError Unit} {after : Session}
      (starts : operation.StartsAt (evaluator.answer start.edits scope) first)
      (spreads : (evaluator.answer start.edits scope expression).Spreads values)
      (asks : service.AsksInOrder start.edits (operation.batchEdits owner first values)
        calls ending)
      (trace : after.trace = start.trace ++
        (operation.indexExpression?.toList ++ [expression]).map
          (fun asked => .evaluated (evaluator.evaluation scope asked)) ++ calls)
      (consecutive : ∀ position, first = some position → ∀ k call, calls[k]? = some call →
        call.edit?.bind Edit.addedAt? = some (position + k))
      (fits : ∀ position, first = some position → values.length < 2 ^ 63 →
        ∀ k < values.length,
          (UInt64.ofNat position + UInt64.ofNat k).toNat = position + k) :
      RunsBatch evaluator service operation owner expression scope start
        (ending.map fun _ => scope, after)

theorem toNat_position_add {position k : Nat} (small : position < 2 ^ 63) (few : k < 2 ^ 63) :
    (UInt64.ofNat position + UInt64.ofNat k).toNat = position + k := by
  have held : (UInt64.ofNat position).toNat = position := Nat.mod_eq_of_lt (by omega)
  have counted : (UInt64.ofNat k).toNat = k := Nat.mod_eq_of_lt (by omega)
  rw [UInt64.toNat_add, held, counted]
  exact Nat.mod_eq_of_lt (by omega)

theorem RunsBatch.of_asksInOrder {operation : Operation} {owner : Node} {expression : String}
    {first : Option Nat} {start after : Session} {calls : List Interaction}
    {ending : Except EngineError Unit}
    (starts : operation.StartsAt (evaluator.answer start.edits scope) first)
    (asks : service.AsksInOrder start.edits
      (operation.batchEdits owner first (evaluator.answer start.edits scope expression).values)
      calls ending)
    (trace : after.trace = start.trace ++
      (operation.indexExpression?.toList ++ [expression]).map
        (fun asked => .evaluated (evaluator.evaluation scope asked)) ++ calls) :
    RunsBatch evaluator service operation owner expression scope start
      (ending.map fun _ => scope, after) := by
  refine .inOrder starts (Answer.spreads_values _) asks trace ?consecutive ?fits
  case consecutive =>
    rintro position rfl k call made
    obtain ⟨edit, accepted, planned, rfl⟩ := asks.exists_eq_edited made
    exact Operation.addedAt?_of_startsAt starts planned
  case fits =>
    rintro position rfl few k within
    cases starts with
    | position placed small => exact toNat_position_add small (within.trans few)

/--
A batch asks for the edits of the values as they were before the first of them,
in order and up to the first refusal, and an addition whose position is none
asks for nothing.
-/
theorem runsBatch_runOperation (evaluator : Evaluator) (service : EditService)
    {operation : Operation} {owner : Node} {expression : String} {scope : Context}
    (batch : operation.valueExpression? = some expression)
    (self : operation.needsSelf = true → scope.selfNode? = some owner) (start : Session) :
    RunsBatch evaluator service operation owner expression scope start
      (Attempt.outcome (runOperation evaluator service operation scope) start) := by
  cases placed : operation.indexExpression? with
  | none =>
      obtain ⟨calls, ending, after, ends, asks, trace⟩ := exists_asksInOrder_submitPlanned
        evaluator service scope expression (operation.batchEdits owner none) start
      rw [outcome_batch_of_unplaced batch self start placed, ends]
      apply RunsBatch.of_asksInOrder (.anywhere placed) asks
      rw [trace, placed]
      rfl
  | some index =>
      have asked := outcome_position evaluator scope index start
      rw [outcome_batch_of_placed batch self start placed]
      cases given : (evaluator.answer start.edits scope index).position? with
      | none =>
          rw [given] at asked
          rw [Attempt.outcome_bind_of_error _ asked]
          exact .withoutPosition placed (Answer.not_readsAs_of_position? given)
      | some position =>
          rw [given] at asked
          obtain ⟨small, reads⟩ := Answer.position?_eq_some_iff.mp given
          obtain ⟨calls, ending, after, ends, asks, trace⟩ := exists_asksInOrder_submitPlanned
            evaluator service scope expression (operation.batchEdits owner (some position))
            (start.recorded (.evaluated (evaluator.evaluation scope index)))
          rw [Session.edits_evaluated] at asks
          rw [Attempt.outcome_bind_of_ok _ asked, ends]
          apply RunsBatch.of_asksInOrder (.position placed small reads) asks
          rw [trace, placed, Session.trace_recorded, List.append_assoc start.trace]
          rfl

/-- Books wait in a list that becomes shorter with every edit. -/
def waitingBooks : Evaluator where
  answer := fun history _ expression =>
    if expression = "start" then .of (.text " 9223372036854775806 ")
    else .of (.list ([.node ⟨"emma"⟩, .text "a note", .node ⟨"ivanhoe"⟩].drop history.length))

/-- Of three waiting values the second is refused, at the last position of 63 bits. -/
theorem runsBatch_of_waiting_books :
    let host : HostScript := {}
    let report : ErrorReport := ⟨{ kind := .editRejected, message := "full" }, []⟩
    let full := host.editService.refusingAfter host.editService 1 report
    let addWaiting : Operation := .add "books" "waiting" (some "start")
    let scope := Context.ofSelf (.node ⟨"shelf"⟩)
    let ended := Attempt.outcome (runOperation waitingBooks full addWaiting scope) {}
    ended.2.edits =
        [.add ⟨"shelf"⟩ "books" (.node ⟨"emma"⟩) (some 9223372036854775806),
          .add ⟨"shelf"⟩ "books" (.text "a note") (some 9223372036854775807)] ∧
      RunsBatch waitingBooks full addWaiting ⟨"shelf"⟩ "waiting" scope {} ended := by
  intro host report full addWaiting scope ended
  constructor
  · decide +kernel
  · exact runsBatch_runOperation waitingBooks full rfl (fun _ => rfl) {}

end Execution

end FormWidgets
