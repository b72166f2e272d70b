import FormWidgets.Host.Script
import FormWidgets.Proofs.Execution.Reach
import Mathlib

/-!
# Failures of a run

A run that fails stops at an operation that it reaches, and there is one cause:
the operation needs the node that `self` is bound to and there is none, an
expression that must give something gave nothing of that sort, or the edit
service refused an edit.  The error names the cause, and the evaluation or the
request behind it is the last thing that the run did.
-/

namespace FormWidgets

/-! ## Answers that give nothing -/

namespace Answer

/-- An answer is an integer, or a text that denotes one, white space around it aside. -/
inductive ReadsAs : Answer → Int → Prop where
  | int (number : Int64) : ReadsAs (.of (.int number)) number.toInt
  | text {content : String} {number : Int}
      (denoted : Text.signed? (Text.trimChars content.toList) = some number) :
      ReadsAs (.of (.text content)) number

/-- An answer gives nothing of the expected sort. -/
def Lacks (answer : Answer) (expected : String) : Prop :=
  answer.value? = none ∨ answer.value? = some .null ∨
    expected = "index" ∧ ¬ ∃ position : Nat, position < 2 ^ 63 ∧ answer.ReadsAs position

theorem ReadsAs.int?_eq {answer : Answer} {value : Int} (reads : answer.ReadsAs value)
    (lower : Int64.minValue.toInt ≤ value) (upper : value ≤ Int64.maxValue.toInt) :
    ∃ number, answer.int? = some number ∧ number.toInt = value := by
  cases reads with
  | int number => exact ⟨number, rfl, rfl⟩
  | @text content value denoted =>
      have inRange : Text.inInt64Range value = true := by
        rw [Text.inInt64Range, decide_eq_true lower, decide_eq_true upper]
        rfl
      refine ⟨Int64.ofInt value, ?_, ?_⟩
      · show Text.int64? content = _
        rw [Text.int64?, denoted, Option.filter_some_pos inRange]
        rfl
      · rw [Int64.toInt_minValue] at lower
        rw [Int64.toInt_maxValue] at upper
        exact Int64.toInt_ofInt_of_le lower (by omega)

theorem readsAs_of_int? {answer : Answer} {number : Int64} (found : answer.int? = some number) :
    answer.ReadsAs number.toInt := by
  rcases answer with ⟨_ | value⟩
  · cases found
  cases value with
  | int stored =>
      obtain rfl := Option.some.inj found
      exact .int stored
  | text content =>
      obtain ⟨denoted, kept, rfl⟩ := Option.map_eq_some_iff.mp found
      obtain ⟨written, inRange⟩ := Option.filter_eq_some_iff.mp kept
      rw [Text.inInt64Range, Bool.and_eq_true, decide_eq_true_eq, decide_eq_true_eq,
        Int64.toInt_minValue, Int64.toInt_maxValue] at inRange
      rw [Int64.toInt_ofInt_of_le inRange.1 (by omega)]
      exact .text written
  | _ => cases found

/-- A position is read from an integer from zero up to the largest one of 64 bits. -/
theorem position?_eq_some_iff {answer : Answer} {position : Nat} :
    answer.position? = some position ↔ position < 2 ^ 63 ∧ answer.ReadsAs position := by
  constructor
  · intro found
    obtain ⟨number, read, kept⟩ := Option.bind_eq_some_iff.mp found
    have upper := Int64.toInt_le number
    rw [Int64.toInt_maxValue] at upper
    split at kept
    · rename_i lower
      obtain rfl := Option.some.inj kept
      have value : (number.toInt.toNat : Int) = number.toInt := Int.toNat_of_nonneg lower
      refine ⟨by omega, ?_⟩
      rw [value]
      exact readsAs_of_int? read
    · cases kept
  · rintro ⟨small, reads⟩
    obtain ⟨number, found, value⟩ := reads.int?_eq
      (by rw [Int64.toInt_minValue]; omega) (by rw [Int64.toInt_maxValue]; omega)
    rw [position?, found, Option.bind_some, value, if_pos (Int.natCast_nonneg position),
      Int.toNat_natCast]

/-- What is no position reads as no integer from zero up to the largest one of 64 bits. -/
theorem not_readsAs_of_position? {answer : Answer} (nothing : answer.position? = none) :
    ¬ ∃ position : Nat, position < 2 ^ 63 ∧ answer.ReadsAs position := by
  rintro ⟨position, reads⟩
  have found : answer.position? = some position := position?_eq_some_iff.mpr reads
  rw [nothing] at found
  cases found

end Answer

namespace EngineError

theorem ofReport_of_rejected {report : ErrorReport}
    (kind : report.failure.kind = .editRejected) :
    ofReport report =
      .editRejected (report.failure.operation.getD "edit") report.failure.message := by
  rw [ofReport, kind]

theorem ofReport_of_not_rejected {report : ErrorReport}
    (kind : report.failure.kind ≠ .editRejected) :
    ofReport report = .internal report.display := by
  rw [ofReport]
  split
  · rename_i rejected
    exact absurd rejected kind
  · rfl

end EngineError

namespace Execution

/-! ## Requests that fail -/

section Requests

variable (evaluator : Evaluator) (service : EditService) (operation : Operation)
  (scope : Context)

/-- A request of an operation fails: an expression gives nothing, or an edit is refused. -/
inductive FailsOnRequest : EngineError → Session → Prop where
  | lacking {expression expected : String} (before : Session)
      (demanded : (expression, expected) ∈ operation.demands)
      (lacks : (evaluator.answer before.edits scope expression).Lacks expected) :
      FailsOnRequest (.yieldedNothing expression expected)
        (before.recorded (.evaluated ⟨evaluator.view, scope, expression⟩))
  | refused {edit : Edit} {report : ErrorReport} (before : Session)
      (refusal : service.refusal before.edits edit = some report) :
      FailsOnRequest (.ofReport report) (service.sessionAfter edit before)

/-- An attempt fails on requests of the operation only. -/
def Requests {Result : Type} (attempt : Attempt Result) : Prop :=
  ∀ start error after, Attempt.outcome attempt start = (.error error, after) →
    FailsOnRequest evaluator service operation scope error after

variable {evaluator service operation scope} {Result Between : Type}

theorem requests_pure (result : Result) :
    Requests evaluator service operation scope (pure result) := by
  rintro start error after ⟨⟩

theorem requests_liftM (action : Action Result) :
    Requests evaluator service operation scope (liftM action) := by
  rintro start error after ⟨⟩

theorem Requests.bind {attempt : Attempt Between} {next : Between → Attempt Result}
    (first : Requests evaluator service operation scope attempt)
    (rest : ∀ between, Requests evaluator service operation scope (next between)) :
    Requests evaluator service operation scope (attempt >>= next) := by
  intro start error after fails
  rcases Attempt.outcome_bind_eq_error_iff.mp fails with fails | ⟨between, middle, _, fails⟩
  · exact first start error after fails
  · exact rest between middle error after fails

theorem requests_required {expression expected : String}
    (demanded : (expression, expected) ∈ operation.demands) :
    Requests evaluator service operation scope
      (required evaluator scope expression expected) := by
  intro start error after fails
  rw [required, Attempt.outcome_bind, Attempt.outcome_liftM, evaluator.outcome_evaluate] at fails
  dsimp only at fails
  split at fails
  · cases fails
  · rename_i nothing
    cases fails
    apply FailsOnRequest.lacking start demanded
    rcases given : (evaluator.answer start.edits scope expression).value? with _ | value
    · exact .inl given
    · rw [given] at nothing
      cases value with
      | null => exact .inr (.inl given)
      | _ => cases nothing

theorem requests_position {expression : String}
    (demanded : (expression, "index") ∈ operation.demands) :
    Requests evaluator service operation scope (position evaluator scope expression) := by
  intro start error after fails
  rw [position, Attempt.outcome_bind, Attempt.outcome_liftM, evaluator.outcome_evaluate] at fails
  dsimp only at fails
  split at fails
  · cases fails
  · rename_i nothing
    cases fails
    apply FailsOnRequest.lacking start demanded
    exact .inr (.inr ⟨rfl, Answer.not_readsAs_of_position? nothing⟩)

theorem requests_submit (edit : Edit) :
    Requests evaluator service operation scope (service.submit edit) := by
  intro start error after fails
  rw [service.outcome_submit, EditService.verdict] at fails
  split at fails
  · rename_i report refusal
    cases fails
    exact .refused start refusal
  · cases fails

theorem requests_create (owner : Node) (typeName referenceName : String) :
    Requests evaluator service operation scope
      (service.create owner typeName referenceName) := by
  intro start error after fails
  rw [service.outcome_create, EditService.verdict] at fails
  split at fails
  · rename_i report refusal
    cases fails
    exact .refused start refusal
  · cases fails

theorem requests_addAll (owner : Node) (feature : String) (index : Option Nat)
    (values : List Value) :
    Requests evaluator service operation scope
      (addAll service owner feature index values) := by
  induction values generalizing index with
  | nil => exact requests_pure ()
  | cons value rest step => exact (requests_submit _).bind fun _ => step _

theorem requests_submitAll (edits : List Edit) :
    Requests evaluator service operation scope (submitAll service edits) := by
  induction edits with
  | nil => exact requests_pure ()
  | cons edit rest step => exact (requests_submit edit).bind fun _ => step

end Requests

/-! ## The operation at which a run fails -/

variable {evaluator : Evaluator} {service : EditService}

/-- An operation fails by itself, reached in a scope and a session. -/
inductive FailsItself (evaluator : Evaluator) (service : EditService) (operation : Operation)
    (scope : Context) (reached : Session) : EngineError → Session → Prop where
  | withoutSelf (needed : operation.needsSelf = true) (unbound : scope.selfNode? = none) :
      FailsItself evaluator service operation scope reached
        (.unboundVariable Variable.self) reached
  | onRequest {error : EngineError} {after : Session}
      (fails : FailsOnRequest evaluator service operation scope error after) :
      FailsItself evaluator service operation scope reached error after

/-- An operation fails inside the scope that it opens for its children. -/
def FailsInside (evaluator : Evaluator) (service : EditService) (operation : Operation)
    (scope : Context) (reached : Session) (error : EngineError) (after : Session) : Prop :=
  ∃ inner opened, Opens evaluator service operation scope reached inner opened ∧
    Attempt.outcome (runBody evaluator service operation.children inner) opened =
      (.error error, after)

/-- An operation that first needs the node of `self` fails for want of it, or with what follows. -/
theorem fails_after_selfNode {operation : Operation} {scope : Context} {start after : Session}
    {error : EngineError} {Result : Type} {next : Node → Attempt Result}
    (needed : operation.needsSelf = true)
    (fails : Attempt.outcome (selfNode scope >>= next) start = (.error error, after)) :
    FailsItself evaluator service operation scope start error after ∨
      ∃ owner, scope.selfNode? = some owner ∧
        Attempt.outcome (next owner) start = (.error error, after) := by
  rw [selfNode] at fails
  cases self : scope.selfNode? with
  | none =>
      rw [self] at fails
      cases fails
      exact .inl (.withoutSelf needed self)
  | some owner =>
      rw [self] at fails
      exact .inr ⟨owner, rfl, fails⟩

theorem failsItself_of_requests {operation : Operation} {scope : Context}
    {start after : Session} {error : EngineError} {Result : Type} {next : Node → Attempt Result}
    (needed : operation.needsSelf = true)
    (requests : ∀ owner, Requests evaluator service operation scope (next owner))
    (fails : Attempt.outcome (selfNode scope >>= next) start = (.error error, after)) :
    FailsItself evaluator service operation scope start error after := by
  rcases fails_after_selfNode needed fails with itself | ⟨owner, _, fails⟩
  · exact itself
  · exact .onRequest (requests owner start error after fails)

/-- What runs the children and then gives a scope fails where the children do. -/
theorem fails_of_discard {run : Attempt Context} {scope : Context} {start after : Session}
    {error : EngineError}
    (fails : Attempt.outcome (do discard run; pure scope) start = (.error error, after)) :
    Attempt.outcome run start = (.error error, after) := by
  rw [Attempt.discard_bind] at fails
  rcases Attempt.outcome_bind_eq_error_iff.mp fails with fails | ⟨_, _, _, ⟨⟩⟩
  exact fails

/-- A loop that fails does so at one of its scopes, behind the ones before it. -/
theorem inEach_fails {run : Context → Attempt Context} {enter : Value → Context}
    {values : List Value} {start after : Session} {error : EngineError}
    (fails : Attempt.outcome (inEach run (values.map enter)) start = (.error error, after)) :
    ∃ earlier value later opened, values = earlier ++ value :: later ∧
      Attempt.outcome (inEach run (earlier.map enter)) start = (.ok (), opened) ∧
      Attempt.outcome (run (enter value)) opened = (.error error, after) := by
  induction values generalizing start with
  | nil => cases fails
  | cons first rest step =>
      rw [List.map_cons, inEach, Attempt.discard_bind] at fails
      rcases Attempt.outcome_bind_eq_error_iff.mp fails with fails | ⟨scope, middle, passed, fails⟩
      · exact ⟨[], first, rest, start, rfl, rfl, fails⟩
      · obtain ⟨earlier, value, later, opened, rfl, before, fails⟩ := step fails
        refine ⟨first :: earlier, value, later, opened, rfl, ?_, fails⟩
        rw [List.map_cons, inEach, Attempt.discard_bind,
          Attempt.outcome_bind_of_ok _ passed, before]

/-- An operation fails by itself, or inside the scope that it opens. -/
theorem runOperation_fails {operation : Operation} {scope : Context} {start after : Session}
    {error : EngineError}
    (fails : Attempt.outcome (runOperation evaluator service operation scope) start =
      (.error error, after)) :
    FailsItself evaluator service operation scope start error after ∨
      FailsInside evaluator service operation scope start error after := by
  cases operation with
  | changeContext expression children =>
      rw [runOperation] at fails
      rcases Attempt.outcome_bind_eq_error_iff.mp fails with fails | ⟨value, opened, given, fails⟩
      · exact .inl (.onRequest (requests_required (.head _) start error after fails))
      · exact .inr ⟨_, opened, .changeContext given, fails_of_discard fails⟩
  | bind name expression children =>
      rw [runOperation] at fails
      rcases Attempt.outcome_bind_eq_error_iff.mp fails with ⟨⟨⟩⟩ | ⟨answer, opened, ⟨⟩, fails⟩
      exact .inr ⟨_, _, .bind rfl, fails_of_discard fails⟩
  | when condition children =>
      rw [runOperation] at fails
      rcases Attempt.outcome_bind_eq_error_iff.mp fails with ⟨⟨⟩⟩ | ⟨answer, opened, ⟨⟩, fails⟩
      split at fails
      · rename_i holds
        refine .inr ⟨scope, _, .when rfl ?_, fails_of_discard fails⟩
        cases given : (evaluator.answer start.edits scope condition).bool? with
        | none => simp [given] at holds
        | some flag => simpa [given] using holds
      · cases fails
  | forEach iterator expression children =>
      rw [runOperation] at fails
      rcases Attempt.outcome_bind_eq_error_iff.mp fails with ⟨⟨⟩⟩ | ⟨answer, opened, ⟨⟩, fails⟩
      rcases Attempt.outcome_bind_eq_error_iff.mp fails with fails | ⟨_, _, _, ⟨⟩⟩
      obtain ⟨earlier, value, later, opened, values, passed, fails⟩ := inEach_fails fails
      exact .inr ⟨_, opened, .forEach rfl values passed, fails⟩
  | create typeName referenceName variableName children =>
      rw [runOperation] at fails
      have needed : (Operation.create typeName referenceName variableName children).needsSelf :=
        rfl
      rcases fails_after_selfNode needed fails with itself | ⟨owner, self, fails⟩
      · exact .inl itself
      rcases Attempt.outcome_bind_eq_error_iff.mp fails with fails | ⟨node, opened, made, fails⟩
      · exact .inl (.onRequest (requests_create _ _ _ start error after fails))
      · exact .inr ⟨_, opened, .create self made, fails_of_discard fails⟩
  | set feature expression =>
      rw [runOperation] at fails
      refine .inl (failsItself_of_requests rfl (fun owner => ?_) fails)
      refine (requests_liftM _).bind fun answer => ?_
      exact (requests_submit _).bind fun _ => requests_pure scope
  | unset feature element =>
      cases element with
      | none =>
          rw [runOperation] at fails
          refine .inl (failsItself_of_requests rfl (fun owner => ?_) fails)
          exact (requests_submit _).bind fun _ => requests_pure scope
      | some expression =>
          rw [runOperation] at fails
          refine .inl (failsItself_of_requests rfl (fun owner => ?_) fails)
          refine (requests_required (.head _)).bind fun element => ?_
          exact (requests_submit _).bind fun _ => requests_pure scope
  | add feature expression index =>
      cases index with
      | none =>
          rw [runOperation] at fails
          refine .inl (failsItself_of_requests rfl (fun owner => ?_) fails)
          refine (requests_liftM _).bind fun answer => ?_
          exact (requests_addAll _ _ _ _).bind fun _ => requests_pure scope
      | some indexExpression =>
          rw [runOperation] at fails
          refine .inl (failsItself_of_requests rfl (fun owner => ?_) fails)
          refine (requests_position (.head _)).bind fun index => ?_
          refine (requests_liftM _).bind fun answer => ?_
          exact (requests_addAll _ _ _ _).bind fun _ => requests_pure scope
  | remove feature expression =>
      rw [runOperation] at fails
      refine .inl (failsItself_of_requests rfl (fun owner => ?_) fails)
      refine (requests_liftM _).bind fun answer => ?_
      exact (requests_submitAll _).bind fun _ => requests_pure scope
  | reorder feature expression toIndexExpression =>
      rw [runOperation] at fails
      refine .inl (failsItself_of_requests rfl (fun owner => ?_) fails)
      refine (requests_required (.head _)).bind fun element => ?_
      refine (requests_position (.tail _ (.head _))).bind fun toIndex => ?_
      exact (requests_submit _).bind fun _ => requests_pure scope
  | clear feature =>
      rw [runOperation] at fails
      refine .inl (failsItself_of_requests rfl (fun owner => ?_) fails)
      exact (requests_submit _).bind fun _ => requests_pure scope
  | delete expression =>
      rw [runOperation] at fails
      refine .inl (.onRequest (Requests.bind (requests_liftM _) (fun answer => ?_) _ _ _ fails))
      exact (requests_submitAll _).bind fun _ => requests_pure scope
  | custom name expressions =>
      rw [runOperation] at fails
      refine .inl (.onRequest (Requests.bind (requests_liftM _) (fun values => ?_) _ _ _ fails))
      exact (requests_submit _).bind fun _ => requests_pure scope

/-- A body fails by itself at one of the operations that its run reaches. -/
theorem exists_reaches_of_fails (body : OperationBody) {context : Context}
    {start after : Session} {error : EngineError}
    (fails : Attempt.outcome (runBody evaluator service body context) start =
      (.error error, after)) :
    ∃ operation scope reached,
      Reaches evaluator service body context start operation scope reached ∧
        FailsItself evaluator service operation scope reached error after := by
  induction body using Operation.body_induction generalizing context start with
  | nil =>
      rw [runBody] at fails
      cases fails
  | cons first rest inside behind =>
      rw [runBody] at fails
      rcases Attempt.outcome_bind_eq_error_iff.mp fails with fails | ⟨next, middle, passed, fails⟩
      · rcases runOperation_fails fails with itself | ⟨inner, opened, opens, fails⟩
        · exact ⟨first, context, start, .here first rest context start, itself⟩
        · obtain ⟨operation, scope, reached, reaches, itself⟩ := inside fails
          exact ⟨operation, scope, reached, .inside opens reaches, itself⟩
      · obtain ⟨operation, scope, reached, reaches, itself⟩ := behind fails
        exact ⟨operation, scope, reached, .later passed reaches, itself⟩

/-! ## The cause of a failure -/

/-- Why a run stopped. -/
inductive FailureCause where
  | unboundSelf
  | nothingGiven
  | refusedEdit
deriving DecidableEq, Repr

/--
A cause explains how the run of a body from a context and a session ended: with
an error, and with a session whose last interaction shows what was missing or
refused.
-/
inductive FailureCause.Explains (evaluator : Evaluator) (service : EditService)
    (body : OperationBody) (context : Context) (start : Session) :
    FailureCause → EngineError → Session → Prop where
  | unboundSelf {operation : Operation} {scope : Context} {after : Session}
      (within : operation.Within body) (needed : operation.needsSelf = true)
      (reaches : Reaches evaluator service body context start operation scope after)
      (unbound : scope.selfNode? = none) :
      Explains evaluator service body context start .unboundSelf
        (.unboundVariable Variable.self) after
  | nothingGiven {operation : Operation} {scope : Context} {reached before after : Session}
      {expression expected : String}
      (within : operation.Within body) (demanded : (expression, expected) ∈ operation.demands)
      (reaches : Reaches evaluator service body context start operation scope reached)
      (last : after.trace = before.trace ++ [.evaluated ⟨evaluator.view, scope, expression⟩])
      (lacks : (evaluator.answer before.edits scope expression).Lacks expected) :
      Explains evaluator service body context start .nothingGiven
        (.yieldedNothing expression expected) after
  | refusedEdit {error : EngineError} {before after : Session} {edit : Edit}
      {report : ErrorReport}
      (last : after.trace = before.trace ++ [.edited edit false])
      (refusal : service.refusal before.edits edit = some report)
      (rejected : report.failure.kind = .editRejected →
        error = .editRejected (report.failure.operation.getD "edit") report.failure.message)
      (otherwise : report.failure.kind ≠ .editRejected → error = .internal report.display) :
      Explains evaluator service body context start .refusedEdit error after

namespace FailureCause

/-- The cause that an error names. -/
def ofError : EngineError → FailureCause
  | .unboundVariable _ => .unboundSelf
  | .yieldedNothing _ _ => .nothingGiven
  | _ => .refusedEdit

theorem Explains.eq_ofError {body : OperationBody} {context : Context} {start after : Session}
    {cause : FailureCause} {error : EngineError}
    (explains : cause.Explains evaluator service body context start error after) :
    cause = ofError error := by
  cases explains with
  | unboundSelf => rfl
  | nothingGiven => rfl
  | @refusedEdit _ _ _ _ report _ _ rejected otherwise =>
      by_cases kind : report.failure.kind = .editRejected
      · rw [rejected kind]
        rfl
      · rw [otherwise kind]
        rfl

theorem exists_explains {body : OperationBody} {context scope : Context}
    {start reached after : Session} {operation : Operation} {error : EngineError}
    (reaches : Reaches evaluator service body context start operation scope reached)
    (fails : FailsItself evaluator service operation scope reached error after) :
    ∃ cause : FailureCause, cause.Explains evaluator service body context start error after := by
  cases fails with
  | withoutSelf needed unbound =>
      exact ⟨_, .unboundSelf reaches.within needed reaches unbound⟩
  | onRequest fails =>
      cases fails with
      | lacking before demanded lacks =>
          exact ⟨_, .nothingGiven reaches.within demanded reaches rfl lacks⟩
      | @refused edit report before refusal =>
          have last : (service.sessionAfter edit before).trace =
              before.trace ++ [.edited edit false] := by
            rw [service.trace_sessionAfter, refusal]
            rfl
          exact ⟨_, .refusedEdit last refusal EngineError.ofReport_of_rejected
            EngineError.ofReport_of_not_rejected⟩

end FailureCause

/--
A run that fails has exactly one cause: an operation of the body that was
reached without a node under `self`, an expression that gave nothing of the
sort it must give, or an edit that was refused.
-/
theorem exists_unique_cause_of_failure {body : OperationBody} {context : Context}
    {start after : Session} {error : EngineError}
    (fails : Attempt.outcome (runBody evaluator service body context) start =
      (.error error, after)) :
    ∃! cause : FailureCause,
      cause.Explains evaluator service body context start error after := by
  obtain ⟨operation, scope, reached, reaches, itself⟩ := exists_reaches_of_fails body fails
  obtain ⟨cause, explains⟩ := FailureCause.exists_explains reaches itself
  refine ⟨cause, explains, fun other explainsToo => ?_⟩
  rw [explains.eq_ofError, explainsToo.eq_ofError]

/-- Move books within a new shelf, each to the place that it is written with. -/
def movesOnNewShelf : OperationBody :=
  [.create "Shelf" "shelves" none
      [.forEach "each" "places" [.bind "place" "each" [.reorder "books" "each" "place"]]],
    .clear "drafts"]

/-- A scope with two places, of which the second lies before the first position. -/
def writtenPlaces : Context :=
  (Context.ofSelf (.node ⟨"library"⟩)).put "places" (.list [.text " 2 ", .text "-3"])

/-- The second repetition fails, two scopes within the new shelf. -/
theorem exists_unique_cause_of_negative_place :
    let host : HostScript := {}
    let run := runBody (host.evaluator none) host.editService movesOnNewShelf writtenPlaces
    ∃ after, Attempt.outcome run {} = (.error (.yieldedNothing "place" "index"), after) ∧
      after.edits.length = 2 ∧
      ∃! cause : FailureCause, cause.Explains (host.evaluator none) host.editService
        movesOnNewShelf writtenPlaces {} (.yieldedNothing "place" "index") after := by
  intro host run
  have stops : (Attempt.outcome run {}).1.map (fun _ => ()) =
      .error (.yieldedNothing "place" "index") := by
    decide +kernel
  have asked : (Attempt.outcome run {}).2.edits.length = 2 := by
    decide +kernel
  rcases ends : Attempt.outcome run {} with ⟨error | out, after⟩
  · rw [ends] at stops asked
    cases stops
    exact ⟨after, rfl, asked, exists_unique_cause_of_failure ends⟩
  · rw [ends] at stops
    cases stops

end Execution

end FormWidgets
