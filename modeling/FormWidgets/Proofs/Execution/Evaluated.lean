import FormWidgets.Proofs.Execution.Comparison
import FormWidgets.Proofs.Execution.Reach
import FormWidgets.Proofs.Session.Evaluations

/-!
# What a run evaluates

An operation evaluates expressions of its own, as they are written, and then runs
its children.  The main lemma accounts for a whole run: it makes exactly the
evaluations that the operations it reaches make by themselves.
-/

namespace FormWidgets

/-- The evaluation of an expression by an evaluator in a scope. -/
def Evaluator.evaluation (evaluator : Evaluator) (scope : Context) (expression : String) :
    Evaluation :=
  ⟨evaluator.view, scope, expression⟩

namespace Operation

/-- The expressions that an operation evaluates by itself, when they are answered like this. -/
def asks (answer : String → Answer) : Operation → List String
  | .changeContext expression _ | .bind _ expression _ | .when expression _
  | .forEach _ expression _ | .set _ expression | .unset _ (some expression)
  | .add _ expression none | .remove _ expression | .delete expression => [expression]
  | .add _ expression (some indexExpression) =>
      indexExpression :: if (answer indexExpression).position?.isSome then [expression] else []
  | .reorder _ expression toIndexExpression =>
      expression :: if (answer expression).valueOrNull.isNull then [] else [toIndexExpression]
  | .custom _ arguments => arguments.entries.map Prod.snd
  | .create .. | .unset _ none | .clear _ => []

/-- The node that an operation edits is there, if it edits the node of `self`. -/
def FindsSelf (operation : Operation) (scope : Context) : Prop :=
  operation.needsSelf = true → scope.selfNode?.isSome = true

instance (operation : Operation) (scope : Context) : Decidable (operation.FindsSelf scope) :=
  inferInstanceAs (Decidable (_ → _))

/-- The evaluations that an operation makes by itself, before those of its children. -/
def evaluations (operation : Operation) (evaluator : Evaluator) (scope : Context)
    (session : Session) : List Evaluation :=
  if operation.FindsSelf scope then
    (operation.asks (evaluator.answer session.edits scope)).map (evaluator.evaluation scope)
  else []

theorem mem_evaluations_iff {operation : Operation} {evaluator : Evaluator} {scope : Context}
    {session : Session} {evaluation : Evaluation} :
    evaluation ∈ operation.evaluations evaluator scope session ↔
      operation.FindsSelf scope ∧
        ∃ expression ∈ operation.asks (evaluator.answer session.edits scope),
          evaluator.evaluation scope expression = evaluation := by
  rw [evaluations]
  split
  · rename_i found
    rw [List.mem_map]
    exact (and_iff_right found).symm
  · rename_i missing
    constructor
    · intro member
      cases member
    · rintro ⟨found, _⟩
      exact absurd found missing

/-- Whether an operation is of a kind that runs children in a scope. -/
def opensScope : Operation → Bool
  | .changeContext .. | .bind .. | .when .. | .forEach .. | .create .. => true
  | _ => false

end Operation

namespace Execution

open Attempt

variable {evaluator : Evaluator} {service : EditService} {scope : Context} {session : Session}
  {Result : Type}

/-! ## Requests -/

theorem outcome_selfNode {owner : Node} (self : scope.selfNode? = some owner)
    (session : Session) :
    Attempt.outcome (selfNode scope) session = (.ok owner, session) := by
  rw [selfNode, self]
  rfl

theorem outcome_required (evaluator : Evaluator) (scope : Context) (expression expected : String)
    (session : Session) :
    let value := (evaluator.answer session.edits scope expression).valueOrNull
    Attempt.outcome (required evaluator scope expression expected) session =
      (if value.isNull then .error (.yieldedNothing expression expected) else .ok value,
        session.recorded (.evaluated (evaluator.evaluation scope expression))) := by
  rw [required, Attempt.outcome_bind, Attempt.outcome_liftM, evaluator.outcome_evaluate]
  dsimp only [Answer.valueOrNull]
  rcases (evaluator.answer session.edits scope expression).value? with _ | value
  · rfl
  · cases value <;> rfl

theorem outcome_position (evaluator : Evaluator) (scope : Context) (expression : String)
    (session : Session) :
    Attempt.outcome (position evaluator scope expression) session =
      ((evaluator.answer session.edits scope expression).position?.elim
          (.error (.yieldedNothing expression "index")) .ok,
        session.recorded (.evaluated (evaluator.evaluation scope expression))) := by
  rw [position, Attempt.outcome_bind, Attempt.outcome_liftM, evaluator.outcome_evaluate]
  dsimp only
  cases (evaluator.answer session.edits scope expression).position? with
  | none => rfl
  | some position => rfl

theorem makes_required (expression expected : String) :
    Makes (required evaluator scope expression expected) session
      [evaluator.evaluation scope expression] := by
  rw [Makes, outcome_required]
  exact session.evaluations_recorded _

theorem makes_position (expression : String) :
    Makes (position evaluator scope expression) session
      [evaluator.evaluation scope expression] := by
  rw [Makes, outcome_position]
  exact session.evaluations_recorded _

/-- What follows a demanded value makes its evaluations when the value is not null. -/
theorem makes_after_required {next : Value → Attempt Result} {expression expected : String}
    {more : List String}
    (rest : ∀ value after, Makes (next value) after (more.map (evaluator.evaluation scope))) :
    Makes (required evaluator scope expression expected >>= next) session
      ((expression ::
        if (evaluator.answer session.edits scope expression).valueOrNull.isNull then []
        else more).map (evaluator.evaluation scope)) := by
  have makes : Makes (required evaluator scope expression expected) session _ :=
    makes_required expression expected
  have ends := outcome_required evaluator scope expression expected session
  dsimp only at ends
  split
  · rename_i isNull
    rw [if_pos isNull] at ends
    exact makes.bind_of_error ends
  · rename_i given
    rw [if_neg given] at ends
    exact makes.bind_of_ok ends (rest _ _)

/-- What follows a position makes its evaluations when there is one. -/
theorem makes_after_position {next : Nat → Attempt Result} {expression : String}
    {more : List String}
    (rest : ∀ index after, Makes (next index) after (more.map (evaluator.evaluation scope))) :
    Makes (position evaluator scope expression >>= next) session
      ((expression ::
        if (evaluator.answer session.edits scope expression).position?.isSome then more
        else []).map (evaluator.evaluation scope)) := by
  have makes : Makes (position evaluator scope expression) session _ :=
    makes_position expression
  have ends := outcome_position evaluator scope expression session
  cases given : (evaluator.answer session.edits scope expression).position? with
  | none =>
      rw [given] at ends
      exact makes.bind_of_error ends
  | some index =>
      rw [given] at ends
      exact makes.bind_of_ok ends (rest _ _)

theorem makes_addAll (owner : Node) (feature : String) (index : Option Nat)
    (values : List Value) :
    Makes (addAll service owner feature index values) session [] := by
  induction values generalizing index session with
  | nil => exact makes_pure ()
  | cons value rest step => exact (makes_submit service _).bind_nothing fun _ _ => step _

theorem makes_submitAll (edits : List Edit) :
    Makes (submitAll service edits) session [] := by
  induction edits generalizing session with
  | nil => exact makes_pure ()
  | cons edit rest step => exact (makes_submit service edit).bind_nothing fun _ _ => step

theorem makes_arguments (entries : List (String × String)) :
    Makes (liftM (arguments evaluator scope entries)) session
      ((entries.map Prod.snd).map (evaluator.evaluation scope)) := by
  induction entries generalizing session with
  | nil => exact makes_pure []
  | cons entry rest step =>
      rw [liftM_arguments_cons]
      refine (makes_evaluate evaluator scope entry.2).bind_of_ok rfl ?_
      exact step.bind_nothing fun _ _ => makes_pure _

/-- An operation that edits the node of `self` evaluates nothing when there is none. -/
theorem makes_after_selfNode {next : Node → Attempt Result} {operation : Operation}
    (needed : operation.needsSelf = true)
    (rest : ∀ owner, Makes (next owner) session
      ((operation.asks (evaluator.answer session.edits scope)).map
        (evaluator.evaluation scope))) :
    Makes (selfNode scope >>= next) session (operation.evaluations evaluator scope session) := by
  rw [Operation.evaluations, selfNode]
  cases self : scope.selfNode? with
  | none =>
      rw [if_neg (by simp [Operation.FindsSelf, needed, self])]
      exact (List.append_nil _).symm
  | some owner =>
      rw [if_pos (by simp [Operation.FindsSelf, self])]
      exact rest owner

/-! ## Operations -/

/-- An operation without a scope makes its own evaluations and no others. -/
theorem makes_runOperation {operation : Operation} (closed : operation.opensScope = false) :
    Makes (runOperation evaluator service operation scope) session
      (operation.evaluations evaluator scope session) := by
  cases operation with
  | set feature expression =>
      rw [runOperation]
      refine makes_after_selfNode rfl fun owner => ?_
      refine (makes_evaluate evaluator scope expression).bind_nothing fun answer _ => ?_
      exact (makes_submit service _).bind_nothing fun _ _ => makes_pure scope
  | unset feature element =>
      cases element with
      | none =>
          rw [runOperation]
          refine makes_after_selfNode rfl fun owner => ?_
          exact (makes_submit service _).bind_nothing fun _ _ => makes_pure scope
      | some expression =>
          rw [runOperation]
          refine makes_after_selfNode rfl fun owner => ?_
          refine (makes_required expression "element").bind_nothing fun element _ => ?_
          exact (makes_submit service _).bind_nothing fun _ _ => makes_pure scope
  | add feature expression index =>
      cases index with
      | none =>
          rw [runOperation]
          refine makes_after_selfNode rfl fun owner => ?_
          refine (makes_evaluate evaluator scope expression).bind_nothing fun answer _ => ?_
          exact (makes_addAll owner feature none _).bind_nothing fun _ _ => makes_pure scope
      | some indexExpression =>
          rw [runOperation]
          refine makes_after_selfNode rfl fun owner => makes_after_position fun index after => ?_
          refine (makes_evaluate evaluator scope expression).bind_nothing fun answer _ => ?_
          exact (makes_addAll owner feature _ _).bind_nothing fun _ _ => makes_pure scope
  | remove feature expression =>
      rw [runOperation]
      refine makes_after_selfNode rfl fun owner => ?_
      refine (makes_evaluate evaluator scope expression).bind_nothing fun answer _ => ?_
      exact (makes_submitAll _).bind_nothing fun _ _ => makes_pure scope
  | reorder feature expression toIndexExpression =>
      rw [runOperation]
      refine makes_after_selfNode rfl fun owner => makes_after_required fun element after => ?_
      refine (makes_position toIndexExpression).bind_nothing fun toIndex _ => ?_
      exact (makes_submit service _).bind_nothing fun _ _ => makes_pure scope
  | clear feature =>
      rw [runOperation]
      refine makes_after_selfNode rfl fun owner => ?_
      exact (makes_submit service _).bind_nothing fun _ _ => makes_pure scope
  | delete expression =>
      rw [runOperation]
      refine (makes_evaluate evaluator scope expression).bind_nothing fun answer _ => ?_
      exact (makes_submitAll _).bind_nothing fun _ _ => makes_pure scope
  | custom name expressions =>
      rw [runOperation]
      refine (makes_arguments expressions.entries).bind_nothing fun values _ => ?_
      exact (makes_submit service _).bind_nothing fun _ _ => makes_pure scope
  | changeContext | bind | when | forEach | create => cases closed

/-! ## Runs -/

/-- An evaluation is made by an operation that the run of a body reaches. -/
def EvaluatesIn (evaluator : Evaluator) (service : EditService) (body : OperationBody)
    (scope : Context) (start : Session) (evaluation : Evaluation) : Prop :=
  ∃ operation place reached,
    Reaches evaluator service body scope start operation place reached ∧
      evaluation ∈ operation.evaluations evaluator place reached

/-- An evaluation is made inside a scope that an operation opens for its children. -/
def EvaluatesInside (evaluator : Evaluator) (service : EditService) (operation : Operation)
    (scope : Context) (start : Session) (evaluation : Evaluation) : Prop :=
  ∃ inner opened, Opens evaluator service operation scope start inner opened ∧
    EvaluatesIn evaluator service operation.children inner opened evaluation

/-- Wherever it starts, the run of a body makes exactly the evaluations of its operations. -/
def Accounted (evaluator : Evaluator) (service : EditService) (body : OperationBody) : Prop :=
  ∀ scope start, ∃ made, Makes (runBody evaluator service body scope) start made ∧
    ∀ evaluation, evaluation ∈ made ↔
      EvaluatesIn evaluator service body scope start evaluation

/-- An operation makes its own evaluations first, then those inside the scopes that it opens. -/
def AccountedInside (evaluator : Evaluator) (service : EditService) (operation : Operation)
    (scope : Context) (start : Session) : Prop :=
  ∃ made,
    Makes (runOperation evaluator service operation scope) start
      (operation.evaluations evaluator scope start ++ made) ∧
    ∀ evaluation, evaluation ∈ made ↔
      EvaluatesInside evaluator service operation scope start evaluation

theorem evaluatesIn_cons_iff {operation : Operation} {rest : OperationBody} {start : Session}
    {evaluation : Evaluation} :
    EvaluatesIn evaluator service (operation :: rest) scope start evaluation ↔
      evaluation ∈ operation.evaluations evaluator scope start ∨
        EvaluatesInside evaluator service operation scope start evaluation ∨
          ∃ next middle,
            Attempt.outcome (runOperation evaluator service operation scope) start =
                (.ok next, middle) ∧
              EvaluatesIn evaluator service rest next middle evaluation := by
  constructor
  · rintro ⟨found, place, reached, reaches, member⟩
    cases reaches with
    | here => exact .inl member
    | inside opens deeper =>
        exact .inr (.inl ⟨_, _, opens, found, place, reached, deeper, member⟩)
    | later passed behind =>
        exact .inr (.inr ⟨_, _, passed, found, place, reached, behind, member⟩)
  · rintro (member | ⟨inner, opened, opens, found, place, reached, deeper, member⟩ |
      ⟨next, middle, passed, found, place, reached, behind, member⟩)
    · exact ⟨operation, scope, start, .here operation rest scope start, member⟩
    · exact ⟨found, place, reached, .inside opens deeper, member⟩
    · exact ⟨found, place, reached, .later passed behind, member⟩

/-- Nothing is evaluated inside an operation that opens no scope. -/
theorem accountedInside_of_shut {operation : Operation} {start : Session}
    (shut : ∀ inner opened, ¬ Opens evaluator service operation scope start inner opened)
    (makes : Makes (runOperation evaluator service operation scope) start
      (operation.evaluations evaluator scope start)) :
    AccountedInside evaluator service operation scope start := by
  refine ⟨[], by rwa [List.append_nil], fun evaluation => ?_⟩
  constructor
  · intro member
    cases member
  · rintro ⟨inner, opened, opens, _⟩
    exact absurd opens (shut inner opened)

/-- An operation that opens one scope evaluates what its children do there. -/
theorem accountedInside_of_opened {operation : Operation} {start opened : Session}
    {inner : Context} {made : List Evaluation}
    (opens : ∀ place reached,
      Opens evaluator service operation scope start place reached ↔
        place = inner ∧ reached = opened)
    (makes : Makes (runOperation evaluator service operation scope) start
      (operation.evaluations evaluator scope start ++ made))
    (inside : ∀ evaluation, evaluation ∈ made ↔
      EvaluatesIn evaluator service operation.children inner opened evaluation) :
    AccountedInside evaluator service operation scope start := by
  refine ⟨made, makes, fun evaluation => ?_⟩
  rw [inside]
  constructor
  · intro evaluated
    exact ⟨inner, opened, (opens inner opened).mpr ⟨rfl, rfl⟩, evaluated⟩
  · rintro ⟨place, reached, opensThere, evaluated⟩
    obtain ⟨rfl, rfl⟩ := (opens place reached).mp opensThere
    exact evaluated

/-- What runs the children and then gives a scope makes the evaluations of the children. -/
theorem makes_discard {run : Attempt Context} {made : List Evaluation}
    (makes : Makes run session made) : Makes (do discard run; pure scope) session made := by
  rw [Attempt.discard_bind]
  exact makes.bind_nothing fun _ _ => makes_pure scope

/-- A repetition makes an evaluation, behind the repetitions before it. -/
def EvaluatesInEach (evaluator : Evaluator) (service : EditService) (children : OperationBody)
    (enter : Value → Context) (values : List Value) (start : Session)
    (evaluation : Evaluation) : Prop :=
  ∃ earlier value later opened, values = earlier ++ value :: later ∧
    Attempt.outcome (inEach (runBody evaluator service children) (earlier.map enter)) start =
      (.ok (), opened) ∧
    EvaluatesIn evaluator service children (enter value) opened evaluation

theorem evaluatesInEach_cons_iff {children : OperationBody} {enter : Value → Context}
    {first : Value} {rest : List Value} {start : Session} {evaluation : Evaluation} :
    EvaluatesInEach evaluator service children enter (first :: rest) start evaluation ↔
      EvaluatesIn evaluator service children (enter first) start evaluation ∨
        ∃ left middle,
          Attempt.outcome (runBody evaluator service children (enter first)) start =
              (.ok left, middle) ∧
            EvaluatesInEach evaluator service children enter rest middle evaluation := by
  constructor
  · rintro ⟨earlier, value, later, opened, split, passed, evaluated⟩
    cases earlier with
    | nil =>
        cases split
        cases passed
        exact .inl evaluated
    | cons head tail =>
        cases split
        rw [List.map_cons, inEach, Attempt.discard_bind] at passed
        obtain ⟨left, middle, ran, passed⟩ := Attempt.outcome_bind_eq_ok_iff.mp passed
        exact .inr ⟨left, middle, ran, tail, value, later, opened, rfl, passed, evaluated⟩
  · rintro (evaluated | ⟨left, middle, ran, earlier, value, later, opened, rfl, passed, evaluated⟩)
    · exact ⟨[], first, rest, start, rfl, rfl, evaluated⟩
    · refine ⟨first :: earlier, value, later, opened, rfl, ?_, evaluated⟩
      rw [List.map_cons, inEach, Attempt.discard_bind]
      exact Attempt.outcome_bind_eq_ok_iff.mpr ⟨left, middle, ran, passed⟩

/-- A loop makes the evaluations of its repetitions, up to the one that fails. -/
theorem makes_inEach {children : OperationBody} (accounted : Accounted evaluator service children)
    (enter : Value → Context) (values : List Value) (start : Session) :
    ∃ made,
      Makes (inEach (runBody evaluator service children) (values.map enter)) start made ∧
        ∀ evaluation, evaluation ∈ made ↔
          EvaluatesInEach evaluator service children enter values start evaluation := by
  induction values generalizing start with
  | nil =>
      refine ⟨[], makes_pure (), fun evaluation => ?_⟩
      simp [EvaluatesInEach]
  | cons first rest step =>
      obtain ⟨made, makes, inFirst⟩ := accounted (enter first) start
      rw [List.map_cons, inEach, Attempt.discard_bind]
      rcases ends : Attempt.outcome (runBody evaluator service children (enter first)) start
        with ⟨error | left, middle⟩
      · refine ⟨made, makes.bind_of_error ends, fun evaluation => ?_⟩
        rw [evaluatesInEach_cons_iff, inFirst, ends]
        simp
      · obtain ⟨more, makesMore, inRest⟩ := step middle
        refine ⟨made ++ more, makes.bind_of_ok ends makesMore, fun evaluation => ?_⟩
        rw [evaluatesInEach_cons_iff, List.mem_append, inFirst, inRest, ends]
        simp [and_assoc]

theorem accountedInside_changeContext {expression : String} {children : List Operation}
    (accounted : Accounted evaluator service children) (start : Session) :
    AccountedInside evaluator service (.changeContext expression children) scope start := by
  have own : Makes (required evaluator scope expression "value") start _ :=
    makes_required expression "value"
  rcases ends : Attempt.outcome (required evaluator scope expression "value") start
    with ⟨error | value, opened⟩
  · refine accountedInside_of_shut ?shut ?makes
    case shut =>
      intro inner reached opens
      cases opens with
      | changeContext given =>
          rw [ends] at given
          cases given
    case makes =>
      rw [runOperation]
      exact own.bind_of_error ends
  · obtain ⟨made, makes, inside⟩ := accounted (scope.put Variable.self value) opened
    refine accountedInside_of_opened (fun place reached => ?opens) ?makes inside
    case opens =>
      constructor
      · intro opens
        cases opens with
        | changeContext given =>
            rw [ends] at given
            cases given
            exact ⟨rfl, rfl⟩
      · rintro ⟨rfl, rfl⟩
        exact .changeContext ends
    case makes =>
      rw [runOperation]
      exact own.bind_of_ok ends (makes_discard makes)

theorem accountedInside_bind {name expression : String} {children : List Operation}
    (accounted : Accounted evaluator service children) (start : Session) :
    AccountedInside evaluator service (.bind name expression children) scope start := by
  obtain ⟨made, makes, inside⟩ := accounted
    (scope.put name (evaluator.answer start.edits scope expression).valueOrNull)
    (start.recorded (.evaluated (evaluator.evaluation scope expression)))
  refine accountedInside_of_opened (fun place reached => ?opens) ?makes inside
  case opens =>
    constructor
    · intro opens
      cases opens with
      | bind asked =>
          cases asked
          exact ⟨rfl, rfl⟩
    · rintro ⟨rfl, rfl⟩
      exact .bind rfl
  case makes =>
    rw [runOperation]
    exact (makes_evaluate evaluator scope expression).bind_of_ok rfl (makes_discard makes)

theorem accountedInside_when {condition : String} {children : List Operation}
    (accounted : Accounted evaluator service children) (start : Session) :
    AccountedInside evaluator service (.when condition children) scope start := by
  have own : Makes (liftM (evaluator.evaluate scope condition)) start _ :=
    makes_evaluate evaluator scope condition
  by_cases holds : (evaluator.answer start.edits scope condition).bool? = some true
  · obtain ⟨made, makes, inside⟩ := accounted scope
      (start.recorded (.evaluated (evaluator.evaluation scope condition)))
    refine accountedInside_of_opened (fun place reached => ?opens) ?makes inside
    case opens =>
      constructor
      · intro opens
        cases opens with
        | when asked =>
            cases asked
            exact ⟨rfl, rfl⟩
      · rintro ⟨rfl, rfl⟩
        exact .when rfl holds
    case makes =>
      rw [runOperation]
      refine own.bind_of_ok rfl ?_
      rw [if_pos (by rw [holds]; rfl)]
      exact makes_discard makes
  · have fails : (evaluator.answer start.edits scope condition).bool?.getD false ≠ true := by
      intro given
      apply holds
      cases answered : (evaluator.answer start.edits scope condition).bool? with
      | none => simp [answered] at given
      | some flag => simpa [answered] using given
    refine accountedInside_of_shut ?shut ?makes
    case shut =>
      intro inner reached opens
      cases opens with
      | when asked given =>
          cases asked
          exact holds given
    case makes =>
      rw [runOperation]
      refine own.bind_of_ok rfl ?_
      rw [if_neg fails]
      exact makes_pure scope

theorem accountedInside_forEach {iterator expression : String} {children : List Operation}
    (accounted : Accounted evaluator service children) (start : Session) :
    AccountedInside evaluator service (.forEach iterator expression children) scope start := by
  obtain ⟨made, makes, inside⟩ := makes_inEach accounted
    (fun value => scope.put iterator value)
    (evaluator.answer start.edits scope expression).values
    (start.recorded (.evaluated (evaluator.evaluation scope expression)))
  refine ⟨made, ?makes, fun evaluation => ?inside⟩
  case makes =>
    rw [runOperation]
    refine (makes_evaluate evaluator scope expression).bind_of_ok rfl ?_
    exact makes.bind_nothing fun _ _ => makes_pure scope
  case inside =>
    rw [inside]
    constructor
    · rintro ⟨earlier, value, later, opened, values, passed, evaluated⟩
      exact ⟨_, opened, .forEach rfl values passed, evaluated⟩
    · rintro ⟨inner, opened, opens, evaluated⟩
      cases opens with
      | forEach asked values passed =>
          cases asked
          exact ⟨_, _, _, opened, values, passed, evaluated⟩

theorem accountedInside_create {typeName referenceName : String} {variableName : Option String}
    {children : List Operation} (accounted : Accounted evaluator service children)
    (start : Session) :
    AccountedInside evaluator service (.create typeName referenceName variableName children)
      scope start := by
  have nothing : (Operation.create typeName referenceName variableName children).evaluations
      evaluator scope start = [] := ite_self _
  cases self : scope.selfNode? with
  | none =>
      refine accountedInside_of_shut ?shut ?makes
      case shut =>
        intro inner reached opens
        cases opens with
        | create bound =>
            rw [self] at bound
            cases bound
      case makes =>
        rw [nothing, runOperation, selfNode, self]
        exact (List.append_nil _).symm
  | some owner =>
      have quiet : Makes (service.create owner typeName referenceName) start [] :=
        makes_create service owner typeName referenceName
      rcases ends : Attempt.outcome (service.create owner typeName referenceName) start
        with ⟨error | node, opened⟩
      · refine accountedInside_of_shut ?refused ?makesRefused
        case refused =>
          intro inner reached opens
          cases opens with
          | create bound made =>
              obtain rfl := Option.some.inj (self.symm.trans bound)
              rw [ends] at made
              cases made
        case makesRefused =>
          rw [nothing, runOperation, selfNode, self]
          exact quiet.bind_of_error ends
      · obtain ⟨made, makes, inside⟩ := accounted
          ((scope.put (variableName.getD Variable.newInstance) (.node node)).put
            Variable.self (.node node)) opened
        refine accountedInside_of_opened (fun place reached => ?opens) ?makesCreated inside
        case opens =>
          constructor
          · intro opens
            cases opens with
            | create bound made =>
                obtain rfl := Option.some.inj (self.symm.trans bound)
                rw [ends] at made
                cases made
                exact ⟨rfl, rfl⟩
          · rintro ⟨rfl, rfl⟩
            exact .create self ends
        case makesCreated =>
          rw [nothing, runOperation, selfNode, self]
          exact quiet.bind_of_ok ends (makes_discard makes)

/-- Each operation makes its own evaluations, and inside its scopes those of its children. -/
theorem accountedInside {operation : Operation}
    (accounted : Accounted evaluator service operation.children) (scope : Context)
    (start : Session) : AccountedInside evaluator service operation scope start := by
  cases operation with
  | changeContext expression children => exact accountedInside_changeContext accounted start
  | bind name expression children => exact accountedInside_bind accounted start
  | when condition children => exact accountedInside_when accounted start
  | forEach iterator expression children => exact accountedInside_forEach accounted start
  | create typeName referenceName variableName children =>
      exact accountedInside_create accounted start
  | _ => exact accountedInside_of_shut (by rintro inner opened ⟨⟩) (makes_runOperation rfl)

/-- The run of every body makes exactly the evaluations of the operations that it reaches. -/
theorem accounted_runBody (body : OperationBody) : Accounted evaluator service body := by
  -- Children and the rest of a body start where the run has come to, so both hypotheses
  -- are about every scope and session.
  induction body using Operation.body_induction with
  | nil =>
      intro scope start
      rw [runBody]
      refine ⟨[], makes_pure scope, fun evaluation => ?_⟩
      constructor
      · intro member
        cases member
      · rintro ⟨operation, place, reached, ⟨⟩, _⟩
  | cons operation rest children behind =>
      intro scope start
      obtain ⟨made, makes, inside⟩ := accountedInside children scope start
      rw [runBody]
      rcases ends : Attempt.outcome (runOperation evaluator service operation scope) start
        with ⟨error | next, middle⟩
      · refine ⟨_, makes.bind_of_error ends, fun evaluation => ?_⟩
        rw [evaluatesIn_cons_iff, List.mem_append, inside, ends]
        simp
      · obtain ⟨more, makesMore, later⟩ := behind next middle
        refine ⟨_, makes.bind_of_ok ends makesMore, fun evaluation => ?_⟩
        rw [evaluatesIn_cons_iff, List.mem_append, List.mem_append, inside, later, ends, or_assoc]
        simp [and_assoc]

end Execution

end FormWidgets
