import FormWidgets.Execution
import FormWidgets.Proofs.Session.Outcome

/-!
# Comparison of two runs

Two runs of the same operation body, with different collaborators or from
different contexts, are compared by relating every attempt of the one to the
attempt at the same place of the other.  A comparison says how attempts are
related and that sequencing and the requests to the collaborators keep the
relation.  The main statement is that then the runs of every body are related.

Attempts that are compared by how they end from related sessions have one law of
sequencing for all relations of sessions.  An instance says that how a run ends
depends on the session it starts in only by the edits asked for before.

A statement about a single run is the comparison of the run with itself.  Its
main instance says that what every single request does to a session, a whole
run does to it.
-/

namespace FormWidgets

/-- Two endings agree: the same error, or results that are related. -/
inductive Agree {Result : Type} (related : Result → Result → Prop) :
    Except EngineError Result → Except EngineError Result → Prop where
  | ok {left right : Result} (results : related left right) :
      Agree related (.ok left) (.ok right)
  | error (error : EngineError) : Agree related (.error error) (.error error)

theorem Agree.of_eq {Result : Type} {related : Result → Result → Prop}
    (reflexive : ∀ result, related result result)
    (ending : Except EngineError Result) : Agree related ending ending := by
  cases ending with
  | error error => exact .error error
  | ok result => exact .ok (reflexive result)

theorem Agree.eq {Result : Type} {left right : Except EngineError Result}
    (agree : Agree Eq left right) : left = right := by
  cases agree with
  | ok results => exact congrArg Except.ok results
  | error error => rfl

/-- A relation between contexts with the same `self` that is kept by binding a variable in both. -/
structure ContextRelation where
  related : Context → Context → Prop
  refl : ∀ context, related context context
  self?_eq : ∀ {left right}, related left right → left.self? = right.self?
  put : ∀ {left right} (name : String) (value : Value), related left right →
    related (left.put name value) (right.put name value)

/-- Being the same context. -/
def ContextRelation.same : ContextRelation where
  related := Eq
  refl _ := rfl
  self?_eq equal := congrArg Context.self? equal
  put name value equal := congrArg (fun context => context.put name value) equal

/--
A relation between the attempts of two runs, given the relation of their
results, that is kept by everything an operation body is made of.
-/
structure RunComparison (leftEvaluator rightEvaluator : Evaluator)
    (leftService rightService : EditService) where
  contexts : ContextRelation
  attempts : {Result : Type} → (Result → Result → Prop) →
    Attempt Result → Attempt Result → Prop
  pure : ∀ {Result : Type} {related : Result → Result → Prop} {left right : Result},
    related left right → attempts related (pure left) (pure right)
  throw : ∀ {Result : Type} {related : Result → Result → Prop} (error : EngineError),
    attempts related (throw error) (throw error)
  bind : ∀ {Between Result : Type} {between : Between → Between → Prop}
    {related : Result → Result → Prop} {left right : Attempt Between}
    {leftNext rightNext : Between → Attempt Result},
    (∀ result, between result result) → attempts between left right →
    (∀ first second, between first second →
      attempts related (leftNext first) (rightNext second)) →
    attempts related (left >>= leftNext) (right >>= rightNext)
  evaluate : ∀ {left right} (expression : String), contexts.related left right →
    attempts Eq (liftM (leftEvaluator.evaluate left expression))
      (liftM (rightEvaluator.evaluate right expression))
  submit : ∀ edit : Edit, attempts Eq (leftService.submit edit) (rightService.submit edit)
  create : ∀ (owner : Node) (typeName referenceName : String),
    attempts Eq (leftService.create owner typeName referenceName)
      (rightService.create owner typeName referenceName)

namespace Execution

/-- Evaluating arguments is evaluating the first and then the others, also as an attempt. -/
theorem liftM_arguments_cons (evaluator : Evaluator) (scope : Context)
    (entry : String × String) (rest : List (String × String)) :
    (liftM (arguments evaluator scope (entry :: rest)) :
        Attempt (List (String × Value))) =
      liftM (evaluator.evaluate scope entry.2) >>= fun answer =>
        liftM (arguments evaluator scope rest) >>= fun others =>
          pure ((entry.1, answer.valueOrNull) :: others) :=
  Attempt.ext fun _ => rfl

end Execution

namespace RunComparison

open Execution

variable
    {leftEvaluator rightEvaluator : Evaluator}
    {leftService rightService : EditService}
    (comparison : RunComparison leftEvaluator rightEvaluator leftService rightService)

include comparison

/-- Sequencing after equal results. -/
theorem bind_eq {Between Result : Type} {related : Result → Result → Prop}
    {left right : Attempt Between} {leftNext rightNext : Between → Attempt Result}
    (first : comparison.attempts Eq left right)
    (next : ∀ between, comparison.attempts related (leftNext between) (rightNext between)) :
    comparison.attempts related (left >>= leftNext) (right >>= rightNext) := by
  refine comparison.bind (fun _ => rfl) first ?_
  rintro between _ rfl
  exact next between

theorem selfNode?_eq {left right : Context} (contexts : comparison.contexts.related left right) :
    left.selfNode? = right.selfNode? := by
  simp only [Context.selfNode?, comparison.contexts.self?_eq contexts]

theorem selfNode {left right : Context} (contexts : comparison.contexts.related left right) :
    comparison.attempts Eq (Execution.selfNode left) (Execution.selfNode right) := by
  unfold Execution.selfNode
  rw [comparison.selfNode?_eq contexts]
  cases right.selfNode? with
  | none => exact comparison.throw _
  | some node => exact comparison.pure rfl

theorem required {left right : Context} (expression expected : String)
    (contexts : comparison.contexts.related left right) :
    comparison.attempts Eq
      (Execution.required leftEvaluator left expression expected)
      (Execution.required rightEvaluator right expression expected) := by
  refine comparison.bind_eq (comparison.evaluate expression contexts) fun answer => ?_
  cases answer.value?.filter fun value => !value.isNull with
  | none => exact comparison.throw _
  | some value => exact comparison.pure rfl

theorem position {left right : Context} (expression : String)
    (contexts : comparison.contexts.related left right) :
    comparison.attempts Eq
      (Execution.position leftEvaluator left expression)
      (Execution.position rightEvaluator right expression) := by
  refine comparison.bind_eq (comparison.evaluate expression contexts) fun answer => ?_
  cases answer.position? with
  | none => exact comparison.throw _
  | some position => exact comparison.pure rfl

theorem addAll (owner : Node) (feature : String) (index : Option Nat)
    (values : List Value) :
    comparison.attempts Eq
      (Execution.addAll leftService owner feature index values)
      (Execution.addAll rightService owner feature index values) := by
  induction values generalizing index with
  | nil => exact comparison.pure rfl
  | cons value rest step =>
      exact comparison.bind_eq (comparison.submit _) fun _ => step _

theorem submitAll (edits : List Edit) :
    comparison.attempts Eq
      (Execution.submitAll leftService edits) (Execution.submitAll rightService edits) := by
  induction edits with
  | nil => exact comparison.pure rfl
  | cons edit rest step =>
      exact comparison.bind_eq (comparison.submit edit) fun _ => step

theorem arguments {left right : Context} (expressions : List (String × String))
    (contexts : comparison.contexts.related left right) :
    comparison.attempts Eq
      (liftM (Execution.arguments leftEvaluator left expressions))
      (liftM (Execution.arguments rightEvaluator right expressions)) := by
  induction expressions with
  | nil => exact comparison.pure rfl
  | cons entry rest step =>
      rw [Execution.liftM_arguments_cons, Execution.liftM_arguments_cons]
      exact comparison.bind_eq (comparison.evaluate entry.2 contexts) fun answer =>
        comparison.bind_eq step fun others => comparison.pure rfl

/-- Running in each of several scopes, when each pair of runs is related. -/
theorem inEach {leftRun rightRun : Context → Attempt Context}
    (run : ∀ {left right}, comparison.contexts.related left right →
      comparison.attempts comparison.contexts.related (leftRun left) (rightRun right))
    {left right : Context} (iterator : String) (values : List Value)
    (scopes : comparison.contexts.related left right) :
    comparison.attempts Eq
      (Execution.inEach leftRun (values.map fun value => left.put iterator value))
      (Execution.inEach rightRun (values.map fun value => right.put iterator value)) := by
  induction values with
  | nil => exact comparison.pure rfl
  | cons value rest step =>
      simp only [List.map_cons, Execution.inEach, Attempt.discard_bind]
      exact comparison.bind comparison.contexts.refl
        (run (comparison.contexts.put iterator value scopes)) fun _ _ _ => step

mutual

/-- The runs of one operation from related scopes are related. -/
theorem runOperation (operation : Operation) {left right : Context}
    (scopes : comparison.contexts.related left right) :
    comparison.attempts comparison.contexts.related
      (Execution.runOperation leftEvaluator leftService operation left)
      (Execution.runOperation rightEvaluator rightService operation right) := by
  cases operation with
  | changeContext expression children =>
      rw [Execution.runOperation, Execution.runOperation]
      simp only [Attempt.discard_bind]
      refine comparison.bind_eq (comparison.required _ _ scopes) fun value => ?_
      refine comparison.bind comparison.contexts.refl
        (runBody children (comparison.contexts.put _ _ scopes)) fun _ _ _ => ?_
      exact comparison.pure scopes
  | bind variableName expression children =>
      rw [Execution.runOperation, Execution.runOperation]
      simp only [Attempt.discard_bind]
      refine comparison.bind_eq (comparison.evaluate _ scopes) fun answer => ?_
      refine comparison.bind comparison.contexts.refl
        (runBody children (comparison.contexts.put _ _ scopes)) fun _ _ _ => ?_
      exact comparison.pure scopes
  | when condition children =>
      rw [Execution.runOperation, Execution.runOperation]
      simp only [Attempt.discard_bind]
      refine comparison.bind_eq (comparison.evaluate _ scopes) fun answer => ?_
      cases answer.bool?.getD false with
      | false => exact comparison.pure scopes
      | true =>
          refine comparison.bind comparison.contexts.refl
            (runBody children scopes) fun _ _ _ => ?_
          exact comparison.pure scopes
  | forEach iterator expression children =>
      rw [Execution.runOperation, Execution.runOperation]
      refine comparison.bind_eq (comparison.evaluate _ scopes) fun answer => ?_
      refine comparison.bind_eq
        (comparison.inEach (runBody children) iterator answer.values scopes) fun _ => ?_
      exact comparison.pure scopes
  | create typeName referenceName variableName children =>
      rw [Execution.runOperation, Execution.runOperation]
      simp only [Attempt.discard_bind]
      refine comparison.bind_eq (comparison.selfNode scopes) fun owner => ?_
      refine comparison.bind_eq (comparison.create _ _ _) fun created => ?_
      have bound := comparison.contexts.put (variableName.getD Variable.newInstance)
        (.node created) scopes
      refine comparison.bind comparison.contexts.refl
        (runBody children (comparison.contexts.put _ _ bound)) fun _ _ _ => ?_
      exact comparison.pure bound
  | set feature expression =>
      rw [Execution.runOperation, Execution.runOperation]
      refine comparison.bind_eq (comparison.selfNode scopes) fun owner => ?_
      refine comparison.bind_eq (comparison.evaluate _ scopes) fun answer => ?_
      exact comparison.bind_eq (comparison.submit _) fun _ => comparison.pure scopes
  | unset feature element =>
      cases element with
      | none =>
          rw [Execution.runOperation, Execution.runOperation]
          refine comparison.bind_eq (comparison.selfNode scopes) fun owner => ?_
          exact comparison.bind_eq (comparison.submit _) fun _ => comparison.pure scopes
      | some expression =>
          rw [Execution.runOperation, Execution.runOperation]
          refine comparison.bind_eq (comparison.selfNode scopes) fun owner => ?_
          refine comparison.bind_eq (comparison.required _ _ scopes) fun element => ?_
          exact comparison.bind_eq (comparison.submit _) fun _ => comparison.pure scopes
  | add feature expression index =>
      cases index with
      | none =>
          rw [Execution.runOperation, Execution.runOperation]
          refine comparison.bind_eq (comparison.selfNode scopes) fun owner => ?_
          refine comparison.bind_eq (comparison.evaluate _ scopes) fun answer => ?_
          exact comparison.bind_eq (comparison.addAll _ _ _ _) fun _ =>
            comparison.pure scopes
      | some indexExpression =>
          rw [Execution.runOperation, Execution.runOperation]
          refine comparison.bind_eq (comparison.selfNode scopes) fun owner => ?_
          refine comparison.bind_eq (comparison.position _ scopes) fun index => ?_
          refine comparison.bind_eq (comparison.evaluate _ scopes) fun answer => ?_
          exact comparison.bind_eq (comparison.addAll _ _ _ _) fun _ =>
            comparison.pure scopes
  | remove feature expression =>
      rw [Execution.runOperation, Execution.runOperation]
      refine comparison.bind_eq (comparison.selfNode scopes) fun owner => ?_
      refine comparison.bind_eq (comparison.evaluate _ scopes) fun answer => ?_
      exact comparison.bind_eq (comparison.submitAll _) fun _ => comparison.pure scopes
  | reorder feature expression toIndexExpression =>
      rw [Execution.runOperation, Execution.runOperation]
      refine comparison.bind_eq (comparison.selfNode scopes) fun owner => ?_
      refine comparison.bind_eq (comparison.required _ _ scopes) fun element => ?_
      refine comparison.bind_eq (comparison.position _ scopes) fun toIndex => ?_
      exact comparison.bind_eq (comparison.submit _) fun _ => comparison.pure scopes
  | clear feature =>
      rw [Execution.runOperation, Execution.runOperation]
      refine comparison.bind_eq (comparison.selfNode scopes) fun owner => ?_
      exact comparison.bind_eq (comparison.submit _) fun _ => comparison.pure scopes
  | delete expression =>
      rw [Execution.runOperation, Execution.runOperation]
      refine comparison.bind_eq (comparison.evaluate _ scopes) fun answer => ?_
      exact comparison.bind_eq (comparison.submitAll _) fun _ => comparison.pure scopes
  | custom name expressions =>
      rw [Execution.runOperation, Execution.runOperation, comparison.contexts.self?_eq scopes]
      refine comparison.bind_eq (comparison.arguments _ scopes) fun values => ?_
      exact comparison.bind_eq (comparison.submit _) fun _ => comparison.pure scopes

/-- The runs of a body from related scopes are related. -/
theorem runBody (body : OperationBody) {left right : Context}
    (scopes : comparison.contexts.related left right) :
    comparison.attempts comparison.contexts.related
      (Execution.runBody leftEvaluator leftService body left)
      (Execution.runBody rightEvaluator rightService body right) := by
  cases body with
  | nil =>
      rw [Execution.runBody, Execution.runBody]
      exact comparison.pure scopes
  | cons operation rest =>
      rw [Execution.runBody, Execution.runBody]
      exact comparison.bind comparison.contexts.refl (runOperation operation scopes)
        fun _ _ next => runBody rest next

end

end RunComparison

/-! ## Runs from related sessions -/

/-- From related sessions two attempts end in agreement, and in related sessions. -/
def Attempt.EndAlike (sessions : Session → Session → Prop) {Result : Type}
    (related : Result → Result → Prop) (left right : Attempt Result) : Prop :=
  ∀ first second, sessions first second →
    Agree related (left.outcome first).1 (right.outcome second).1 ∧
      sessions (left.outcome first).2 (right.outcome second).2

/-- A relation of sessions after the same edits, which is kept by asking for one more. -/
structure EditService.KeepsRelated (service : EditService)
    (sessions : Session → Session → Prop) : Prop where
  edits_eq : ∀ {first second}, sessions first second → first.edits = second.edits
  sessionAfter : ∀ {first second} (edit : Edit), sessions first second →
    sessions (service.sessionAfter edit first) (service.sessionAfter edit second)

namespace Attempt.EndAlike

variable {sessions : Session → Session → Prop} {Result Between : Type}

theorem bind {between : Between → Between → Prop} {related : Result → Result → Prop}
    {left right : Attempt Between} {leftNext rightNext : Between → Attempt Result}
    (first : EndAlike sessions between left right)
    (next : ∀ given other, between given other →
      EndAlike sessions related (leftNext given) (rightNext other)) :
    EndAlike sessions related (left >>= leftNext) (right >>= rightNext) := by
  intro start other alike
  obtain ⟨endings, after⟩ := first start other alike
  rcases leftEnds : left.outcome start with ⟨leftEnding, leftAfter⟩
  rcases rightEnds : right.outcome other with ⟨rightEnding, rightAfter⟩
  rw [leftEnds, rightEnds] at endings after
  cases endings with
  | ok results =>
      rw [outcome_bind_of_ok _ leftEnds, outcome_bind_of_ok _ rightEnds]
      exact next _ _ results leftAfter rightAfter after
  | error error =>
      rw [outcome_bind_of_error _ leftEnds, outcome_bind_of_error _ rightEnds]
      exact ⟨.error error, after⟩

variable {service : EditService} (keeps : service.KeepsRelated sessions)
include keeps

theorem of_submit (edit : Edit) :
    EndAlike sessions Eq (service.submit edit) (service.submit edit) := by
  intro first second alike
  rw [service.outcome_submit, service.outcome_submit, keeps.edits_eq alike]
  exact ⟨.of_eq (fun _ => rfl) _, keeps.sessionAfter edit alike⟩

theorem of_create (owner : Node) (typeName referenceName : String) :
    EndAlike sessions Eq (service.create owner typeName referenceName)
      (service.create owner typeName referenceName) := by
  intro first second alike
  rw [service.outcome_create, service.outcome_create, keeps.edits_eq alike]
  exact ⟨.of_eq (fun _ => rfl) _, keeps.sessionAfter _ alike⟩

end Attempt.EndAlike

/-- Sessions in which the same edits were asked for. -/
def Session.SameEdits (first second : Session) : Prop :=
  first.edits = second.edits

theorem EditService.keepsRelated_sameEdits (service : EditService) :
    service.KeepsRelated Session.SameEdits where
  edits_eq same := same
  sessionAfter edit same := by
    rw [Session.SameEdits, service.edits_sessionAfter, service.edits_sessionAfter, same]

/-- The run of a body beside its run from another session with the same edits. -/
def RunComparison.sameEdits (evaluator : Evaluator) (service : EditService) :
    RunComparison evaluator evaluator service service where
  contexts := .same
  attempts := Attempt.EndAlike Session.SameEdits
  pure results := fun _ _ same => ⟨.ok results, same⟩
  throw error := fun _ _ same => ⟨.error error, same⟩
  bind _ := Attempt.EndAlike.bind
  evaluate := by
    rintro context _ expression rfl first second same
    refine ⟨.ok ?_, ?_⟩
    · exact congrArg (fun edits => evaluator.answer edits context expression) same
    · rw [Session.SameEdits] at same ⊢
      simpa [Interaction.edit?] using same
  submit := Attempt.EndAlike.of_submit service.keepsRelated_sameEdits
  create := Attempt.EndAlike.of_create service.keepsRelated_sameEdits

/-- How a run ends depends on the session it starts in only by the edits asked for before. -/
theorem Execution.ending_runBody_of_edits {first second : Session}
    (same : first.edits = second.edits) (evaluator : Evaluator) (service : EditService)
    (body : OperationBody) (context : Context) :
    (Attempt.outcome (runBody evaluator service body context) first).1 =
      (Attempt.outcome (runBody evaluator service body context) second).1 :=
  ((RunComparison.sameEdits evaluator service).runBody body rfl first second same).1.eq

/-! ## A single run -/

section SingleRun

variable
    {evaluator : Evaluator} {service : EditService}
    {step : Session → Session → Prop}

/-- A run beside itself, when every request and every sequence makes a step of one sort. -/
def RunComparison.steps
    (refl : ∀ session, step session session)
    (trans : ∀ {first second third}, step first second → step second third →
      step first third)
    (evaluated : ∀ session context expression,
      step session (session.recorded (.evaluated ⟨evaluator.view, context, expression⟩)))
    (asked : ∀ session edit, step session (service.sessionAfter edit session)) :
    RunComparison evaluator evaluator service service where
  contexts := .same
  attempts _ left _ := ∀ session, step session (Attempt.outcome left session).2
  pure _ session := refl session
  throw _ session := refl session
  bind := by
    intro Between Result between related left _ leftNext _ reflexive first next session
    rw [Attempt.outcome_bind]
    have firstStep := first session
    rcases ends : Attempt.outcome left session with ⟨error | result, after⟩
    · rw [ends] at firstStep
      exact firstStep
    · rw [ends] at firstStep
      exact trans firstStep (next result result (reflexive result) after)
  evaluate := by
    intro context _ expression _ session
    exact evaluated session context expression
  submit edit session := by
    rw [service.outcome_submit]
    exact asked session edit
  create owner typeName referenceName session := by
    rw [service.outcome_create]
    exact asked session _

/-- What every evaluation and every request for an edit does to a session, a run does to it. -/
theorem Execution.step_runBody
    (refl : ∀ session, step session session)
    (trans : ∀ {first second third}, step first second → step second third →
      step first third)
    (evaluated : ∀ session context expression,
      step session (session.recorded (.evaluated ⟨evaluator.view, context, expression⟩)))
    (asked : ∀ session edit, step session (service.sessionAfter edit session))
    (body : OperationBody) (context : Context) (session : Session) :
    step session (Attempt.outcome (runBody evaluator service body context) session).2 :=
  (RunComparison.steps refl trans evaluated asked).runBody body rfl session

end SingleRun

end FormWidgets
