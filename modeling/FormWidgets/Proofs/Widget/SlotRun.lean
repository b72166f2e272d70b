import FormWidgets.Proofs.Session.Outcome
import FormWidgets.Widget.Gesture

/-!
# Runs of slots

A handler runs the operations of its slot once, or runs nothing: when the slot is
absent or empty, when it is not wired, and when a creation gets a key that cannot
be read.

A run is seen from the runner: it is called with the operations and a context,
before any other run or edit of the gesture, and its result alone decides the
status.  A gesture that runs nothing would go the same way with any other runner.
-/

namespace FormWidgets

namespace Status

/-- The status after a run: changed when it gave a context, otherwise a failure with a fixed text. -/
def ofRun (failureText : String) (result : Option Context) (messages : List Message) : Status :=
  match result with
  | some _ => .changed messages
  | none => .failure failureText messages

theorem isSemanticChange_ofRun (failureText : String) (result : Option Context)
    (messages : List Message) :
    (ofRun failureText result messages).isSemanticChange = result.isSome := by
  cases result with
  | some scope => rfl
  | none => rfl

theorem isSuccess_ofRun (failureText : String) (result : Option Context)
    (messages : List Message) :
    (ofRun failureText result messages).isSuccess = result.isSome := by
  cases result with
  | some scope => rfl
  | none => rfl

end Status

/--
A gesture called the runner once, with these operations in this context, before
anything was run or edited; afterwards the run was written down, and the status
tells how it ended.
-/
def RanOnce (runner : OperationRunner) (operations : OperationBody) (called : Context)
    (failureText : String) (session : Session) (ended : GestureOutcome × Session) : Prop :=
  ∃ before : Session, before.runs = session.runs ∧ before.edits = session.edits ∧
    before.feedback = session.feedback ∧
    let ran := Action.outcome (runner operations called) before
    ended.1 = .done (.ofRun failureText ran.1 ran.2.feedback) ∧
      ended.2.trace = ran.2.trace ++ [.ran ⟨operations, called, ran.1⟩]

/-- A gesture called no runner: any other one makes no difference, and nothing was run or edited. -/
structure RanNothing (act : OperationRunner → Action GestureOutcome) (runner : OperationRunner)
    (session : Session) : Prop where
  sameWithAny : ∀ other, act other = act runner
  sameRuns : (Action.outcome (act runner) session).2.runs = session.runs
  sameEdits : (Action.outcome (act runner) session).2.edits = session.edits

namespace RanOnce

variable {runner : OperationRunner} {operations : OperationBody} {called : Context}
  {failureText : String} {session : Session} {ended : GestureOutcome × Session}

/-- What comes before a gesture may have asked the surroundings, but not run or edited. -/
theorem of_later {earlier : Session} (runs : session.runs = earlier.runs)
    (edits : session.edits = earlier.edits) (feedback : session.feedback = earlier.feedback)
    (ran : RanOnce runner operations called failureText session ended) :
    RanOnce runner operations called failureText earlier ended := by
  obtain ⟨before, sameRuns, sameEdits, sameFeedback, status, trace⟩ := ran
  exact ⟨before, sameRuns.trans runs, sameEdits.trans edits, sameFeedback.trans feedback,
    status, trace⟩

/-- A runner that writes down no runs leaves one more run behind. -/
theorem runs_eq (ran : RanOnce runner operations called failureText session ended)
    (quiet : ∀ start, (Action.outcome (runner operations called) start).2.runs = start.runs) :
    ∃ result, ended.2.runs = session.runs ++ [⟨operations, called, result⟩] ∧
      ∃ messages, ended.1 = .done (.ofRun failureText result messages) := by
  obtain ⟨before, runs, edits, feedback, status, trace⟩ := ran
  refine ⟨_, ?_, _, status⟩
  rw [Session.runs, trace, List.filterMap_append, ← runs, ← quiet before]
  rfl

/-- What a gesture asked for is what its one run asked for, and that run decides the status. -/
theorem exists_ended (ran : RanOnce runner operations called failureText session ended) :
    ∃ before : Session, before.edits = session.edits ∧
      let run := Action.outcome (runner operations called) before
      ended.2.edits = run.2.edits ∧
        ∃ messages, ended.1 = .done (.ofRun failureText run.1 messages) := by
  obtain ⟨before, _, edits, _, status, trace⟩ := ran
  refine ⟨before, edits, ?_, _, status⟩
  rw [Session.edits, trace, List.filterMap_append]
  exact List.append_nil _

end RanOnce

namespace EditHandler

variable (handler : EditHandler)

theorem operations?_eq_some_iff {operations : OperationBody} :
    handler.operations? = some operations ↔
      handler.body = some operations ∧ operations ≠ [] := by
  simp [operations?, Option.filter_eq_some_iff]

theorem operations?_eq_none_iff :
    handler.operations? = none ↔ handler.body = none ∨ handler.body = some [] := by
  rw [operations?]
  rcases handler.body with _ | _ | ⟨operation, rest⟩
  · simp
  · simp
  · simp

/-- Run operations and end the invocation by how that went. -/
def runAndEnd (runner : OperationRunner) (operations : OperationBody) (called : Context)
    (request : String) : Action Status := do
  match ← runner.run operations called with
  | some _ =>
      handler.logFinish request true
      let messages ← Action.takeFeedback
      pure (.changed messages)
  | none => handler.fail request "operation body did not complete"

theorem outcome_runAndEnd (runner : OperationRunner) (operations : OperationBody)
    (called : Context) (request : String) (before : Session) :
    let ran := Action.outcome (runner operations called) before
    let ended := Action.outcome (handler.runAndEnd runner operations called request) before
    ended.1 = .ofRun handler.affordance.failureMessage ran.1 ran.2.feedback ∧
      ended.2.trace = ran.2.trace ++ [.ran ⟨operations, called, ran.1⟩] := by
  rcases ends : Action.outcome (runner operations called) before with ⟨_ | scope, between⟩
  · simp only [runAndEnd, OperationRunner.run, Action.outcome_bind, Action.outcome_pure, ends]
    exact ⟨rfl, rfl⟩
  · simp only [runAndEnd, OperationRunner.run, Action.outcome_bind, Action.outcome_pure, ends]
    exact ⟨rfl, rfl⟩

variable {handler}

/-- A handler with operations calls the runner with them, in the context with the bindings. -/
theorem ranOnce_through {operations : OperationBody}
    (declared : handler.operations? = some operations) (runner : OperationRunner)
    (context : Context) (bindings : List (String × Value)) (session : Session) :
    RanOnce runner operations (context.bindAll bindings) handler.affordance.failureMessage
      session (Action.outcome (Gesture.through runner context handler bindings) session) := by
  let request := (Action.outcome Action.freshRequest session).1
  let before := (Action.outcome (handler.logStart (some request))
    (Action.outcome Action.freshRequest session).2).2
  obtain ⟨status, trace⟩ := handler.outcome_runAndEnd runner operations
    (context.bindAll bindings) request before
  rw [Gesture.through, invoke, declared]
  exact ⟨before, rfl, rfl, rfl, congrArg GestureOutcome.done status, trace⟩

/-- A handler without operations does not look at the runner. -/
theorem ranNothing_through (undeclared : handler.operations? = none) (runner : OperationRunner)
    (context : Context) (bindings : List (String × Value)) (session : Session) :
    RanNothing (fun runner => Gesture.through runner context handler bindings) runner
      session := by
  constructor
  case sameWithAny =>
    intro other
    simp only [Gesture.through, invoke, undeclared]
  case sameRuns =>
    rw [Gesture.through, invoke, undeclared]
    rfl
  case sameEdits =>
    rw [Gesture.through, invoke, undeclared]
    rfl

end EditHandler

/-! ## Creations -/

/-- The owner of a reference is found by at most one evaluation. -/
theorem Binder.onlyAsks_ownerProvider (binder : Binder) (expression : Option String)
    (context : Context) : Action.OnlyAsks (binder.ownerProvider expression context) := by
  rw [ownerProvider]
  split
  · exact Action.onlyAsks_pure _
  · exact (Action.onlyAsks_evaluate? _ context expression).bind fun _ => Action.onlyAsks_pure _

namespace Gesture

variable {reference : ReferenceProviders} {handler : EditHandler} {context : Context}
  {key : String}

/-- A creation binds the parts of its key and, when there is an owner, `self` to it. -/
theorem ranOnce_creation {relation typeName : String}
    (decoded : ChildCreation.decodeKey? key = some (relation, typeName))
    {operations : OperationBody} (declared : handler.operations? = some operations)
    (asks : Action.OnlyAsks (reference.owner context)) (runner : OperationRunner)
    (session : Session) :
    RanOnce runner operations
      (context.bindAll (EditHandler.creationBindings relation typeName
        (Action.outcome (reference.owner context) session).1))
      handler.affordance.failureMessage session
      (Action.outcome (creation runner context reference handler key) session) := by
  obtain ⟨runs, edits, feedback⟩ := asks session
  have ran := EditHandler.ranOnce_through declared runner context
    (EditHandler.creationBindings relation typeName
      (Action.outcome (reference.owner context) session).1)
    (Action.outcome (reference.owner context) session).2
  rw [creation, Action.outcome_bind, EditHandler.invokeCreate, decoded]
  exact ran.of_later runs edits feedback

/-- A creation runs nothing without operations, and nothing for a key that cannot be read. -/
theorem ranNothing_creation
    (nothing : handler.operations? = none ∨ ChildCreation.decodeKey? key = none)
    (asks : Action.OnlyAsks (reference.owner context)) (runner : OperationRunner)
    (session : Session) :
    RanNothing (fun runner => creation runner context reference handler key) runner session := by
  obtain ⟨runs, edits, _⟩ := asks session
  have invoked : ∀ owner, RanNothing (fun runner => do
      let status ← handler.invokeCreate runner context owner key
      pure (.done status)) runner (Action.outcome (reference.owner context) session).2 := by
    intro owner
    cases decoded : ChildCreation.decodeKey? key with
    | none =>
        simp only [EditHandler.invokeCreate, decoded]
        exact ⟨fun _ => rfl, rfl, rfl⟩
    | some place =>
        simp only [EditHandler.invokeCreate, decoded]
        have undeclared := nothing.resolve_right (by rw [decoded]; exact Option.some_ne_none _)
        exact EditHandler.ranNothing_through undeclared runner context _ _
  have here := invoked (Action.outcome (reference.owner context) session).1
  constructor
  case sameWithAny =>
    intro other
    exact congrArg _ (funext fun owner => (invoked owner).sameWithAny other)
  case sameRuns =>
    simp only [creation, Action.outcome_bind]
    exact here.sameRuns.trans runs
  case sameEdits =>
    simp only [creation, Action.outcome_bind]
    exact here.sameEdits.trans edits

end Gesture

end FormWidgets
