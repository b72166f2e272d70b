import FormWidgets.Proofs.Session.Outcome

/-!
# Evaluations that are made

The evaluations of a session grow at their end.  What an action adds to them is
read off for actions and attempts alike, and added up along a sequence: an
attempt that ends with an error has made the evaluations that came before it.
-/

namespace FormWidgets

namespace Session

variable (session : Session)

@[simp]
theorem evaluations_recorded (interaction : Interaction) :
    (session.recorded interaction).evaluations =
      session.evaluations ++ interaction.evaluation?.toList := by
  cases interaction <;> simp [evaluations, Interaction.evaluation?]

@[simp]
theorem evaluations_hearing (messages : List Message) :
    (session.hearing messages).evaluations = session.evaluations := rfl

theorem edits_evaluated (evaluation : Evaluation) :
    (session.recorded (.evaluated evaluation)).edits = session.edits := by
  rw [edits_recorded]
  exact List.append_nil _

end Session

/-- Asking for an edit makes no evaluation. -/
theorem EditService.evaluations_sessionAfter (service : EditService) (edit : Edit)
    (session : Session) :
    (service.sessionAfter edit session).evaluations = session.evaluations := by
  simp [sessionAfter, Interaction.evaluation?]

namespace Action

variable {Result Next : Type} {allowed : Evaluation → Prop}

/-- Started in a session, an action makes these evaluations in this order. -/
def Makes (action : Action Result) (session : Session) (made : List Evaluation) : Prop :=
  (outcome action session).2.evaluations = session.evaluations ++ made

/-- Wherever it is started, an action makes allowed evaluations only. -/
def MakesOnly (allowed : Evaluation → Prop) (action : Action Result) : Prop :=
  ∀ session, ∃ made, Makes action session made ∧ ∀ evaluation ∈ made, allowed evaluation

theorem makesOnly_of_unchanged {action : Action Result}
    (same : ∀ session, (outcome action session).2.evaluations = session.evaluations) :
    MakesOnly allowed action := by
  intro session
  refine ⟨[], (same session).trans (List.append_nil _).symm, ?_⟩
  intro evaluation member
  cases member

theorem makesOnly_pure (result : Result) : MakesOnly allowed (pure result) :=
  makesOnly_of_unchanged fun _ => rfl

theorem makesOnly_logEvent (event : LogEvent) : MakesOnly allowed (logEvent event) :=
  makesOnly_of_unchanged fun _ => rfl

theorem makesOnly_request (factory : EvaluatorFactory) (view : ViewRoot) :
    MakesOnly allowed (factory.request view) := by
  apply makesOnly_of_unchanged
  intro session
  exact (session.evaluations_recorded (.evaluatorRequested view)).trans (List.append_nil _)

theorem makesOnly_evaluate {evaluator : Evaluator} {context : Context} {expression : String}
    (isAllowed : allowed ⟨evaluator.view, context, expression⟩) :
    MakesOnly allowed (evaluator.evaluate context expression) := by
  intro session
  refine ⟨[⟨evaluator.view, context, expression⟩], session.evaluations_recorded _, ?_⟩
  intro evaluation member
  rcases List.mem_singleton.mp member with rfl
  exact isAllowed

theorem MakesOnly.bind {action : Action Result} {next : Result → Action Next}
    (first : MakesOnly allowed action) (rest : ∀ result, MakesOnly allowed (next result)) :
    MakesOnly allowed (action >>= next) := by
  intro session
  obtain ⟨made, firstMakes, firstAllowed⟩ := first session
  obtain ⟨more, restMakes, restAllowed⟩ :=
    rest (outcome action session).1 (outcome action session).2
  refine ⟨made ++ more, ?_, ?_⟩
  · rw [Makes, outcome_bind, restMakes, firstMakes, List.append_assoc]
  · intro evaluation member
    rcases List.mem_append.mp member with early | late
    · exact firstAllowed evaluation early
    · exact restAllowed evaluation late

end Action

namespace Attempt

variable {Result Next : Type} {attempt : Attempt Result} {next : Result → Attempt Next}
  {session after : Session} {made more : List Evaluation}

/-- Started in a session, an attempt makes these evaluations until it ends. -/
def Makes (attempt : Attempt Result) (session : Session) (made : List Evaluation) : Prop :=
  (outcome attempt session).2.evaluations = session.evaluations ++ made

theorem makes_pure (result : Result) : Makes (pure result) session [] :=
  (List.append_nil _).symm

theorem Makes.bind_of_ok {result : Result} (first : Makes attempt session made)
    (ends : outcome attempt session = (.ok result, after))
    (rest : Makes (next result) after more) :
    Makes (attempt >>= next) session (made ++ more) := by
  rw [Makes, ends] at first
  rw [Makes, outcome_bind_of_ok next ends, rest, first, List.append_assoc]

theorem Makes.bind_of_error {error : EngineError} (first : Makes attempt session made)
    (ends : outcome attempt session = (.error error, after)) :
    Makes (attempt >>= next) session made := by
  rw [Makes, ends] at first
  rw [Makes, outcome_bind_of_error next ends, first]

/-- What follows an attempt without making evaluations adds none. -/
theorem Makes.bind_nothing (first : Makes attempt session made)
    (rest : ∀ result after, Makes (next result) after []) :
    Makes (attempt >>= next) session made := by
  rcases ends : outcome attempt session with ⟨error | result, after⟩
  · exact first.bind_of_error ends
  · have both := first.bind_of_ok ends (rest result after)
    rwa [List.append_nil] at both

theorem makes_evaluate (evaluator : Evaluator) (scope : Context) (expression : String) :
    Makes (liftM (evaluator.evaluate scope expression)) session
      [⟨evaluator.view, scope, expression⟩] :=
  session.evaluations_recorded _

theorem makes_submit (service : EditService) (edit : Edit) :
    Makes (service.submit edit) session [] := by
  rw [Makes, service.outcome_submit, List.append_nil]
  exact service.evaluations_sessionAfter edit session

theorem makes_create (service : EditService) (owner : Node) (typeName referenceName : String) :
    Makes (service.create owner typeName referenceName) session [] := by
  rw [Makes, service.outcome_create, List.append_nil]
  exact service.evaluations_sessionAfter _ session

end Attempt

end FormWidgets
