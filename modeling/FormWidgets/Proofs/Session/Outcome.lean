import FormWidgets.Collaborator

/-!
# Outcomes of actions and attempts

An action is read as a function from the session it starts in to its result and
the session afterwards.  An attempt ends with a result or with an error, and
what it wrote into the session stays there in both cases.

The laws below compute the outcome of every way in which actions and attempts
are put together, and of the requests to the collaborators.  An action that only
asks for evaluations leaves the runs, the edits and the feedback as they were.
-/

namespace FormWidgets

namespace Action

variable {Result Next : Type}

/-- What an action gives in a session, and the session afterwards. -/
def outcome (action : Action Result) (session : Session) : Result × Session :=
  action.run session

@[simp]
theorem outcome_pure (result : Result) (session : Session) :
    outcome (pure result) session = (result, session) := rfl

@[simp]
theorem outcome_bind (action : Action Result) (next : Result → Action Next)
    (session : Session) :
    outcome (action >>= next) session =
      outcome (next (outcome action session).1) (outcome action session).2 := rfl

end Action

namespace Session

/-- The session with one more interaction in its trace. -/
def recorded (session : Session) (interaction : Interaction) : Session :=
  { session with trace := session.trace ++ [interaction] }

/-- The session with messages added to its feedback. -/
def hearing (session : Session) (messages : List Message) : Session :=
  { session with feedback := session.feedback ++ messages }

variable (session : Session) (interaction : Interaction) (messages : List Message)

@[simp]
theorem trace_recorded :
    (session.recorded interaction).trace = session.trace ++ [interaction] := rfl

@[simp]
theorem feedback_recorded : (session.recorded interaction).feedback = session.feedback := rfl

@[simp]
theorem edits_recorded :
    (session.recorded interaction).edits = session.edits ++ interaction.edit?.toList := by
  cases interaction <;> simp [edits, Interaction.edit?]

@[simp]
theorem runs_recorded :
    (session.recorded interaction).runs = session.runs ++ interaction.run?.toList := by
  cases interaction <;> simp [runs, Interaction.run?]

@[simp]
theorem trace_hearing : (session.hearing messages).trace = session.trace := rfl

@[simp]
theorem feedback_hearing :
    (session.hearing messages).feedback = session.feedback ++ messages := rfl

/-- A session whose trace goes on from another one has asked for that one's edits first. -/
theorem edits_prefix_of_trace {earlier later : Session}
    (goesOn : earlier.trace <+: later.trace) : earlier.edits <+: later.edits :=
  goesOn.filterMap Interaction.edit?

@[simp]
theorem edits_hearing : (session.hearing messages).edits = session.edits := rfl

end Session

namespace Evaluator

/-- Evaluating is written into the trace and answered from the edits asked for so far. -/
@[simp]
theorem outcome_evaluate (evaluator : Evaluator) (context : Context) (expression : String)
    (session : Session) :
    Action.outcome (evaluator.evaluate context expression) session =
      (evaluator.answer session.edits context expression,
        session.recorded (.evaluated ⟨evaluator.view, context, expression⟩)) := rfl

end Evaluator

namespace Action

variable {Result Next : Type}

/-- An action that at most asks the surroundings: it runs and edits nothing and adds no message. -/
def OnlyAsks (action : Action Result) : Prop :=
  ∀ session,
    (outcome action session).2.runs = session.runs ∧
      (outcome action session).2.edits = session.edits ∧
      (outcome action session).2.feedback = session.feedback

theorem onlyAsks_pure (result : Result) : OnlyAsks (pure result) :=
  fun _ => ⟨rfl, rfl, rfl⟩

theorem OnlyAsks.bind {action : Action Result} {next : Result → Action Next}
    (first : OnlyAsks action) (rest : ∀ result, OnlyAsks (next result)) :
    OnlyAsks (action >>= next) := by
  intro session
  obtain ⟨runs, edits, feedback⟩ := first session
  obtain ⟨laterRuns, laterEdits, laterFeedback⟩ := rest _ (outcome action session).2
  exact ⟨laterRuns.trans runs, laterEdits.trans edits, laterFeedback.trans feedback⟩

theorem onlyAsks_evaluate? (evaluator : Evaluator) (context : Context)
    (expression : Option String) : OnlyAsks (evaluator.evaluate? context expression) := by
  cases expression with
  | none => exact onlyAsks_pure _
  | some expression =>
      rw [Evaluator.evaluate?]
      split
      · exact onlyAsks_pure _
      · intro session
        rw [evaluator.outcome_evaluate]
        exact ⟨by simp [Interaction.run?], by simp [Interaction.edit?], rfl⟩

end Action

namespace Attempt

variable {Result Next : Type}

/-- How an attempt ends in a session, and the session afterwards. -/
def outcome (attempt : Attempt Result) (session : Session) :
    Except EngineError Result × Session :=
  Action.outcome attempt.run session

theorem ext {left right : Attempt Result}
    (equal : ∀ session, outcome left session = outcome right session) : left = right :=
  funext equal

@[simp]
theorem outcome_pure (result : Result) (session : Session) :
    outcome (pure result) session = (.ok result, session) := rfl

@[simp]
theorem outcome_throw (error : EngineError) (session : Session) :
    outcome (throw error : Attempt Result) session = (.error error, session) := rfl

@[simp]
theorem outcome_liftM (action : Action Result) (session : Session) :
    outcome (liftM action) session =
      (.ok (Action.outcome action session).1, (Action.outcome action session).2) := rfl

/-- What follows an attempt starts from its result; an error ends the sequence. -/
theorem outcome_bind (attempt : Attempt Result) (next : Result → Attempt Next)
    (session : Session) :
    outcome (attempt >>= next) session =
      match outcome attempt session with
      | (.ok result, after) => outcome (next result) after
      | (.error error, after) => (.error error, after) := by
  show Action.outcome (ExceptT.bindCont next (outcome attempt session).1)
    (outcome attempt session).2 = _
  rcases outcome attempt session with ⟨error | result, after⟩
  · rfl
  · rfl

theorem outcome_bind_of_ok {attempt : Attempt Result} {result : Result}
    {session after : Session} (next : Result → Attempt Next)
    (ends : outcome attempt session = (.ok result, after)) :
    outcome (attempt >>= next) session = outcome (next result) after := by
  rw [outcome_bind, ends]

theorem outcome_bind_of_error {attempt : Attempt Result} {error : EngineError}
    {session after : Session} (next : Result → Attempt Next)
    (ends : outcome attempt session = (.error error, after)) :
    outcome (attempt >>= next) session = (.error error, after) := by
  rw [outcome_bind, ends]

/-- Discarding a result and going on is going on without looking at the result. -/
theorem discard_bind (attempt : Attempt Result) (next : Unit → Attempt Next) :
    discard attempt >>= next = attempt >>= fun _ => next () := by
  simp only [Functor.discard, map_const, Function.comp, bind_map_left,
    Function.const]

/-- A sequence comes to its end exactly when both parts do, one after the other. -/
theorem outcome_bind_eq_ok_iff {attempt : Attempt Result} {next : Result → Attempt Next}
    {result : Next} {session after : Session} :
    outcome (attempt >>= next) session = (.ok result, after) ↔
      ∃ between middle, outcome attempt session = (.ok between, middle) ∧
        outcome (next between) middle = (.ok result, after) := by
  rw [outcome_bind]
  rcases outcome attempt session with ⟨error | first, reached⟩
  · simp
  · constructor
    · intro ends
      exact ⟨first, reached, rfl, ends⟩
    · rintro ⟨between, middle, ⟨⟩, ends⟩
      exact ends

/-- A sequence fails when its first part does, or when its second part does after it. -/
theorem outcome_bind_eq_error_iff {attempt : Attempt Result} {next : Result → Attempt Next}
    {error : EngineError} {session after : Session} :
    outcome (attempt >>= next) session = (.error error, after) ↔
      outcome attempt session = (.error error, after) ∨
        ∃ between middle, outcome attempt session = (.ok between, middle) ∧
          outcome (next between) middle = (.error error, after) := by
  rw [outcome_bind]
  rcases outcome attempt session with ⟨failure | first, reached⟩
  · constructor
    · rintro ⟨⟩
      exact .inl rfl
    · rintro (⟨⟨⟩⟩ | ⟨_, _, ⟨⟩, _⟩)
      rfl
  · constructor
    · intro fails
      exact .inr ⟨first, reached, rfl, fails⟩
    · rintro (⟨⟨⟩⟩ | ⟨_, _, ⟨⟩, fails⟩)
      exact fails

end Attempt

namespace EditService

variable (service : EditService)

/-- How the request for an edit ends after the edits asked for before. -/
def verdict (history : List Edit) (edit : Edit) : Except EngineError Unit :=
  match service.refusal history edit with
  | some report => .error (.ofReport report)
  | none => .ok ()

/-- The session after the request for an edit: its messages are heard and it is recorded. -/
def sessionAfter (edit : Edit) (session : Session) : Session :=
  (session.hearing (service.feedback session.edits edit)).recorded
    (.edited edit (service.refusal session.edits edit).isNone)

@[simp]
theorem edits_sessionAfter (edit : Edit) (session : Session) :
    (service.sessionAfter edit session).edits = session.edits ++ [edit] := by
  simp [sessionAfter, Interaction.edit?]

theorem trace_sessionAfter (edit : Edit) (session : Session) :
    (service.sessionAfter edit session).trace =
      session.trace ++ [.edited edit (service.refusal session.edits edit).isNone] := rfl

@[simp]
theorem feedback_sessionAfter (edit : Edit) (session : Session) :
    (service.sessionAfter edit session).feedback =
      session.feedback ++ service.feedback session.edits edit := rfl

theorem outcome_submit (edit : Edit) (session : Session) :
    Attempt.outcome (service.submit edit) session =
      (service.verdict session.edits edit, service.sessionAfter edit session) := by
  have asked : Attempt.outcome (service.submit edit) session =
      Attempt.outcome
        (match service.refusal session.edits edit with
          | some report => do
              Action.record (.edited edit false)
              throw (.ofReport report)
          | none => Action.record (.edited edit true))
        (session.hearing (service.feedback session.edits edit)) := rfl
  rw [asked, verdict, sessionAfter]
  cases service.refusal session.edits edit with
  | none => rfl
  | some report => rfl

theorem outcome_create (owner : Node) (typeName referenceName : String)
    (session : Session) :
    Attempt.outcome (service.create owner typeName referenceName) session =
      ((service.verdict session.edits (.create owner typeName referenceName)).map fun _ =>
          service.created session.edits owner typeName referenceName,
        service.sessionAfter (.create owner typeName referenceName) session) := by
  have asked : Attempt.outcome (service.create owner typeName referenceName) session =
      Attempt.outcome
        (do
          service.submit (.create owner typeName referenceName)
          pure (service.created session.edits owner typeName referenceName))
        session := rfl
  rw [asked, Attempt.outcome_bind, outcome_submit]
  cases service.verdict session.edits (.create owner typeName referenceName) with
  | error error => rfl
  | ok accepted => rfl

end EditService

end FormWidgets
