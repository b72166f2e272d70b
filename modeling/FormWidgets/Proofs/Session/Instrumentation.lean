import FormWidgets.Document.Loading
import FormWidgets.Proofs.Session.Logging
import FormWidgets.Widget.Binding

/-!
# Instrumented operations

Binding a description, searching for candidates, enumerating places of creation
and loading a document are logged alike: an event of the start, notes that name
no operation, and an event of the end.  None of them runs operations.

What comes after the start is built from actions that log only notes, so that
every early way out of an operation is seen to come by the event of its end.
-/

namespace FormWidgets

open FormWidgets.Action

/-- The events that belong to an operation; notes do not. -/
def Log.instrumented (log : Log) : Log :=
  log.filter fun event => event.operation.isSome

@[simp]
theorem Log.instrumented_append (log more : Log) :
    Log.instrumented (log ++ more) = log.instrumented ++ more.instrumented :=
  List.filter_append ..

theorem LogEvent.Marks.isSome_operation {event : LogEvent} {operation : String} {phase : Phase}
    (marks : event.Marks operation phase) : event.operation.isSome := by
  rw [marks.operation]
  rfl

/-! ## From the start to the end -/

namespace Action

variable {Result Next : Type} {operation : String} {well : Bool}

/-- Wherever it is started, an action logs only notes, writes down no run and edits nothing. -/
structure OnlyNotes (action : Action Result) : Prop where
  asks : OnlyAsks action
  logs : ∀ session, ∃ notes, Logs action session notes ∧ notes.instrumented = []

/-- Wherever it is started, an action logs notes and then the end of an operation. -/
structure Closes (action : Action Result) (operation : String) (well : Bool) : Prop where
  asks : OnlyAsks action
  logs : ∀ session, ∃ notes closing, Logs action session (notes ++ [closing]) ∧
    Log.instrumented notes = [] ∧ closing.Marks operation (.ending well)

theorem onlyAsks_logEvent (event : LogEvent) : OnlyAsks (logEvent event) :=
  fun _ => ⟨rfl, rfl, rfl⟩

theorem onlyNotes_pure (result : Result) : OnlyNotes (pure result) :=
  ⟨onlyAsks_pure result, fun session => ⟨[], logs_pure result session, rfl⟩⟩

theorem onlyNotes_logEvent {event : LogEvent} (note : event.operation = none) :
    OnlyNotes (logEvent event) := by
  refine ⟨onlyAsks_logEvent event, fun session => ⟨[event], logs_logEvent event session, ?_⟩⟩
  simp [Log.instrumented, note]

theorem onlyNotes_of_recorded {action : Action Result} {interaction : Interaction}
    (records : ∀ session, (outcome action session).2 = session.recorded interaction)
    (noRun : interaction.run? = none) (noEdit : interaction.edit? = none) : OnlyNotes action := by
  constructor
  case asks =>
    intro session
    rw [records, session.runs_recorded, session.edits_recorded, noRun, noEdit]
    exact ⟨List.append_nil _, List.append_nil _, rfl⟩
  case logs =>
    intro session
    refine ⟨[], logs_of_unchanged ?_, rfl⟩
    rw [records]
    rfl

theorem onlyNotes_request (factory : EvaluatorFactory) (view : ViewRoot) :
    OnlyNotes (factory.request view) :=
  onlyNotes_of_recorded (fun _ => rfl) rfl rfl

theorem onlyNotes_evaluate (evaluator : Evaluator) (context : Context) (expression : String) :
    OnlyNotes (evaluator.evaluate context expression) :=
  onlyNotes_of_recorded (fun _ => rfl) rfl rfl

theorem closes_logEvent {closing : LogEvent} (marks : closing.Marks operation (.ending well))
    (result : Result) :
    Closes (do
      logEvent closing
      pure result) operation well := by
  constructor
  case asks => exact (onlyAsks_logEvent _).bind fun _ => onlyAsks_pure result
  case logs =>
    intro session
    exact ⟨[], closing, (logs_logEvent _ _).bind_pure _, rfl, marks⟩

/-- Notes may come before the end of an operation. -/
theorem OnlyNotes.closes {action : Action Result} {next : Result → Action Next}
    (first : OnlyNotes action) (rest : ∀ result, Closes (next result) operation well) :
    Closes (action >>= next) operation well := by
  constructor
  case asks => exact first.asks.bind fun result => (rest result).asks
  case logs =>
    intro session
    obtain ⟨notes, ran, onlyNotes⟩ := first.logs session
    obtain ⟨more, closing, later, alsoNotes, marks⟩ :=
      (rest (outcome action session).1).logs (outcome action session).2
    refine ⟨notes ++ more, closing, ?_, ?_, marks⟩
    · rw [List.append_assoc]
      exact ran.bind next later
    · rw [Log.instrumented_append, onlyNotes, alsoNotes, List.nil_append]

theorem Closes.bind_pure {action : Action Result} (closes : Closes action operation well)
    (give : Result → Next) :
    Closes (action >>= fun result => pure (give result)) operation well := by
  constructor
  case asks => exact closes.asks.bind fun result => onlyAsks_pure (give result)
  case logs =>
    intro session
    obtain ⟨notes, closing, ran, onlyNotes, marks⟩ := closes.logs session
    exact ⟨notes, closing, ran.bind_pure give, onlyNotes, marks⟩

/-- An action logs that an operation starts, and then, after notes, how it ends. -/
def IsLogged (action : Action Result) (operation : String) (well : Bool) : Prop :=
  ∃ opening : LogEvent, ∃ next : Action Result, (action = do
      logEvent opening
      next) ∧
    opening.Marks operation .start ∧ Closes next operation well

theorem IsLogged.bind_pure {action : Action Result} (logged : IsLogged action operation well)
    (give : Result → Next) :
    IsLogged (action >>= fun result => pure (give result)) operation well := by
  obtain ⟨opening, next, rfl, opens, closes⟩ := logged
  exact ⟨opening, _, bind_assoc .., opens, closes.bind_pure give⟩

theorem IsLogged.onlyAsks {action : Action Result} (logged : IsLogged action operation well) :
    OnlyAsks action := by
  obtain ⟨opening, next, rfl, _, closes⟩ := logged
  exact (onlyAsks_logEvent opening).bind fun _ => closes.asks

/-- Apart from the notes, the events are one start and one end. -/
theorem IsLogged.exists_instrumented {action : Action Result}
    (logged : IsLogged action operation well) (session : Session) :
    ∃ opening closing, (outcome action session).2.log.instrumented =
        session.log.instrumented ++ [opening, closing] ∧
      opening.Marks operation .start ∧ closing.Marks operation (.ending well) := by
  obtain ⟨opening, next, rfl, opens, closes⟩ := logged
  obtain ⟨notes, closing, ran, onlyNotes, marks⟩ :=
    closes.logs (outcome (logEvent opening) session).2
  have whole := (logs_logEvent opening session).bind (fun _ => next) ran
  refine ⟨opening, closing, ?_, opens, marks⟩
  rw [whole, Log.instrumented_append, Log.instrumented_append, Log.instrumented_append,
    onlyNotes]
  simp [Log.instrumented, opens.isSome_operation, marks.isSome_operation]

end Action

/-! ## The operations -/

theorem Binder.isLogged_bind (binder : Binder) (description : WidgetDescription) :
    IsLogged (binder.bind description) "bind_widget" true :=
  ⟨_, _, rfl, ⟨rfl, rfl⟩, closes_logEvent ⟨rfl, rfl⟩ _⟩

namespace CandidateSearch

variable (search : CandidateSearch) (target : Node) {searchScope : Option String} (id : String)

/-- With an expression to evaluate a search is logged, also when no view owns the description. -/
theorem isLogged_find (visible : Text.isBlank? searchScope = false) :
    IsLogged (search.find target searchScope id) "find_candidates" true := by
  cases searchScope with
  | none => cases visible
  | some expression =>
      have kept : (some expression).filter (fun text => !Text.isBlank text) = some expression :=
        Option.filter_some_pos (by simpa using visible)
      rw [find, kept]
      refine ⟨_, _, rfl, ⟨rfl, rfl⟩, ?_⟩
      have finished : ∀ found : List Node, Closes (do
          logEvent (.finish (some .candidateSearch) "find_candidates" none none
            [("candidate_count", toString found.length)])
          pure found) "find_candidates" true :=
        fun found => closes_logEvent ⟨rfl, rfl⟩ found
      cases search.links.owningView? id with
      | none => exact (onlyNotes_logEvent rfl).closes fun _ => finished []
      | some view =>
          refine (onlyNotes_request _ view).closes fun evaluator => ?_
          exact (onlyNotes_evaluate evaluator _ expression).closes fun answer =>
            finished answer.nodes

end CandidateSearch

namespace ChildCreation.Catalogue

/-- An enumeration of places is logged in the same way when a type is not known. -/
theorem isLogged_offers (catalogue : Catalogue) (kind referenceKind : String) :
    IsLogged (catalogue.offers kind referenceKind) "child_creation_descriptions" true := by
  refine ⟨_, _, rfl, ⟨rfl, rfl⟩, ?_⟩
  have finished : ∀ found : List Offer, Closes (do
      logEvent (.finish (some .childCreation) "child_creation_descriptions" none none
        [("candidate_count", toString found.length)])
      pure found) "child_creation_descriptions" true :=
    fun found => closes_logEvent ⟨rfl, rfl⟩ found
  dsimp only
  split
  · exact finished _
  · refine OnlyNotes.closes ?container fun _ => OnlyNotes.closes ?reference fun _ => finished []
    case container =>
      split
      · exact onlyNotes_pure ()
      · exact onlyNotes_logEvent rfl
    case reference =>
      split
      · exact onlyNotes_pure ()
      · exact onlyNotes_logEvent rfl

end ChildCreation.Catalogue

/-- The loading of a document ends in the log as it does for the caller. -/
theorem DescriptionIndex.isLogged_load (file : FileContent) :
    IsLogged (load file).run "load_descriptions" (ofFile file).isOk := by
  let opening : LogEvent := .start (some .documentLoading) "load_descriptions" none none []
  cases read : ofFile file with
  | ok index =>
      let closing : LogEvent := .finish (some .documentLoading) "load_descriptions" none none
        [("widget_count", toString index.size)]
      have marks : closing.Marks "load_descriptions" (.ending true) := ⟨rfl, rfl⟩
      refine ⟨opening, _, ?_, ⟨rfl, rfl⟩, closes_logEvent marks (.ok index)⟩
      rw [load, read]
      rfl
  | error error =>
      let closing : LogEvent :=
        .failed (some .documentLoading) "load_descriptions" error.toFailure none none []
      have marks : closing.Marks "load_descriptions" (.ending false) := ⟨rfl, rfl⟩
      refine ⟨opening, _, ?_, ⟨rfl, rfl⟩, closes_logEvent marks (.error error)⟩
      rw [load, read]
      rfl

theorem DescriptionIndex.outcome_load (file : FileContent) (session : Session) :
    (outcome (load file).run session).1 = ofFile file := by
  rw [load]
  cases ofFile file with
  | ok index => rfl
  | error error => rfl

end FormWidgets
