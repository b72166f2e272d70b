import FormWidgets.EngineError

/-!
# Log events

Instrumented operations log a start event and then one event for their end,
successful or not.  Notes in between report why a step was skipped.
-/

namespace FormWidgets

/-- How urgent a log event is. -/
inductive LogLevel where
  | info
  | warn
  | debug
deriving DecidableEq, Repr

/-- The part of the engine that logs an operation. -/
inductive Component where
  | binder
  | editHandler
  | execution
  | candidateSearch
  | childCreation
  | documentLoading
deriving DecidableEq, Repr

/-- Which moment of an operation an event marks. -/
inductive Phase where
  | start
  | finish
  | failure
deriving DecidableEq, Repr

namespace Phase

/-- The name of a phase in log events. -/
def name : Phase → String
  | .start => "start"
  | .finish => "end"
  | .failure => "end_error"

end Phase

/-- One logged event. -/
structure LogEvent where
  level : LogLevel
  component : Option Component := none
  operation : Option String := none
  phase : Option Phase := none
  widget : Option String := none
  request : Option String := none
  errorKind : Option ErrorKind := none
  message : Option String := none
  details : List (String × String) := []
deriving DecidableEq, Repr

namespace LogEvent

/-- The fields of an event as texts, without the component. -/
def fields (event : LogEvent) : List (String × String) :=
  let optional (name : String) (value : Option String) : List (String × String) :=
    value.toList.map fun text => (name, text)
  optional "op" event.operation
    ++ optional "event" (event.phase.map Phase.name)
    ++ optional "widget_id" event.widget
    ++ optional "request_id" event.request
    ++ optional "err.kind" (event.errorKind.map ErrorKind.name)
    ++ optional "err.code" (event.errorKind.map ErrorKind.code)
    ++ optional "message" event.message
    ++ event.details

/-- The value of a field. -/
def field? (event : LogEvent) (name : String) : Option String :=
  (event.fields.find? fun entry => entry.1 = name).map Prod.snd

/-- An operation starts. -/
def start (component : Option Component) (operation : String)
    (widget request : Option String) (details : List (String × String)) :
    LogEvent where
  level := .info
  component := component
  operation := some operation
  phase := some .start
  widget := widget
  request := request
  details := details

/-- An operation ends well. -/
def finish (component : Option Component) (operation : String)
    (widget request : Option String) (details : List (String × String)) :
    LogEvent where
  level := .info
  component := component
  operation := some operation
  phase := some .finish
  widget := widget
  request := request
  details := details

/-- An operation ends with a failure. -/
def failed (component : Option Component) (operation : String) (failure : Failure)
    (widget request : Option String) (details : List (String × String)) :
    LogEvent where
  level := .warn
  component := component
  operation := some operation
  phase := some .failure
  widget := widget
  request := request
  errorKind := some failure.kind
  message := some failure.message
  details := details

/-- A note outside of any start and end. -/
def note (message : String) (widget : Option String)
    (details : List (String × String)) : LogEvent where
  level := .debug
  widget := widget
  message := some message
  details := details

end LogEvent

/-- The events logged so far, oldest first. -/
abbrev Log := List LogEvent

namespace Log

/-- The events of one operation. -/
def ofOperation (log : Log) (operation : String) : Log :=
  log.filter fun event => event.operation = some operation

/-- The number of events that mark a phase of the given name. -/
def countPhase (log : Log) (phase : String) : Nat :=
  log.countP fun event => event.phase.map Phase.name = some phase

/-- Whether an operation logged a phase of the given name. -/
def has (log : Log) (operation phase : String) : Bool :=
  log.any fun event =>
    event.operation = some operation && event.phase.map Phase.name = some phase

end Log

end FormWidgets
