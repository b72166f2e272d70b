/-!
# Error reports

A report classifies a failure by a kind with a stable code and locates it by an
operation, an element, a request and a host session.  The failures that led to
it follow as a chain, nearest first.
-/

namespace FormWidgets

/-- What a failure is about. -/
inductive ErrorKind where
  | invalidDescription
  | duplicateElement
  | unsupportedSchemaVersion
  | unresolvedType
  | evaluationFailed
  | operationFailed
  | editRejected
  | unknownVariable
  | notFound
  | config
  | io
  | internal
deriving DecidableEq, Repr

namespace ErrorKind

/-- The stable code of a kind. -/
def code : ErrorKind → String
  | .invalidDescription => "ERR_INVALID_DESCRIPTION"
  | .duplicateElement => "ERR_DUPLICATE_ELEMENT"
  | .unsupportedSchemaVersion => "ERR_UNSUPPORTED_SCHEMA_VERSION"
  | .unresolvedType => "ERR_UNRESOLVED_TYPE"
  | .evaluationFailed => "ERR_EVALUATION_FAILED"
  | .operationFailed => "ERR_OPERATION_FAILED"
  | .editRejected => "ERR_EDIT_REJECTED"
  | .unknownVariable => "ERR_UNKNOWN_VARIABLE"
  | .notFound => "ERR_NOT_FOUND"
  | .config => "ERR_CONFIG"
  | .io => "ERR_IO"
  | .internal => "ERR_INTERNAL"

/-- The name of a kind in log events. -/
def name : ErrorKind → String
  | .invalidDescription => "InvalidDescription"
  | .duplicateElement => "DuplicateElement"
  | .unsupportedSchemaVersion => "UnsupportedSchemaVersion"
  | .unresolvedType => "UnresolvedType"
  | .evaluationFailed => "EvaluationFailed"
  | .operationFailed => "OperationFailed"
  | .editRejected => "EditRejected"
  | .unknownVariable => "UnknownVariable"
  | .notFound => "NotFound"
  | .config => "Config"
  | .io => "Io"
  | .internal => "Internal"

/-- The kinds in order of declaration. -/
def all : List ErrorKind :=
  [.invalidDescription, .duplicateElement, .unsupportedSchemaVersion, .unresolvedType,
    .evaluationFailed, .operationFailed, .editRejected, .unknownVariable, .notFound, .config,
    .io, .internal]

/-- The kind with a name. -/
def ofName? (name : String) : Option ErrorKind :=
  all.find? fun kind => decide (kind.name = name)

@[simp]
theorem ofName?_name (kind : ErrorKind) : ofName? kind.name = some kind := by
  cases kind <;> decide

end ErrorKind

/-- One classified and located failure. -/
structure Failure where
  kind : ErrorKind
  operation : Option String := none
  element : Option String := none
  request : Option String := none
  session : Option String := none
  message : String := ""
deriving DecidableEq, Repr

namespace Failure

/-- A text around an optional part, or nothing when the part is absent. -/
def located (before after : String) : Option String → String
  | some part => before ++ part ++ after
  | none => ""

/-- The text shown for a failure: its code, then the parts that are present. -/
def display (failure : Failure) : String :=
  "[" ++ failure.kind.code ++ "]"
    ++ located " in operation '" "'" failure.operation
    ++ (if failure.message.isEmpty then "" else ": " ++ failure.message)
    ++ located " (element_id: " ")" failure.element
    ++ located " (request_id: " ")" failure.request

end Failure

/-- A failure with the failures that led to it, nearest first. -/
structure ErrorReport where
  failure : Failure
  causes : List Failure := []
deriving DecidableEq, Repr

namespace ErrorReport

/-- The text shown for a report is that of its failure; the causes are kept apart. -/
def display (report : ErrorReport) : String :=
  report.failure.display

end ErrorReport

end FormWidgets
