import FormWidgets.ErrorReport

/-!
# Errors of the engine

The causes for which loading, configuring or executing fails, the text shown
for each, and the passage to and from error reports.  The passage forgets: only
a rejected edit comes back as itself, every other report comes back as an
internal error that quotes it.
-/

namespace FormWidgets

/-- Why an engine operation failed. -/
inductive EngineError where
  /-- The text is no description document. -/
  | unreadableDocument (reason : String)
  /-- An element breaks a structural rule. -/
  | invalidElement (element reason : String)
  /-- Two elements share an id. -/
  | duplicateElement (element : String)
  /-- The document states another version than the supported one. -/
  | unsupportedVersion (found expected : UInt32)
  /-- A type name names no registered type. -/
  | unresolvedType (qualifiedName : String)
  /-- A required expression gave nothing of the expected sort. -/
  | yieldedNothing (expression expected : String)
  /-- An operation needs a variable that is not bound. -/
  | unboundVariable (name : String)
  /-- The edit service refused an edit. -/
  | editRejected (operation reason : String)
  /-- The configuration cannot be used. -/
  | configuration (reason : String)
  /-- A file cannot be read. -/
  | io (message : String)
  /-- Any other failure. -/
  | internal (message : String)
deriving DecidableEq, Repr

namespace EngineError

/-- The text shown for an error. -/
def message : EngineError → String
  | .unreadableDocument reason =>
      "Description document could not be parsed: " ++ reason
  | .invalidElement element reason =>
      "Invalid description element " ++ element ++ ": " ++ reason
  | .duplicateElement element =>
      "Duplicate description element id: " ++ element
  | .unsupportedVersion found expected =>
      "Unsupported description schema_version " ++ toString found.toNat
        ++ "; expected " ++ toString expected.toNat
  | .unresolvedType qualifiedName =>
      "Unresolved domain type: " ++ qualifiedName
  | .yieldedNothing expression expected =>
      "Expression produced no " ++ expected ++ ": " ++ expression
  | .unboundVariable name =>
      "Variable not bound in evaluation context: " ++ name
  | .editRejected operation reason =>
      "Edit '" ++ operation ++ "' rejected: " ++ reason
  | .configuration reason =>
      "Configuration error: " ++ reason
  | .io message =>
      "I/O error: " ++ message
  | .internal message =>
      "Internal error: " ++ message

/-- The failure that reports an error. -/
def toFailure : EngineError → Failure
  | .unreadableDocument reason =>
      { kind := .invalidDescription, operation := some "parse_descriptions", message := reason }
  | .invalidElement element reason =>
      { kind := .invalidDescription, element := some element, message := reason }
  | .duplicateElement element =>
      { kind := .duplicateElement, element := some element
        message := "Description element id is used more than once" }
  | .unsupportedVersion found expected =>
      { kind := .unsupportedSchemaVersion
        message := "schema_version " ++ toString found.toNat
          ++ " is not supported (expected " ++ toString expected.toNat ++ ")" }
  | .unresolvedType qualifiedName =>
      { kind := .unresolvedType, message := "Cannot resolve '" ++ qualifiedName ++ "'" }
  | .yieldedNothing expression expected =>
      { kind := .evaluationFailed
        message := "'" ++ expression ++ "' produced no " ++ expected }
  | .unboundVariable name =>
      { kind := .unknownVariable, message := "Variable '" ++ name ++ "' is not bound" }
  | .editRejected operation reason =>
      { kind := .editRejected, operation := some operation, message := reason }
  | .configuration reason =>
      { kind := .config, message := reason }
  | .io message =>
      { kind := .io, message := message }
  | .internal message =>
      { kind := .internal, message := message }

/-- The report of an error has no causes of its own. -/
def toReport (error : EngineError) : ErrorReport where
  failure := error.toFailure

/-- The error that stands for a report of a collaborator. -/
def ofReport (report : ErrorReport) : EngineError :=
  match report.failure.kind with
  | .editRejected =>
      .editRejected (report.failure.operation.getD "edit") report.failure.message
  | _ => .internal report.display

end EngineError

end FormWidgets
