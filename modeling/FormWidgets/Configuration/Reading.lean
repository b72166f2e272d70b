import FormWidgets.Configuration
import FormWidgets.EngineError
import FormWidgets.FileContent
import FormWidgets.Toml.Reading

/-!
# Reading configurations

The settings that a configuration text gives.  Settings that are not given keep
their defaults, and entries that are no settings are ignored.
-/

namespace FormWidgets

namespace Configuration

/-- Whether a value holds nothing, as the table under a chosen name must. -/
def isEmptyValue : Toml.Value → Bool
  | .array items => items.isEmpty
  | .tables items => items.isEmpty
  | .table _ entries => entries.isEmpty
  | .text _ | .scalar => false

/-- The name of a choice: a text, or the one key of a table that holds nothing else. -/
def choiceName? : Toml.Value → Option String
  | .text name => some name
  | .table _ [(name, value)] => if isEmptyValue value then some name else none
  | _ => none

/-- The profile with a name. -/
def logProfile? (name : String) : Option LogProfile :=
  if name = "development" then some .development
  else if name = "production" then some .production
  else if name = "test" then some .test
  else none

/-- The scope with a name. -/
def subtypeScope? (name : String) : Option SubtypeScope :=
  if name = "defining_namespace" then some .definingNamespace
  else if name = "registry" then some .registry
  else none

/-- The text that a value is. -/
def text? : Toml.Value → Option String
  | .text content => some content
  | _ => none

/-- The texts of an array of nothing else. -/
def texts? : Toml.Value → Option (List String)
  | .array items => items.mapM text?
  | _ => none

/-- A setting with a default. -/
def setting {Part : Type} (entries : Toml.Entries) (name : String) (default : Part)
    (read : Toml.Value → Option Part) : Option Part :=
  match entries.find? name with
  | some value => read value
  | none => some default

/-- The settings among the entries of a text. -/
def ofEntries? (entries : Toml.Entries) : Option Configuration := do
  let defaults : Configuration := {}
  some
    { logProfile := ←
        setting entries "log_profile" defaults.logProfile
          (fun value => (choiceName? value).bind logProfile?)
      acceptedSourceKinds := ←
        setting entries "accepted_source_kinds" defaults.acceptedSourceKinds texts?
      subtypeScope := ←
        setting entries "subtype_scope" defaults.subtypeScope
          (fun value => (choiceName? value).bind subtypeScope?) }

/-- Read the settings of a text. -/
def parse (text : String) : Except EngineError Configuration :=
  match (Toml.entries? text).bind ofEntries? with
  | some configuration => .ok configuration
  | none =>
      .error (.configuration "TOML parse error: the text has not the form of a configuration")

/-- Read the settings of the file at a path. -/
def ofFile (path : String) (file : FileContent) : Except EngineError Configuration := do
  let text ← file.text.mapError fun reason => .configuration (path ++ ": " ++ reason)
  parse text

end Configuration

end FormWidgets
