import FormWidgets.CommandLine.Help
import FormWidgets.Configuration.Reading
import FormWidgets.Document.Listing
import FormWidgets.Document.Loading

/-!
# Command line

What the program leaves behind for its arguments: the lines it prints, the
errors it reports, and the code it exits with.
-/

namespace FormWidgets.CommandLine

/-- What a program leaves behind. -/
structure Outcome where
  exitCode : UInt8
  output : String := ""
  errors : String := ""
  log : Log := []

namespace Outcome

/-- A command that did what was asked. -/
def success (output : String) : Outcome where
  exitCode := 0
  output := output

/-- A command that could not do what was asked. -/
def failure (reason : String) : Outcome where
  exitCode := 1
  errors := "Error: " ++ reason ++ "\n"

/-- A program that runs no command: help that was asked for is printed, wrong use is an error. -/
def interrupted : Interruption → Outcome
  | .misuse => { exitCode := 2, errors := HelpTopic.program.page.text }
  | .help topic => success topic.page.text

end Outcome

/-- List the widgets of a document. -/
def inspect (file : FileContent) (sourceKind : String) : Outcome :=
  let (result, session) := (DescriptionIndex.load file).run.run {}
  let outcome :=
    match result with
    | .ok index => Outcome.success (index.document.listing sourceKind)
    | .error error => Outcome.failure error.message
  { outcome with log := session.log }

/-- Tell whether a description id is handled. -/
def route (configuration : Configuration) (descriptionId : String) : Outcome :=
  if configuration.canHandle descriptionId then
    .success ("handled: " ++ descriptionId ++ "\n")
  else
    match DescriptionId.parse? descriptionId with
    | some id =>
        .failure ("source kind '" ++ id.sourceKind ++ "' is not accepted (accepted: "
          ++ ", ".intercalate configuration.acceptedSourceKinds ++ ")")
    | none => .failure ("'" ++ descriptionId ++ "' is not a known description id")

/-- The configuration of a command. -/
def configurationOf (files : String → FileContent) : Option String →
    Except EngineError Configuration
  | none => .ok {}
  | some path => Configuration.ofFile path (files path)

/-- Run a command over the contents of files. -/
def Command.run (files : String → FileContent) : Command → Outcome
  | .inspect file sourceKind => CommandLine.inspect (files file) sourceKind
  | .route descriptionId path =>
      match configurationOf files path with
      | .ok configuration => CommandLine.route configuration descriptionId
      | .error error => .failure error.message

/-- Run the program over its arguments and the contents of files. -/
def run (files : String → FileContent) (arguments : List String) : Outcome :=
  match request arguments with
  | .ok request => request.command.run files
  | .error interruption => .interrupted interruption

end FormWidgets.CommandLine
