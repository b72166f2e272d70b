import FormWidgets.CommandLine

/-!
# The program

Reads the files that a command names and prints what the command leaves behind.
-/

namespace FormWidgets.CommandLine

/-- The path of the file that a command reads. -/
def Command.path? : Command → Option String
  | .inspect file _ => some file
  | .route _ configuration => configuration

/-- Read what a path leads to. -/
def readPath (path : String) : IO FileContent := do
  try
    let content ← IO.FS.readBinFile path
    return .bytes content
  catch failure =>
    match failure with
    | .noFileOrDirectory .. => return .missing
    | .inappropriateType (some _) .. => return .beneathFile
    | .invalidArgument .. => return .tooLong
    | _ => return .directory

/-- A log event in one line. -/
def eventLine (event : LogEvent) : String :=
  " ".intercalate (event.fields.map fun (name, value) => name ++ "=" ++ value)

/-- Print what is left behind. -/
def leave (outcome : Outcome) : IO UInt32 := do
  IO.print outcome.output
  IO.eprint outcome.errors
  return outcome.exitCode.toUInt32

/-- Do what a request asks for. -/
def perform (request : Request) : IO UInt32 := do
  let content ←
    match request.command.path? with
    | some path => readPath path
    | none => pure .missing
  let outcome := request.command.run fun _ => content
  if request.isVerbose then
    for event in outcome.log do
      IO.eprintln (eventLine event)
  leave outcome

end FormWidgets.CommandLine

/-- Run the program. -/
def main (arguments : List String) : IO UInt32 := do
  match FormWidgets.CommandLine.request arguments with
  | .ok request => FormWidgets.CommandLine.perform request
  | .error interruption =>
      FormWidgets.CommandLine.leave (FormWidgets.CommandLine.Outcome.interrupted interruption)
