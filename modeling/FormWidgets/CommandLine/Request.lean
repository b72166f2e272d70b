/-!
# Requests on the command line

Two commands for authors of documents: `inspect` lists the widgets of a
document, and `route` tells whether a description id is handled.  Options may
stand before or after operands, and two dashes end them.

Arguments are read from left to right, and the first of them that is wrong or
that asks for help decides.
-/

namespace FormWidgets.CommandLine

/-- What is to be done. -/
inductive Command where
  | inspect (file : String) (sourceKind : String)
  | route (descriptionId : String) (configuration : Option String)
deriving DecidableEq, Repr

/-- The names of the commands. -/
inductive CommandName where
  | inspect
  | route
deriving DecidableEq, Repr

namespace CommandName

/-- The command with a name. -/
def ofText? (text : String) : Option CommandName :=
  if text = "inspect" then some .inspect
  else if text = "route" then some .route
  else none

/-- The option of a command that takes a value. -/
def longOption : CommandName → String
  | .inspect => "source-kind"
  | .route => "config"

/-- The letter of the option that takes a value, if it has one. -/
def shortOption? : CommandName → Option Char
  | .inspect => none
  | .route => some 'c'

/-- Whether the operand of a command is a path. -/
def operandIsPath : CommandName → Bool
  | .inspect => true
  | .route => false

/-- Whether the value of the option of a command is a path. -/
def optionIsPath : CommandName → Bool
  | .inspect => false
  | .route => true

end CommandName

/-- What help is about. -/
inductive HelpTopic where
  | program
  | command (name : CommandName)
  | help
deriving DecidableEq, Repr

namespace HelpTopic

/-- The topic that the words after the command for help name. -/
def ofWords? : List String → Option HelpTopic
  | [] => some .program
  | ["help"] => some .help
  | [word] => (CommandName.ofText? word).map .command
  | _ => none

end HelpTopic

/-- Why no command is run. -/
inductive Interruption where
  | misuse
  | help (topic : HelpTopic)
deriving DecidableEq, Repr

/-- The arguments of a command that were read so far. -/
structure Arguments where
  operand : Option String := none
  option : Option String := none
  isVerbose : Bool := false

namespace Arguments

/-- The arguments with an operand, of which there is one; a path may not be empty. -/
def withOperand (name : CommandName) (read : Arguments) (operand : String) :
    Except Interruption Arguments :=
  if read.operand.isSome || (name.operandIsPath && operand.isEmpty) then .error .misuse
  else .ok { read with operand := some operand }

/-- The arguments with an option, which may be given once; a path may not be empty. -/
def withOption (name : CommandName) (read : Arguments) (option : String) :
    Except Interruption Arguments :=
  if read.option.isSome || (name.optionIsPath && option.isEmpty) then .error .misuse
  else .ok { read with option := some option }

/-- The arguments with the flag for logs, which may be given once. -/
def withVerbose (read : Arguments) : Except Interruption Arguments :=
  if read.isVerbose then .error .misuse else .ok { read with isVerbose := true }

/-- The command of a name with its arguments. -/
def command (name : CommandName) (read : Arguments) : Except Interruption Command :=
  match name, read.operand with
  | _, none => .error .misuse
  | .inspect, some file => .ok (.inspect file (read.option.getD "view"))
  | .route, some descriptionId => .ok (.route descriptionId read.option)

end Arguments

/-- Whether an argument is an option; a single dash is none. -/
def isOption (argument : String) : Bool :=
  argument.startsWith "-" && argument ≠ "-"

/-- The arguments after an option, and whether it takes the next argument as its value. -/
abbrev AfterOption := Arguments × Bool

/-- Read the letters after one dash; a letter that takes a value ends them. -/
def letters (name : Option CommandName) (read : Arguments) :
    List Char → Except Interruption AfterOption
  | [] => .ok (read, false)
  | letter :: rest =>
      if letter = 'v' then
        match read.withVerbose with
        | .ok read => letters name read rest
        | .error interruption => .error interruption
      else if letter = 'h' then .error (.help (name.elim .program .command))
      else
        match name, rest with
        | none, _ => .error .misuse
        | some name, rest =>
            if name.shortOption? ≠ some letter then .error .misuse
            else
              match rest with
              | [] => .ok (read, true)
              | '=' :: value => (read.withOption name (String.ofList value)).map (·, false)
              | value => (read.withOption name (String.ofList value)).map (·, false)

/-- Read the word after two dashes. -/
def longWord (name : Option CommandName) (read : Arguments) (word : List Char) :
    Except Interruption AfterOption :=
  if word = "verbose".toList then read.withVerbose.map (·, false)
  else if word = "help".toList then .error (.help (name.elim .program .command))
  else
    match name with
    | none => .error .misuse
    | some name =>
        let key := (name.longOption ++ "=").toList
        if word = name.longOption.toList then .ok (read, true)
        else if key.isPrefixOf word then
          (read.withOption name (String.ofList (word.drop key.length))).map (·, false)
        else .error .misuse

/-- Read an argument that starts with a dash, before the name of a command or after it. -/
def optionWord (name : Option CommandName) (read : Arguments) (argument : String) :
    Except Interruption AfterOption :=
  match argument.toList with
  | '-' :: '-' :: word => longWord name read word
  | '-' :: word => letters name read word
  | _ => .error .misuse

/-- Read the arguments of a command. -/
def arguments (name : CommandName) (read : Arguments) :
    List String → Except Interruption Arguments
  | [] => .ok read
  | argument :: rest =>
      if argument = "--" then rest.foldlM (Arguments.withOperand name) read
      else if isOption argument then
        match optionWord (some name) read argument, rest with
        | .error interruption, _ => .error interruption
        | .ok (read, false), rest => arguments name read rest
        | .ok (_, true), [] => .error .misuse
        | .ok (read, true), value :: rest =>
            if isOption value then .error .misuse
            else
              match read.withOption name value with
              | .ok read => arguments name read rest
              | .error interruption => .error interruption
      else
        match read.withOperand name argument with
        | .ok read => arguments name read rest
        | .error interruption => .error interruption

/-- A command, and whether logs are asked for. -/
structure Request where
  command : Command
  isVerbose : Bool

/-- Read all arguments: flags, the name of a command, its arguments. -/
def requestFrom (read : Arguments) : List String → Except Interruption Request
  | [] => .error .misuse
  | argument :: rest =>
      if argument = "help" then
        match HelpTopic.ofWords? rest with
        | some topic => .error (.help topic)
        | none => .error .misuse
      else if isOption argument && argument ≠ "--" then
        match optionWord none read argument with
        | .ok (read, _) => requestFrom read rest
        | .error interruption => .error interruption
      else
        match CommandName.ofText? argument with
        | none => .error .misuse
        | some name => do
            let given ← arguments name {} rest
            let command ← given.command name
            .ok ⟨command, read.isVerbose || given.isVerbose⟩

/-- What the arguments of the program ask for. -/
def request (arguments : List String) : Except Interruption Request :=
  requestFrom {} arguments

end FormWidgets.CommandLine
