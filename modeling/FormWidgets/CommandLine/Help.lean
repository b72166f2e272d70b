import FormWidgets.CommandLine.Request

/-!
# Help pages

What the program prints when it is asked for help: a summary, the usage, and
sections in which a summary stands beside each label, all of them in one column.
-/

namespace FormWidgets.CommandLine

/-- A line of a help page. -/
structure HelpEntry where
  label : String
  summary : String

/-- A part of a help page under a title. -/
structure HelpSection where
  title : String
  entries : List HelpEntry

namespace HelpSection

/-- The width of the longest label. -/
def labelWidth (part : HelpSection) : Nat :=
  part.entries.foldl (fun width entry => max width entry.label.length) 0

/-- An entry whose summary starts behind labels of some width. -/
def entryLine (width : Nat) (entry : HelpEntry) : String :=
  "  " ++ entry.label ++ "".pushn ' ' (width - entry.label.length) ++ "  " ++ entry.summary
    ++ "\n"

/-- The lines of a section. -/
def text (part : HelpSection) : String :=
  part.title ++ ":\n" ++ String.join (part.entries.map (entryLine part.labelWidth))

end HelpSection

/-- What is printed about a topic. -/
structure HelpPage where
  summary : String
  usage : String
  sections : List HelpSection

namespace HelpPage

/-- The name under which the program is called. -/
def programName : String := "formbind"

/-- The lines of a page. -/
def text (page : HelpPage) : String :=
  page.summary ++ "\n\nUsage: " ++ programName ++ " " ++ page.usage ++ "\n"
    ++ String.join (page.sections.map fun part => "\n" ++ part.text)

/-- The options that are known everywhere. -/
def commonOptions : List HelpEntry :=
  [⟨"-v, --verbose", "Emit debug logs on stderr"⟩, ⟨"-h, --help", "Print help"⟩]

end HelpPage

namespace CommandName

/-- What a command does. -/
def summary : CommandName → String
  | .inspect => "List the widgets of a description document"
  | .route => "Check whether a description id routes to this engine"

/-- The help page of a command. -/
def page : CommandName → HelpPage
  | .inspect =>
      { summary := summary .inspect
        usage := "inspect [OPTIONS] <FILE>"
        sections :=
          [⟨"Arguments", [⟨"<FILE>", "Description document (YAML or JSON)"⟩]⟩,
            ⟨"Options",
              ⟨"    --source-kind <SOURCE_KIND>",
                "Source kind used when printing description ids [default: view]"⟩
                :: HelpPage.commonOptions⟩] }
  | .route =>
      { summary := summary .route
        usage := "route [OPTIONS] <DESCRIPTION_ID>"
        sections :=
          [⟨"Arguments",
              [⟨"<DESCRIPTION_ID>", "Description id, `<sourceKind>:<widgetKind>:<elementId>`"⟩]⟩,
            ⟨"Options",
              ⟨"-c, --config <CONFIG>",
                "Engine configuration (TOML); defaults apply when omitted"⟩
                :: HelpPage.commonOptions⟩] }

end CommandName

namespace HelpTopic

/-- What the command for help does. -/
def helpSummary : String :=
  "Print this message or the help of the given subcommand(s)"

/-- The help page of a topic. -/
def page : HelpTopic → HelpPage
  | .program =>
      { summary := "formbind - Widget description inspection and routing"
        usage := "[OPTIONS] <COMMAND>"
        sections :=
          [⟨"Commands",
              [⟨"inspect", CommandName.inspect.summary⟩, ⟨"route", CommandName.route.summary⟩,
                ⟨"help", helpSummary⟩]⟩,
            ⟨"Options", HelpPage.commonOptions⟩] }
  | .command name => name.page
  | .help =>
      { summary := helpSummary
        usage := "help [COMMAND]..."
        sections := [⟨"Arguments", [⟨"[COMMAND]...", "Print help for the subcommand(s)"⟩]⟩] }

end HelpTopic

end FormWidgets.CommandLine
