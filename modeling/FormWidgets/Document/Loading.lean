import FormWidgets.Document.Index
import FormWidgets.Document.Validation
import FormWidgets.FileContent
import FormWidgets.Format.Document
import FormWidgets.Session
import FormWidgets.Yaml.Reading

/-!
# Loading documents

A document is read from a text and validated; a document in a file is indexed
as well, and loading it is logged.
-/

namespace FormWidgets

namespace DescriptionDocument

/-- Read and validate a document. -/
def parse (text : String) : Except EngineError DescriptionDocument := do
  let document ←
    match (Data.ofYaml? text outline).bind (ofData? .yaml) with
    | some document => .ok document
    | none => .error (.unreadableDocument "the text has not the form of a document")
  document.validate
  pure document

end DescriptionDocument

namespace DescriptionIndex

/-- Read, validate and index the document of a file. -/
def ofFile (file : FileContent) : Except EngineError DescriptionIndex := do
  let text ← file.text.mapError EngineError.io
  let document ← DescriptionDocument.parse text
  pure (ofDocument document)

/-- Load the document of a file, and log how that went. -/
def load (file : FileContent) : Attempt DescriptionIndex := do
  Action.logEvent (.start (some .documentLoading) "load_descriptions" none none [])
  match ofFile file with
  | .ok index =>
      Action.logEvent
        (.finish (some .documentLoading) "load_descriptions" none none
          [("widget_count", toString index.size)])
      pure index
  | .error error =>
      Action.logEvent
        (.failed (some .documentLoading) "load_descriptions" error.toFailure none none [])
      throw error

end DescriptionIndex

end FormWidgets
