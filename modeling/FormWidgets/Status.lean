/-!
# Feedback and status

Messages for the user that accumulate while a request runs, and the status a
request ends with, which carries every message accumulated so far.
-/

namespace FormWidgets

/-- How serious a message is. -/
inductive MessageLevel where
  | info
  | success
  | warning
  | error
deriving DecidableEq, Repr

namespace MessageLevel

/-- The levels in order of declaration. -/
def all : List MessageLevel :=
  [.info, .success, .warning, .error]

/-- The name of a level. -/
def name : MessageLevel → String
  | .info => "info"
  | .success => "success"
  | .warning => "warning"
  | .error => "error"

/-- The level with a name. -/
def ofName? (name : String) : Option MessageLevel :=
  all.find? fun level => decide (level.name = name)

@[simp]
theorem ofName?_name (level : MessageLevel) : ofName? level.name = some level := by
  cases level <;> decide

end MessageLevel

/-- A message for the user. -/
structure Message where
  body : String
  level : MessageLevel
deriving DecidableEq, Repr

/-- How a request ended. -/
inductive Status where
  /-- Nothing failed; the flag says whether operations ran. -/
  | success (semanticChange : Bool) (messages : List Message)
  /-- Something failed; the text is fixed for the kind of request. -/
  | failure (text : String) (messages : List Message)
deriving DecidableEq, Repr

namespace Status

/-- Operations ran to their end. -/
def changed (messages : List Message) : Status :=
  .success true messages

/-- Nothing was there to run. -/
def neutral (messages : List Message) : Status :=
  .success false messages

/-- Whether nothing failed. -/
def isSuccess : Status → Bool
  | .success _ _ => true
  | .failure _ _ => false

/-- Whether operations ran to their end. -/
def isSemanticChange : Status → Bool
  | .success semanticChange _ => semanticChange
  | .failure _ _ => false

/-- The messages a status carries. -/
def messages : Status → List Message
  | .success _ messages | .failure _ messages => messages

end Status

/-- Messages in order of addition that no status carries yet. -/
abbrev FeedbackBuffer := List Message

namespace FeedbackBuffer

/-- Add a message behind the others. -/
def add (buffer : FeedbackBuffer) (message : Message) : FeedbackBuffer :=
  buffer ++ [message]

/-- All messages, and the buffer without them. -/
def take (buffer : FeedbackBuffer) : List Message × FeedbackBuffer :=
  (buffer, [])

end FeedbackBuffer

end FormWidgets
