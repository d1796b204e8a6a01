import PolicyEditing.Diagnostic.Basic
import PolicyEditing.Settings.Fault

/-!
# What a server does

Everything that can be seen of a server from outside, answers to requests apart: the messages that
it sends to the editor, the questions among them, and the lines of its log.
-/

namespace PolicyEditing

/-- How much a line of the log matters. -/
inductive LogLevel where
  | trace
  | debug
  | info
  | warn
deriving DecidableEq, Repr

def LogLevel.name : LogLevel → String
  | .trace => "TRACE"
  | .debug => "DEBUG"
  | .info => "INFO"
  | .warn => "WARN"

structure LogEntry where
  level : LogLevel
  text : String
deriving DecidableEq, Repr

def LogEntry.write (entry : LogEntry) : String :=
  entry.level.name ++ " " ++ entry.text

/-- How a notice is shown: to the user, or only in the editor's log. -/
inductive NoticeKind where
  | info
  | log
deriving DecidableEq, Repr

/-- What a server asks the editor. -/
inductive Question where
  /-- The settings of a document. -/
  | settings (uri : Uri)
  /-- To be told when the configuration changes. -/
  | watchConfiguration
deriving DecidableEq, Repr

/-- How the editor answers a question. -/
inductive Reply where
  | result (value : Json)
  | error (error : RequestError)

/-- What a server sends to the editor. -/
inductive Message where
  /-- All diagnostics of a document, in place of the earlier ones. -/
  | diagnostics (uri : Uri) (found : List Diagnostic) (version : Option Int)
  | notice (kind : NoticeKind) (text : String)
  | ask (question : Question)
deriving DecidableEq, Repr

/-- The document that a message is about. -/
def Message.uri? : Message → Option Uri
  | .diagnostics uri _ _ => some uri
  | .notice _ _ => none
  | .ask (.settings uri) => some uri
  | .ask .watchConfiguration => none

/-- Something that a server does. -/
inductive Event where
  | sent (message : Message)
  | logged (entry : LogEntry)
deriving DecidableEq, Repr

namespace Event

def message? : Event → Option Message
  | sent message => some message
  | logged _ => none

def entry? : Event → Option LogEntry
  | sent _ => none
  | logged entry => some entry

def log (level : LogLevel) (text : String) : Event := .logged ⟨level, text⟩

end Event

end PolicyEditing
