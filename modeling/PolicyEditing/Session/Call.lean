import PolicyEditing.Completion.Offer
import PolicyEditing.Document
import PolicyEditing.Hover
import PolicyEditing.Uri

/-!
# Calls

What the editor can ask of a server and tell it, and what the server answers.
-/

namespace PolicyEditing

/-- Whether a call waits for a response. -/
inductive CallKind where
  | request
  | notification
deriving DecidableEq, Repr

structure Call where
  kind : CallKind
  method : String
  params : Option Json

/-- What the editor asks for in the middle of a session. -/
inductive Request where
  | hover (uri : Uri) (position : Position)
  | complete
  | resolve (item : Completion.Item)
  | format (uri : Uri) (tabSize : Nat)
  /-- Something that editors may ask for and that this server does not offer. -/
  | unsupported

/-- What the editor tells in the middle of a session. -/
inductive Notification where
  | initialized
  | configurationChanged (configuration : Json)
  | foldersChanged (added removed : Nat)
  | opened (uri : Uri) (document : Document)
  | edited (uri : Uri) (version : Int) (changes : List Change)
  | closed (uri : Uri)
  /-- Something that this server has no use for. -/
  | ignored

inductive Answer where
  /-- What the server offers, depending on whether the editor has workspace folders. -/
  | capabilities (hasFolders : Bool)
  | nothing
  | explanation (hover : Option Hover)
  | completions (items : List Completion.Item)
  | resolved (item : Completion.Item)
  | layout (edits : List TextEdit)

/-- Why a request is refused. -/
inductive Refusal where
  /-- The session has not begun. -/
  | notInitialized
  /-- The request makes no sense at this point of the session. -/
  | invalidRequest
  /-- No request has this name. -/
  | unknownMethod (name : String)
  /-- The server does not offer this. -/
  | unsupportedMethod
  /-- The parameters are missing or cannot be read. -/
  | invalidParams
deriving DecidableEq, Repr

namespace Refusal

def code : Refusal → Int
  | notInitialized => -32002
  | invalidRequest => -32600
  | unknownMethod _ => -32601
  | unsupportedMethod => -32601
  | invalidParams => -32602

def message : Refusal → String
  | notInitialized => "Server not initialized"
  | invalidRequest => "Invalid request"
  | unknownMethod _ => "Method not found"
  | unsupportedMethod => "Method not found"
  | invalidParams => "Invalid params"

end Refusal

/-- What a request gets back. -/
abbrev Response := Except Refusal Answer

/-- How a server reacts to a call: it has exited, it says nothing, or it responds. -/
inductive Reaction where
  | gone
  | silent
  | responded (response : Response)

end PolicyEditing
