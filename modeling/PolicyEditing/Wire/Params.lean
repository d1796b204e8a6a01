import PolicyEditing.Session.Call
import PolicyEditing.Shape.Params
import PolicyEditing.Wire.Item

/-!
# Parameters of calls

Each reader takes the parameters of one kind of call apart, and gives nothing if they are missing
or badly formed.  Where a call has parts that the server does not use, their shape is checked all
the same.
-/

namespace PolicyEditing

variable [UriReading]

def Uri.ofJson? (value : Json) : Option Uri := do
  Uri.ofString? (← value.asString?)

namespace Params

/-- The address in the form in which a call names a document. -/
def documentUri? (document : Json) : Option Uri :=
  (document.named ["uri"]).required? Uri.ofJson? "uri"

def place? (params : Json) : Option (Uri × Position) := do
  let uri ← params.required? documentUri? "textDocument"
  let position ← params.required? Position.ofJson? "position"
  some (uri, position)

/-! ## The beginning of a session -/

/-- The value of a field of a record. -/
def recordField? (fields : List (String × Shape)) (name : String) (value : Json) : Option Json :=
  (value.named (fields.map (·.1))).field? name

def isTrue (value : Option Json) : Bool :=
  (value.bind Json.asBool?).getD false

/-- Whether an editor answers questions about settings, and whether it has workspace folders.  What
it does not mention it cannot do. -/
def abilities? (params : Json) : Option (Bool × Bool) := do
  guard ((Shape.record Shape.connectFields).admits params)
  let capabilities := recordField? Shape.connectFields "capabilities" params
  let workspace := capabilities.bind (recordField? Shape.abilityFields "workspace")
  let ability name := isTrue (workspace.bind (recordField? Shape.workspaceFields name))
  some (ability "configuration", ability "workspaceFolders")

/-! ## Requests -/

def hover? (params : Json) : Option Request := do
  guard (Shape.hoverParams.admits params)
  let (uri, position) ← place? params
  some (.hover uri position)

/-- A request for completions, which are the same everywhere. -/
def complete? (params : Json) : Option Request := do
  guard (Shape.completionParams.admits params)
  some .complete

def resolve? (params : Json) : Option Request := do
  some (.resolve (← Completion.Item.ofJson? params))

def format? (params : Json) : Option Request := do
  guard (Shape.layoutParams.admits params)
  let uri ← params.required? documentUri? "textDocument"
  let options ← params.field? "options"
  let tabSize ← options.required? Json.asUnsigned32? "tabSize"
  some (.format uri tabSize)

/-- A request that the server does not offer. -/
def unsupported? (shape : Shape) (params : Json) : Option Request := do
  guard (shape.admits params)
  some .unsupported

/-! ## Notifications -/

def initialized? (params : Json) : Option Notification := do
  guard ((Shape.record []).admits params)
  some .initialized

/-- A new configuration, which can be any value. -/
def configurationChanged? (params : Json) : Option Notification := do
  some (.configurationChanged (← (params.named ["settings"]).field? "settings"))

def folder? (value : Json) : Option Uri := do
  let value := value.named ["uri", "name"]
  let _ ← value.required? Json.asString? "name"
  value.required? Uri.ofJson? "uri"

def foldersChanged? (params : Json) : Option Notification := do
  let event ← (params.named ["event"]).field? "event"
  let event := event.named ["added", "removed"]
  let added ← event.required? (Json.asListOf? folder?) "added"
  let removed ← event.required? (Json.asListOf? folder?) "removed"
  some (.foldersChanged added.length removed.length)

def opened? (params : Json) : Option Notification := do
  let document ← (params.named ["textDocument"]).field? "textDocument"
  let document := document.named ["uri", "languageId", "version", "text"]
  let uri ← document.required? Uri.ofJson? "uri"
  let _ ← document.required? Json.asString? "languageId"
  let version ← document.required? Json.asSigned32? "version"
  let text ← document.required? Text.ofJson? "text"
  some (.opened uri { text, version })

def change? (value : Json) : Option Change := do
  let value := value.named ["range", "rangeLength", "text"]
  let range ← value.optional? Range.ofJson? "range"
  let _ ← value.optional? Json.asUnsigned32? "rangeLength"
  let text ← value.required? Text.ofJson? "text"
  some { range, text }

def edited? (params : Json) : Option Notification := do
  let params := params.named ["textDocument", "contentChanges"]
  let document ← params.field? "textDocument"
  let document := document.named ["uri", "version"]
  let uri ← document.required? Uri.ofJson? "uri"
  let version ← document.required? Json.asSigned32? "version"
  let changes ← params.required? (Json.asListOf? change?) "contentChanges"
  some (.edited uri version changes)

def closed? (params : Json) : Option Notification := do
  some (.closed (← (params.named ["textDocument"]).required? documentUri? "textDocument"))

/-- Something that the server has no use for. -/
def ignored? (_ : Json) : Option Notification :=
  some .ignored

end Params

end PolicyEditing
