import PolicyEditing.Session.Call
import PolicyEditing.Wire.Item

/-!
# Answers as JSON
-/

namespace PolicyEditing

/-- The name and the version by which the server introduces itself. -/
def serverInfo : Json :=
  .object [("name", .string "guard-lsp"), ("version", .string "0.1.0")]

/-- The characters after which the editor asks for completions. -/
def triggerCharacters : List String := ["%", ".", "["]

/-- What the server offers: completions with later details, layout, explanations, and documents
that are kept in step by their changes; and to follow workspace folders, if there are any. -/
def capabilitiesJson (hasFolders : Bool) : Json :=
  let folders : Json :=
    .object
      [("workspaceFolders",
        .object [("changeNotifications", .bool true), ("supported", .bool true)])]
  .ofOptionalFields
    [("completionProvider", some (.object
        [("resolveProvider", .bool true),
          ("triggerCharacters", .array (triggerCharacters.map .string))])),
      ("documentFormattingProvider", some (.bool true)),
      ("hoverProvider", some (.bool true)),
      ("textDocumentSync", some (.object [("change", .nat 2), ("openClose", .bool true)])),
      ("workspace", if hasFolders then some folders else none)]

def Hover.toJson (hover : Hover) : Json :=
  .object
    [("contents", .object [("kind", .string "markdown"), ("value", .string hover.content)]),
      ("range", hover.range.toJson)]

def Answer.toJson : Answer → Json
  | .capabilities hasFolders =>
    .object [("capabilities", capabilitiesJson hasFolders), ("serverInfo", serverInfo)]
  | .nothing => .null
  | .explanation none => .null
  | .explanation (some hover) => hover.toJson
  | .completions items => .array (items.map Completion.Item.toJson)
  | .resolved item => item.toJson
  | .layout edits => .array (edits.map TextEdit.toJson)

/-- What is told about a refusal beside its code and its text. -/
def Refusal.data? : Refusal → Option Json
  | .unknownMethod name => some (.string name)
  | _ => none

def Refusal.toJson (refusal : Refusal) : Json :=
  .ofOptionalFields
    [("code", some (.int refusal.code)), ("data", refusal.data?),
      ("message", some (.string refusal.message))]

end PolicyEditing
