import PolicyEditing.Session.Event
import PolicyEditing.Settings.Basic
import PolicyEditing.Wire.Diagnostic

/-!
# Messages to the editor as JSON
-/

namespace PolicyEditing

def Uri.toJson (uri : Uri) : Json := .string uri.text

def NoticeKind.number : NoticeKind → Nat
  | .info => 3
  | .log => 4

namespace Question

def method : Question → String
  | .settings _ => "workspace/configuration"
  | .watchConfiguration => "client/registerCapability"

def params : Question → Json
  | .settings uri =>
    .object
      [("items", .array
        [.object [("scopeUri", uri.toJson), ("section", .string Settings.sectionName)]])]
  | .watchConfiguration =>
    .object
      [("registrations", .array
        [.object
          [("id", .string "guard-did-change-configuration"),
            ("method", .string "workspace/didChangeConfiguration")]])]

end Question

namespace Message

def method : Message → String
  | .diagnostics .. => "textDocument/publishDiagnostics"
  | .notice .. => "window/logMessage"
  | .ask question => question.method

def params : Message → Json
  | .diagnostics uri found version =>
    .ofOptionalFields
      [("diagnostics", some (.array (found.map Diagnostic.toJson))), ("uri", some uri.toJson),
        ("version", version.map .int)]
  | .notice kind text => .object [("message", .string text), ("type", .nat kind.number)]
  | .ask question => question.params

end Message

end PolicyEditing
