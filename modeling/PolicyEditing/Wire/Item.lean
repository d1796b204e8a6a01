import PolicyEditing.Completion.Item
import PolicyEditing.Wire.Position

/-!
# Completion items as JSON

Optional fields may be missing or `null`, and are left out where there is no value.  Unknown fields
are ignored.  Fields are written in the order of their names.  An item and its parts can also be
read from the arrays of their fields' values.
-/

namespace PolicyEditing.Completion

/-! ## Parts of an item -/

def LabelDetails.toJson (details : LabelDetails) : Json :=
  .ofOptionalFields
    [("description", details.description.map .string), ("detail", details.detail.map .string)]

def LabelDetails.ofJson? (value : Json) : Option LabelDetails := do
  let value := value.named ["detail", "description"]
  let _ ← value.asObject?
  let detail ← value.optional? Json.asString? "detail"
  let description ← value.optional? Json.asString? "description"
  some { detail, description }

def MarkupKind.name : MarkupKind → String
  | .plainText => "plaintext"
  | .markdown => "markdown"

def MarkupKind.ofJson? (value : Json) : Option MarkupKind := do
  let name ← value.asName?
  if name = MarkupKind.plainText.name then some .plainText
  else if name = MarkupKind.markdown.name then some .markdown
  else none

def Documentation.toJson : Documentation → Json
  | .plain text => .string text
  | .markup kind value => .object [("kind", .string kind.name), ("value", .string value)]

/-- The text with its kind that a JSON value gives. -/
def Documentation.markupOfJson? (value : Json) : Option Documentation := do
  let value := value.named ["kind", "value"]
  let kind ← value.required? MarkupKind.ofJson? "kind"
  let text ← value.required? Json.asString? "value"
  some (.markup kind text)

/-- The explanation of a JSON value: a string, or a text with its kind. -/
def Documentation.ofJson? (value : Json) : Option Documentation :=
  match value with
  | .string text => some (.plain text)
  | _ => markupOfJson? value

def MainEdit.toJson : MainEdit → Json
  | .oneRange edit => edit.toJson
  | .eitherRange newText insert replace =>
    .object
      [("insert", insert.toJson), ("newText", Text.toJson newText), ("replace", replace.toJson)]

/-- The choice between two ranges that a JSON value gives. -/
def MainEdit.choiceOfJson? (value : Json) : Option MainEdit := do
  let value := value.named ["newText", "insert", "replace"]
  let newText ← value.required? Text.ofJson? "newText"
  let insert ← value.required? Range.ofJson? "insert"
  let replace ← value.required? Range.ofJson? "replace"
  some (.eitherRange newText insert replace)

/-- What an item changes.  A value that fits both forms is an edit. -/
def MainEdit.ofJson? (value : Json) : Option MainEdit :=
  match TextEdit.ofJson? value with
  | some edit => some (.oneRange edit)
  | none => choiceOfJson? value

def Command.toJson (command : Command) : Json :=
  .ofOptionalFields
    [("arguments", command.arguments.map .array), ("command", some (.string command.command)),
      ("title", some (.string command.title))]

def Command.ofJson? (value : Json) : Option Command := do
  let value := value.named ["title", "command", "arguments"]
  let title ← value.required? Json.asString? "title"
  let command ← value.required? Json.asString? "command"
  let arguments ← value.optional? Json.asArray? "arguments"
  some { title, command, arguments }

/-! ## Items -/

namespace Item

/-- The fields of an item, in the order of their names. -/
def fields (item : Item) : List (String × Option Json) :=
  [("additionalTextEdits", item.additionalTextEdits.map fun edits =>
      .array (edits.map TextEdit.toJson)),
    ("command", item.command.map Command.toJson),
    ("commitCharacters", item.commitCharacters.map fun characters =>
      .array (characters.map .string)),
    ("data", item.data),
    ("deprecated", item.deprecated.map .bool),
    ("detail", item.detail.map .string),
    ("documentation", item.documentation.map Documentation.toJson),
    ("filterText", item.filterText.map .string),
    ("insertText", item.insertText.map .string),
    ("insertTextFormat", item.insertTextFormat.map .int),
    ("insertTextMode", item.insertTextMode.map .int),
    ("kind", item.kind.map .int),
    ("label", some (.string item.label)),
    ("labelDetails", item.labelDetails.map LabelDetails.toJson),
    ("preselect", item.preselect.map .bool),
    ("sortText", item.sortText.map .string),
    ("tags", item.tags.map fun tags => .array (tags.map .int)),
    ("textEdit", item.textEdit.map MainEdit.toJson)]

def toJson (item : Item) : Json :=
  .ofOptionalFields item.fields

/-- The names of an item's fields, in the order in which an array gives their values. -/
def fieldNames : List String :=
  ["label", "labelDetails", "kind", "detail", "documentation", "deprecated", "preselect",
    "sortText", "filterText", "insertText", "insertTextFormat", "insertTextMode", "textEdit",
    "additionalTextEdits", "command", "commitCharacters", "data", "tags"]

def ofJson? (value : Json) : Option Item := do
  let value := value.named fieldNames
  let label ← value.required? Json.asString? "label"
  let labelDetails ← value.optional? LabelDetails.ofJson? "labelDetails"
  let kind ← value.optional? Json.asSigned32? "kind"
  let detail ← value.optional? Json.asString? "detail"
  let documentation ← value.optional? Documentation.ofJson? "documentation"
  let deprecated ← value.optional? Json.asBool? "deprecated"
  let preselect ← value.optional? Json.asBool? "preselect"
  let sortText ← value.optional? Json.asString? "sortText"
  let filterText ← value.optional? Json.asString? "filterText"
  let insertText ← value.optional? Json.asString? "insertText"
  let insertTextFormat ← value.optional? Json.asSigned32? "insertTextFormat"
  let insertTextMode ← value.optional? Json.asSigned32? "insertTextMode"
  let textEdit ← value.optional? MainEdit.ofJson? "textEdit"
  let additionalTextEdits ←
    value.optional? (Json.asListOf? TextEdit.ofJson?) "additionalTextEdits"
  let command ← value.optional? Command.ofJson? "command"
  let commitCharacters ← value.optional? (Json.asListOf? Json.asString?) "commitCharacters"
  let data ← value.optional? some "data"
  let tags ← value.optional? (Json.asListOf? Json.asSigned32?) "tags"
  some
    { label, labelDetails, kind, detail, documentation, deprecated, preselect, sortText,
      filterText, insertText, insertTextFormat, insertTextMode, textEdit, additionalTextEdits,
      command, commitCharacters, data, tags }

end Item

end PolicyEditing.Completion
