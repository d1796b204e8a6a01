import PolicyEditing.Json.Basic
import PolicyEditing.Text.Position

/-!
# Positions and edits as JSON

The forms in which positions, ranges and edits are exchanged with the editor.  Lines and columns
are unsigned 32-bit numbers.  What the editor sends can be an object or the array of its fields'
values; what it is sent is always an object.
-/

namespace PolicyEditing

def Text.toJson (text : Text) : Json :=
  .string (String.ofList text)

def Text.ofJson? (value : Json) : Option Text :=
  value.asString?.map String.toList

def Position.toJson (position : Position) : Json :=
  .object [("character", .nat position.character), ("line", .nat position.line)]

def Position.ofJson? (value : Json) : Option Position := do
  let value := value.named ["line", "character"]
  let line ← value.required? Json.asUnsigned32? "line"
  let character ← value.required? Json.asUnsigned32? "character"
  some ⟨line, character⟩

def Range.toJson (range : Range) : Json :=
  .object [("end", range.stop.toJson), ("start", range.start.toJson)]

def Range.ofJson? (value : Json) : Option Range := do
  let value := value.named ["start", "end"]
  let start ← value.required? Position.ofJson? "start"
  let stop ← value.required? Position.ofJson? "end"
  some ⟨start, stop⟩

def TextEdit.toJson (edit : TextEdit) : Json :=
  .object [("newText", Text.toJson edit.newText), ("range", edit.range.toJson)]

def TextEdit.ofJson? (value : Json) : Option TextEdit := do
  let value := value.named ["range", "newText"]
  let range ← value.required? Range.ofJson? "range"
  let newText ← value.required? Text.ofJson? "newText"
  some ⟨range, newText⟩

end PolicyEditing
