import PolicyEditing.Proofs.Document.Whole
import PolicyEditing.Proofs.Session.Calls
import PolicyEditing.Proofs.Session.Frame

/-!
# The edit that lays a document out

The answer to a request for layout is one edit, which is meant to replace the whole document.  The
editor applies it and tells the server of the same edit.  What the server stores then is the layout,
except where a carriage return inside the text breaks a line of its own: there the edit ends too
early, and the rest of the text stays behind the layout.
-/

namespace PolicyEditing.Server

/-- Applied to the text that it was made for, the edit gives its new text exactly if no carriage
return inside the text breaks a line. -/
theorem changeText_layoutEdit_iff (text : Text) (width : Nat) :
    Document.changeText text
        ⟨some (layoutEdit text width).range, (layoutEdit text width).newText⟩ =
      (layoutEdit text width).newText ↔ Document.NoInnerReturn text := by
  rw [layoutEdit, Text.positionAt_byteCount]
  exact Document.changeText_whole_eq_iff text _

section

variable [UriReading] {server : Server} {uri : Uri} {document : Document}

/-- A request for layout is answered with one edit, and the documents stay as they are. -/
theorem step_format {tabSize : Nat} {asked : Step} (hready : server.phase = .ready)
    (hopen : server.documents.get? uri = some document)
    (hasked : asked.call.request? = some (.format uri tabSize))
    (henabled : ((server.settingsFor uri).run asked.replies).value.formattingEnabled = true) :
    (server.step asked).value = .responded (.ok (.layout [layoutEdit document.text
        (effectiveWidth ((server.settingsFor uri).run asked.replies).value tabSize)])) ∧
      ∃ settings, (server.step asked).server = { server with settings } := by
  obtain ⟨settings, hserver⟩ := run_format asked.replies uri tabSize server
  have hvalue := value_format asked.replies hopen henabled tabSize
  rw [step_of_request hready hasked]
  simp only [serve, Activity.map, Activity.run_andThen, Activity.run_done]
  refine ⟨?_, settings, hserver⟩
  rw [hvalue]

/-- An edit is stored. -/
theorem step_edited {version : Int} {changes : List Change} {told : Step}
    (hready : server.phase = .ready) (hopen : server.documents.get? uri = some document)
    (htold : told.call.notification? = some (.edited uri version changes)) :
    (server.step told).server.documents.get? uri = some (document.edit version changes) := by
  rw [step_of_notification hready htold]
  have hdocuments := documents_edited told.replies hopen version changes
  simp only [note, hdocuments, UriMap.get?_insert_self]

/-- Asked for the layout of an open document, a server between the first and the last message
answers with one edit; told of that edit, it stores the new text exactly if no carriage return
inside the old one breaks a line.  Lines and columns are counted without a bound here.  On the way
to the editor and back they are numbers of 32 bits, which are enough for a text of fewer than `2^32`
bytes, because every line feed and every unit takes at least a byte. -/
theorem layout_replaces_iff {tabSize : Nat} {asked : Step} (hready : server.phase = .ready)
    (hopen : server.documents.get? uri = some document)
    (hasked : asked.call.request? = some (.format uri tabSize))
    (henabled : ((server.settingsFor uri).run asked.replies).value.formattingEnabled = true) :
    ∃ edit, (server.step asked).value = .responded (.ok (.layout [edit])) ∧
      edit.newText = Layout.format document.text
        (if tabSize = 0 then ((server.settingsFor uri).run asked.replies).value.indentWidth
          else min tabSize 16) ∧
      ∀ (told : Step) (version : Int),
        told.call.notification? =
            some (.edited uri version [⟨some edit.range, edit.newText⟩]) →
          ∃ after, ((server.step asked).server.step told).server.documents.get? uri = some after ∧
            after.version = version ∧
            (after.text = edit.newText ↔ Document.NoInnerReturn document.text) := by
  obtain ⟨hvalue, settings, hserver⟩ := step_format hready hopen hasked henabled
  -- the server that is told of the edit still has the document that was laid out
  refine ⟨_, hvalue, rfl, ?_⟩
  intro told version htold
  refine ⟨document.edit version _, step_edited ?_ ?_ htold, rfl, ?_⟩
  · rw [hserver]
    exact hready
  · rw [hserver]
    exact hopen
  · exact changeText_layoutEdit_iff document.text _

end

/-- Behind a lone carriage return the old text stays. -/
theorem layout_keeps_after_lone :
    let uri : Uri := ⟨"file:///a"⟩
    let server : Server :=
      { Server.fresh with
        phase := .ready
        documents := UriMap.empty.insert uri ⟨['a', '\r', 'b'], 1⟩ }
    let replies : Question → Reply := fun _ => .result .null
    let asked : Step :=
      ⟨⟨.request, "textDocument/formatting", some <| .object
        [("textDocument", .object [("uri", .string "file:///a")]),
          ("options", .object [("tabSize", .nat 4), ("insertSpaces", .bool true)])]⟩, replies⟩
    let origin : Json := .object [("line", .nat 0), ("character", .nat 0)]
    let stop : Json := .object [("line", .nat 0), ("character", .nat 3)]
    let told : Step :=
      ⟨⟨.notification, "textDocument/didChange", some <| .object
        [("textDocument", .object [("uri", .string "file:///a"), ("version", .nat 2)]),
          ("contentChanges", .array [.object
            [("range", .object [("start", origin), ("end", stop)]),
              ("text", .string "a\rb")]])]⟩, replies⟩
    (server.step asked).value =
        .responded (.ok (.layout [⟨⟨⟨0, 0⟩, ⟨0, 3⟩⟩, ['a', '\r', 'b']⟩])) ∧
      ∃ after, ((server.step asked).server.step told).server.documents.get? uri = some after ∧
        after.version = 2 ∧ after.text ≠ ['a', '\r', 'b'] := by
  intro uri server replies asked origin stop told
  have hanswer : (server.step asked).value =
      .responded (.ok (.layout [⟨⟨⟨0, 0⟩, ⟨0, 3⟩⟩, ['a', '\r', 'b']⟩])) := rfl
  obtain ⟨edit, hvalue, _, hstored⟩ :=
    @layout_replaces_iff _ server uri _ 4 asked rfl rfl rfl rfl
  rw [hanswer] at hvalue
  obtain rfl : _ = edit := by simpa using hvalue
  obtain ⟨after, hafter, hversion, htext⟩ := hstored told 2 rfl
  exact ⟨hanswer, after, hafter, hversion, mt htext.mp (by decide)⟩

end PolicyEditing.Server
