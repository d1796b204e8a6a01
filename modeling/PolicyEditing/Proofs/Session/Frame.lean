import PolicyEditing.Proofs.Session.View

/-!
# What handling leaves alone

Asking for settings and scanning touch nothing of a server but what it knows about settings.  So
a request for layout leaves the documents as they are, and an edit changes its own document and no
other.
-/

namespace PolicyEditing.Server

variable {uri : Uri} {document : Document} (replies : Question → Reply)

/-! ## Settings -/

theorem run_receiveSettings (uri : Uri) (reply : Reply) (server : Server) :
    ∃ settings, ((receiveSettings uri reply server).run replies).server =
      { server with settings } := by
  unfold receiveSettings
  cases Settings.ofReply uri reply with
  | ok settings => exact ⟨_, rfl⟩
  | error error => exact ⟨_, rfl⟩

/-- Asking for the settings of a document changes nothing but the settings. -/
theorem run_settingsFor (uri : Uri) (server : Server) :
    ∃ settings, ((server.settingsFor uri).run replies).server = { server with settings } := by
  unfold settingsFor
  split
  · cases server.settings.cached? uri with
    | some settings => exact ⟨_, rfl⟩
    | none => exact run_receiveSettings replies uri (replies (.settings uri)) server
  · exact ⟨_, rfl⟩

/-- Scanning a document changes nothing but the settings. -/
theorem run_validate (uri : Uri) (server : Server) :
    ∃ settings, ((server.validate uri).run replies).server = { server with settings } := by
  unfold validate
  cases server.documents.get? uri with
  | none => exact ⟨_, rfl⟩
  | some document =>
      obtain ⟨settings, hsettings⟩ := run_settingsFor replies uri server
      refine ⟨settings, ?_⟩
      simp only [Activity.run_andThen, publish, Activity.run_done]
      exact hsettings

/-! ## Documents -/

/-- An edit of an open document stores the edited document. -/
theorem documents_edited {server : Server} (hopen : server.documents.get? uri = some document)
    (version : Int) (changes : List Change) :
    ((server.edited uri version changes).run replies).server.documents =
      server.documents.insert uri (document.edit version changes) := by
  obtain ⟨settings, hsettings⟩ :=
    run_validate replies uri (server.store uri (document.edit version changes))
  unfold edited
  rw [amend?_of_open hopen, Activity.run_after, hsettings]
  rfl

/-- A request for layout changes nothing but the settings. -/
theorem run_format (uri : Uri) (tabSize : Nat) (server : Server) :
    ∃ settings, ((server.format uri tabSize).run replies).server = { server with settings } := by
  unfold format
  cases server.documents.get? uri with
  | none => exact ⟨_, rfl⟩
  | some document =>
      obtain ⟨settings, hsettings⟩ := run_settingsFor replies uri server
      obtain ⟨events, -, hdeliver⟩ := deliver_eq uri document tabSize
        ((server.settingsFor uri).run replies).value ((server.settingsFor uri).run replies).server
      refine ⟨settings, ?_⟩
      simp only [Activity.run_andThen, Activity.run_after, hdeliver, Activity.run_done]
      exact hsettings

/-- Layout of an open document, if its settings allow that, is one edit. -/
theorem value_format {server : Server} (hopen : server.documents.get? uri = some document)
    (henabled : ((server.settingsFor uri).run replies).value.formattingEnabled = true)
    (tabSize : Nat) :
    ((server.format uri tabSize).run replies).value =
      [layoutEdit document.text
        (effectiveWidth ((server.settingsFor uri).run replies).value tabSize)] := by
  obtain ⟨events, -, hdeliver⟩ := deliver_eq uri document tabSize
    ((server.settingsFor uri).run replies).value ((server.settingsFor uri).run replies).server
  unfold format
  rw [hopen]
  simp only [Activity.run_andThen, Activity.run_after, hdeliver, henabled, if_true,
    Activity.run_done]

end PolicyEditing.Server
