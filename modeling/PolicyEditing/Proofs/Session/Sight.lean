import PolicyEditing.Proofs.Session.View

/-!
# Handling a message, seen from one document

What a server does is seen from a document as the functions on views say: for everything that is
told (`sight_note`), and for requests to lay the document out (`sight_format`).  The handling of
other documents is not seen at all (`sight_validate_of_ne`, `view_format_of_ne`), which is why a
scan of all documents is seen as the scan of the one (`sight_validateAll`).
-/

namespace PolicyEditing

/-! ## Composed activities -/

namespace Activity

variable {α β : Type} (replies : Question → Reply) (uri : Uri)

theorem sight_after (earlier : List Event) (activity : Activity α) :
    ((activity.after earlier).run replies).sight uri =
      let rest := (activity.run replies).sight uri
      { rest with messages := messagesAbout uri earlier ++ rest.messages } := by
  rw [run_after]
  simp only [Outcome.sight, messagesAbout_append]

theorem sight_asking (question : Question) (server : Server) (events : List Event)
    (resume : Reply → Server → Activity α) :
    ((asking question server events resume).run replies).sight uri =
      let rest := ((resume (replies question) server).run replies).sight uri
      { rest with
        messages := messagesAbout uri (events ++ [.sent (.ask question)]) ++ rest.messages } := by
  rw [run, List.append_cons]
  simp only [Outcome.sight, messagesAbout_append]

theorem sight_andThen (next : α → Server → Activity β) (activity : Activity α) :
    ((activity.andThen next).run replies).sight uri =
      let first := activity.run replies
      let second := ((next first.value first.server).run replies).sight uri
      { second with messages := messagesAbout uri first.events ++ second.messages } := by
  rw [run_andThen]
  simp only [Outcome.sight, messagesAbout_append]

end Activity

namespace Server

variable (replies : Question → Reply) (uri : Uri) (server : Server)

/-! ## Settings -/

theorem sight_receiveSettings (reply : Reply) (hcached : server.settings.cached? uri = none) :
    ((receiveSettings uri reply server).run replies).sight uri =
      ⟨reply.settings?.getD .default, { server.view uri with cached := reply.settings? }, []⟩ := by
  rw [Reply.settings?_eq uri]
  unfold receiveSettings
  cases Settings.ofReply uri reply with
  | ok settings =>
      simp [Outcome.sight, Except.toOption]
  | error error => simp [Outcome.sight, view, hcached, Except.toOption]

/-- Looking the settings of a document up, as it is seen from the document. -/
theorem sight_settingsFor :
    ((server.settingsFor uri).run replies).sight uri =
      ⟨(server.view uri).settings (replies (.settings uri)),
        (server.view uri).afterUse (replies (.settings uri)), (server.view uri).questions uri⟩ := by
  unfold settingsFor View.settings View.afterUse View.questions
  by_cases hasks : server.asksForSettings = true
  · cases hcached : server.settings.cached? uri with
    | some settings => simp [hasks, hcached, Outcome.sight, view]
    | none =>
        have hreceived := sight_receiveSettings replies uri server (replies (.settings uri)) hcached
        rw [if_pos hasks]
        dsimp only
        rw [Activity.sight_asking, hreceived]
        simp [hasks, hcached, view, messagesAbout_sent, Message.uri?]
  · simp [hasks, Outcome.sight, view]

/-- Looking the settings of another document up is not seen from the document. -/
theorem view_settingsFor_of_ne {other : Uri} (hne : other ≠ uri) :
    ((server.settingsFor other).run replies).server.view uri = server.view uri ∧
      messagesAbout uri ((server.settingsFor other).run replies).events = [] := by
  unfold settingsFor
  by_cases hasks : server.asksForSettings = true
  · cases hcached : server.settings.cached? other with
    | some settings => simp [hasks]
    | none =>
        rw [if_pos hasks]
        simp only [Activity.run, receiveSettings]
        cases Settings.ofReply other (replies (.settings other)) with
        | ok settings =>
            simp [view_remember_of_ne server hne, messagesAbout_sent, Message.uri?, hne]
        | error error => simp [messagesAbout_sent, Message.uri?, hne]
  · simp [hasks]

/-! ## Scans -/

theorem sight_validate :
    ((server.validate uri).run replies).sight uri =
      (server.view uri).validate uri (replies (.settings uri)) := by
  have hlookup := sight_settingsFor replies uri server
  unfold validate View.validate
  have hdocument : (server.view uri).document = server.documents.get? uri := rfl
  rw [hdocument]
  cases server.documents.get? uri with
  | none => rfl
  | some document =>
      have hvalue := congrArg Sight.value hlookup
      have hview := congrArg Sight.view hlookup
      have hmessages := congrArg Sight.messages hlookup
      dsimp only [Outcome.sight] at hvalue hview hmessages
      dsimp only
      rw [Activity.sight_andThen]
      dsimp only
      rw [hmessages, hvalue]
      simp [publish, Outcome.sight, hview, messagesAbout_sent, Message.uri?]

theorem sight_validate_of_ne {other : Uri} (hne : other ≠ uri) :
    ((server.validate other).run replies).sight uri = (server.view uri).still := by
  obtain ⟨hview, hmessages⟩ := view_settingsFor_of_ne replies uri server hne
  unfold validate
  cases server.documents.get? other with
  | none => rfl
  | some document =>
      dsimp only
      rw [Activity.sight_andThen]
      dsimp only
      rw [hmessages]
      simp [publish, Outcome.sight, hview, messagesAbout_sent, Message.uri?, hne, View.still]

/-- Some scans are seen from a document as its own scan, if that is among them. -/
theorem sight_validateEach {uris : List Uri} (hnodup : uris.Nodup) :
    ((validateEach uris server).run replies).sight uri =
      if uri ∈ uris then (server.view uri).validate uri (replies (.settings uri))
      else (server.view uri).still := by
  induction uris generalizing server with
  | nil => rfl
  | cons other rest ih =>
      obtain ⟨hother, hrest⟩ := List.nodup_cons.mp hnodup
      rw [validateEach, Activity.sight_andThen]
      dsimp only
      rw [ih _ hrest]
      by_cases h : other = uri
      · subst h
        have hfirst := sight_validate replies other server
        rw [if_neg hother, if_pos List.mem_cons_self, ← hfirst]
        simp [Outcome.sight, View.still]
      · have hfirst := sight_validate_of_ne replies uri server h
        have hview := congrArg Sight.view hfirst
        have hmessages := congrArg Sight.messages hfirst
        dsimp only [Outcome.sight, View.still] at hview hmessages
        rw [hview, hmessages]
        simp [Ne.symm h]

theorem sight_validateAll :
    (server.validateAll.run replies).sight uri =
      (server.view uri).validate uri (replies (.settings uri)) := by
  have hnodup : server.documents.uris.Nodup := server.documents.distinct
  rw [validateAll, sight_validateEach replies uri server hnodup]
  split
  · rfl
  · rename_i hclosed
    have hnone : (server.view uri).document = none :=
      Classical.not_not.mp (mt UriMap.mem_uris_iff.mpr hclosed)
    rw [View.validate, hnone]

/-! ## What is told -/

theorem sight_initialized :
    (server.initialized.run replies).sight uri = (server.view uri).still := by
  unfold initialized
  split
  · obtain ⟨events, hmessages, hannounce⟩ := announceAfter_eq (replies .watchConfiguration) server
    have hnone : messagesAbout uri events = [] := by
      rw [messagesAbout, hmessages]
      rfl
    rw [Activity.sight_asking]
    dsimp only
    rw [hannounce]
    simp [Outcome.sight, View.still, hnone, messagesAbout_sent, Message.uri?]
  · rfl

theorem sight_configurationChanged (configuration : Json) :
    ((server.configurationChanged configuration).run replies).sight uri =
      ((server.view uri).told uri (.configurationChanged configuration)).validate uri
        (replies (.settings uri)) := by
  obtain ⟨events, hsilent, hreconfigure⟩ := reconfigure_eq configuration server
  rw [← view_told, told, configurationChanged, hreconfigure]
  dsimp only
  rw [Activity.sight_after, sight_validateAll, messagesAbout_of_silent uri hsilent]
  rfl

/-- The scan of a document that something was told about, seen from this document or another one. -/
theorem sight_validate_told (notification : Notification) {other : Uri}
    (hother : notification.uri? = some other) (hrescans : notification.rescans other = true) :
    (((server.told notification).validate other).run replies).sight uri =
      (server.view uri).note uri (replies (.settings uri)) notification := by
  by_cases h : other = uri
  · subst h
    rw [sight_validate, view_told, View.note, if_pos hrescans]
  · rw [sight_validate_of_ne replies uri _ h, view_told, View.told_of_ne h hother,
      View.note_of_ne h hother]

/-- What is told does to the view of a document what it says, for this document or another one. -/
theorem sight_note (notification : Notification) :
    ((server.note notification).run replies).sight uri =
      (server.view uri).note uri (replies (.settings uri)) notification := by
  cases notification with
  | initialized => exact sight_initialized replies uri server
  | configurationChanged configuration =>
      exact sight_configurationChanged replies uri server configuration
  | foldersChanged added removed => rfl
  | opened other document =>
      have hscan :=
        sight_validate_told replies uri server (.opened other document) rfl (decide_eq_true rfl)
      rw [note, opened, Activity.sight_after]
      exact hscan
  | edited other version changes =>
      have hscan := sight_validate_told replies uri server (.edited other version changes) rfl
        (decide_eq_true rfl)
      rw [told] at hscan
      rw [note, edited]
      cases hamended : server.amend? other version changes with
      | none =>
          -- a document that is not open is not scanned either
          rw [hamended, Option.getD_none, validate, amend?_eq_none_iff.mp hamended] at hscan
          exact hscan
      | some amended =>
          rw [hamended, Option.getD_some] at hscan
          dsimp only
          rw [Activity.sight_after]
          exact hscan
  | closed other =>
      have hview : (server.forget other).view uri = (server.view uri).told uri (.closed other) :=
        view_told uri (.closed other) server
      by_cases h : other = uri
      · subst h
        simp [note, closed, Outcome.sight, hview, View.note, Notification.rescans,
          Notification.farewell, messagesAbout_sent, Message.uri?]
      · rw [View.note_of_ne h rfl]
        simp [note, closed, Outcome.sight, hview, View.told, View.still, messagesAbout_sent,
          Message.uri?, h]
  | ignored => rfl

/-! ## Layout -/

theorem sight_format (tabSize : Nat) :
    ((server.format uri tabSize).run replies).sight uri =
      (server.view uri).format uri tabSize (replies (.settings uri)) := by
  have hlookup := sight_settingsFor replies uri server
  have hvalue := congrArg Sight.value hlookup
  have hview := congrArg Sight.view hlookup
  have hmessages := congrArg Sight.messages hlookup
  dsimp only [Outcome.sight] at hvalue hview hmessages
  have hdocument : (server.view uri).document = server.documents.get? uri := rfl
  unfold format View.format
  rw [hdocument]
  cases server.documents.get? uri with
  | none => rfl
  | some document =>
      dsimp only
      rw [Activity.sight_andThen, Activity.run_after]
      dsimp only
      rw [hvalue]
      obtain ⟨events, hsilent, hdeliver⟩ := deliver_eq uri document tabSize
        ((server.view uri).settings (replies (.settings uri)))
        ((server.settingsFor uri).run replies).server
      simp [hdeliver, Outcome.sight, hview, hmessages, messagesAbout_of_silent uri hsilent]

/-- The layout of another document is not seen from the document. -/
theorem view_format_of_ne {other : Uri} (hne : other ≠ uri) (tabSize : Nat) :
    ((server.format other tabSize).run replies).server.view uri = server.view uri ∧
      messagesAbout uri ((server.format other tabSize).run replies).events = [] := by
  obtain ⟨hview, hmessages⟩ := view_settingsFor_of_ne replies uri server hne
  unfold format
  cases server.documents.get? other with
  | none => exact ⟨rfl, rfl⟩
  | some document =>
      dsimp only
      rw [Activity.run_andThen, Activity.run_after]
      dsimp only
      obtain ⟨events, hsilent, hdeliver⟩ := deliver_eq other document tabSize
        ((server.settingsFor other).run replies).value
        ((server.settingsFor other).run replies).server
      simp [hdeliver, hview, hmessages, messagesAbout_of_silent uri hsilent]

/-- A request that is not about the layout of a document is not seen from it. -/
theorem view_serve_of_ne {request : Request}
    (hother : ∀ tabSize, request ≠ .format uri tabSize) :
    ((server.serve request).run replies).server.view uri = server.view uri ∧
      messagesAbout uri ((server.serve request).run replies).events = [] := by
  cases request with
  | format other tabSize =>
      have hne : other ≠ uri := by
        rintro rfl
        exact hother tabSize rfl
      have hformat := view_format_of_ne replies uri server hne tabSize
      rw [serve, Activity.map, Activity.run_andThen]
      simpa using hformat
  | hover _ _ | complete | resolve _ | unsupported => exact ⟨rfl, rfl⟩

end Server

end PolicyEditing
