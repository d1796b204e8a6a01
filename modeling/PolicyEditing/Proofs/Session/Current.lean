import PolicyEditing.Proofs.Session.History

/-!
# Diagnostics are current

If the editor does not answer questions about settings, the settings are those that were pushed
last, and every document is scanned whenever it changes or they do.  So what the editor shows for an
open document is always the scan of its current text, at its current version and with the current
settings; for a document that is not open it shows nothing (`published_current`).

The invariant `Current` says this of one document, together with what it needs: the server holds the
document and the settings that follow from what was told, and has not asked anything.  One step
keeps it, by the cases of `StepCase`; the run follows by induction.
-/

namespace PolicyEditing

/-- The diagnostics that are shown are those of a document as it is; there are none if it is not
open. -/
def UpToDate (settings : Settings) (document : Option Document)
    (shown : Option (List Diagnostic × Option Int)) : Prop :=
  match document with
  | some document =>
    shown = some (Diagnostic.scan document.text settings.maxProblems, some document.version)
  | none => shown = none ∨ shown = some ([], none)

/-- A server that does not ask for settings, seen from a document after something was told. -/
structure Informed (uri : Uri) (view : View) (news : List Notification) : Prop where
  quiet : view.asksForSettings = false
  shared : view.shared = sharedSettings news
  document : view.document = currentDocument uri news

/-- The same, after some messages were sent. -/
structure Current (uri : Uri) (view : View) (news : List Notification) (sent : List Message) : Prop
    extends Informed uri view news where
  upToDate : UpToDate view.shared view.document (shown? uri sent)
  unasked : .ask (.settings uri) ∉ sent

/-! ## Without questions -/

namespace View

variable (uri : Uri) {view : View}

theorem shared_told (hquiet : view.asksForSettings = false) (notification : Notification) :
    (view.told uri notification).shared =
      (notification.configuration?.map pushedSettings).getD view.shared := by
  cases notification <;> unfold told Notification.configuration? <;> dsimp only <;>
    (try split) <;> simp_all

/-- A scan sends what it finds with the settings that were pushed. -/
theorem validate_of_quiet (hquiet : view.asksForSettings = false) (reply : Reply) :
    view.validate uri reply =
      ⟨(), view, (view.document.map fun document =>
        .diagnostics uri (Diagnostic.scan document.text view.shared.maxProblems)
          (some document.version)).toList⟩ := by
  unfold validate
  cases view.document with
  | none => rfl
  | some document => simp [afterUse, questions, settings, hquiet]

theorem view_note_of_quiet (hquiet : view.asksForSettings = false) (reply : Reply)
    (notification : Notification) :
    (view.note uri reply notification).view = view.told uri notification := by
  unfold note
  split
  · rw [validate_of_quiet uri (by rw [asksForSettings_told, hquiet])]
  · rfl

theorem ask_notMem_note_of_quiet (hquiet : view.asksForSettings = false) (reply : Reply)
    (notification : Notification) :
    .ask (.settings uri) ∉ (view.note uri reply notification).messages := by
  unfold note
  split
  · rw [validate_of_quiet uri (by rw [asksForSettings_told, hquiet])]
    cases (view.told uri notification).document <;> simp
  · cases notification <;> simp [Notification.farewell]

theorem format_of_quiet (hquiet : view.asksForSettings = false) (tabSize : Nat) (reply : Reply) :
    (view.format uri tabSize reply).view = view ∧
      (view.format uri tabSize reply).messages = [] := by
  unfold format
  cases view.document with
  | none => exact ⟨rfl, rfl⟩
  | some document => simp [afterUse, questions, hquiet]

end View

/-! ## One step -/

section

variable {uri : Uri} {view : View} {news : List Notification} {sent : List Message}

theorem Informed.told (hinformed : Informed uri view news) (notification : Notification) :
    Informed uri (view.told uri notification) (news ++ [notification]) where
  quiet := by rw [View.asksForSettings_told, hinformed.quiet]
  shared := by
    rw [View.shared_told uri hinformed.quiet, sharedSettings_append_singleton, hinformed.shared]
  document := by rw [View.document_told, currentDocument_append_singleton, hinformed.document]

namespace UpToDate

/-- A scan brings everything up to date, if nothing is shown for a document that is not open. -/
theorem validate (hquiet : view.asksForSettings = false)
    (hclosed : view.document = none → UpToDate view.shared none (shown? uri sent))
    (reply : Reply) :
    UpToDate view.shared view.document
      (shown? uri (sent ++ (view.validate uri reply).messages)) := by
  rw [View.validate_of_quiet uri hquiet]
  cases hopen : view.document with
  | none =>
      rw [Option.map_none, Option.toList_none, List.append_nil]
      exact hclosed hopen
  | some document => simp [UpToDate, shown?, Message.diagnostics?]

theorem note (hquiet : view.asksForSettings = false)
    (hshown : UpToDate view.shared view.document (shown? uri sent)) (reply : Reply)
    (notification : Notification) :
    UpToDate (view.told uri notification).shared (view.told uri notification).document
      (shown? uri (sent ++ (view.note uri reply notification).messages)) := by
  unfold View.note
  by_cases hrescans : notification.rescans uri = true
  · rw [if_pos hrescans]
    refine UpToDate.validate (by rw [View.asksForSettings_told, hquiet]) ?_ reply
    intro hclosed
    -- what is scanned anew and not open now was not open before
    have hbefore : view.document = none := by
      rw [View.document_told] at hclosed
      cases notification <;> simp_all [Notification.documentAfter, Notification.rescans]
    rw [hbefore] at hshown
    exact hshown
  · rw [if_neg hrescans]
    cases notification with
    | configurationChanged configuration => exact absurd rfl hrescans
    | opened other _ | edited other _ _ =>
        have hne : other ≠ uri := by simpa [Notification.rescans] using hrescans
        simpa [View.told, Notification.farewell, hne] using hshown
    | closed other =>
        by_cases h : other = uri
        · simp [View.told, Notification.farewell, h, UpToDate, shown?, Message.diagnostics?]
        · simpa [View.told, Notification.farewell, h] using hshown
    | initialized | foldersChanged _ _ | ignored =>
        simpa [View.told, Notification.farewell] using hshown

end UpToDate

namespace Current

theorem note (hcurrent : Current uri view news sent) (reply : Reply)
    (notification : Notification) :
    Current uri (view.note uri reply notification).view (news ++ [notification])
      (sent ++ (view.note uri reply notification).messages) := by
  have hinformed := hcurrent.toInformed.told notification
  have hupToDate := hcurrent.upToDate.note hcurrent.quiet reply notification
  have hasked := View.ask_notMem_note_of_quiet uri hcurrent.quiet reply notification
  rw [View.view_note_of_quiet uri hcurrent.quiet]
  exact ⟨hinformed, hupToDate, by simp [hcurrent.unasked, hasked]⟩

theorem format (hcurrent : Current uri view news sent) (tabSize : Nat) (reply : Reply) :
    Current uri (view.format uri tabSize reply).view news
      (sent ++ (view.format uri tabSize reply).messages) := by
  obtain ⟨hview, hmessages⟩ := View.format_of_quiet uri hcurrent.quiet tabSize reply
  rw [hview, hmessages, List.append_nil]
  exact hcurrent

end Current

end

namespace Server

section

variable [UriReading] {uri : Uri} {server : Server} {news : List Notification}
  {sent : List Message}

theorem current_step (hbegun : server.phase ≠ .uninitialized)
    (hcurrent : Current uri (server.view uri) news sent) (next : Step) :
    Current uri ((server.step next).server.view uri)
      (news ++ (server.phase.hears? next.call).toList)
      (sent ++ messagesAbout uri (server.step next).events) := by
  cases step_cases uri hbegun with
  | told notification hhears hview hmessages =>
      rw [hhears, hview, hmessages]
      exact hcurrent.note _ notification
  | laidOut tabSize hhears _ _ hview hmessages =>
      rw [hhears, hview, hmessages, Option.toList_none, List.append_nil]
      exact hcurrent.format tabSize _
  | unseen hhears _ hview hmessages =>
      rw [hhears, hview, hmessages, Option.toList_none, List.append_nil, List.append_nil]
      exact { hcurrent with }

/-! ## Runs -/

theorem current_run (hbegun : server.phase ≠ .uninitialized)
    (hcurrent : Current uri (server.view uri) news sent) (steps : List Step) :
    Current uri ((server.afterRun steps).view uri) (news ++ heard server.phase steps)
      (sent ++ messagesAbout uri ((server.run steps).flatMap Outcome.events)) := by
  induction steps generalizing server news sent with
  | nil => simpa [heard] using hcurrent
  | cons next rest ih =>
      have hrest := ih (begun_step hbegun next) (current_step hbegun hcurrent next)
      rw [phase_step hbegun] at hrest
      simpa [heard] using hrest

/-- Every document is current from the call that begins the session on. -/
theorem current_session (uri : Uri) {begin : Step} {hasFolders : Bool}
    (hbegin : begin.call.connects? = some (false, hasFolders)) (steps : List Step) :
    Current uri ((fresh.afterRun (begin :: steps)).view uri) (heard .uninitialized (begin :: steps))
      (messagesAbout uri ((fresh.run (begin :: steps)).flatMap Outcome.events)) := by
  obtain ⟨reaction, events, hsilent, hstep⟩ := step_begin hbegin
  have hphase : (fresh.step begin).server.phase = .ready := by rw [hstep]
  have hnone : messagesAbout uri (fresh.step begin).events = [] := by
    rw [hstep, messagesAbout_of_silent uri hsilent]
  have hstart : Current uri ((fresh.step begin).server.view uri) [] [] := by
    rw [hstep]
    exact ⟨⟨rfl, rfl, rfl⟩, .inl rfl, List.not_mem_nil⟩
  have hrun := current_run (by simp [hphase]) hstart steps
  rw [hphase, ← heard_begin hbegin, List.nil_append, List.nil_append] at hrun
  rwa [run_cons, List.flatMap_cons, messagesAbout_append, hnone, List.nil_append]

/-- **Diagnostics are current.**  In a session with an editor that does not answer questions about
settings, after every step: the server holds each document as it was opened and edited; the
diagnostics that were sent last for an open document are those of its current text under the
settings that were pushed last, with its current version; the last ones for any other document, if
there are any, are empty and without a version; and the server has never asked for settings. -/
theorem published_current {begin : Step} {hasFolders : Bool}
    (hbegin : begin.call.connects? = some (false, hasFolders)) (steps : List Step) :
    let news := heard .uninitialized (begin :: steps)
    let sent := messages ((fresh.run (begin :: steps)).flatMap Outcome.events)
    (∀ uri,
      (fresh.afterRun (begin :: steps)).documents.get? uri = currentDocument uri news ∧
        UpToDate (sharedSettings news) (currentDocument uri news) (shown? uri sent)) ∧
      ∀ uri, .ask (.settings uri) ∉ sent := by
  intro news sent
  refine ⟨fun uri => ?_, fun uri => ?_⟩
  · obtain ⟨⟨-, hshared, hdocument⟩, hupToDate, -⟩ := current_session uri hbegin steps
    rw [hshared, hdocument, shown?_messagesAbout] at hupToDate
    exact ⟨hdocument, hupToDate⟩
  · have hunasked := (current_session uri hbegin steps).unasked
    rwa [ask_mem_messagesAbout_iff] at hunasked

end

/-- An edit brings a second problem, and then the editor pushes a limit of one.  What is shown is
about the text and the version after the edit. -/
theorem published_current_after_push :
    let uri : Uri := ⟨"file:///a"⟩
    let replies : Question → Reply := fun _ => .result .null
    let begin : Step :=
      ⟨⟨.request, "initialize", some <| .object [("capabilities", .object [])]⟩, replies⟩
    let opened : Step :=
      ⟨⟨.notification, "textDocument/didOpen", some <| .object
        [("textDocument", .object [("uri", .string "file:///a"), ("languageId", .string "guard"),
          ("version", .nat 1), ("text", .string "x\"")])]⟩, replies⟩
    let origin : Json := .object [("line", .nat 0), ("character", .nat 0)]
    let edited : Step :=
      ⟨⟨.notification, "textDocument/didChange", some <| .object
        [("textDocument", .object [("uri", .string "file:///a"), ("version", .nat 2)]),
          ("contentChanges", .array [.object
            [("range", .object [("start", origin), ("end", origin)]),
              ("text", .string "\"\n")]])]⟩, replies⟩
    let pushed : Step :=
      ⟨⟨.notification, "workspace/didChangeConfiguration", some <| .object
        [("settings", .object [("guard", .object [("maxNumberOfProblems", .nat 1)])])]⟩, replies⟩
    let steps := [begin, opened, edited, pushed]
    begin.call.connects? = some (false, false) ∧
      (fresh.afterRun steps).documents.get? uri = some ⟨['"', '\n', 'x', '"'], 2⟩ ∧
      shown? uri (messages ((fresh.run steps).flatMap Outcome.events)) =
        some ([⟨⟨⟨0, 0⟩, ⟨0, 1⟩⟩, .unterminatedString⟩], some 2) := by
  intro uri replies begin opened origin edited pushed steps
  have hbegin : begin.call.connects? = some (false, false) := rfl
  have hnews : heard .uninitialized steps =
      [.opened uri ⟨['x', '"'], 1⟩,
        .edited uri 2 [⟨some ⟨⟨0, 0⟩, ⟨0, 0⟩⟩, ['"', '\n']⟩],
        .configurationChanged (.object [("guard", .object [("maxNumberOfProblems", .nat 1)])])] :=
    rfl
  have hscan : Diagnostic.scan ['"', '\n', 'x', '"'] 1 =
      [⟨⟨⟨0, 0⟩, ⟨0, 1⟩⟩, .unterminatedString⟩] := by decide +kernel
  obtain ⟨hcurrent, -⟩ := published_current hbegin [opened, edited, pushed]
  obtain ⟨hdocument, hshown⟩ := hcurrent uri
  rw [hnews] at hdocument hshown
  refine ⟨hbegin, hdocument, ?_⟩
  rw [← hscan]
  exact hshown

end Server

end PolicyEditing
