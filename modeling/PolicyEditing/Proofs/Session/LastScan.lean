import PolicyEditing.Proofs.Session.Beginning
import PolicyEditing.Proofs.Session.Kept

/-!
# Diagnostics are those of the last scan

An editor that answers questions about settings is shown, for an open document, the scan of its
current text with the settings that the last scan used (`shown_by_last_scan`).  These are the
settings that are kept for the document, or the defaults if there are none, with one exception: a
request for layout looks settings up too, but scans nothing.  Settings that it found are kept, and
the diagnostics stay those of the defaults until the next scan (`shown_despite_kept`).

`foundForLayout` follows the exception through a run.  The invariant `Scanned` says of one document
what is shown, given whether the exception holds; one step keeps it, by the cases of `StepCase`.
-/

namespace PolicyEditing

/-- Whether a request asks for the layout of a document. -/
def Request.laysOut (uri : Uri) : Request → Bool
  | .format other _ => other = uri
  | .hover .. | .complete | .resolve _ | .unsupported => false

namespace Server

variable [UriReading]

/-- Whether a step looks settings of a document up for its layout, and finds some that were not
known before. -/
def findsForLayout (uri : Uri) (server : Server) (next : Step) : Bool :=
  (server.phase.serves? next.call).any (·.laysOut uri) &&
    (server.settings.cached? uri).isNone && ((server.step next).server.settings.cached? uri).isSome

/-- Whether the settings that are kept for a document were found for its layout, after its last
scan; given whether they were so before some steps. -/
def foundForLayout (uri : Uri) (server : Server) (earlier : Bool) : List Step → Bool
  | [] => earlier
  | next :: rest =>
    let rescanned := (server.phase.hears? next.call).any (·.rescans uri)
    foundForLayout uri (server.step next).server
      (!rescanned && (earlier || server.findsForLayout uri next)) rest

end Server

/-- The settings that the last scan of a document used, given those that are kept, and whether they
were found after it. -/
def Settings.ofLastScan (kept : Option Settings) (found : Bool) : Settings :=
  if found then .default else kept.getD .default

/-- What is shown for a document is its scan, by a server that asks for settings. -/
structure Scanned (uri : Uri) (view : View) (found : Bool) (news : List Notification)
    (sent : List Message) : Prop where
  asks : view.asksForSettings = true
  document_eq : view.document = currentDocument uri news
  shown_eq : ∀ document, view.document = some document →
    shown? uri sent =
      some (Diagnostic.scan document.text (Settings.ofLastScan view.cached found).maxProblems,
        some document.version)

/-! ## One step -/

/-- A question shows nothing. -/
theorem shown?_append_questionsFor (uri : Uri) (sent : List Message) (kept : Option Settings) :
    shown? uri (sent ++ questionsFor uri kept) = shown? uri sent := by
  unfold questionsFor
  split
  · rw [shown?_append, shown?_singleton]
    rfl
  · rw [List.append_nil]

/-- What is told without a scan closes the document, or is not seen from it. -/
theorem View.told_of_not_rescans {uri : Uri} {notification : Notification}
    (hrescans : notification.rescans uri = false) (view : View) :
    (view.told uri notification).document = none ∨
      view.told uri notification = view ∧ notification.farewell uri = [] := by
  cases notification with
  | opened other _ | edited other _ _ =>
      have hne : other ≠ uri := by simpa [Notification.rescans] using hrescans
      exact .inr ⟨if_neg hne, rfl⟩
  | closed other =>
      by_cases h : other = uri
      · exact .inl (by simp [told, h])
      · exact .inr ⟨if_neg h, if_neg h⟩
  | configurationChanged _ => simp [Notification.rescans] at hrescans
  | initialized | foldersChanged _ _ | ignored => exact .inr ⟨rfl, rfl⟩

/-- Settings that layout finds where none were known make no difference to the last scan. -/
theorem Settings.ofLastScan_or (kept reply : Option Settings) (found : Bool) :
    ofLastScan (kept.or reply) (found || kept.isNone && (kept.or reply).isSome) =
      ofLastScan kept found := by
  cases kept <;> cases reply <;> cases found <;> rfl

namespace Scanned

variable {uri : Uri} {view : View} {found : Bool} {news : List Notification} {sent : List Message}

theorem note (hscanned : Scanned uri view found news sent) (reply : Reply)
    (notification : Notification) :
    Scanned uri (view.note uri reply notification).view (!notification.rescans uri && found)
      (news ++ [notification]) (sent ++ (view.note uri reply notification).messages) := by
  have hasks : (view.told uri notification).asksForSettings = true := by
    rw [View.asksForSettings_told, hscanned.asks]
  have hdocument : (view.told uri notification).document =
      currentDocument uri (news ++ [notification]) := by
    rw [View.document_told, currentDocument_append_singleton, hscanned.document_eq]
  unfold View.note
  cases hrescans : notification.rescans uri with
  | true =>
      rw [if_pos rfl, Bool.not_true, Bool.false_and]
      cases hopen : (view.told uri notification).document with
      | none =>
          rw [View.validate, hopen]
          refine ⟨hasks, hdocument, fun document hdocument' => ?_⟩
          exact absurd (hopen.symm.trans hdocument') (Option.some_ne_none document).symm
      | some document =>
          rw [View.validate_of_asks uri hasks hopen]
          refine ⟨hasks, hdocument, fun other hother => ?_⟩
          obtain rfl : document = other := Option.some.inj (hopen.symm.trans hother)
          rw [← List.append_assoc]
          simp [shown?, Message.diagnostics?, Settings.ofLastScan, Settings.forUse]
  | false =>
      rw [if_neg Bool.false_ne_true, Bool.not_false, Bool.true_and]
      refine ⟨hasks, hdocument, fun document hopen => ?_⟩
      rcases View.told_of_not_rescans hrescans view with hclosed | ⟨hunseen, hfarewell⟩
      · exact absurd (hclosed.symm.trans hopen) (Option.some_ne_none document).symm
      · dsimp only at hopen ⊢
        rw [hunseen] at hopen ⊢
        rw [hfarewell, List.append_nil]
        exact hscanned.shown_eq document hopen

theorem format (hscanned : Scanned uri view found news sent) (tabSize : Nat) (reply : Reply) :
    let laidOut := view.format uri tabSize reply
    Scanned uri laidOut.view (found || view.cached.isNone && laidOut.view.cached.isSome) news
      (sent ++ laidOut.messages) := by
  cases hopen : view.document with
  | none =>
      rw [View.format, hopen]
      refine ⟨hscanned.asks, hscanned.document_eq, fun document hdocument => ?_⟩
      exact absurd (hopen.symm.trans hdocument) (Option.some_ne_none document).symm
  | some document =>
      rw [View.format_of_asks uri hscanned.asks hopen]
      refine ⟨hscanned.asks, hscanned.document_eq, fun other hother => ?_⟩
      dsimp only at hother ⊢
      rw [shown?_append_questionsFor, Settings.ofLastScan_or]
      exact hscanned.shown_eq other hother

end Scanned

namespace Server

section

variable [UriReading] {uri : Uri} {server : Server} {found : Bool} {news : List Notification}
  {sent : List Message}

theorem findsForLayout_of_serves {next : Step} {tabSize : Nat}
    (hserves : server.phase.serves? next.call = some (.format uri tabSize)) :
    server.findsForLayout uri next =
      ((server.settings.cached? uri).isNone &&
        ((server.step next).server.settings.cached? uri).isSome) := by
  simp [findsForLayout, hserves, Request.laysOut]

theorem findsForLayout_of_not_serves {next : Step}
    (hserves : ∀ tabSize, server.phase.serves? next.call ≠ some (.format uri tabSize)) :
    server.findsForLayout uri next = false := by
  have hnone : (server.phase.serves? next.call).any (·.laysOut uri) = false := by
    cases hrequest : server.phase.serves? next.call with
    | none => rfl
    | some request =>
        cases request with
        | format other tabSize =>
            have hne : other ≠ uri := by
              rintro rfl
              exact hserves tabSize hrequest
            simpa [Request.laysOut] using hne
        | hover _ _ | complete | resolve _ | unsupported => rfl
  rw [findsForLayout, hnone, Bool.false_and, Bool.false_and]

/-- What is told is no request. -/
theorem serves?_of_hears {phase : Phase} {call : Call} {notification : Notification}
    (hhears : phase.hears? call = some notification) : phase.serves? call = none := by
  cases hserves : phase.serves? call with
  | none => rfl
  | some request =>
      have hsilent : phase.hears? call = none :=
        Phase.hears?_of_request (Phase.serves?_eq_some hserves).2
      rw [hhears] at hsilent
      simp at hsilent

theorem scanned_step (hbegun : server.phase ≠ .uninitialized)
    (hscanned : Scanned uri (server.view uri) found news sent) (next : Step) :
    Scanned uri ((server.step next).server.view uri)
      (!(server.phase.hears? next.call).any (·.rescans uri) &&
        (found || server.findsForLayout uri next))
      (news ++ (server.phase.hears? next.call).toList)
      (sent ++ messagesAbout uri (server.step next).events) := by
  cases step_cases uri hbegun with
  | told notification hhears hview hmessages =>
      have hserves := serves?_of_hears hhears
      have hfinds : server.findsForLayout uri next = false := by
        refine findsForLayout_of_not_serves fun tabSize => ?_
        rw [hserves]
        exact (Option.some_ne_none _).symm
      rw [hhears, hview, hmessages, hfinds, Bool.or_false]
      exact hscanned.note _ notification
  | laidOut tabSize hhears hserves _ hview hmessages =>
      have hfinds := findsForLayout_of_serves hserves
      rw [show (server.step next).server.settings.cached? uri =
        ((server.step next).server.view uri).cached from rfl, hview] at hfinds
      rw [hhears, hview, hmessages, hfinds, Option.toList_none, List.append_nil]
      exact hscanned.format tabSize _
  | unseen hhears hserves hview hmessages =>
      rw [hhears, hview, hmessages, findsForLayout_of_not_serves hserves, Bool.or_false,
        Option.toList_none, List.append_nil, List.append_nil]
      exact { hscanned with }

/-! ## Runs -/

theorem scanned_run (hbegun : server.phase ≠ .uninitialized)
    (hscanned : Scanned uri (server.view uri) found news sent) (steps : List Step) :
    Scanned uri ((server.afterRun steps).view uri) (server.foundForLayout uri found steps)
      (news ++ heard server.phase steps)
      (sent ++ messagesAbout uri ((server.run steps).flatMap Outcome.events)) := by
  induction steps generalizing server found news sent with
  | nil => simpa [heard, foundForLayout] using hscanned
  | cons next rest ih =>
      have hrest := ih (begun_step hbegun next) (scanned_step hbegun hscanned next)
      rw [phase_step hbegun] at hrest
      simpa [heard, foundForLayout] using hrest

/-- Before the session begins no settings are found. -/
theorem foundForLayout_fresh_cons (uri : Uri) (next : Step) (rest : List Step) :
    fresh.foundForLayout uri false (next :: rest) =
      (fresh.step next).server.foundForLayout uri false rest := by
  have hfinds : fresh.findsForLayout uri next = false := rfl
  rw [foundForLayout, hfinds, Bool.or_false, Bool.and_false]

/-- Every document is shown as it was scanned last, from the call that begins the session on. -/
theorem scanned_session (uri : Uri) {steps : List Step} {hasFolders : Bool}
    (habilities : abilities? .uninitialized steps = some (true, hasFolders)) :
    Scanned uri ((fresh.afterRun steps).view uri) (fresh.foundForLayout uri false steps)
      (heard .uninitialized steps)
      (messagesAbout uri ((fresh.run steps).flatMap Outcome.events)) := by
  induction steps with
  | nil => simp [abilities?] at habilities
  | cons next rest ih =>
      obtain ⟨hsilent, hheard, hcase⟩ := step_fresh_of_abilities? habilities
      rw [run_cons, List.flatMap_cons, messagesAbout_append, messagesAbout_of_silent uri hsilent,
        List.nil_append, hheard, afterRun_cons, foundForLayout_fresh_cons]
      obtain hbegun | ⟨hwaiting, hrest⟩ := hcase
      · rw [hbegun]
        have hstart : Scanned uri
            (view uri { fresh with phase := .ready, asksForSettings := true, hasFolders }) false
            [] [] :=
          ⟨rfl, rfl, fun document hopen => absurd hopen (Option.some_ne_none document).symm⟩
        exact scanned_run Phase.noConfusion hstart rest
      · rw [hwaiting]
        exact ih hrest

/-- **Diagnostics are those of the last scan.**  In a session with an editor that answers questions
about settings, after every step and for every open document: the server holds the document as it
was opened and edited, and the diagnostics that were sent last for it have its current version and
are the scan of its current text, under the settings that are kept for it, or under the defaults if
none are kept, or if those that are kept were found for a layout after the last scan. -/
theorem shown_by_last_scan {steps : List Step} {hasFolders : Bool}
    (habilities : abilities? .uninitialized steps = some (true, hasFolders))
    {uri : Uri} {document : Document}
    (hopen : currentDocument uri (heard .uninitialized steps) = some document) :
    let server := fresh.afterRun steps
    let settings :=
      if fresh.foundForLayout uri false steps then .default
      else (server.settings.cached? uri).getD .default
    server.documents.get? uri = some document ∧
      shown? uri (messages ((fresh.run steps).flatMap Outcome.events)) =
        some (Diagnostic.scan document.text settings.maxProblems, some document.version) := by
  have hscanned := scanned_session uri habilities
  have hdocument := hscanned.document_eq.trans hopen
  have hshown := hscanned.shown_eq document hdocument
  rw [shown?_messagesAbout] at hshown
  exact ⟨hdocument, hshown⟩

end

/-- A document is opened without settings, laid out with some, and edited.  The limit in these
settings applies after the edit. -/
theorem shown_by_last_scan_after_edit :
    let uri : Uri := ⟨"file:///a"⟩
    let unusable : Question → Reply := fun _ => .result .null
    let limited : Question → Reply :=
      fun _ => .result (.array [.object [("maxNumberOfProblems", .nat 1)]])
    let begin : Step :=
      ⟨⟨.request, "initialize", some <| .object [("capabilities", .object
        [("workspace", .object [("configuration", .bool true)])])]⟩, unusable⟩
    let opened : Step :=
      ⟨⟨.notification, "textDocument/didOpen", some <| .object
        [("textDocument", .object [("uri", .string "file:///a"), ("languageId", .string "guard"),
          ("version", .nat 1), ("text", .string "\"\n\"")])]⟩, unusable⟩
    let laidOut : Step :=
      ⟨⟨.request, "textDocument/formatting", some <| .object
        [("textDocument", .object [("uri", .string "file:///a")]),
          ("options", .object [("tabSize", .nat 4), ("insertSpaces", .bool true)])]⟩, limited⟩
    let edited : Step :=
      ⟨⟨.notification, "textDocument/didChange", some <| .object
        [("textDocument", .object [("uri", .string "file:///a"), ("version", .nat 2)]),
          ("contentChanges", .array [])]⟩, limited⟩
    let steps := [begin, opened, laidOut, edited]
    abilities? .uninitialized steps = some (true, false) ∧
      currentDocument uri (heard .uninitialized steps) = some ⟨['"', '\n', '"'], 2⟩ ∧
      shown? uri (messages ((fresh.run steps).flatMap Outcome.events)) =
        some ([⟨⟨⟨0, 0⟩, ⟨0, 1⟩⟩, .unterminatedString⟩], some 2) := by
  intro uri unusable limited begin opened laidOut edited steps
  have habilities : abilities? .uninitialized steps = some (true, false) := rfl
  have hopen : currentDocument uri (heard .uninitialized steps) = some ⟨['"', '\n', '"'], 2⟩ :=
    rfl
  have hsettings :
      (if fresh.foundForLayout uri false steps then .default
        else ((fresh.afterRun steps).settings.cached? uri).getD .default) =
        { Settings.default with maxProblems := 1 } := by
    decide +kernel +revert
  have hscan : Diagnostic.scan ['"', '\n', '"'] 1 =
      [⟨⟨⟨0, 0⟩, ⟨0, 1⟩⟩, .unterminatedString⟩] := by decide +kernel
  have hshown := (shown_by_last_scan habilities hopen).2
  rw [hsettings] at hshown
  refine ⟨habilities, hopen, ?_⟩
  rw [← hscan]
  exact hshown

/-- Settings are kept that layout found, with a limit of one problem, and both problems of the
document are still shown. -/
theorem shown_despite_kept :
    let uri : Uri := ⟨"file:///a"⟩
    let unusable : Question → Reply := fun _ => .result .null
    let limited : Question → Reply :=
      fun _ => .result (.array [.object [("maxNumberOfProblems", .nat 1)]])
    let begin : Step :=
      ⟨⟨.request, "initialize", some <| .object [("capabilities", .object
        [("workspace", .object [("configuration", .bool true)])])]⟩, unusable⟩
    let opened : Step :=
      ⟨⟨.notification, "textDocument/didOpen", some <| .object
        [("textDocument", .object [("uri", .string "file:///a"), ("languageId", .string "guard"),
          ("version", .nat 1), ("text", .string "\"\n\"")])]⟩, unusable⟩
    let laidOut : Step :=
      ⟨⟨.request, "textDocument/formatting", some <| .object
        [("textDocument", .object [("uri", .string "file:///a")]),
          ("options", .object [("tabSize", .nat 4), ("insertSpaces", .bool true)])]⟩, limited⟩
    let steps := [begin, opened, laidOut]
    let document : Document := ⟨['"', '\n', '"'], 1⟩
    let server := fresh.afterRun steps
    abilities? .uninitialized steps = some (true, false) ∧
      server.documents.get? uri = some document ∧
      server.settings.cached? uri = some { Settings.default with maxProblems := 1 } ∧
      shown? uri (messages ((fresh.run steps).flatMap Outcome.events)) ≠
        some (Diagnostic.scan document.text
          ((server.settings.cached? uri).getD .default).maxProblems, some document.version) := by
  decide +kernel

end Server

end PolicyEditing
