import PolicyEditing.Proofs.Session.Kept

/-!
# What a server does with settings

In a session with an editor that answers questions about settings, everything that a server does
with the settings of a document is said in `KeepsSettings`: which settings are kept, when they are
looked up and what that takes (`LooksUp`), that nothing else asks for them, and that settings that
are pushed have no effect.  It holds after every step (`settings_kept`): the settings that are kept
follow from the invariant `Kept`, and the rest from that one step alone.
-/

namespace PolicyEditing

namespace Server

variable [UriReading]

/-- The settings of a document are looked up once in a step, given those that are kept: only if
there are none the editor is asked, before anything else is sent about the document, and what it
replies is kept if it can be used. -/
def LooksUp (uri : Uri) (server : Server) (next : Step) (kept : Option Settings)
    (sent : List Message) : Prop :=
  messagesAbout uri (server.step next).events = questionsFor uri kept ++ sent ∧
    (server.step next).server.settings.cached? uri =
      kept.or (next.replies (.settings uri)).settings?

/-- How a server deals with the settings of a document after some replies. -/
structure KeepsSettings (uri : Uri) (server : Server) (replies : List Reply) : Prop where
  /-- Settings are kept only for an open document. -/
  open_of_kept : server.settings.cached? uri ≠ none → server.documents.get? uri ≠ none
  /-- They are those of the first reply that can be used. -/
  kept_eq : server.settings.cached? uri = replies.findSome? Reply.settings?
  /-- They are looked up when the document is scanned. -/
  scanned : ∀ (next : Step) (notification : Notification) (document : Document),
    server.phase.hears? next.call = some notification → notification.rescans uri = true →
    (server.step next).server.documents.get? uri = some document →
      let kept := if notification.drops uri then none else server.settings.cached? uri
      let settings := Settings.forUse kept (next.replies (.settings uri))
      server.LooksUp uri next kept
        [.diagnostics uri (Diagnostic.scan document.text settings.maxProblems)
          (some document.version)]
  /-- They are looked up when the document is laid out. -/
  laidOut : ∀ (next : Step) (tabSize : Nat) (document : Document),
    server.phase.serves? next.call = some (.format uri tabSize) →
    server.documents.get? uri = some document →
      let kept := server.settings.cached? uri
      let settings := Settings.forUse kept (next.replies (.settings uri))
      server.LooksUp uri next kept [] ∧
        (server.step next).value = .responded (.ok (.layout
          (if settings.formattingEnabled then
            [layoutEdit document.text (effectiveWidth settings tabSize)]
          else [])))
  /-- In every other step they are not asked for, and kept unless they are dropped. -/
  unused : ∀ next : Step,
    (∀ notification, server.phase.hears? next.call = some notification →
      notification.rescans uri = true → (server.step next).server.documents.get? uri = none) →
    (∀ tabSize, server.phase.serves? next.call = some (.format uri tabSize) →
      server.documents.get? uri = none) →
      .ask (.settings uri) ∉ messages (server.step next).events ∧
        (server.step next).server.settings.cached? uri =
          if (server.phase.hears? next.call).any (·.drops uri) then none
          else server.settings.cached? uri
  /-- It makes no difference to a step, and so to all that follow, which settings are pushed. -/
  pushed : ∀ (next other : Step) (first second : Json), next.replies = other.replies →
    server.phase.hears? next.call = some (.configurationChanged first) →
    server.phase.hears? other.call = some (.configurationChanged second) →
      server.step next = server.step other
  /-- The settings for all documents stay the defaults. -/
  shared_eq : server.settings.shared = .default

end Server

/-! ## One step, seen from the document -/

namespace View

variable (uri : Uri) {view : View}

/-- A scan that follows on something that is told looks up the settings that are not dropped. -/
theorem note_of_asks (hasks : view.asksForSettings = true) {notification : Notification}
    (hrescans : notification.rescans uri = true) {reply : Reply} {document : Document}
    (hopen : (view.note uri reply notification).view.document = some document) :
    let kept := if notification.drops uri then none else view.cached
    (view.note uri reply notification).view.cached = kept.or reply.settings? ∧
      (view.note uri reply notification).messages = questionsFor uri kept ++
        [.diagnostics uri (Diagnostic.scan document.text (Settings.forUse kept reply).maxProblems)
          (some document.version)] := by
  have hasks' : (view.told uri notification).asksForSettings = true := by
    rw [asksForSettings_told, hasks]
  have hcached := cached_told uri hasks notification
  rw [note, if_pos hrescans] at hopen ⊢
  obtain ⟨cached, hvalidate⟩ := exists_validate_eq uri reply (view.told uri notification)
  rw [hvalidate] at hopen
  rw [validate_of_asks uri hasks' hopen, hcached]
  exact ⟨rfl, rfl⟩

/-- Without a scan nothing is asked. -/
theorem note_of_unused (hasks : view.asksForSettings = true) {notification : Notification}
    {reply : Reply}
    (hclosed : notification.rescans uri = true →
      (view.note uri reply notification).view.document = none) :
    .ask (.settings uri) ∉ (view.note uri reply notification).messages ∧
      (view.note uri reply notification).view.cached =
        if notification.drops uri then none else view.cached := by
  rw [← cached_told uri hasks]
  by_cases hrescans : notification.rescans uri = true
  · have hnone := hclosed hrescans
    rw [note, if_pos hrescans] at hnone ⊢
    obtain ⟨cached, hvalidate⟩ := exists_validate_eq uri reply (view.told uri notification)
    rw [hvalidate] at hnone
    rw [validate, show (view.told uri notification).document = none from hnone]
    exact ⟨List.not_mem_nil, rfl⟩
  · rw [note, if_neg hrescans]
    exact ⟨by cases notification <;> simp [Notification.farewell], rfl⟩

end View

/-! ## What a step does with the settings -/

namespace Server

section

variable [UriReading] {uri : Uri} {server : Server} {replies : List Reply}

theorem looksUp_of_hears (hasks : server.asksForSettings = true) {next : Step}
    {notification : Notification} {document : Document}
    (hhears : server.phase.hears? next.call = some notification)
    (hrescans : notification.rescans uri = true)
    (hopen : (server.step next).server.documents.get? uri = some document) :
    let kept := if notification.drops uri then none else server.settings.cached? uri
    let settings := Settings.forUse kept (next.replies (.settings uri))
    server.LooksUp uri next kept
      [.diagnostics uri (Diagnostic.scan document.text settings.maxProblems)
        (some document.version)] := by
  have hsight := sight_step_of_hears uri hhears
  have hview : (server.step next).server.view uri = _ := congrArg Sight.view hsight
  have hmessages : messagesAbout uri (server.step next).events = _ :=
    congrArg Sight.messages hsight
  have hdocument : ((server.step next).server.view uri).document = some document := hopen
  rw [hview] at hdocument
  obtain ⟨hcached, hsent⟩ := View.note_of_asks uri hasks hrescans hdocument
  exact ⟨hmessages.trans hsent, (congrArg View.cached hview).trans hcached⟩

theorem looksUp_of_format (hasks : server.asksForSettings = true) {next : Step} {tabSize : Nat}
    {document : Document} (hserves : server.phase.serves? next.call = some (.format uri tabSize))
    (hopen : server.documents.get? uri = some document) :
    let kept := server.settings.cached? uri
    let settings := Settings.forUse kept (next.replies (.settings uri))
    server.LooksUp uri next kept [] ∧
      (server.step next).value = .responded (.ok (.layout
        (if settings.formattingEnabled then
          [layoutEdit document.text (effectiveWidth settings tabSize)]
        else []))) := by
  have hsight := sight_step_of_format uri hserves
  have hdocument : (server.view uri).document = some document := hopen
  rw [View.format_of_asks uri hasks hdocument] at hsight
  exact ⟨⟨(congrArg Sight.messages hsight).trans (List.append_nil _).symm,
    congrArg (View.cached ∘ Sight.view) hsight⟩, congrArg Sight.value hsight⟩

theorem unused_step (hbegun : server.phase ≠ .uninitialized)
    (hasks : server.asksForSettings = true) {next : Step}
    (hscan : ∀ notification, server.phase.hears? next.call = some notification →
      notification.rescans uri = true → (server.step next).server.documents.get? uri = none)
    (hlayout : ∀ tabSize, server.phase.serves? next.call = some (.format uri tabSize) →
      server.documents.get? uri = none) :
    .ask (.settings uri) ∉ messages (server.step next).events ∧
      (server.step next).server.settings.cached? uri =
        if (server.phase.hears? next.call).any (·.drops uri) then none
        else server.settings.cached? uri := by
  rw [← ask_mem_messagesAbout_iff]
  change _ ∧ ((server.step next).server.view uri).cached = _
  cases step_cases uri hbegun with
  | told notification hhears hview hmessages =>
      rw [hhears, hview, hmessages]
      refine View.note_of_unused uri hasks fun hrescans => ?_
      rw [← hview]
      exact hscan notification hhears hrescans
  | laidOut tabSize hhears hserves _ hview hmessages =>
      have hclosed : (server.view uri).document = none := hlayout tabSize hserves
      rw [hhears, hview, hmessages, View.format, hclosed]
      exact ⟨List.not_mem_nil, rfl⟩
  | unseen hhears _ hview hmessages =>
      rw [hhears, hview, hmessages]
      exact ⟨List.not_mem_nil, rfl⟩

/-- What is pushed is not looked at. -/
theorem step_configurationChanged_congr (hasks : server.asksForSettings = true)
    {next other : Step} {first second : Json} (hreplies : next.replies = other.replies)
    (hfirst : server.phase.hears? next.call = some (.configurationChanged first))
    (hsecond : server.phase.hears? other.call = some (.configurationChanged second)) :
    server.step next = server.step other := by
  obtain ⟨hready, hnext⟩ := Phase.hears?_eq_some hfirst
  obtain ⟨-, hother⟩ := Phase.hears?_eq_some hsecond
  have hnote : server.note (.configurationChanged first) =
      server.note (.configurationChanged second) := by
    simp only [note, configurationChanged, reconfigure, if_pos hasks]
  rw [step_of_notification hready hnext, step_of_notification hready hother, hreplies, hnote]

theorem keepsSettings_of_kept (hbegun : server.phase ≠ .uninitialized)
    (hkept : Kept (server.view uri) replies) : server.KeepsSettings uri replies where
  open_of_kept := hkept.open_of_kept
  kept_eq := hkept.kept_eq
  scanned _ _ _ := looksUp_of_hears hkept.asks
  laidOut _ _ _ := looksUp_of_format hkept.asks
  unused _ := unused_step hbegun hkept.asks
  pushed _ _ _ _ := step_configurationChanged_congr hkept.asks
  shared_eq := hkept.shared_eq

/-- **Settings are kept.**  In a session with an editor that answers questions about settings, after
every step and for every document: only an open document has settings that are kept, namely those of
the first reply that can be used since they were last dropped; while they are kept every scan and
every layout of the document uses them and asks nothing; otherwise each of these asks once, and a
reply that cannot be used stands for the defaults and is not kept; and what is pushed makes no
difference. -/
theorem settings_kept {begin : Step} {hasFolders : Bool}
    (hbegin : begin.call.connects? = some (true, hasFolders)) (steps : List Step) (uri : Uri) :
    (fresh.afterRun (begin :: steps)).KeepsSettings uri
      (fresh.repliesSince uri [] (begin :: steps)) := by
  obtain ⟨reaction, events, hsilent, hstep⟩ := step_begin hbegin
  have hbegun : (fresh.step begin).server.phase ≠ .uninitialized := by simp [hstep]
  have hstart : Kept ((fresh.step begin).server.view uri) [] := by
    rw [hstep]
    exact ⟨rfl, rfl, fun hcached => absurd rfl hcached, rfl⟩
  have hreplies : fresh.repliesSince uri [] (begin :: steps) =
      (fresh.step begin).server.repliesSince uri [] steps := by
    rw [repliesSince, hstep, hsilent]
    rfl
  rw [hreplies]
  exact keepsSettings_of_kept (begun_run hbegun steps) (kept_run hbegun hstart steps)

end

/-- A document that was opened without settings takes those of the second reply. -/
theorem settings_kept_after_retry :
    let uri : Uri := ⟨"file:///a"⟩
    let begin : Step :=
      ⟨⟨.request, "initialize", some <| .object [("capabilities", .object
        [("workspace", .object [("configuration", .bool true)])])]⟩, fun _ => .result .null⟩
    let opened : Step :=
      ⟨⟨.notification, "textDocument/didOpen", some <| .object
        [("textDocument", .object [("uri", .string "file:///a"), ("languageId", .string "guard"),
          ("version", .nat 1), ("text", .string "")])]⟩, fun _ => .result .null⟩
    let edited : Step :=
      ⟨⟨.notification, "textDocument/didChange", some <| .object
        [("textDocument", .object [("uri", .string "file:///a"), ("version", .nat 2)]),
          ("contentChanges", .array [])]⟩,
        fun _ => .result (.array [.object [("maxNumberOfProblems", .nat 1)]])⟩
    begin.call.connects? = some (true, false) ∧
      (fresh.afterRun [begin, opened]).settings.cached? uri = none ∧
      (fresh.afterRun [begin, opened, edited]).settings.cached? uri =
        some { Settings.default with maxProblems := 1 } := by
  intro uri begin opened edited
  have hbegin : begin.call.connects? = some (true, false) := rfl
  have hunusable :
      (fresh.repliesSince uri [] [begin, opened]).findSome? Reply.settings? = none := by
    decide +kernel +revert
  have husable : (fresh.repliesSince uri [] [begin, opened, edited]).findSome? Reply.settings? =
      some { Settings.default with maxProblems := 1 } := by
    decide +kernel +revert
  have hfirst := (settings_kept hbegin [opened] uri).kept_eq
  have hsecond := (settings_kept hbegin [opened, edited] uri).kept_eq
  exact ⟨hbegin, hfirst.trans hunusable, hsecond.trans husable⟩

end Server

end PolicyEditing
