import PolicyEditing.Proofs.Session.History

/-!
# Settings that are kept

An editor that answers questions about settings is asked when a document is scanned or laid out, and
not again before the settings are dropped: when the document is closed, or the configuration
changes.  A reply that cannot be used is replaced by the defaults for this one use, and not kept.

`repliesSince` collects the replies since the settings of a document were last dropped.  The
settings that are kept are those of the first reply among them that can be used: this is part of
`Kept`, which every step of a session preserves (`kept_step`).
-/

namespace PolicyEditing

/-- Whether the settings that are kept for a document are dropped when something is told. -/
def Notification.drops (uri : Uri) : Notification → Bool
  | .closed other => other = uri
  | .configurationChanged _ => true
  | .initialized | .foldersChanged .. | .opened .. | .edited .. | .ignored => false

/-- The settings for one use of a document: those that are kept, or else those in the reply, or else
the defaults. -/
def Settings.forUse (kept : Option Settings) (reply : Reply) : Settings :=
  (kept.or reply.settings?).getD .default

/-- The question that one use of a document takes. -/
def questionsFor (uri : Uri) (kept : Option Settings) : List Message :=
  if kept = none then [.ask (.settings uri)] else []

/-- The replies to the questions about a document among some messages. -/
def repliesTo (uri : Uri) (sent : List Message) (reply : Reply) : List Reply :=
  (sent.filter (· = .ask (.settings uri))).map fun _ => reply

/-- A document stays open unless its settings are dropped. -/
theorem Notification.documentAfter_ne_none {uri : Uri} {notification : Notification}
    (hkept : notification.drops uri = false) {document : Option Document}
    (hopen : document ≠ none) : notification.documentAfter uri document ≠ none := by
  cases notification with
  | opened other content =>
      rw [documentAfter]
      split
      · simp
      · exact hopen
  | edited other version changes =>
      rw [documentAfter]
      split
      · simpa using hopen
      · exact hopen
  | closed other =>
      have hne : other ≠ uri := by simpa [drops] using hkept
      rwa [documentAfter, if_neg hne]
  | initialized | configurationChanged _ | foldersChanged _ _ | ignored => exact hopen

namespace Server

/-- The replies to the questions about a document since its settings were dropped, given those
before some steps. -/
def repliesSince [UriReading] (uri : Uri) (server : Server) (earlier : List Reply) :
    List Step → List Reply
  | [] => earlier
  | next :: rest =>
    let outcome := server.step next
    let kept := if (server.phase.hears? next.call).any (·.drops uri) then [] else earlier
    repliesSince uri outcome.server
      (kept ++ repliesTo uri (messages outcome.events) (next.replies (.settings uri))) rest

end Server

/-! ## With questions -/

namespace View

variable (uri : Uri) {view : View}

theorem cached_told (hasks : view.asksForSettings = true) (notification : Notification) :
    (view.told uri notification).cached =
      if notification.drops uri then none else view.cached := by
  cases notification <;> unfold told Notification.drops <;> dsimp only <;> (try split) <;> simp_all

theorem shared_told_of_asks (hasks : view.asksForSettings = true) (notification : Notification) :
    (view.told uri notification).shared = view.shared := by
  cases notification <;> unfold told <;> dsimp only <;> (try split) <;> simp_all

theorem validate_of_asks (hasks : view.asksForSettings = true) {document : Document}
    (hopen : view.document = some document) (reply : Reply) :
    view.validate uri reply =
      ⟨(), { view with cached := view.cached.or reply.settings? }, questionsFor uri view.cached ++
        [.diagnostics uri
          (Diagnostic.scan document.text (Settings.forUse view.cached reply).maxProblems)
          (some document.version)]⟩ := by
  unfold validate
  rw [hopen]
  simp [afterUse, questions, settings, hasks, questionsFor, Settings.forUse, hopen]

theorem format_of_asks (hasks : view.asksForSettings = true) {document : Document}
    (hopen : view.document = some document) (tabSize : Nat) (reply : Reply) :
    view.format uri tabSize reply =
      let settings := Settings.forUse view.cached reply
      ⟨if settings.formattingEnabled then
          [Server.layoutEdit document.text (Server.effectiveWidth settings tabSize)]
        else [],
        { view with cached := view.cached.or reply.settings? }, questionsFor uri view.cached⟩ := by
  unfold format
  rw [hopen]
  simp [afterUse, questions, settings, hasks, questionsFor, Settings.forUse, hopen]

end View

/-! ## Replies -/

theorem repliesTo_append (uri : Uri) (first second : List Message) (reply : Reply) :
    repliesTo uri (first ++ second) reply =
      repliesTo uri first reply ++ repliesTo uri second reply := by
  simp [repliesTo]

theorem repliesTo_messagesAbout (uri : Uri) (events : List Event) (reply : Reply) :
    repliesTo uri (messagesAbout uri events) reply = repliesTo uri (messages events) reply := by
  unfold repliesTo messagesAbout
  rw [List.filter_filter]
  congr 1
  refine List.filter_congr fun message _ => ?_
  by_cases h : message = .ask (.settings uri) <;> simp [h, Message.uri?]

theorem repliesTo_diagnostics (uri other : Uri) (found : List Diagnostic) (version : Option Int)
    (reply : Reply) : repliesTo uri [.diagnostics other found version] reply = [] := by
  simp [repliesTo]

/-- What is kept after a look-up comes from the first reply that can be used, again. -/
theorem or_settings?_eq (uri : Uri) {kept : Option Settings} {replies : List Reply}
    (hkept : kept = replies.findSome? Reply.settings?) (reply : Reply) :
    kept.or reply.settings? =
      (replies ++ repliesTo uri (questionsFor uri kept) reply).findSome? Reply.settings? := by
  rw [List.findSome?_append, ← hkept]
  cases kept with
  | none => simp [questionsFor, repliesTo]
  | some settings => rfl

/-! ## One step -/

/-- A server that asks for settings, seen from a document after some replies. -/
structure Kept (view : View) (replies : List Reply) : Prop where
  asks : view.asksForSettings = true
  shared_eq : view.shared = .default
  open_of_kept : view.cached ≠ none → view.document ≠ none
  kept_eq : view.cached = replies.findSome? Reply.settings?

namespace Kept

variable {view : View} {replies : List Reply} (uri : Uri)

theorem told (hkept : Kept view replies) (notification : Notification) :
    Kept (view.told uri notification) (if notification.drops uri then [] else replies) where
  asks := by rw [View.asksForSettings_told, hkept.asks]
  shared_eq := by rw [View.shared_told_of_asks uri hkept.asks, hkept.shared_eq]
  open_of_kept hcached := by
    rw [View.cached_told uri hkept.asks] at hcached
    rw [View.document_told]
    cases hdrops : notification.drops uri with
    | true => simp [hdrops] at hcached
    | false =>
        rw [hdrops, if_neg Bool.false_ne_true] at hcached
        exact Notification.documentAfter_ne_none hdrops (hkept.open_of_kept hcached)
  kept_eq := by
    rw [View.cached_told uri hkept.asks, hkept.kept_eq]
    split <;> rfl

/-- Settings are kept that were looked up for an open document. -/
theorem lookedUp (hkept : Kept view replies) (hopen : view.document ≠ none) (reply : Reply) :
    Kept { view with cached := view.cached.or reply.settings? }
      (replies ++ repliesTo uri (questionsFor uri view.cached) reply) where
  asks := hkept.asks
  shared_eq := hkept.shared_eq
  open_of_kept _ := hopen
  kept_eq := or_settings?_eq uri hkept.kept_eq reply

theorem validate (hkept : Kept view replies) (reply : Reply) :
    Kept (view.validate uri reply).view
      (replies ++ repliesTo uri (view.validate uri reply).messages reply) := by
  cases hopen : view.document with
  | none => simpa [View.validate, hopen, View.still, repliesTo] using hkept
  | some document =>
      rw [View.validate_of_asks uri hkept.asks hopen]
      dsimp only
      rw [repliesTo_append, repliesTo_diagnostics, List.append_nil]
      exact hkept.lookedUp uri (by simp [hopen]) reply

theorem note (hkept : Kept view replies) (reply : Reply) (notification : Notification) :
    Kept (view.note uri reply notification).view
      ((if notification.drops uri then [] else replies) ++
        repliesTo uri (view.note uri reply notification).messages reply) := by
  have htold := hkept.told uri notification
  unfold View.note
  split
  · exact htold.validate uri reply
  · have hfarewell : repliesTo uri (notification.farewell uri) reply = [] := by
      unfold Notification.farewell
      split
      · split
        · exact repliesTo_diagnostics uri uri [] none reply
        · rfl
      · rfl
    rw [hfarewell, List.append_nil]
    exact htold

theorem format (hkept : Kept view replies) (tabSize : Nat) (reply : Reply) :
    Kept (view.format uri tabSize reply).view
      (replies ++ repliesTo uri (view.format uri tabSize reply).messages reply) := by
  cases hopen : view.document with
  | none => simpa [View.format, hopen, repliesTo] using hkept
  | some document =>
      rw [View.format_of_asks uri hkept.asks hopen]
      exact hkept.lookedUp uri (by simp [hopen]) reply

end Kept

namespace Server

variable [UriReading] {uri : Uri} {server : Server} {replies : List Reply}

theorem kept_step (hbegun : server.phase ≠ .uninitialized)
    (hkept : Kept (server.view uri) replies) (next : Step) :
    Kept ((server.step next).server.view uri)
      ((if (server.phase.hears? next.call).any (·.drops uri) then [] else replies) ++
        repliesTo uri (messages (server.step next).events) (next.replies (.settings uri))) := by
  rw [← repliesTo_messagesAbout]
  cases step_cases uri hbegun with
  | told notification hhears hview hmessages =>
      rw [hhears, hview, hmessages]
      exact hkept.note uri _ notification
  | laidOut tabSize hhears _ _ hview hmessages =>
      rw [hhears, hview, hmessages]
      exact hkept.format uri tabSize _
  | unseen hhears _ hview hmessages =>
      rw [hhears, hview, hmessages]
      simpa [repliesTo] using { hkept with }

/-! ## Runs -/

theorem kept_run (hbegun : server.phase ≠ .uninitialized)
    (hkept : Kept (server.view uri) replies) (steps : List Step) :
    Kept ((server.afterRun steps).view uri) (server.repliesSince uri replies steps) := by
  induction steps generalizing server replies with
  | nil => exact hkept
  | cons next rest ih => exact ih (begun_step hbegun next) (kept_step hbegun hkept next)

end Server

end PolicyEditing
