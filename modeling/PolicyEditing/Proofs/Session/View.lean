import PolicyEditing.Session.Run

/-!
# What one document sees of a server

A server handles many documents.  Someone who looks at one of them sees its text, the settings that
are kept for it, what belongs to no document, and the messages about it: a `View` before a message
is handled, and a `Sight` after it.

The functions on views say what is to be seen of each thing that a server does.  None of them looks
at another document, or at the order in which documents are handled.  When the server is told
something, it becomes first of all what it was told (`told`), which is seen as the view says
(`view_told`); scans come after that.
-/

namespace PolicyEditing

/-! ## Messages about a document -/

/-- The messages that are sent. -/
def messages (events : List Event) : List Message :=
  events.filterMap Event.message?

/-- The messages about a document. -/
def messagesAbout (uri : Uri) (events : List Event) : List Message :=
  (messages events).filter fun message => message.uri? = some uri

@[simp] theorem messagesAbout_nil (uri : Uri) : messagesAbout uri [] = [] := rfl

@[simp] theorem messagesAbout_append (uri : Uri) (first second : List Event) :
    messagesAbout uri (first ++ second) = messagesAbout uri first ++ messagesAbout uri second := by
  simp [messagesAbout, messages]

@[simp] theorem messagesAbout_log (uri : Uri) (level : LogLevel) (text : String)
    (events : List Event) :
    messagesAbout uri (.log level text :: events) = messagesAbout uri events := rfl

theorem messagesAbout_sent (uri : Uri) (message : Message) (events : List Event) :
    messagesAbout uri (.sent message :: events) =
      (if message.uri? = some uri then [message] else []) ++ messagesAbout uri events := by
  by_cases h : message.uri? = some uri <;> simp [messagesAbout, messages, Event.message?, h]

theorem messagesAbout_of_silent (uri : Uri) {events : List Event} (hsilent : messages events = []) :
    messagesAbout uri events = [] := by
  rw [messagesAbout, hsilent, List.filter_nil]

@[simp] theorem messagesAbout_scanLog (uri : Uri) (found : List Diagnostic) (limit : Nat) :
    messagesAbout uri (Server.scanLog found limit) = [] := by
  unfold Server.scanLog
  split <;> rfl

/-! ## Replies -/

/-- The settings in a reply, if it can be used: those that its first element is read as. -/
def Reply.settings? : Reply → Option Settings
  | .result (.array (value :: _)) => (Settings.readSection value).toOption
  | _ => none

theorem toOption_mapError {ε ε' α : Type} (f : ε → ε') (read : Except ε α) :
    (read.mapError f).toOption = read.toOption := by
  cases read <;> rfl

theorem Reply.settings?_eq (uri : Uri) (reply : Reply) :
    reply.settings? = (Settings.ofReply uri reply).toOption := by
  match reply with
  | .result (.array (value :: _)) =>
    rw [settings?, Settings.ofReply, toOption_mapError]
  | .error _ | .result .null | .result (.bool _) | .result (.number _) | .result (.string _)
  | .result (.array []) | .result (.object _) => rfl

/-- The settings that a changed configuration pushes.  Where its section is missing, `null` or
cannot be read, these are the defaults. -/
def pushedSettings (configuration : Json) : Settings :=
  match configuration.field? Settings.sectionName with
  | none | some .null => .default
  | some value => (Settings.read value).toOption.getD .default

theorem pushedSettings_eq (configuration : Json) :
    pushedSettings configuration =
      (Settings.ofConfiguration configuration).toOption.getD .default := by
  rw [Settings.ofConfiguration, toOption_mapError, pushedSettings]
  cases configuration.field? Settings.sectionName with
  | none => rfl
  | some value => cases value <;> rfl

/-! ## Views -/

/-- What a server knows about one document, and about no document in particular. -/
structure View where
  phase : Phase
  asksForSettings : Bool
  hasFolders : Bool
  shared : Settings
  document : Option Document
  cached : Option Settings

def Server.view (uri : Uri) (server : Server) : View where
  phase := server.phase
  asksForSettings := server.asksForSettings
  hasFolders := server.hasFolders
  shared := server.settings.shared
  document := server.documents.get? uri
  cached := server.settings.cached? uri

/-- What a finished activity leaves behind for one document. -/
structure Sight (α : Type) where
  value : α
  view : View
  messages : List Message

def Outcome.sight {α : Type} (uri : Uri) (outcome : Outcome α) : Sight α where
  value := outcome.value
  view := outcome.server.view uri
  messages := messagesAbout uri outcome.events

namespace View

/-- Nothing has happened. -/
def still (view : View) : Sight Unit := ⟨(), view, []⟩

/-- The settings for a document, given what the editor replies if it is asked. -/
def settings (reply : Reply) (view : View) : Settings :=
  if view.asksForSettings then (view.cached.or reply.settings?).getD .default else view.shared

/-- The question that is asked to find the settings. -/
def questions (uri : Uri) (view : View) : List Message :=
  if view.asksForSettings ∧ view.cached = none then [.ask (.settings uri)] else []

/-- The view after the settings were found. -/
def afterUse (reply : Reply) (view : View) : View :=
  if view.asksForSettings then { view with cached := view.cached.or reply.settings? } else view

/-- Scans the document, if it is open. -/
def validate (uri : Uri) (reply : Reply) (view : View) : Sight Unit :=
  match view.document with
  | none => view.still
  | some document =>
    ⟨(), view.afterUse reply, view.questions uri ++
      [.diagnostics uri (Diagnostic.scan document.text (view.settings reply).maxProblems)
        (some document.version)]⟩

/-- The view after the server was told something. -/
def told (uri : Uri) (view : View) : Notification → View
  | .opened other document => if other = uri then { view with document := some document } else view
  | .edited other version changes =>
    if other = uri then { view with document := view.document.map (·.edit version changes) }
    else view
  | .closed other => if other = uri then { view with document := none, cached := none } else view
  | .configurationChanged configuration =>
    if view.asksForSettings then { view with cached := none }
    else { view with shared := pushedSettings configuration }
  | .initialized | .foldersChanged .. | .ignored => view

end View

namespace Notification

/-- The document that something is told about. -/
def uri? : Notification → Option Uri
  | .opened uri _ | .edited uri _ _ | .closed uri => some uri
  | .initialized | .configurationChanged _ | .foldersChanged .. | .ignored => none

/-- Whether a document is scanned anew after something was told. -/
def rescans (uri : Uri) : Notification → Bool
  | .opened other _ | .edited other _ _ => other = uri
  | .configurationChanged _ => true
  | .closed _ | .initialized | .foldersChanged .. | .ignored => false

/-- The message that takes the diagnostics of a closed document back. -/
def farewell (uri : Uri) : Notification → List Message
  | .closed other => if other = uri then [.diagnostics uri [] none] else []
  | _ => []

end Notification

namespace View

/-- What is told about another document makes no difference. -/
theorem told_of_ne {uri other : Uri} (hne : other ≠ uri) {notification : Notification}
    (hother : notification.uri? = some other) (view : View) :
    view.told uri notification = view := by
  cases notification <;> simp_all [told, Notification.uri?]

/-- Takes note of what is told. -/
def note (uri : Uri) (reply : Reply) (view : View) (notification : Notification) : Sight Unit :=
  if notification.rescans uri then (view.told uri notification).validate uri reply
  else ⟨(), view.told uri notification, notification.farewell uri⟩

/-- What is told about another document is not seen. -/
theorem note_of_ne {uri other : Uri} (hne : other ≠ uri) {notification : Notification}
    (hother : notification.uri? = some other) (reply : Reply) (view : View) :
    view.note uri reply notification = view.still := by
  cases notification <;>
    simp_all [note, Notification.uri?, Notification.rescans, Notification.farewell, told, still]

/-- Lays the document out, if it is open. -/
def format (uri : Uri) (tabSize : Nat) (reply : Reply) (view : View) : Sight (List TextEdit) :=
  match view.document with
  | none => ⟨[], view, []⟩
  | some document =>
    let settings := view.settings reply
    ⟨if settings.formattingEnabled then
        [Server.layoutEdit document.text (Server.effectiveWidth settings tabSize)]
      else [],
      view.afterUse reply, view.questions uri⟩

/-! ## What stays -/

theorem exists_afterUse_eq (reply : Reply) (view : View) :
    ∃ cached, view.afterUse reply = { view with cached } := by
  unfold afterUse
  split
  · exact ⟨_, rfl⟩
  · exact ⟨view.cached, rfl⟩

/-- A scan changes nothing but the settings that are kept. -/
theorem exists_validate_eq (uri : Uri) (reply : Reply) (view : View) :
    ∃ cached, (view.validate uri reply).view = { view with cached } := by
  unfold validate
  split
  · exact ⟨view.cached, rfl⟩
  · exact exists_afterUse_eq reply view

/-- Layout changes nothing but the settings that are kept. -/
theorem exists_format_eq (uri : Uri) (tabSize : Nat) (reply : Reply) (view : View) :
    ∃ cached, (view.format uri tabSize reply).view = { view with cached } := by
  unfold format
  split
  · exact ⟨view.cached, rfl⟩
  · exact exists_afterUse_eq reply view

theorem exists_note_eq (uri : Uri) (reply : Reply) (view : View) (notification : Notification) :
    ∃ cached, (view.note uri reply notification).view =
      { view.told uri notification with cached } := by
  unfold note
  split
  · exact exists_validate_eq uri reply _
  · exact ⟨_, rfl⟩

@[simp] theorem phase_told (uri : Uri) (view : View) (notification : Notification) :
    (view.told uri notification).phase = view.phase := by
  unfold told
  split <;> (try split) <;> rfl

@[simp] theorem asksForSettings_told (uri : Uri) (view : View) (notification : Notification) :
    (view.told uri notification).asksForSettings = view.asksForSettings := by
  unfold told
  split <;> (try split) <;> rfl

end View

/-! ## What the server becomes -/

namespace Server

section

variable {uri other : Uri} (server : Server)

@[simp] theorem view_store_self (document : Document) :
    (server.store uri document).view uri = { server.view uri with document := some document } := by
  simp [store, view]

theorem view_store_of_ne (hne : other ≠ uri) (document : Document) :
    (server.store other document).view uri = server.view uri := by
  simp [store, view, UriMap.get?_insert_of_ne _ hne.symm]

@[simp] theorem view_forget_self :
    (server.forget uri).view uri =
      { server.view uri with document := none, cached := none } := by
  simp [forget, view, SettingsStore.forget, SettingsStore.cached?]

theorem view_forget_of_ne (hne : other ≠ uri) :
    (server.forget other).view uri = server.view uri := by
  simp [forget, view, SettingsStore.forget, SettingsStore.cached?,
    UriMap.get?_erase_of_ne _ hne.symm]

@[simp] theorem view_remember_self (settings : Settings) :
    (server.remember uri settings).view uri =
      { server.view uri with cached := some settings } := by
  simp [remember, view, SettingsStore.remember, SettingsStore.cached?]

theorem view_remember_of_ne (hne : other ≠ uri) (settings : Settings) :
    (server.remember other settings).view uri = server.view uri := by
  simp [remember, view, SettingsStore.remember, SettingsStore.cached?,
    UriMap.get?_insert_of_ne _ hne.symm]

@[simp] theorem view_dropSettings :
    server.dropSettings.view uri = { server.view uri with cached := none } := rfl

@[simp] theorem view_share (settings : Settings) :
    (server.share settings).view uri = { server.view uri with shared := settings } := rfl

end

/-- A server that was told something, before it scans anything. -/
def told (notification : Notification) (server : Server) : Server :=
  match notification with
  | .opened uri document => server.store uri document
  | .edited uri version changes => (server.amend? uri version changes).getD server
  | .closed uri => server.forget uri
  | .configurationChanged configuration => (server.reconfigure configuration).1
  | .initialized | .foldersChanged .. | .ignored => server

theorem amend?_of_open {uri : Uri} {document : Document} {server : Server}
    (hopen : server.documents.get? uri = some document) (version : Int) (changes : List Change) :
    server.amend? uri version changes =
      some (server.store uri (document.edit version changes)) := by
  rw [amend?, hopen, Option.map_some]

theorem amend?_eq_none_iff {uri : Uri} {version : Int} {changes : List Change} {server : Server} :
    server.amend? uri version changes = none ↔ server.documents.get? uri = none :=
  Option.map_eq_none_iff

/-- A server drops its settings, or takes those that are pushed, and tells nobody. -/
theorem reconfigure_eq (configuration : Json) (server : Server) :
    ∃ events, messages events = [] ∧ server.reconfigure configuration =
      (if server.asksForSettings then server.dropSettings
        else server.share (pushedSettings configuration), events) := by
  unfold reconfigure
  split
  · exact ⟨_, rfl, rfl⟩
  · rw [pushedSettings_eq]
    cases Settings.ofConfiguration configuration <;> exact ⟨_, rfl, rfl⟩

theorem told_configurationChanged (configuration : Json) (server : Server) :
    server.told (.configurationChanged configuration) =
      if server.asksForSettings then server.dropSettings
      else server.share (pushedSettings configuration) := by
  obtain ⟨events, -, hreconfigure⟩ := reconfigure_eq configuration server
  rw [told, hreconfigure]

/-- What the server becomes is seen from a document as what its view becomes. -/
theorem view_told (uri : Uri) (notification : Notification) (server : Server) :
    (server.told notification).view uri = (server.view uri).told uri notification := by
  cases notification with
  | opened other document =>
      by_cases h : other = uri
      · simp [told, View.told, h]
      · simp [told, View.told, h, view_store_of_ne server h]
  | edited other version changes =>
      rw [told]
      cases hopen : server.documents.get? other with
      | none =>
          rw [amend?_eq_none_iff.mpr hopen, Option.getD_none]
          by_cases h : other = uri
          · subst h
            simp [View.told, view, hopen]
          · simp [View.told, h]
      | some document =>
          rw [amend?_of_open hopen, Option.getD_some]
          by_cases h : other = uri
          · subst h
            have hdocument : (server.view other).document = some document := hopen
            simp [View.told, hdocument]
          · simp [View.told, h, view_store_of_ne server h]
  | closed other =>
      by_cases h : other = uri
      · simp [told, View.told, h]
      · simp [told, View.told, h, view_forget_of_ne server h]
  | configurationChanged configuration =>
      rw [told_configurationChanged]
      by_cases hasks : server.asksForSettings = true
      · rw [if_pos hasks, view_dropSettings]
        exact (if_pos hasks).symm
      · rw [if_neg hasks, view_share]
        exact (if_neg hasks).symm
  | initialized | foldersChanged _ _ | ignored => rfl

theorem phase_told (notification : Notification) (server : Server) :
    (server.told notification).phase = server.phase := by
  -- any document will do
  have hview := view_told ⟨""⟩ notification server
  exact (congrArg View.phase hview).trans (View.phase_told _ _ notification)

theorem announceAfter_eq (reply : Reply) (server : Server) :
    ∃ events, messages events = [.notice .info "Guard LSP server ready"] ∧
      announceAfter reply server = .done () server events := by
  unfold announceAfter
  cases reply.failure? with
  | none => exact ⟨_, rfl, rfl⟩
  | some error => exact ⟨_, rfl, rfl⟩

/-- With the settings at hand a document is laid out without a message, and nothing changes. -/
theorem deliver_eq (uri : Uri) (document : Document) (tabSize : Nat) (settings : Settings)
    (server : Server) :
    ∃ events, messages events = [] ∧ deliver uri document tabSize settings server =
      .done (if settings.formattingEnabled then
          [layoutEdit document.text (effectiveWidth settings tabSize)]
        else []) server events := by
  unfold deliver
  split
  · exact ⟨_, rfl, rfl⟩
  · exact ⟨_, rfl, rfl⟩

end Server

end PolicyEditing
