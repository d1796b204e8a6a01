import PolicyEditing.Proofs.Session.Kept

/-!
# What is left to do behind a question

A handling that waits for a reply is a function, of which little can be said.  But only three things
are ever left to do behind a question: to send the diagnostics of a document and scan others, to lay
a document out, or to announce the server.  A `Remainder` is one of them as data, with the document
as it was when its settings were asked for.

Every handling of a call (`receive_eq_halt_of_hears`, `receive_eq_halt`), and every handling that is
taken up again (`Remainder.resume_eq_halt`), ends, or stops at a question with such a remainder.
Up to there it sends nothing but diagnostics of documents as they are then; only the first ones
after a reply are those of the document as it was.
-/

namespace PolicyEditing

/-- What is left to do when the editor has replied. -/
inductive Remainder where
  /-- To send the diagnostics of a document as it was, and to scan others. -/
  | scans (uri : Uri) (document : Document) (others : List Uri)
  /-- To lay a document out as it was. -/
  | layout (uri : Uri) (document : Document) (tabSize : Nat)
  /-- To announce the server. -/
  | announcement

namespace Remainder

def question : Remainder → Question
  | scans uri _ _ | layout uri _ _ => .settings uri
  | announcement => .watchConfiguration

/-- The document at an address as it was, if it is the one that was asked about. -/
def document? (uri : Uri) : Remainder → Option Document
  | scans other document _ | layout other document _ =>
    if other = uri then some document else none
  | announcement => none

/-- Goes on after a reply. -/
def resume : Remainder → Reply → Server → Activity Reaction
  | scans uri document others => fun reply server =>
    (((Server.receiveSettings uri reply server).andThen (Server.publish uri document)).andThen
      fun _ => Server.validateEach others).map fun _ => .silent
  | layout uri document tabSize => fun reply server =>
    (((Server.receiveSettings uri reply server).andThen (Server.deliver uri document
      tabSize)).map fun edits => .ok (.layout edits)).map .responded
  | announcement => fun reply server => (server.announceAfter reply).map fun _ => .silent

/-- A server asks, and has the document that it asks about as it is. -/
structure FitsTo (remainder : Remainder) (server : Server) : Prop where
  asks : server.asksForSettings = true
  current : ∀ uri document, remainder.document? uri = some document →
    server.documents.get? uri = some document

theorem fitsTo_of_asked {remainder : Remainder} {server : Server} {uri : Uri} {document : Document}
    (hasks : server.asksForSettings = true) (hopen : server.documents.get? uri = some document)
    (hremainder : ∀ other,
      remainder.document? other = if uri = other then some document else none) :
    remainder.FitsTo server where
  asks := hasks
  current other found hfound := by
    rw [hremainder] at hfound
    split at hfound
    · rename_i h
      rw [← h, hopen, hfound]
    · simp at hfound

end Remainder

/-- A handling that has come to its end, or to a question with something left to do. -/
def halt (reaction : Reaction) (server : Server) (events : List Event) :
    Option Remainder → Activity Reaction
  | none => .done reaction server events
  | some remainder => .asking remainder.question server events remainder.resume

/-! ## Diagnostics that are shown -/

@[simp] theorem messages_append (first second : List Event) :
    messages (first ++ second) = messages first ++ messages second :=
  List.filterMap_append

/-- What some events show for open documents are scans of the documents, and they show nothing for
others. -/
def ShowsScans (server : Server) (events : List Event) : Prop :=
  ∀ uri shown, shown? uri (messages events) = some shown →
    ∃ document limit, server.documents.get? uri = some document ∧
      shown = (Diagnostic.scan document.text limit, some document.version)

theorem showsScans_of_silent {server : Server} {events : List Event}
    (hsilent : messages events = []) : ShowsScans server events := by
  intro uri shown hshown
  rw [hsilent] at hshown
  simp [shown?] at hshown

/-- A notice shows nothing. -/
theorem showsScans_of_notice {server : Server} {events : List Event} {kind : NoticeKind}
    {text : String} (hmessages : messages events = [.notice kind text]) :
    ShowsScans server events := by
  intro uri shown hshown
  rw [hmessages, shown?_singleton, Message.diagnostics?] at hshown
  simp at hshown

theorem ShowsScans.append {server : Server} {first second : List Event}
    (hfirst : ShowsScans server first) (hsecond : ShowsScans server second) :
    ShowsScans server (first ++ second) := by
  intro uri shown hshown
  rw [messages_append, shown?_append] at hshown
  rcases Option.or_eq_some_iff.mp hshown with hlast | ⟨-, hearlier⟩
  · exact hsecond uri shown hlast
  · exact hfirst uri shown hearlier

/-- The scan of an open document. -/
theorem showsScans_of_scan {server : Server} {uri : Uri} {document : Document} {limit : Nat}
    {events : List Event} (hopen : server.documents.get? uri = some document)
    (hmessages : messages events =
      [.diagnostics uri (Diagnostic.scan document.text limit) (some document.version)]) :
    ShowsScans server events := by
  intro other shown hshown
  rw [hmessages, shown?_singleton, Message.diagnostics?] at hshown
  split at hshown
  · rename_i h
    exact ⟨document, limit, h ▸ hopen, (Option.some.inj hshown).symm⟩
  · simp at hshown

namespace Activity

variable {α : Type}

theorem after_nil (activity : Activity α) : activity.after [] = activity := by
  cases activity <;> rfl

theorem map_after {β : Type} (f : α → β) (earlier : List Event) (activity : Activity α) :
    (activity.after earlier).map f = (activity.map f).after earlier := by
  cases activity <;> simp [map, after, andThen]

/-- Doing nothing behind an activity. -/
theorem andThen_done (activity : Activity α) :
    (activity.andThen fun value server => done value server []) = activity := by
  induction activity with
  | done value server events => simp [andThen, after]
  | asking question server events resume ih =>
      rw [andThen]
      congr 1
      funext reply server
      exact ih reply server

end Activity

theorem after_halt (earlier : List Event) (reaction : Reaction) (server : Server)
    (events : List Event) (rest : Option Remainder) :
    (halt reaction server events rest).after earlier =
      halt reaction server (earlier ++ events) rest := by
  cases rest <;> rfl

/-! ## Replies -/

namespace Server

/-- A server that keeps the settings in a reply, if it can be used. -/
def keep (uri : Uri) (reply : Reply) (server : Server) : Server :=
  match reply.settings? with
  | none => server
  | some settings => server.remember uri settings

theorem receiveSettings_eq (uri : Uri) (reply : Reply) (server : Server) :
    ∃ settings events, messages events = [] ∧
      receiveSettings uri reply server = .done settings (server.keep uri reply) events := by
  rw [receiveSettings, keep, Reply.settings?_eq uri]
  cases Settings.ofReply uri reply with
  | ok settings => exact ⟨settings, [], rfl, rfl⟩
  | error error => exact ⟨.default, _, rfl, rfl⟩

@[simp] theorem documents_keep (uri : Uri) (reply : Reply) (server : Server) :
    (server.keep uri reply).documents = server.documents := by
  unfold keep
  split <;> rfl

end Server

/-! ## Scans -/

theorem messages_scanLog (found : List Diagnostic) (limit : Nat) :
    messages (Server.scanLog found limit) = [] := by
  unfold Server.scanLog
  split <;> rfl

namespace Server

theorem publish_eq (uri : Uri) (document : Document) (settings : Settings) (server : Server) :
    ∃ events limit, publish uri document settings server = .done () server events ∧
      messages events =
        [.diagnostics uri (Diagnostic.scan document.text limit) (some document.version)] := by
  refine ⟨_, settings.maxProblems, rfl, ?_⟩
  rw [messages_append, messages_scanLog]
  rfl

/-- The settings of a document are at hand, or the server asks for them. -/
theorem settingsFor_cases (uri : Uri) (server : Server) :
    (∃ settings, server.settingsFor uri = .done settings server []) ∨
      (server.asksForSettings = true ∧
        server.settingsFor uri = .asking (.settings uri) server [] (receiveSettings uri)) := by
  unfold settingsFor
  by_cases hasks : server.asksForSettings = true
  · rw [if_pos hasks]
    cases server.settings.cached? uri with
    | some settings => exact .inl ⟨settings, rfl⟩
    | none => exact .inr ⟨hasks, rfl⟩
  · rw [if_neg hasks]
    exact .inl ⟨server.settings.shared, rfl⟩

/-- An open document is scanned at once, or the server asks for its settings. -/
theorem validate_cases {uri : Uri} {document : Document} {server : Server}
    (hopen : server.documents.get? uri = some document) :
    (∃ events, server.validate uri = .done () server events ∧ ShowsScans server events ∧
      shown? uri (messages events) ≠ none) ∨
      (server.asksForSettings = true ∧
        server.validate uri = .asking (.settings uri) server [] fun reply server =>
          (receiveSettings uri reply server).andThen (publish uri document)) := by
  unfold validate
  rw [hopen]
  dsimp only
  rcases settingsFor_cases uri server with ⟨settings, hsettings⟩ | ⟨hasks, hsettings⟩
  · obtain ⟨events, limit, hpublish, hmessages⟩ := publish_eq uri document settings server
    refine .inl ⟨events, ?_, showsScans_of_scan hopen hmessages, ?_⟩
    · rw [hsettings, Activity.andThen, hpublish, Activity.after_nil]
    · rw [hmessages, shown?_singleton, Message.diagnostics?, if_pos rfl]
      exact Option.some_ne_none _
  · rw [hsettings]
    exact .inr ⟨hasks, rfl⟩

/-- Scans of some documents show them as they are, up to one that has to be asked about.  The first
one is shown or asked about, if it is open. -/
theorem validateEach_eq_halt (uris : List Uri) (server : Server) :
    ∃ events rest,
      (validateEach uris server).map (fun _ => Reaction.silent) =
        halt .silent server events rest ∧
      ShowsScans server events ∧
      (∀ remainder ∈ rest, remainder.FitsTo server) ∧
      ∀ uri document others, uris = uri :: others → server.documents.get? uri = some document →
        shown? uri (messages events) ≠ none ∨ rest = some (.scans uri document others) := by
  induction uris with
  | nil => exact ⟨[], none, rfl, showsScans_of_silent rfl, by simp, by simp⟩
  | cons uri others ih =>
      obtain ⟨later, rest, hlater, hshows, hfits, -⟩ := ih
      rw [validateEach]
      cases hopen : server.documents.get? uri with
      | none =>
          refine ⟨later, rest, ?_, hshows, hfits, ?_⟩
          · rw [validate, hopen]
            exact (congrArg (Activity.map _) (Activity.after_nil _)).trans hlater
          · intro first document more huris hfirst
            obtain ⟨rfl, -⟩ := List.cons.inj huris
            exact absurd (hopen.symm.trans hfirst) (Option.some_ne_none document).symm
      | some document =>
          rcases validate_cases hopen with ⟨events, hvalidate, hscans, hshown⟩ | ⟨hasks, hvalidate⟩
          · refine ⟨events ++ later, rest, ?_, hscans.append hshows, hfits, ?_⟩
            · rw [hvalidate, Activity.andThen, Activity.map_after, hlater, after_halt]
            · intro first _ more huris _
              obtain ⟨rfl, -⟩ := List.cons.inj huris
              left
              rw [messages_append, shown?_append]
              exact mt Option.or_eq_none_iff.mp fun h => hshown h.2
          · refine ⟨[], some (.scans uri document others), ?_, showsScans_of_silent rfl, ?_, ?_⟩
            · rw [hvalidate]
              rfl
            · intro remainder hremainder
              obtain rfl := Option.some.inj hremainder
              exact Remainder.fitsTo_of_asked hasks hopen fun _ => rfl
            · intro first document' more huris hfirst
              obtain ⟨rfl, rfl⟩ := List.cons.inj huris
              rw [Option.some.inj (hopen.symm.trans hfirst)]
              exact .inr rfl

theorem validateEach_singleton (uri : Uri) (server : Server) :
    validateEach [uri] server = server.validate uri :=
  Activity.andThen_done (server.validate uri)

end Server

/-! ## What is told -/

/-- What a server sends and asks when it is told something. -/
structure Noted (notification : Notification) (server : Server) (events : List Event)
    (rest : Option Remainder) : Prop where
  fits : ∀ remainder ∈ rest, remainder.FitsTo server
  /-- Only scans are shown, unless a document is closed. -/
  scans : (∀ uri, notification ≠ .closed uri) → ShowsScans server events
  /-- The diagnostics of a closed document are taken back. -/
  farewell : ∀ uri, notification = .closed uri → messages events = [.diagnostics uri [] none]
  /-- The document that something is told about is shown or asked about, if it is open. -/
  own : ∀ uri document, notification.uri? = some uri →
    server.documents.get? uri = some document →
    shown? uri (messages events) ≠ none ∨ rest = some (.scans uri document [])

namespace Server

/-- Scans after something was told that closes no document. -/
theorem exists_noted_of_scans {notification : Notification} {server : Server} {uris : List Uri}
    {earlier : List Event} (hsilent : messages earlier = [])
    (hopen : ∀ uri, notification ≠ .closed uri)
    (howns : ∀ uri, notification.uri? = some uri → uris = [uri]) :
    ∃ events rest,
      ((validateEach uris server).after earlier).map (fun _ => Reaction.silent) =
        halt .silent server events rest ∧
      Noted notification server events rest := by
  obtain ⟨events, rest, hhalt, hshows, hfits, hfirst⟩ := validateEach_eq_halt uris server
  refine ⟨earlier ++ events, rest, ?_, hfits, fun _ => ?_, fun uri hclosed => ?_, ?_⟩
  · rw [Activity.map_after, hhalt, after_halt]
  · exact (showsScans_of_silent hsilent).append hshows
  · exact absurd hclosed (hopen uri)
  · intro uri document huri hdocument
    rw [messages_append, hsilent, List.nil_append]
    exact hfirst uri document [] (howns uri huri) hdocument

/-- Something that is told without any scan and any question. -/
theorem noted_of_done {notification : Notification} {server : Server} {events : List Event}
    (hshows : ShowsScans server events) (hopen : ∀ uri, notification ≠ .closed uri)
    (hother : ∀ uri, notification.uri? = some uri → server.documents.get? uri = none) :
    Noted notification server events none where
  fits := by simp
  scans _ := hshows
  farewell uri hclosed := absurd hclosed (hopen uri)
  own uri document huri hdocument :=
    absurd ((hother uri huri).symm.trans hdocument) (Option.some_ne_none document).symm

theorem note_eq_halt (notification : Notification) (server : Server) :
    ∃ events rest,
      (server.note notification).map (fun _ => Reaction.silent) =
        halt .silent (server.told notification) events rest ∧
      Noted notification (server.told notification) events rest := by
  cases notification with
  | initialized =>
      by_cases hasks : server.asksForSettings = true
      · have hfits : ∀ remainder ∈ some Remainder.announcement, remainder.FitsTo server := by
          intro remainder hremainder
          obtain rfl := Option.some.inj hremainder
          exact ⟨hasks, by simp [Remainder.document?]⟩
        rw [note, initialized, if_pos hasks]
        exact ⟨_, some .announcement, rfl, hfits, fun _ => showsScans_of_silent rfl, by simp,
          by simp [Notification.uri?]⟩
      · rw [note, initialized, if_neg hasks]
        exact ⟨_, none, rfl, noted_of_done (showsScans_of_notice rfl) (by simp)
          (by simp [Notification.uri?])⟩
  | configurationChanged configuration =>
      obtain ⟨noted, hsilent, hreconfigure⟩ := reconfigure_eq configuration server
      rw [note, configurationChanged, told, hreconfigure]
      exact exists_noted_of_scans hsilent (by simp) (by simp [Notification.uri?])
  | foldersChanged added removed =>
      exact ⟨_, none, rfl, noted_of_done (showsScans_of_notice rfl) (by simp)
        (by simp [Notification.uri?])⟩
  | opened uri document =>
      rw [note, opened, ← validateEach_singleton]
      refine exists_noted_of_scans rfl (by simp) fun other hother => ?_
      rw [Option.some.inj hother]
  | edited uri version changes =>
      rw [note, edited, told]
      cases hamended : server.amend? uri version changes with
      | none =>
          refine ⟨_, none, rfl, noted_of_done (showsScans_of_silent rfl) (by simp) ?_⟩
          intro other hother
          rw [← Option.some.inj hother]
          exact amend?_eq_none_iff.mp hamended
      | some amended =>
          dsimp only
          rw [← validateEach_singleton]
          refine exists_noted_of_scans rfl (by simp) fun other hother => ?_
          rw [Option.some.inj hother]
  | closed uri =>
      refine ⟨_, none, rfl, by simp, fun h => absurd rfl (h uri), ?_, ?_⟩
      · intro other hother
        cases hother
        rfl
      · intro other document hother hdocument
        obtain rfl := Option.some.inj hother
        simp [told, forget] at hdocument
  | ignored =>
      exact ⟨_, none, rfl, noted_of_done (showsScans_of_silent rfl) (by simp)
        (by simp [Notification.uri?])⟩

/-- A call that tells something is handled up to the first question. -/
theorem receive_eq_halt_of_hears [UriReading] {server : Server} {call : Call}
    {notification : Notification}
    (hhears : server.phase.hears? call = some notification) :
    ∃ events rest,
      server.receive call = halt .silent (server.told notification) events rest ∧
      Noted notification (server.told notification) events rest := by
  obtain ⟨hready, hcall⟩ := Phase.hears?_eq_some hhears
  rw [receive_of_notification hready hcall]
  exact note_eq_halt notification server

/-! ## Other calls -/

theorem serve_eq_halt (request : Request) (server : Server) :
    ∃ reaction events rest,
      (server.serve request).map .responded = halt reaction server events rest ∧
      messages events = [] ∧ ∀ remainder ∈ rest, remainder.FitsTo server := by
  cases request with
  | format uri tabSize =>
      rw [serve, format]
      cases hopen : server.documents.get? uri with
      | none => exact ⟨_, _, none, rfl, rfl, by simp⟩
      | some document =>
          dsimp only
          rcases settingsFor_cases uri server with ⟨settings, hsettings⟩ | ⟨hasks, hsettings⟩
          · obtain ⟨events, hsilent, hdeliver⟩ := deliver_eq uri document tabSize settings server
            rw [hsettings, Activity.after, Activity.andThen, hdeliver]
            refine ⟨_, _, none, rfl, ?_, by simp⟩
            rw [List.append_nil, List.append_nil, messages_append, hsilent]
            rfl
          · rw [hsettings]
            refine ⟨.silent, _, some (.layout uri document tabSize), rfl, rfl, ?_⟩
            intro remainder hremainder
            obtain rfl := Option.some.inj hremainder
            exact Remainder.fitsTo_of_asked hasks hopen fun _ => rfl
  | hover _ _ | complete | resolve _ | unsupported => exact ⟨_, _, none, rfl, rfl, by simp⟩

/-- A call that tells nothing changes neither documents nor settings and sends nothing. -/
theorem receive_eq_halt [UriReading] {server : Server} {call : Call}
    (hhears : server.phase.hears? call = none) :
    ∃ reaction phase asksForSettings hasFolders events rest,
      let next : Server := { server with phase, asksForSettings, hasFolders }
      server.receive call = halt reaction next events rest ∧ messages events = [] ∧
        (¬ (server.phase = .uninitialized ∧ phase = .ready) →
          asksForSettings = server.asksForSettings) ∧
        phase = server.phase.after call ∧ ∀ remainder ∈ rest, remainder.FitsTo next := by
  cases hserves : server.phase.serves? call with
  | none =>
      obtain ⟨reaction, asksForSettings, hasFolders, events, hsilent, hkept, hdone⟩ :=
        idle_receive server hhears hserves
      exact ⟨reaction, server.phase.after call, asksForSettings, hasFolders, events, none,
        hdone server.documents server.settings, hsilent, fun h => (hkept h).1, rfl, by simp⟩
  | some request =>
      obtain ⟨hready, hcall⟩ := Phase.serves?_eq_some hserves
      obtain ⟨reaction, events, rest, hhalt, hsilent, hfits⟩ := serve_eq_halt request server
      refine ⟨reaction, server.phase, server.asksForSettings, server.hasFolders, events, rest,
        ?_, hsilent, fun _ => rfl, (Phase.after_of_request hcall).symm, hfits⟩
      rw [receive_of_request hready hcall]
      exact hhalt

end Server

/-! ## After a reply -/

namespace Remainder

/-- The server when handling is taken up again. -/
def keep (remainder : Remainder) (reply : Reply) (server : Server) : Server :=
  match remainder with
  | scans uri _ _ | layout uri _ _ => server.keep uri reply
  | announcement => server

/-- Handling is taken up again up to the next question.  It shows scans of documents as they are, or
as they were when it asked. -/
theorem resume_eq_halt (remainder : Remainder) (reply : Reply) (server : Server) :
    ∃ reaction events rest,
      remainder.resume reply server = halt reaction (remainder.keep reply server) events rest ∧
      (∀ next ∈ rest, next.FitsTo (remainder.keep reply server)) ∧
      (∀ uri shown, shown? uri (messages events) = some shown →
        ∃ document limit, (server.documents.get? uri = some document ∨
            remainder.document? uri = some document) ∧
          shown = (Diagnostic.scan document.text limit, some document.version)) ∧
      ∀ uri document others, remainder = .scans uri document others →
        shown? uri (messages events) ≠ none := by
  cases remainder with
  | scans uri document others =>
      obtain ⟨settings, noted, hnoted, hreceive⟩ := Server.receiveSettings_eq uri reply server
      obtain ⟨events, limit, hpublish, hmessages⟩ :=
        Server.publish_eq uri document settings (server.keep uri reply)
      obtain ⟨later, rest, hlater, hshows, hfits, -⟩ :=
        Server.validateEach_eq_halt others (server.keep uri reply)
      have hall : messages (noted ++ events ++ later) =
          [.diagnostics uri (Diagnostic.scan document.text limit) (some document.version)] ++
            messages later := by
        rw [messages_append, messages_append, hnoted, hmessages, List.nil_append]
      refine ⟨.silent, noted ++ events ++ later, rest, ?_, hfits, ?_, ?_⟩
      · rw [resume]
        dsimp only
        rw [hreceive, Activity.andThen, hpublish, Activity.after, Activity.andThen,
          Activity.map_after, hlater, after_halt]
        rfl
      · intro other shown hshown
        rw [hall, shown?_append] at hshown
        rcases Option.or_eq_some_iff.mp hshown with hlast | ⟨-, hfirst⟩
        · obtain ⟨current, limit, hcurrent, hscan⟩ := hshows other shown hlast
          rw [Server.documents_keep] at hcurrent
          exact ⟨current, limit, .inl hcurrent, hscan⟩
        · rw [shown?_singleton, Message.diagnostics?] at hfirst
          split at hfirst
          · rename_i h
            exact ⟨document, limit, .inr (if_pos h), (Option.some.inj hfirst).symm⟩
          · simp at hfirst
      · intro other document' others' hremainder
        cases hremainder
        rw [hall, shown?_append, shown?_singleton, Message.diagnostics?, if_pos rfl]
        simp
  | layout uri document tabSize =>
      obtain ⟨settings, noted, hnoted, hreceive⟩ := Server.receiveSettings_eq uri reply server
      obtain ⟨events, hsilent, hdeliver⟩ :=
        Server.deliver_eq uri document tabSize settings (server.keep uri reply)
      have hall : messages (noted ++ events) = [] := by
        rw [messages_append, hnoted, hsilent, List.append_nil]
      obtain ⟨reaction, hdone⟩ : ∃ reaction, (layout uri document tabSize).resume reply server =
          .done reaction (server.keep uri reply) (noted ++ events) := by
        rw [resume]
        dsimp only
        rw [hreceive, Activity.andThen, hdeliver]
        simp only [Activity.map, Activity.andThen, Activity.after, List.append_nil]
        exact ⟨_, rfl⟩
      refine ⟨reaction, noted ++ events, none, hdone, by simp, ?_, by simp⟩
      intro other shown hshown
      simp [hall, shown?] at hshown
  | announcement =>
      obtain ⟨events, hmessages, hannounce⟩ := Server.announceAfter_eq reply server
      have hdone : announcement.resume reply server = .done .silent server events := by
        rw [resume]
        dsimp only
        rw [hannounce, Activity.map, Activity.andThen, Activity.after, List.append_nil]
      refine ⟨.silent, events, none, hdone, by simp, fun uri shown hshown => ?_, by simp⟩
      obtain ⟨document, limit, hopen, hscan⟩ := showsScans_of_notice hmessages uri shown hshown
      exact ⟨document, limit, .inl hopen, hscan⟩

end Remainder

end PolicyEditing
