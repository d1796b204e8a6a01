import PolicyEditing.Proofs.Session.Remainder
import PolicyEditing.Session.Conversation

/-!
# Replies that come too late

A reply goes with the document as it was when the question was asked.  It comes too late if the
document was opened, edited or closed in the meantime: then what is sent is about a text that is no
longer there, and settings may be kept for a document that is closed.

The moves of a conversation say which replies are late.  `Lateness` follows them for one document:
it remembers how many questions were asked before the last news of the document, whether what is
shown for the document came with a late reply, and whether settings came with one.
-/

namespace PolicyEditing

variable {Caller : Type}

/-! ## What is told, and what comes too late -/

namespace Move

variable [UriReading]

/-- What a server in a phase takes note of. -/
def tells? (phase : Phase) : Move Caller → Option Notification
  | .call _ next => phase.hears? next
  | .reply _ _ => none

/-- The phase after a move. -/
def phaseAfter (phase : Phase) : Move Caller → Phase
  | .call _ next => phase.after next
  | .reply _ _ => phase

end Move

/-- What a server takes note of in some moves, given its phase before them. -/
def toldIn [UriReading] (phase : Phase) : List (Move Caller) → List Notification
  | [] => []
  | next :: rest => (next.tells? phase).toList ++ toldIn (next.phaseAfter phase) rest

/-- Whether the reply to a question comes too late for a document, given how many questions were
asked before something was last told about the document. -/
def Waiting.isLate (uri : Uri) (mark : Nat) (waiting : Waiting Caller) : Bool :=
  waiting.question = .settings uri ∧ waiting.number < mark

/-- What came too late for a document. -/
structure Lateness where
  /-- The questions that were asked before something was last told about the document. -/
  mark : Nat
  /-- Whether the diagnostics that are shown came with a reply that was too late. -/
  shown : Bool
  /-- Whether a reply that was too late brought settings, since they were last dropped. -/
  kept : Bool
deriving DecidableEq

namespace Lateness

/-- Nothing has come. -/
def none : Lateness := ⟨0, false, false⟩

/-- When something is told, nothing is late, and the questions so far become old ones. -/
def told (uri : Uri) (asked : Nat) (notification : Notification) (events : List Event)
    (late : Lateness) : Lateness where
  mark := if notification.uri? = some uri then asked else late.mark
  shown := late.shown && (shown? uri (messages events)).isNone
  kept := late.kept && !notification.drops uri

/-- When a reply comes, what is shown for the document is as late as the reply is, and so are
settings in the reply. -/
def replied (uri : Uri) (waiting : Waiting Caller) (reply : Reply) (events : List Event)
    (late : Lateness) : Lateness where
  mark := late.mark
  shown :=
    if (shown? uri (messages events)).isSome then waiting.isLate uri late.mark else late.shown
  kept := late.kept || waiting.isLate uri late.mark && reply.settings?.isSome

end Lateness

namespace Conversation

variable [UriReading]

/-- What has come too late after one more move. -/
def lateAfter (uri : Uri) (conversation : Conversation Caller) (late : Lateness)
    (next : Move Caller) : Lateness :=
  let events := (conversation.move next).events
  match next with
  | .call _ call =>
    match conversation.server.phase.hears? call with
    | none => late
    | some notification => late.told uri conversation.asked notification events
  | .reply number reply =>
    match conversation.waitingFor? number with
    | none => late
    | some waiting => late.replied uri waiting reply events

/-- What has come too late after some moves. -/
def lateness (uri : Uri) (conversation : Conversation Caller) (late : Lateness) :
    List (Move Caller) → Lateness
  | [] => late
  | next :: rest =>
    (conversation.move next).conversation.lateness uri (conversation.lateAfter uri late next) rest

end Conversation

/-! ## Documents and settings, seen from one address -/

namespace Notification

variable {uri : Uri} {notification : Notification} {document : Option Document}

/-- What is told about other documents leaves a document as it is. -/
theorem documentAfter_of_uri?_ne (hother : notification.uri? ≠ some uri) :
    notification.documentAfter uri document = document := by
  cases notification <;> simp_all [uri?, documentAfter]

/-- A document is not open because it was closed, or was not open before. -/
theorem of_documentAfter_eq_none (hnone : notification.documentAfter uri document = none) :
    notification = .closed uri ∨
      document = none ∧ ∀ content, notification ≠ .opened uri content := by
  cases notification with
  | opened other content =>
      rw [documentAfter] at hnone
      split at hnone
      · simp at hnone
      · rename_i hne
        exact .inr ⟨hnone, fun content' h => hne (Notification.opened.inj h).1⟩
  | edited other version changes =>
      refine .inr ⟨?_, by simp⟩
      rw [documentAfter] at hnone
      split at hnone
      · exact Option.map_eq_none_iff.mp hnone
      · exact hnone
  | closed other =>
      rw [documentAfter] at hnone
      split at hnone
      · rename_i h
        exact .inl (congrArg _ h)
      · exact .inr ⟨hnone, by simp⟩
  | initialized | configurationChanged _ | foldersChanged _ _ | ignored =>
      exact .inr ⟨hnone, by simp⟩

end Notification

/-- Settings are dropped as they should be, if none are kept by a server that does not ask. -/
theorem View.cached_told_of_quiet (uri : Uri) {view : View}
    (hquiet : view.asksForSettings = false → view.cached = none) (notification : Notification) :
    (view.told uri notification).cached =
      if notification.drops uri then none else view.cached := by
  cases hasks : view.asksForSettings with
  | true => exact cached_told uri hasks notification
  | false =>
      have hnone := hquiet hasks
      cases notification <;> unfold told Notification.drops <;> dsimp only <;> (try split) <;>
        simp_all

theorem Server.cached?_keep (uri other : Uri) (reply : Reply) (server : Server) :
    (server.keep other reply).settings.cached? uri =
      if other = uri then reply.settings?.or (server.settings.cached? uri)
      else server.settings.cached? uri := by
  unfold keep
  cases reply.settings? with
  | none => simp
  | some settings =>
      by_cases h : other = uri
      · subst h
        rw [if_pos rfl, Option.some_or]
        exact congrArg View.cached (view_remember_self server settings)
      · rw [if_neg h]
        exact congrArg View.cached (view_remember_of_ne server h settings)

namespace Remainder

/-- A reply changes nothing but the settings. -/
theorem exists_keep_eq (remainder : Remainder) (reply : Reply) (server : Server) :
    ∃ settings, remainder.keep reply server = { server with settings } := by
  cases remainder with
  | scans uri _ _ | layout uri _ _ =>
      unfold keep Server.keep
      cases reply.settings? with
      | none => exact ⟨server.settings, rfl⟩
      | some settings => exact ⟨_, rfl⟩
  | announcement => exact ⟨server.settings, rfl⟩

theorem question_eq_iff (remainder : Remainder) (uri : Uri) :
    remainder.question = .settings uri ↔ ∃ document, remainder.document? uri = some document := by
  cases remainder with
  | scans other document _ | layout other document _ => simp [question, document?]
  | announcement => simp [question, document?]

theorem cached?_keep (remainder : Remainder) (uri : Uri) (reply : Reply) (server : Server) :
    (remainder.keep reply server).settings.cached? uri =
      if remainder.question = .settings uri then reply.settings?.or (server.settings.cached? uri)
      else server.settings.cached? uri := by
  cases remainder with
  | scans other document _ | layout other document _ =>
      simp [keep, question, Server.cached?_keep]
  | announcement => simp [keep, question]

end Remainder

end PolicyEditing
