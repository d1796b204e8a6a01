import PolicyEditing.Proofs.Session.Steps

/-!
# The history of a session

The calls of a session say by themselves what a server takes note of (`heard`), which documents are
open and what they hold (`currentDocument`), and which settings were pushed (`sharedSettings`).  The
messages that were sent say what the editor shows (`shown?`).

A session begins with one call, which leaves a server without documents and settings (`step_begin`);
from then on every step is one of three cases, and moves the phase on as the calls say
(`phase_step`).
-/

namespace PolicyEditing

/-! ## What was told -/

/-- What a server takes note of in some steps, given its phase before them. -/
def heard [UriReading] (phase : Phase) : List Step → List Notification
  | [] => []
  | next :: rest => (phase.hears? next.call).toList ++ heard (phase.after next.call) rest

/-- What a document becomes when something is told.  The changes of an edit are made one after the
other. -/
def Notification.documentAfter (uri : Uri) (document : Option Document) :
    Notification → Option Document
  | .opened other content => if other = uri then some content else document
  | .edited other version changes =>
    if other = uri then
      document.map fun document => ⟨changes.foldl Document.changeText document.text, version⟩
    else document
  | .closed other => if other = uri then none else document
  | .initialized | .configurationChanged _ | .foldersChanged .. | .ignored => document

/-- The document at an address, if it is open: it was opened, and edited since then. -/
def currentDocument (uri : Uri) (told : List Notification) : Option Document :=
  told.foldl (Notification.documentAfter uri) none

/-- The configuration that is pushed. -/
def Notification.configuration? : Notification → Option Json
  | .configurationChanged configuration => some configuration
  | .initialized | .foldersChanged .. | .opened .. | .edited .. | .closed _ | .ignored => none

/-- The settings that were pushed last, or the defaults. -/
def sharedSettings (told : List Notification) : Settings :=
  ((told.reverse.findSome? Notification.configuration?).map pushedSettings).getD .default

theorem currentDocument_append_singleton (uri : Uri) (told : List Notification)
    (notification : Notification) :
    currentDocument uri (told ++ [notification]) =
      notification.documentAfter uri (currentDocument uri told) := by
  rw [currentDocument, List.foldl_append, List.foldl_cons, List.foldl_nil, currentDocument]

theorem sharedSettings_append_singleton (told : List Notification) (notification : Notification) :
    sharedSettings (told ++ [notification]) =
      (notification.configuration?.map pushedSettings).getD (sharedSettings told) := by
  unfold sharedSettings
  rw [List.reverse_append, List.reverse_singleton, List.singleton_append, List.findSome?_cons]
  cases notification.configuration? <;> rfl

@[simp] theorem View.document_told (uri : Uri) (view : View) (notification : Notification) :
    (view.told uri notification).document = notification.documentAfter uri view.document := by
  cases notification <;> unfold told Notification.documentAfter <;> dsimp only <;>
    (try split) <;> rfl

/-! ## What was sent -/

/-- The diagnostics and the version that a message sends for a document. -/
def Message.diagnostics? (uri : Uri) : Message → Option (List Diagnostic × Option Int)
  | .diagnostics other found version => if other = uri then some (found, version) else none
  | .notice .. | .ask _ => none

/-- The diagnostics and the version that were sent last for a document. -/
def shown? (uri : Uri) (sent : List Message) : Option (List Diagnostic × Option Int) :=
  sent.reverse.findSome? (Message.diagnostics? uri)

theorem shown?_append (uri : Uri) (first second : List Message) :
    shown? uri (first ++ second) = (shown? uri second).or (shown? uri first) := by
  rw [shown?, List.reverse_append, List.findSome?_append]
  rfl

theorem shown?_singleton (uri : Uri) (message : Message) :
    shown? uri [message] = message.diagnostics? uri := by
  simp [shown?]

theorem shown?_cons (uri : Uri) (message : Message) (later : List Message) :
    shown? uri (message :: later) = (shown? uri later).or (message.diagnostics? uri) := by
  rw [← List.singleton_append, shown?_append, shown?_singleton]

/-- Only messages about a document matter for what is shown for it. -/
theorem shown?_messagesAbout (uri : Uri) (events : List Event) :
    shown? uri (messagesAbout uri events) = shown? uri (messages events) := by
  unfold messagesAbout
  induction messages events with
  | nil => rfl
  | cons message rest ih =>
      by_cases habout : message.uri? = some uri
      · rw [List.filter_cons_of_pos (by simpa using habout), shown?_cons, shown?_cons, ih]
      · have hnone : message.diagnostics? uri = none := by
          cases message <;> simp_all [Message.diagnostics?, Message.uri?]
        rw [List.filter_cons_of_neg (by simpa using habout), ih, shown?_cons, hnone, Option.or_none]

theorem ask_mem_messagesAbout_iff {uri : Uri} {events : List Event} :
    .ask (.settings uri) ∈ messagesAbout uri events ↔ .ask (.settings uri) ∈ messages events := by
  simp [messagesAbout, Message.uri?]

/-! ## The beginning -/

variable [UriReading]

theorem Phase.after_ne_uninitialized {phase : Phase} (hbegun : phase ≠ .uninitialized)
    (call : Call) : phase.after call ≠ .uninitialized := by
  unfold after
  split
  · simp
  · simp [hbegun]
  · split <;> simp [hbegun]
  · exact hbegun

/-- The call that begins a session tells nothing by itself. -/
theorem heard_begin {begin : Step} {abilities : Bool × Bool}
    (hbegin : begin.call.connects? = some abilities) (steps : List Step) :
    heard .uninitialized (begin :: steps) = heard .ready steps := by
  obtain ⟨hmethod, -, -⟩ := Call.connects?_eq_some hbegin
  have hafter : Phase.uninitialized.after begin.call = .ready := by
    simp [Phase.after, hmethod, hbegin]
  rw [heard, hafter]
  rfl

namespace Server

/-- The call that begins a session fixes what is known of the editor, and nothing is sent. -/
theorem step_begin {begin : Step} {asksForSettings hasFolders : Bool}
    (hbegin : begin.call.connects? = some (asksForSettings, hasFolders)) :
    ∃ reaction events, messages events = [] ∧
      fresh.step begin =
        ⟨reaction, { fresh with phase := .ready, asksForSettings, hasFolders }, events⟩ := by
  obtain ⟨hmethod, hkind, hparams⟩ := Call.connects?_eq_some hbegin
  obtain ⟨events, hconnect, hsilent⟩ := exists_connect_eq asksForSettings hasFolders
  refine ⟨.responded (.ok (.capabilities hasFolders)), events, hsilent, ?_⟩
  have hphase : fresh.phase = .uninitialized := rfl
  rw [step, receive, if_neg (by simp [hphase]), accept, hmethod]
  dsimp only
  rw [receiveConnect, if_pos hphase, hparams, hkind]
  dsimp only
  rw [hconnect]
  simp [Activity.map, Activity.andThen]

/-- The phase of a server moves on as the calls say. -/
theorem phase_step {server : Server} {next : Step} (hbegun : server.phase ≠ .uninitialized) :
    (server.step next).server.phase = server.phase.after next.call := by
  -- any document will do
  have uri : Uri := ⟨""⟩
  have hcase : StepCase uri server next := step_cases uri hbegun
  cases hcase with
  | told notification hhears hview hmessages =>
      obtain ⟨-, hcall⟩ := Phase.hears?_eq_some hhears
      obtain ⟨cached, hnoted⟩ :=
        View.exists_note_eq uri (next.replies (.settings uri)) (server.view uri) notification
      have hphase := congrArg View.phase (hview.trans hnoted)
      rw [Phase.after_of_notification hcall]
      exact hphase.trans (View.phase_told uri _ notification)
  | laidOut tabSize hhears hserves hvalue hview hmessages =>
      obtain ⟨-, hcall⟩ := Phase.serves?_eq_some hserves
      obtain ⟨cached, hlaidOut⟩ :=
        View.exists_format_eq uri tabSize (next.replies (.settings uri)) (server.view uri)
      rw [Phase.after_of_request hcall]
      exact congrArg View.phase (hview.trans hlaidOut)
  | unseen hhears hserves hview hmessages => exact congrArg View.phase hview

theorem begun_step {server : Server} (hbegun : server.phase ≠ .uninitialized) (next : Step) :
    (server.step next).server.phase ≠ .uninitialized := by
  rw [phase_step hbegun]
  exact Phase.after_ne_uninitialized hbegun next.call

/-- A session that has begun does not begin again. -/
theorem begun_run {server : Server} (hbegun : server.phase ≠ .uninitialized) (steps : List Step) :
    (server.afterRun steps).phase ≠ .uninitialized := by
  induction steps generalizing server with
  | nil => exact hbegun
  | cons next rest ih => exact ih (begun_step hbegun next)

end Server

end PolicyEditing
