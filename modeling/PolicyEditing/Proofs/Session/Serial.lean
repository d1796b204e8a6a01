import PolicyEditing.Proofs.Session.Lateness
import PolicyEditing.Session.Run

/-!
# Conversations without overlap

An editor that replies to every question before it sends the next call leads a conversation that is
a run: what happens, and what each call comes to, is what happens when every call is handled to its
end (`serialMoves_run`).  So what holds of all runs holds of these conversations.

Other calls may wait the whole time: a reply names the question that it belongs to, and nobody else
waits for the newest one.  That a reply is taken at all needs a server that has not exited.  This is
so, because handling asks only in the middle of a session, and no reply moves the phase on
(`asksInSession_receive`).
-/

namespace PolicyEditing

variable {Caller : Type}

/-- The replies to all questions of an activity, given one by one, from a number on. -/
def Activity.answers {α : Type} (replies : Question → Reply) (asked : Nat) :
    Activity α → List (Move Caller)
  | .done .. => []
  | .asking question server _ resume =>
    .reply asked (replies question) ::
      (resume (replies question) server).answers replies (asked + 1)

namespace Turn

/-- What happens in a turn, and the question that it comes to. -/
def trace (turn : Turn Caller) : List Event :=
  turn.events ++ match turn.progress with
    | .asks _ question => [.sent (.ask question)]
    | .ended .. | .unchanged => []

/-- The call that is handled to its end. -/
def ended? (turn : Turn Caller) : Option (Caller × Reaction) :=
  match turn.progress with
  | .ended caller reaction => some (caller, reaction)
  | .asks .. | .unchanged => none

end Turn

/-! ## Questions in the middle of a session -/

/-- A handling that asks only while the server is there, now and when it is taken up again. -/
def AsksInSession (activity : Activity Reaction) : Prop :=
  ∃ reaction server events rest, activity = halt reaction server events rest ∧
    (rest ≠ none → server.phase ≠ .exited)

theorem asksInSession_receive [UriReading] (server : Server) (call : Call) :
    AsksInSession (server.receive call) := by
  cases hhears : server.phase.hears? call with
  | some notification =>
      obtain ⟨events, rest, hreceive, -⟩ := Server.receive_eq_halt_of_hears hhears
      refine ⟨.silent, server.told notification, events, rest, hreceive, fun _ => ?_⟩
      obtain ⟨hready, -⟩ := Phase.hears?_eq_some hhears
      rw [Server.phase_told, hready]
      decide
  | none =>
      cases hserves : server.phase.serves? call with
      | some request =>
          obtain ⟨hready, hcall⟩ := Phase.serves?_eq_some hserves
          obtain ⟨reaction, phase, _, _, events, rest, hreceive, -, -, hphase, -⟩ :=
            Server.receive_eq_halt hhears
          refine ⟨reaction, _, events, rest, hreceive, fun _ => ?_⟩
          dsimp only
          rw [hphase, Phase.after_of_request hcall, hready]
          decide
      | none =>
          obtain ⟨reaction, asksForSettings, hasFolders, events, -, -, hdone⟩ :=
            Server.idle_receive server hhears hserves
          exact ⟨reaction, _, events, none, hdone server.documents server.settings,
            fun h => absurd rfl h⟩

/-- A handling that waits for a reply goes on in the same session. -/
theorem AsksInSession.resume {question : Question} {server : Server} {events : List Event}
    {resume : Reply → Server → Activity Reaction}
    (hasks : AsksInSession (.asking question server events resume)) :
    server.phase ≠ .exited ∧ ∀ reply, AsksInSession (resume reply server) := by
  obtain ⟨reaction, server', events', rest, hhalt, hphase⟩ := hasks
  cases rest with
  | none => cases hhalt
  | some remainder =>
      cases hhalt
      have hpresent := hphase (Option.some_ne_none remainder)
      refine ⟨hpresent, fun reply => ?_⟩
      obtain ⟨reaction, events, rest, hresume, -⟩ := remainder.resume_eq_halt reply server
      refine ⟨reaction, _, events, rest, hresume, fun _ => ?_⟩
      obtain ⟨settings, hkeep⟩ := remainder.exists_keep_eq reply server
      rw [hkeep]
      exact hpresent

namespace Conversation

/-! ## The newest question -/

variable (conversation : Conversation Caller) (caller : Caller) (question : Question)
  (resume : Reply → Server → Activity Reaction)

/-- A reply to the newest question finds who asked it. -/
theorem waitingFor?_ask (hpresent : conversation.server.phase ≠ .exited) :
    (conversation.ask question caller resume).waitingFor? conversation.asked =
      some ⟨conversation.asked, question, caller, resume⟩ := by
  have hothers : conversation.waiting.find? (fun waiting => waiting.number = conversation.asked) =
      none := by
    rw [List.find?_eq_none]
    intro waiting hwaiting
    simpa using Nat.ne_of_lt (number_lt hwaiting)
  rw [waitingFor?, if_neg (by exact hpresent), ask, List.find?_append, hothers]
  simp

/-- Who asked last is the only one to stop waiting. -/
theorem waiting_drop_ask :
    ((conversation.ask question caller resume).drop conversation.asked).waiting =
      conversation.waiting := by
  have hothers : conversation.waiting.filter (fun waiting => waiting.number ≠ conversation.asked) =
      conversation.waiting := by
    rw [List.filter_eq_self]
    intro waiting hwaiting
    simpa using Nat.ne_of_lt (number_lt hwaiting)
  have hask : (conversation.ask question caller resume).waiting =
      conversation.waiting ++ [⟨conversation.asked, question, caller, resume⟩] := rfl
  change (conversation.ask question caller resume).waiting.filter _ = conversation.waiting
  rw [hask, List.filter_append, hothers]
  simp

/-! ## Replies at once -/

variable [UriReading]

/-- A handling whose questions are answered at once runs to its end, and leaves alone who waits. -/
theorem answered_proceed (replies : Question → Reply) {activity : Activity Reaction}
    (hasks : AsksInSession activity) (conversation : Conversation Caller) (caller : Caller) :
    let turn := conversation.proceed caller activity
    let moves := activity.answers replies conversation.asked
    let turns := turn :: turn.conversation.turns moves
    let outcome := activity.run replies
    (turn.conversation.afterMoves moves).server = outcome.server ∧
      (turn.conversation.afterMoves moves).waiting = conversation.waiting ∧
      turns.flatMap Turn.trace = outcome.events ∧
      turns.filterMap Turn.ended? = [(caller, outcome.value)] := by
  induction activity generalizing conversation with
  | done reaction server events =>
      refine ⟨rfl, rfl, ?_, rfl⟩
      simp [proceed, Activity.answers, turns, Turn.trace, Activity.run]
  | asking question server events resume ih =>
      obtain ⟨hpresent, hresume⟩ := hasks.resume
      let asking : Conversation Caller :=
        ask question caller resume { conversation with server }
      have hfound : asking.waitingFor? conversation.asked =
          some ⟨conversation.asked, question, caller, resume⟩ :=
        waitingFor?_ask { conversation with server } caller question resume hpresent
      have hmove : asking.move (.reply conversation.asked (replies question)) =
          (asking.drop conversation.asked).proceed caller (resume (replies question) server) := by
        rw [move, hfound]
        rfl
      have hothers : (asking.drop conversation.asked).waiting = conversation.waiting :=
        waiting_drop_ask { conversation with server } caller question resume
      obtain ⟨hserver, hwaiting, htrace, hended⟩ :=
        ih (replies question) server (hresume (replies question)) (asking.drop conversation.asked)
      rw [← hmove] at hserver hwaiting htrace hended
      refine ⟨hserver, hwaiting.trans hothers, ?_, ?_⟩
      · have hfirst : (conversation.proceed caller
            (.asking question server events resume)).trace =
              events ++ [.sent (.ask question)] := rfl
        rw [List.flatMap_cons, hfirst, List.append_assoc]
        exact congrArg (events ++ Event.sent (.ask question) :: ·) htrace
      · exact hended

/-- The moves of an editor that replies to all questions of a step before it takes the next one. -/
def serialMoves (conversation : Conversation Caller) :
    List (Caller × Step) → List (Move Caller)
  | [] => []
  | (caller, next) :: rest =>
    let moves := .call caller next.call ::
      (conversation.server.receive next.call).answers next.replies conversation.asked
    moves ++ (conversation.afterMoves moves).serialMoves rest

variable (conversation : Conversation Caller)

theorem afterMoves_append (first second : List (Move Caller)) :
    conversation.afterMoves (first ++ second) =
      (conversation.afterMoves first).afterMoves second :=
  List.foldl_append

theorem turns_append (first second : List (Move Caller)) :
    conversation.turns (first ++ second) =
      conversation.turns first ++ (conversation.afterMoves first).turns second := by
  induction first generalizing conversation with
  | nil => rfl
  | cons next rest ih => exact congrArg (conversation.move next :: ·) (ih _)

/-- **Without overlap, a conversation is a run.**  The server becomes what it becomes in the run,
who waited before still waits, the same things happen in the same order, and every caller gets the
reaction to its call. -/
theorem serialMoves_run (steps : List (Caller × Step)) :
    let moves := conversation.serialMoves steps
    let outcomes := conversation.server.run (steps.map Prod.snd)
    (conversation.afterMoves moves).server =
        conversation.server.afterRun (steps.map Prod.snd) ∧
      (conversation.afterMoves moves).waiting = conversation.waiting ∧
      (conversation.turns moves).flatMap Turn.trace = outcomes.flatMap Outcome.events ∧
      (conversation.turns moves).filterMap Turn.ended? =
        (steps.map Prod.fst).zip (outcomes.map Outcome.value) := by
  induction steps generalizing conversation with
  | nil => exact ⟨rfl, rfl, rfl, rfl⟩
  | cons step rest ih =>
      obtain ⟨caller, next⟩ := step
      intro moves outcomes
      let first : List (Move Caller) := .call caller next.call ::
        (conversation.server.receive next.call).answers next.replies conversation.asked
      let after := conversation.afterMoves first
      have hmoves : moves = first ++ after.serialMoves rest := rfl
      have houtcomes : outcomes = conversation.server.step next ::
          (conversation.server.step next).server.run (rest.map Prod.snd) := rfl
      obtain ⟨hserver, hwaiting, htrace, hended⟩ := answered_proceed next.replies
        (asksInSession_receive conversation.server next.call) conversation caller
      change (conversation.turns first).flatMap Turn.trace = _ at htrace
      change (conversation.turns first).filterMap Turn.ended? = _ at hended
      change after.server = (conversation.server.step next).server at hserver
      change after.waiting = conversation.waiting at hwaiting
      obtain ⟨hserver', hwaiting', htrace', hended'⟩ := ih after
      rw [hserver] at hserver' htrace' hended'
      rw [hmoves, afterMoves_append, turns_append, houtcomes, List.flatMap_append,
        List.filterMap_append, htrace, hended]
      refine ⟨hserver', hwaiting'.trans hwaiting, ?_, ?_⟩
      · exact congrArg _ htrace'
      · exact congrArg _ hended'

end Conversation

end PolicyEditing
