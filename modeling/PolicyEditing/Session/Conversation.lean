import PolicyEditing.Session.Receive

/-!
# Conversations

An editor may go on telling and asking while a question waits for its reply, and it may reply to
questions in any order.  A conversation keeps the calls whose handling waits.  A call is handled as
soon as it comes in, up to its end or up to a question; a reply takes up the handling that asked, at
the state that the server has by then.
-/

namespace PolicyEditing

/-- The handling of a call that waits for a reply. -/
structure Waiting (Caller : Type) where
  /-- The number of its question, by which the reply names it. -/
  number : Nat
  question : Question
  caller : Caller
  resume : Reply → Server → Activity Reaction

/-- A server, and the calls whose handling waits, the oldest question first. -/
structure Conversation (Caller : Type) where
  server : Server
  /-- The number of questions so far, which is the number of the next one. -/
  asked : Nat
  waiting : List (Waiting Caller)
  numbered : (waiting.map Waiting.number ++ [asked]).Pairwise (· < ·)

/-- How far the handling of a call has come. -/
inductive Progress (Caller : Type) where
  | ended (caller : Caller) (reaction : Reaction)
  | asks (number : Nat) (question : Question)
  /-- No call was handled. -/
  | unchanged

/-- What the editor sends: a call, or the reply to a question. -/
inductive Move (Caller : Type) where
  | call (caller : Caller) (call : Call)
  | reply (number : Nat) (reply : Reply)

/-- What a move leads to. -/
structure Turn (Caller : Type) where
  conversation : Conversation Caller
  events : List Event
  progress : Progress Caller

namespace Conversation

variable {Caller : Type}

/-- A conversation before its first call. -/
def fresh : Conversation Caller where
  server := .fresh
  asked := 0
  waiting := []
  numbered := List.pairwise_singleton _ _

/-! ## Questions -/

theorem numbered_ask {numbers : List Nat} {asked : Nat}
    (hnumbered : (numbers ++ [asked]).Pairwise (· < ·)) :
    (numbers ++ [asked] ++ [asked + 1]).Pairwise (· < ·) := by
  refine List.pairwise_append.mpr ⟨hnumbered, List.pairwise_singleton _ _, ?_⟩
  intro number hnumber next hnext
  rw [List.mem_singleton] at hnext
  rcases List.mem_append.mp hnumber with hearlier | hlast
  · have hlt := (List.pairwise_append.mp hnumbered).2.2 number hearlier asked List.mem_cons_self
    omega
  · rw [List.mem_singleton] at hlast
    omega

/-- All questions that wait for a reply are older than the next one. -/
theorem number_lt {conversation : Conversation Caller} {waiting : Waiting Caller}
    (hwaiting : waiting ∈ conversation.waiting) : waiting.number < conversation.asked := by
  obtain ⟨-, -, hlt⟩ := List.pairwise_append.mp conversation.numbered
  exact hlt waiting.number (List.mem_map_of_mem hwaiting) _ List.mem_cons_self

/-- The conversation with one more call that waits. -/
def ask (question : Question) (caller : Caller) (resume : Reply → Server → Activity Reaction)
    (conversation : Conversation Caller) : Conversation Caller where
  server := conversation.server
  asked := conversation.asked + 1
  waiting := conversation.waiting ++ [⟨conversation.asked, question, caller, resume⟩]
  numbered := by
    rw [List.map_append]
    exact numbered_ask conversation.numbered

/-- The conversation without the calls that wait for a reply to a question. -/
def drop (number : Nat) (conversation : Conversation Caller) : Conversation Caller where
  server := conversation.server
  asked := conversation.asked
  waiting := conversation.waiting.filter fun waiting => waiting.number ≠ number
  numbered := conversation.numbered.sublist ((List.filter_sublist.map _).append_right _)

/-! ## Moves -/

/-- Handles a call as far as it comes without a reply. -/
def proceed (caller : Caller) (conversation : Conversation Caller) :
    Activity Reaction → Turn Caller
  | .done reaction server events => ⟨{ conversation with server }, events, .ended caller reaction⟩
  | .asking question server events resume =>
    ⟨ask question caller resume { conversation with server }, events,
      .asks conversation.asked question⟩

/-- The handling that waits for a reply.  Nothing waits any more when the server has exited. -/
def waitingFor? (number : Nat) (conversation : Conversation Caller) : Option (Waiting Caller) :=
  if conversation.server.phase = .exited then none
  else conversation.waiting.find? fun waiting => waiting.number = number

variable [UriReading]

/-- Takes what the editor sends.  A reply to nothing that waits is passed over. -/
def move (conversation : Conversation Caller) : Move Caller → Turn Caller
  | .call caller call => conversation.proceed caller (conversation.server.receive call)
  | .reply number reply =>
    match conversation.waitingFor? number with
    | none => ⟨conversation, [], .unchanged⟩
    | some waiting =>
      (conversation.drop number).proceed waiting.caller
        (waiting.resume reply conversation.server)

/-- What some moves lead to, one after the other. -/
def turns (conversation : Conversation Caller) : List (Move Caller) → List (Turn Caller)
  | [] => []
  | next :: rest =>
    let turn := conversation.move next
    turn :: turn.conversation.turns rest

/-- The conversation after some moves. -/
def afterMoves (conversation : Conversation Caller) (moves : List (Move Caller)) :
    Conversation Caller :=
  moves.foldl (fun conversation next => (conversation.move next).conversation) conversation

end Conversation

end PolicyEditing
