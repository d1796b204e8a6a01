import PolicyEditing.Session.Event
import PolicyEditing.Session.Server

/-!
# Activities

Handling a message is an activity: it runs to its end, or up to a question to the editor.  While the
editor thinks about its reply the server may handle other messages, so an activity goes on from the
state that it finds when the reply comes.

`run` is the case without other messages: every question is answered at once.
-/

namespace PolicyEditing

/-- The handling of a message up to its end or up to a question. -/
inductive Activity (α : Type) where
  | done (value : α) (server : Server) (events : List Event)
  | asking (question : Question) (server : Server) (events : List Event)
    (resume : Reply → Server → Activity α)

/-- What a finished activity leaves behind. -/
structure Outcome (α : Type) where
  value : α
  server : Server
  events : List Event

namespace Activity

variable {α β : Type}

/-- An activity with earlier events in front of its own. -/
def after (earlier : List Event) : Activity α → Activity α
  | done value server events => done value server (earlier ++ events)
  | asking question server events resume => asking question server (earlier ++ events) resume

/-- One activity and then another, which depends on the value of the first. -/
def andThen (next : α → Server → Activity β) : Activity α → Activity β
  | done value server events => (next value server).after events
  | asking question server events resume =>
    asking question server events fun reply server => (resume reply server).andThen next

def map (f : α → β) (activity : Activity α) : Activity β :=
  activity.andThen fun value server => done (f value) server []

/-- Runs an activity to its end.  A question is sent when the activity comes to it. -/
def run (replies : Question → Reply) : Activity α → Outcome α
  | done value server events => ⟨value, server, events⟩
  | asking question server events resume =>
    let rest := (resume (replies question) server).run replies
    { rest with events := events ++ .sent (.ask question) :: rest.events }

/-! ## Running a composed activity -/

@[simp] theorem run_done (replies : Question → Reply) (value : α) (server : Server)
    (events : List Event) : (done value server events).run replies = ⟨value, server, events⟩ :=
  rfl

@[simp] theorem run_after (replies : Question → Reply) (earlier : List Event)
    (activity : Activity α) :
    (activity.after earlier).run replies =
      { activity.run replies with events := earlier ++ (activity.run replies).events } := by
  cases activity <;> simp [after, run]

theorem run_andThen (replies : Question → Reply) (next : α → Server → Activity β)
    (activity : Activity α) :
    (activity.andThen next).run replies =
      let first := activity.run replies
      let second := (next first.value first.server).run replies
      { second with events := first.events ++ second.events } := by
  induction activity with
  | done value server events => simp [andThen]
  | asking question server events resume ih => simp [andThen, run, ih]

end Activity

end PolicyEditing
