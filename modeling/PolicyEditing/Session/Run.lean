import PolicyEditing.Session.Receive

/-!
# Runs of a session

A session with an editor that answers every question at once, so that each call is handled to its
end before the next one comes in.
-/

namespace PolicyEditing

/-- A call, and how the editor answers the questions that it leads to. -/
structure Step where
  call : Call
  replies : Question → Reply

namespace Server

variable [UriReading]

/-- Handles a call to its end. -/
def step (server : Server) (step : Step) : Outcome Reaction :=
  (server.receive step.call).run step.replies

/-- Handles some calls, one after the other, and gives what each of them leaves behind. -/
def run (server : Server) : List Step → List (Outcome Reaction)
  | [] => []
  | next :: rest =>
    let outcome := server.step next
    outcome :: outcome.server.run rest

/-- The state after some calls. -/
def afterRun (server : Server) (steps : List Step) : Server :=
  steps.foldl (fun server next => (server.step next).server) server

@[simp] theorem run_nil (server : Server) : server.run [] = [] := rfl

@[simp] theorem run_cons (server : Server) (next : Step) (rest : List Step) :
    server.run (next :: rest) = server.step next :: (server.step next).server.run rest :=
  rfl

@[simp] theorem afterRun_nil (server : Server) : server.afterRun [] = server := rfl

@[simp] theorem afterRun_cons (server : Server) (next : Step) (rest : List Step) :
    server.afterRun (next :: rest) = (server.step next).server.afterRun rest :=
  rfl

end Server

end PolicyEditing
