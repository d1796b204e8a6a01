import PolicyEditing.Session.Run

/-!
# What calls ask and tell

A server between the first and the last message of a session reacts to a call by what the call asks
for or tells, whatever else stands in it: `step_of_request` and `step_of_notification` take a step
of such a server apart, so that nothing behind them looks at methods and parameters.
-/

namespace PolicyEditing

variable [UriReading]

namespace Call

/-- What a call asks for in the middle of a session. -/
def request? (call : Call) : Option Request :=
  match Method.ofName? call.method, call.kind with
  | some (.request read), .request => call.params.bind read
  | _, _ => none

/-- What a call tells in the middle of a session. -/
def notification? (call : Call) : Option Notification :=
  match Method.ofName? call.method, call.kind with
  | some (.notification read), .notification => call.params.bind read
  | _, _ => none

theorem request?_eq_some {call : Call} {request : Request} (hcall : call.request? = some request) :
    ∃ read, Method.ofName? call.method = some (.request read) ∧ call.kind = .request ∧
      call.params.bind read = some request := by
  unfold request? at hcall
  split at hcall
  · rename_i read hmethod hkind
    exact ⟨read, hmethod, hkind, hcall⟩
  · simp at hcall

theorem notification?_eq_some {call : Call} {notification : Notification}
    (hcall : call.notification? = some notification) :
    ∃ read, Method.ofName? call.method = some (.notification read) ∧ call.kind = .notification ∧
      call.params.bind read = some notification := by
  unfold notification? at hcall
  split at hcall
  · rename_i read hmethod hkind
    exact ⟨read, hmethod, hkind, hcall⟩
  · simp at hcall

end Call

namespace Server

theorem receive_of_request {server : Server} {call : Call} {request : Request}
    (hready : server.phase = .ready) (hcall : call.request? = some request) :
    server.receive call = (server.serve request).map .responded := by
  obtain ⟨read, hmethod, hkind, hparams⟩ := Call.request?_eq_some hcall
  simp [receive, accept, receiveReady, hready, hmethod, hkind, hparams]

theorem receive_of_notification {server : Server} {call : Call} {notification : Notification}
    (hready : server.phase = .ready) (hcall : call.notification? = some notification) :
    server.receive call = (server.note notification).map fun _ => .silent := by
  obtain ⟨read, hmethod, hkind, hparams⟩ := Call.notification?_eq_some hcall
  simp [receive, accept, receiveReady, hready, hmethod, hkind, hparams]

/-- A request is carried out and answered. -/
theorem step_of_request {server : Server} {next : Step} {request : Request}
    (hready : server.phase = .ready) (hcall : next.call.request? = some request) :
    server.step next =
      let outcome := (server.serve request).run next.replies
      ⟨.responded outcome.value, outcome.server, outcome.events⟩ := by
  rw [step, receive_of_request hready hcall, Activity.map, Activity.run_andThen]
  simp

/-- What is told is taken note of, without an answer. -/
theorem step_of_notification {server : Server} {next : Step} {notification : Notification}
    (hready : server.phase = .ready) (hcall : next.call.notification? = some notification) :
    server.step next =
      let outcome := (server.note notification).run next.replies
      ⟨.silent, outcome.server, outcome.events⟩ := by
  rw [step, receive_of_notification hready hcall, Activity.map, Activity.run_andThen]
  simp

end Server

end PolicyEditing
