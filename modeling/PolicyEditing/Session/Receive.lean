import PolicyEditing.Session.Handlers
import PolicyEditing.Session.Method

/-!
# Receiving calls

A call is handled according to the phase of the session.  Names that no method has are refused in
every phase; a request for something that only tells, and the other way round, is never carried
out.
-/

namespace PolicyEditing

namespace Server

variable [UriReading]

/-- Answers a call without doing anything.  Only a request gets the answer. -/
def respond (kind : CallKind) (response : Response) (server : Server) :
    Activity Reaction :=
  match kind with
  | .request => .done (.responded response) server []
  | .notification => .done .silent server []

/-- Refuses a call that does not fit the phase of the session. -/
def refusePhase (kind : CallKind) (server : Server) : Activity Reaction :=
  server.respond kind <| .error <|
    if server.phase = .uninitialized then .notInitialized else .invalidRequest

/-- Carries out a request. -/
def serve (request : Request) (server : Server) : Activity Response :=
  match request with
  | .hover uri position => .done (.ok (.explanation (server.hover? uri position))) server []
  | .complete =>
    let items := Completion.items
    .done (.ok (.completions items)) server
      [.log .debug ("Returning " ++ toString items.length ++ " completion items")]
  | .resolve item => .done (.ok (.resolved item.resolve)) server []
  | .format uri tabSize => (server.format uri tabSize).map fun edits => .ok (.layout edits)
  | .unsupported => .done (.error .unsupportedMethod) server []

/-- Takes note of what the editor tells. -/
def note (notification : Notification) (server : Server) : Activity Unit :=
  match notification with
  | .initialized => server.initialized
  | .configurationChanged configuration => server.configurationChanged configuration
  | .foldersChanged added removed => server.foldersChanged added removed
  | .opened uri document => server.opened uri document
  | .edited uri version changes => server.edited uri version changes
  | .closed uri => server.closed uri
  | .ignored => .done () server []

/-- Handles the call that begins a session. -/
def receiveConnect (call : Call) (server : Server) : Activity Reaction :=
  if server.phase = .uninitialized then
    match call.params.bind Params.abilities? with
    | none => server.respond call.kind (.error .invalidParams)
    | some (asksForSettings, hasFolders) =>
      match call.kind with
      | .notification => .done .silent server []
      | .request =>
        (server.connect asksForSettings hasFolders).map fun _ =>
          .responded (.ok (.capabilities hasFolders))
  else server.respond call.kind (.error .invalidRequest)

/-- Handles the call that ends the work of the server.  The work ends whatever the form of the
call. -/
def receiveShutDown (call : Call) (server : Server) : Activity Reaction :=
  if server.phase = .ready then
    let server := { server with phase := .shutDown }
    match call.kind, call.params with
    | .notification, _ => .done .silent server []
    | .request, some _ => .done (.responded (.error .invalidParams)) server []
    | .request, none =>
      .done (.responded (.ok .nothing)) server [.log .info "Shutdown requested"]
  else server.refusePhase call.kind

/-- Handles a call in the middle of a session. -/
def receiveReady (method : Method) (call : Call) (server : Server) : Activity Reaction :=
  match method, call.kind with
  | .request read, .request =>
    match call.params.bind read with
    | none => .done (.responded (.error .invalidParams)) server []
    | some request => (server.serve request).map .responded
  | .notification read, .notification =>
    match call.params.bind read with
    | none => .done .silent server []
    | some notification => (server.note notification).map fun _ => .silent
  | _, kind => server.respond kind (.error .invalidRequest)

/-- Handles a call. -/
def accept (call : Call) (server : Server) : Activity Reaction :=
  match Method.ofName? call.method with
  | none =>
    if Method.isOptional call.method then .done .silent server []
    else server.respond call.kind (.error (.unknownMethod call.method))
  | some .exit => .done .silent { server with phase := .exited } []
  | some .connect => server.receiveConnect call
  | some .shutDown => server.receiveShutDown call
  | some method =>
    if server.phase = .ready then server.receiveReady method call
    else server.refusePhase call.kind

/-- Handles a call, unless the server has exited: then it takes no more calls. -/
def receive (call : Call) (server : Server) : Activity Reaction :=
  if server.phase = .exited then .done .gone server [] else server.accept call

end Server

end PolicyEditing
