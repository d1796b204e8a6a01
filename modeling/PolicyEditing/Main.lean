import PolicyEditing.Json.Reader
import PolicyEditing.Session.Conversation
import PolicyEditing.Wire.Envelope

/-!
# The program

Speaks with an editor over standard input and output; the log goes to the standard error.  Calls are
handled as they come in, also while others wait for the reply to a question; only when too many of
them wait, later ones are put off.
-/

namespace PolicyEditing

/-- The lines to and from the editor. -/
structure Connection where
  input : IO.FS.Stream
  output : IO.FS.Stream
  log : IO.FS.Stream

namespace Connection

/-- The largest number of calls that are handled at the same time. -/
def handlingLimit : Nat := 4

def send (connection : Connection) (value : Json) : IO Unit := do
  connection.output.putStr (Envelope.frame value)
  connection.output.flush

/-- Makes events happen.  Only what matters to a user is logged. -/
def perform (connection : Connection) (events : List Event) : IO Unit :=
  events.forM fun event => match event with
    | .sent message => connection.send (Envelope.message message)
    | .logged entry =>
      match entry.level with
      | .trace | .debug => pure ()
      | .info | .warn => connection.log.putStrLn entry.write

/-- Reads the lines of a header, or nothing at the end of the input. -/
partial def readHeader? (connection : Connection) (lines : List String) :
    IO (Option (List String)) := do
  let line ← connection.input.getLine
  if line.isEmpty then return none
  if line = "\r\n" ∨ line = "\n" then return some lines.reverse
  connection.readHeader? (line :: lines)

partial def readBytes (connection : Connection) (count : Nat) (before : ByteArray) :
    IO ByteArray := do
  if count ≤ before.size then return before
  let more ← connection.input.read (count - before.size).toUSize
  if more.isEmpty then return before
  connection.readBytes count (before ++ more)

partial def next? (connection : Connection) : IO (Option Incoming) := do
  match ← connection.readHeader? [] with
  | none => return none
  | some header =>
    let bytes ← connection.readBytes ((Envelope.length? header).getD 0) .empty
    let value := (String.fromUTF8? bytes).bind fun body => Json.read? body.toList
    match value.bind Incoming.ofJson? with
    | some incoming => return some incoming
    | none =>
      connection.send Envelope.unreadable
      connection.next?

/-- Makes happen what a move leads to. -/
def conclude (connection : Connection) (turn : Turn (Option Json)) : IO Unit := do
  connection.perform turn.events
  match turn.progress with
  | .asks number question => connection.send (Envelope.question (.nat number) question)
  | .ended id (.responded response) =>
    connection.send (Envelope.response (id.getD .null) response)
  | .ended _ .silent | .ended _ .gone | .unchanged => return

/-- Takes the next move, given the calls that are put off, and gives those that are put off then.
Nothing is given when the input ends. -/
partial def nextMove? (connection : Connection) (conversation : Conversation (Option Json))
    (putOff : List (Move (Option Json))) :
    IO (Option (Move (Option Json) × List (Move (Option Json)))) := do
  let isFree : Bool := conversation.waiting.length < handlingLimit
  match isFree, putOff with
  | true, oldest :: rest => return some (oldest, rest)
  | _, _ =>
    match ← connection.next? with
    | none => return none
    | some (.reply id reply) =>
      match id.asUnsigned64? with
      | none => connection.nextMove? conversation putOff
      | some number => return some (.reply number reply, putOff)
    | some (.call id call) =>
      if isFree then return some (.call id call, putOff)
      connection.nextMove? conversation (putOff ++ [.call id call])

/-- Takes moves until the server exits or the input ends. -/
partial def serve (connection : Connection) (conversation : Conversation (Option Json))
    (putOff : List (Move (Option Json))) : IO Unit := do
  match ← connection.nextMove? conversation putOff with
  | none => return
  | some (next, putOff) =>
    let turn := conversation.move next
    connection.conclude turn
    match turn.progress with
    | .ended _ .gone => return
    | _ => connection.serve turn.conversation putOff

/-- Serves an editor until it goes away. -/
def run : IO Unit := do
  let connection : Connection :=
    { input := ← IO.getStdin, output := ← IO.getStdout, log := ← IO.getStderr }
  connection.log.putStrLn "INFO Starting guard-lsp server"
  connection.serve .fresh []
  connection.log.putStrLn "INFO guard-lsp server stopped"

end Connection

end PolicyEditing

def main : IO Unit :=
  PolicyEditing.Connection.run
