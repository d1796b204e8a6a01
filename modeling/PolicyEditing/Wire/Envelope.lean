import PolicyEditing.Json.Writer
import PolicyEditing.Session.Receive
import PolicyEditing.Text.Blank
import PolicyEditing.Wire.Answer
import PolicyEditing.Wire.Message

/-!
# Envelopes

How calls, responses, questions and replies are told apart on one line of communication, and how
they are framed there.  A call has a method, and an id if it waits for a response; what has an id
and no method is a reply to the question with that id.

A frame is a header with the length of its body in bytes, a blank line, and the body.
-/

namespace PolicyEditing

/-- What comes in from the editor. -/
inductive Incoming where
  | call (id : Option Json) (call : Call)
  | reply (id : Json) (reply : Reply)

namespace Incoming

/-- The error of a reply. -/
def errorOfJson (value : Json) : RequestError where
  code := (value.required? (Json.asIntWithin? (-wordSize 63) (wordSize 63)) "code").getD 0
  message := (value.required? Json.asString? "message").getD ""

/-- What a JSON object says. -/
def ofJson? (value : Json) : Option Incoming := do
  let id := value.field? "id"
  match value.field? "method" with
  | some method =>
    let method ← method.asString?
    let kind := if id.isSome then CallKind.request else .notification
    some (.call id { kind, method, params := value.field? "params" })
  | none =>
    match value.field? "error" with
    | some error => some (.reply (← id) (.error (errorOfJson error)))
    | none => some (.reply (← id) (.result (← value.field? "result")))

end Incoming

namespace Envelope

def marked (fields : List (String × Json)) : Json :=
  .ofFields (("jsonrpc", .string "2.0") :: fields)

def response (id : Json) : Response → Json
  | .ok answer => marked [("id", id), ("result", answer.toJson)]
  | .error refusal => marked [("id", id), ("error", refusal.toJson)]

/-- The response to what cannot be read. -/
def unreadable : Json :=
  marked
    [("id", .null),
      ("error", .object [("code", .int (-32700)), ("message", .string "Parse error")])]

/-- A message that waits for no reply. -/
def message (message : Message) : Json :=
  marked [("method", .string message.method), ("params", message.params)]

/-- A question with the id that its reply will have. -/
def question (id : Json) (question : Question) : Json :=
  marked [("id", id), ("method", .string question.method), ("params", question.params)]

/-! ## Frames -/

def lengthHeader : Text := "content-length:".toList

/-- The length in one line of a header, if the line gives it. -/
def lengthOfLine? (line : String) : Option Nat :=
  let line := line.toList
  if lengthHeader.isPrefixOf (line.map Char.toLower) then
    (String.ofList (Text.trim (line.drop lengthHeader.length))).toNat?
  else none

/-- The length in the lines of a header. -/
def length? (header : List String) : Option Nat :=
  header.findSome? lengthOfLine?

/-- A value in its frame. -/
def frame (value : Json) : String :=
  let body := value.write
  "Content-Length: " ++ toString body.utf8ByteSize ++ "\r\n\r\n" ++ body

end Envelope

end PolicyEditing
