import PolicyEditing.Json.Basic
import PolicyEditing.Text.Basic

/-!
# Reading JSON

A text is read one character at a time by two machines in a row.  `Lexer` joins characters to
tokens, `Builder` joins tokens to a value, with the containers that are still open on a list.
Reading is therefore a fold over the text and ends with it.
-/

namespace PolicyEditing.Json

/-! ## Tokens -/

/-- The tokens of a JSON text. -/
inductive Token where
  | openArray | closeArray | openObject | closeObject | comma | colon
  | string (value : String)
  /-- A number or one of the three words. -/
  | atom (value : Json)

def digitValue (c : Char) : Nat := c.toNat - '0'.toNat

def ofDigits (digits : Text) : Nat :=
  digits.foldl (fun value c => 10 * value + digitValue c) 0

/-- Splits off the digits in front, of which there must be one. -/
def digits? (text : Text) : Option (Text × Text) :=
  match text.takeWhile Char.isDigit with
  | [] => none
  | digits => some (digits, text.dropWhile Char.isDigit)

def signed (text : Text) : Bool × Text :=
  match text with
  | '-' :: rest => (true, rest)
  | '+' :: rest => (false, rest)
  | _ => (false, text)

/-- The fraction after a point, if there is a point. -/
def fraction? : Text → Option (Option Text × Text)
  | '.' :: rest => (digits? rest).map fun (digits, rest) => (some digits, rest)
  | text => some (none, text)

/-- The power of ten after its mark, if there is a mark. -/
def power? : Text → Option (Option Int × Text)
  | c :: rest =>
    if c = 'e' ∨ c = 'E' then
      let (negative, rest) := signed rest
      (digits? rest).map fun (digits, rest) =>
        (some (if negative then -(ofDigits digits : Int) else ofDigits digits), rest)
    else some (none, c :: rest)
  | [] => some (none, [])

/-- The number that a literal stands for.  Minus zero has no whole form. -/
def number? (text : Text) : Option Number := do
  let (negative, text) := match text with
    | '-' :: rest => (true, rest)
    | _ => (false, text)
  let (whole, text) ← digits? text
  -- a leading zero stands alone
  if whole.head? = some '0' ∧ whole.length ≠ 1 then none
  let (fraction, text) ← fraction? text
  let (power, text) ← power? text
  if text ≠ [] then none
  match fraction, power with
  | none, none =>
    let value := ofDigits whole
    if negative then
      if value = 0 then some (.fraction (.zero true)) else some (.integer (-value))
    else some (.integer value)
  | _, _ =>
    let digits := (fraction.getD []).map digitValue
    (Binary64.ofDecimal? negative (whole.map digitValue) digits (power.getD 0)).map .fraction

def atom? (word : Text) : Option Json :=
  if word = "null".toList then some .null
  else if word = "true".toList then some (.bool true)
  else if word = "false".toList then some (.bool false)
  else (number? word).map .number

/-! ## From tokens to a value -/

/-- An open container that waits for a value. -/
inductive Frame where
  | item (before : List Json)
  | field (before : List (String × Json)) (name : String)

/-- What has been read, and what may come next.  Items and fields are kept last first. -/
inductive Builder where
  | wantsValue (frames : List Frame)
  | wantsFirstItem (frames : List Frame)
  | wantsItemEnd (before : List Json) (frames : List Frame)
  | wantsFirstName (frames : List Frame)
  | wantsName (before : List (String × Json)) (frames : List Frame)
  | wantsColon (before : List (String × Json)) (name : String) (frames : List Frame)
  | wantsFieldEnd (before : List (String × Json)) (frames : List Frame)
  | complete (value : Json)

namespace Builder

/-- Gives a finished value to the innermost open container. -/
def deliver (value : Json) : List Frame → Builder
  | [] => .complete value
  | .item before :: frames => .wantsItemEnd (value :: before) frames
  | .field before name :: frames => .wantsFieldEnd ((name, value) :: before) frames

/-- The start of a value. -/
def begin? (frames : List Frame) : Token → Option Builder
  | .openArray => some (.wantsFirstItem frames)
  | .openObject => some (.wantsFirstName frames)
  | .string value => some (deliver (.string value) frames)
  | .atom value => some (deliver value frames)
  | _ => none

/-- The next token. -/
def accept? : Builder → Token → Option Builder
  | .wantsValue frames, token => begin? frames token
  | .wantsFirstItem frames, .closeArray => some (deliver (.array []) frames)
  | .wantsFirstItem frames, token => begin? (.item [] :: frames) token
  | .wantsItemEnd before frames, .comma => some (.wantsValue (.item before :: frames))
  | .wantsItemEnd before frames, .closeArray => some (deliver (.array before.reverse) frames)
  | .wantsFirstName frames, .closeObject => some (deliver (.object []) frames)
  | .wantsFirstName frames, .string name => some (.wantsColon [] name frames)
  | .wantsName before frames, .string name => some (.wantsColon before name frames)
  | .wantsColon before name frames, .colon => some (.wantsValue (.field before name :: frames))
  | .wantsFieldEnd before frames, .comma => some (.wantsName before frames)
  | .wantsFieldEnd before frames, .closeObject => some (deliver (.ofFields before.reverse) frames)
  | _, _ => none

end Builder

/-! ## From characters to tokens -/

/-- The token that is being read.  The characters of a string are kept last first; `high` is the
first half of a surrogate pair that waits for its second half. -/
inductive Lexer where
  | between
  | word (read : Text)
  | string (read : Text) (high : Option Nat)
  | escape (read : Text) (high : Option Nat)
  | hex (read : Text) (high : Option Nat) (value count : Nat)

namespace Lexer

def hexValue? (c : Char) : Option Nat :=
  if c.isDigit then some (digitValue c)
  else if 'a' ≤ c ∧ c ≤ 'f' then some (c.toNat - 'a'.toNat + 10)
  else if 'A' ≤ c ∧ c ≤ 'F' then some (c.toNat - 'A'.toNat + 10)
  else none

def shortEscape? : Char → Option Char
  | '"' => some '"'
  | '\\' => some '\\'
  | '/' => some '/'
  | 'b' => some '\x08'
  | 'f' => some '\x0c'
  | 'n' => some '\n'
  | 'r' => some '\r'
  | 't' => some '\t'
  | _ => none

/-- Goes on after a UTF-16 unit was given by its number. -/
def afterUnit? (read : Text) (high : Option Nat) (unit : Nat) : Option Lexer :=
  match high with
  | none =>
    if 0xD800 ≤ unit ∧ unit < 0xDC00 then some (.string read (some unit))
    else if 0xDC00 ≤ unit ∧ unit < 0xE000 then none
    else some (.string (Char.ofNat unit :: read) none)
  | some first =>
    if 0xDC00 ≤ unit ∧ unit < 0xE000 then
      let code := 0x10000 + (first - 0xD800) * 0x400 + (unit - 0xDC00)
      some (.string (Char.ofNat code :: read) none)
    else none

/-- The next character outside of a word or a string. -/
def start? (builder : Builder) (c : Char) : Option (Lexer × Builder) :=
  match c with
  | ' ' | '\t' | '\n' | '\r' => some (.between, builder)
  | '[' => (builder.accept? .openArray).map (.between, ·)
  | ']' => (builder.accept? .closeArray).map (.between, ·)
  | '{' => (builder.accept? .openObject).map (.between, ·)
  | '}' => (builder.accept? .closeObject).map (.between, ·)
  | ',' => (builder.accept? .comma).map (.between, ·)
  | ':' => (builder.accept? .colon).map (.between, ·)
  | '"' => some (.string [] none, builder)
  | _ => some (.word [c], builder)

def isWordChar (c : Char) : Bool :=
  c.isAlphanum || c = '-' || c = '+' || c = '.'

/-- Ends a bare word, whose characters are given last first. -/
def endWord? (read : Text) (builder : Builder) : Option Builder := do
  builder.accept? (.atom (← atom? read.reverse))

def step? (state : Lexer × Builder) (c : Char) : Option (Lexer × Builder) :=
  let (lexer, builder) := state
  match lexer with
  | .between => start? builder c
  | .word read =>
    if isWordChar c then some (.word (c :: read), builder)
    else do start? (← endWord? read builder) c
  | .string read none =>
    if c = '"' then
      (builder.accept? (.string (String.ofList read.reverse))).map (.between, ·)
    else if c = '\\' then some (.escape read none, builder)
    else if c.toNat < 0x20 then none
    else some (.string (c :: read) none, builder)
  | .string read (some high) =>
    if c = '\\' then some (.escape read (some high), builder) else none
  | .escape read high =>
    if c = 'u' then some (.hex read high 0 0, builder)
    else if high.isSome then none
    else (shortEscape? c).map fun escaped => (.string (escaped :: read) none, builder)
  | .hex read high value count => do
    let unit := 16 * value + (← hexValue? c)
    if count = 3 then (afterUnit? read high unit).map (·, builder)
    else some (.hex read high unit (count + 1), builder)

/-- The value of a text that ends here. -/
def finish? (state : Lexer × Builder) : Option Json := do
  let builder ← match state with
    | (.between, builder) => some builder
    | (.word read, builder) => endWord? read builder
    | _ => none
  match builder with
  | .complete value => some value
  | _ => none

end Lexer

/-- The value that a text is written for, or nothing if the text is not JSON. -/
def read? (text : Text) : Option Json := do
  Lexer.finish? (← text.foldlM Lexer.step? (.between, .wantsValue []))

end PolicyEditing.Json
