import PolicyEditing.Json.Basic
import PolicyEditing.Decimal.Style

/-!
# Writing JSON

A value is written without blanks and on one line: every character that some reader takes for a
line break is escaped.
-/

namespace PolicyEditing.Json

/-- A number of at most 16 bits in four hexadecimal digits. -/
def hexUnit (unit : Nat) : String :=
  let digits := Nat.toDigits 16 unit
  String.ofList (List.replicate (4 - digits.length) '0' ++ digits)

def writeChar (c : Char) : String :=
  match c with
  | '"' => "\\\""
  | '\\' => "\\\\"
  | '\n' => "\\n"
  | '\r' => "\\r"
  | '\t' => "\\t"
  | _ =>
    if c.toNat < 0x20 ∨ c.toNat = 0x85 ∨ c.toNat = 0x2028 ∨ c.toNat = 0x2029 then
      "\\u" ++ hexUnit c.toNat
    else c.toString

def writeString (value : String) : String :=
  value.toList.foldl (fun written c => written ++ writeChar c) "\"" ++ "\""

def writeNumber (value : Number) : String :=
  match value.stored with
  | .integer value => toString value
  | .fraction value => value.write

mutual

def write : Json → String
  | .null => "null"
  | .bool true => "true"
  | .bool false => "false"
  | .number value => writeNumber value
  | .string value => writeString value
  | .array items => "[" ++ ",".intercalate (writeItems items) ++ "]"
  | .object fields => "\x7b" ++ ",".intercalate (writeFields fields) ++ "\x7d"

def writeItems : List Json → List String
  | [] => []
  | item :: rest => write item :: writeItems rest

def writeFields : List (String × Json) → List String
  | [] => []
  | (name, value) :: rest => (writeString name ++ ":" ++ write value) :: writeFields rest

end

end PolicyEditing.Json
