import PolicyEditing.Decimal.Style
import PolicyEditing.Json.Basic
import PolicyEditing.Text.Quoted
import PolicyEditing.Uri

/-!
# Why settings cannot be used

A value can have the wrong type, be negative where a count is wanted, or be a list that is too
long; and the editor can fail to answer.  Each cause has its own text.
-/

namespace PolicyEditing

/-- What a value is, as far as messages tell. -/
inductive Found where
  | null
  | bool (value : Bool)
  | integer (value : Int)
  | fraction (value : Binary64)
  | string (value : String)
  | sequence
  | map
deriving DecidableEq, Repr

namespace Found

/-- What a number is in the form in which it is kept. -/
def ofNumber (number : Number) : Found :=
  match number.stored with
  | .integer value => .integer value
  | .fraction value => .fraction value

/-- What a value is. -/
def ofJson : Json → Found
  | .null => .null
  | .bool value => .bool value
  | .number value => ofNumber value
  | .string value => .string value
  | .array _ => .sequence
  | .object _ => .map

/-- What a value is, in a message. -/
def describe : Found → String
  | .null => "null"
  | .bool true => "boolean `true`"
  | .bool false => "boolean `false`"
  | .integer value => "integer `" ++ toString value ++ "`"
  | .fraction value => "floating point `" ++ value.write ++ "`"
  | .string value => "string " ++ String.ofList (Text.quoted value.toList)
  | .sequence => "sequence"
  | .map => "map"

end Found

/-- What is wanted in the place of a value. -/
inductive Wanted where
  | count
  | flag
  | settings
  | sequence
  | nothing
deriving DecidableEq, Repr

def Wanted.describe : Wanted → String
  | .count => "usize"
  | .flag => "a boolean"
  | .settings => "struct GuardSettings"
  | .sequence => "a sequence"
  | .nothing => "unit"

/-- Why a value cannot be read. -/
inductive ReadFault where
  | wrongType (found : Found) (wanted : Wanted)
  | negativeCount (value : Int)
  | tooManyItems (length : Nat)
deriving DecidableEq, Repr

def ReadFault.message : ReadFault → String
  | .wrongType found wanted =>
    "invalid type: " ++ found.describe ++ ", expected " ++ wanted.describe
  | .negativeCount value =>
    "invalid value: " ++ (Found.integer value).describe ++ ", expected " ++ Wanted.count.describe
  | .tooManyItems length =>
    "invalid length " ++ toString length ++ ", expected fewer elements in array"

/-- An error of a request, with the code that says its kind. -/
structure RequestError where
  code : Int
  message : String
deriving DecidableEq, Repr

namespace RequestError

def kind (error : RequestError) : String :=
  if error.code = -32700 then "Parse error"
  else if error.code = -32600 then "Invalid request"
  else if error.code = -32601 then "Method not found"
  else if error.code = -32602 then "Invalid params"
  else if error.code = -32603 then "Internal error"
  else if error.code = -32800 then "Canceled"
  else if error.code = -32801 then "Content modified"
  else "Server error"

/-- The error of an answer that cannot be read. -/
def ofFault (fault : ReadFault) : RequestError := ⟨-32700, fault.message⟩

def describe (error : RequestError) : String :=
  error.kind ++ ": " ++ error.message

end RequestError

/-- Why there are no settings for a document. -/
inductive SettingsError where
  /-- The editor did not answer the request. -/
  | request (error : RequestError)
  /-- The editor's answer is empty. -/
  | missing (uri : Uri)
  /-- The editor's answer cannot be read. -/
  | invalid (fault : ReadFault)
deriving DecidableEq, Repr

def SettingsError.message : SettingsError → String
  | .request error => "configuration request failed: " ++ error.describe
  | .missing uri => "client returned no configuration for " ++ uri.text
  | .invalid fault => "invalid guard settings: " ++ fault.message

end PolicyEditing
