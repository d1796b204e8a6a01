import PolicyEditing.Decimal.Binary64

/-!
# JSON values

The values that the editor and the server exchange.  An object is the list of its fields; `ofFields`
builds one with its names sorted and, where a name is given twice, with the last value.

The readers at the end take a value apart.  A reader gives nothing when the value has another
shape; `optional?` treats a missing field and `null` alike.
-/

namespace PolicyEditing

/-- A JSON number: a whole number as it is written, or a number with a fraction or an exponent. -/
inductive Number where
  | integer (value : Int)
  | fraction (value : Binary64)
deriving DecidableEq, Repr

/-- How many numbers have a given number of bits. -/
def wordSize (bits : Nat) : Nat := Nat.pow 2 bits

/-- The whole numbers that have an exact 64-bit form, signed or unsigned. -/
def Number.fitsWord (value : Int) : Bool :=
  -wordSize 63 ≤ value && value < wordSize 64

/-- The form in which a number is kept: a whole number beyond 64 bits becomes a fraction. -/
def Number.stored : Number → Number
  | .integer value =>
    if fitsWord value then .integer value
    else ((Binary64.ofInt? value).map .fraction).getD (.integer value)
  | .fraction value => .fraction value

/-- A JSON value. -/
inductive Json where
  | null
  | bool (value : Bool)
  | number (value : Number)
  | string (value : String)
  | array (items : List Json)
  | object (fields : List (String × Json))
deriving Inhabited

namespace Json

def int (value : Int) : Json := .number (.integer value)

def nat (value : Nat) : Json := .int value

/-! ## Objects -/

/-- Adds a field to fields with sorted names, in place of one with the same name. -/
def insertField (name : String) (value : Json) : List (String × Json) → List (String × Json)
  | [] => [(name, value)]
  | (other, old) :: rest =>
    if name < other then (name, value) :: (other, old) :: rest
    else if name = other then (name, value) :: rest
    else (other, old) :: insertField name value rest

/-- The object with the given fields, of which a later one overrides an earlier one. -/
def ofFields (fields : List (String × Json)) : Json :=
  .object (fields.foldl (fun sorted field => insertField field.1 field.2 sorted) [])

/-- The object of the fields that are present. -/
def ofOptionalFields (fields : List (String × Option Json)) : Json :=
  .object (fields.filterMap fun (name, value) => value.map (name, ·))

/-- An array with one item for each name stands for the object in which these are the names of the
items.  Any other value stands for itself. -/
def named (names : List String) : Json → Json
  | .array items =>
    if items.length = names.length then .object (names.zip items) else .array items
  | value => value

@[simp] theorem named_object (names : List String) (fields : List (String × Json)) :
    (object fields).named names = .object fields := rfl

def field? (name : String) : Json → Option Json
  | .object fields => fields.lookup name
  | _ => none

/-! ## Readers -/

def asObject? : Json → Option (List (String × Json))
  | .object fields => some fields
  | _ => none

def asString? : Json → Option String
  | .string value => some value
  | _ => none

/-- A name: a string, or the name of the only field of an object if that is `null`. -/
def asName? : Json → Option String
  | .string name | .object [(name, .null)] => some name
  | _ => none

def asBool? : Json → Option Bool
  | .bool value => some value
  | _ => none

/-- A whole number from `low` up to, and without, `high`. -/
def asIntWithin? (low high : Int) : Json → Option Int
  | .number (.integer value) => if low ≤ value ∧ value < high then some value else none
  | _ => none

def asSigned32? (value : Json) : Option Int :=
  value.asIntWithin? (-wordSize 31) (wordSize 31)

def asUnsigned32? (value : Json) : Option Nat :=
  (value.asIntWithin? 0 (wordSize 32)).map Int.toNat

def asUnsigned64? (value : Json) : Option Nat :=
  (value.asIntWithin? 0 (wordSize 64)).map Int.toNat

def asArray? : Json → Option (List Json)
  | .array items => some items
  | _ => none

/-- The items of an array, each taken apart by `read`. -/
def asListOf? {α : Type} (read : Json → Option α) (value : Json) : Option (List α) := do
  (← value.asArray?).mapM read

def required? {α : Type} (read : Json → Option α) (name : String) (value : Json) : Option α := do
  read (← value.field? name)

/-- A field that may be missing or `null`. -/
def optional? {α : Type} (read : Json → Option α) (name : String) (value : Json) :
    Option (Option α) :=
  match value.field? name with
  | none | some .null => some none
  | some present => (read present).map some

end Json

end PolicyEditing
