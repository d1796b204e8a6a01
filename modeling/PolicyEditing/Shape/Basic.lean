import PolicyEditing.Json.Basic
import PolicyEditing.Uri

/-!
# Shapes of JSON values

A shape says what a JSON value must look like to be of use.  A record is an object with certain
fields, or an array with the values of all of its fields in their order; fields that it does not
name do not matter.  An open record is only ever an object, and whatever fields it does not name
have a shape of their own.

`admits` decides whether a value has a shape.
-/

namespace PolicyEditing

/-- What a JSON value looks like. -/
inductive Shape where
  | anything
  | boolean
  /-- A whole number from `low` up to, and without, `high`. -/
  | whole (low high : Int)
  | number
  | string
  /-- A certain string. -/
  | exactly (text : String)
  | uri
  /-- One of the given names: as a string, or as an object with this one field, which is `null`. -/
  | oneOf (names : List String)
  | listOf (item : Shape)
  /-- An array of two values of the same shape. -/
  | twoOf (item : Shape)
  /-- An object whose field names are addresses. -/
  | byUri (value : Shape)
  /-- A value or `null`.  A field of this shape may also be missing. -/
  | optional (shape : Shape)
  /-- A value that has a default.  A field of this shape may be missing, also at the end of an
  array. -/
  | defaulted (shape : Shape)
  | either (first second : Shape)
  | record (fields : List (String × Shape))
  | openRecord (fields : List (String × Shape)) (others : Shape)

namespace Shape

/-- Whether an object may lack a field of this shape. -/
def mayBeMissing : Shape → Bool
  | optional _ | defaulted _ => true
  | _ => false

/-- Whether an array may end before a field of this shape. -/
def mayBeCut : Shape → Bool
  | defaulted _ => true
  | _ => false

variable [UriReading]

mutual

/-- Whether a value has a shape. -/
def admits (shape : Shape) (value : Json) : Bool :=
  match shape with
  | anything => true
  | boolean => value.asBool?.isSome
  | whole low high => (value.asIntWithin? low high).isSome
  | number =>
    match value with
    | .number _ => true
    | _ => false
  | string => value.asString?.isSome
  | exactly text => value.asString? = some text
  | uri => (value.asString?.bind Uri.ofString?).isSome
  | oneOf names => value.asName?.any names.contains
  | listOf item =>
    match value with
    | .array items => items.all fun value => admits item value
    | _ => false
  | twoOf item =>
    match value with
    | .array [first, second] => admits item first && admits item second
    | _ => false
  | byUri inner =>
    match value with
    | .object fields =>
      fields.all fun field => (Uri.ofString? field.1).isSome && admits inner field.2
    | _ => false
  | optional inner =>
    match value with
    | .null => true
    | value => admits inner value
  | defaulted inner => admits inner value
  | either first second => admits first value || admits second value
  | record fields =>
    match value with
    | .object given => admitsFields fields given
    | .array items => admitsItems fields items
    | _ => false
  | openRecord fields others =>
    match value with
    | .object given =>
      admitsFields fields given &&
        given.all fun field => fields.any (·.1 = field.1) || admits others field.2
    | _ => false

/-- Whether the fields of an object have the shapes of the fields of a record. -/
def admitsFields (fields : List (String × Shape)) (given : List (String × Json)) : Bool :=
  match fields with
  | [] => true
  | (name, shape) :: rest =>
    (match given.lookup name with
    | some value => admits shape value
    | none => shape.mayBeMissing) && admitsFields rest given

/-- Whether the items of an array have the shapes of the fields of a record, one by one. -/
def admitsItems (fields : List (String × Shape)) (items : List Json) : Bool :=
  match fields with
  | [] => items.isEmpty
  | (_, shape) :: rest =>
    match items with
    | [] => shape.mayBeCut && admitsItems rest []
    | value :: items => admits shape value && admitsItems rest items

end

/-! ## Shapes of words and strings -/

def signed32 : Shape := whole (-wordSize 31) (wordSize 31)

def unsigned32 : Shape := whole 0 (wordSize 32)

/-- A boolean that may be missing. -/
def flag : Shape := optional boolean

/-- A string that may be missing. -/
def optionalString : Shape := optional string

/-- An object with certain fields, and any others. -/
def withFields (fields : List (String × Shape)) : Shape := openRecord fields anything

end Shape

end PolicyEditing
