import PolicyEditing.Settings.Basic
import PolicyEditing.Settings.Fault

/-!
# Reading settings

Settings are written as an object with named fields, or as a list of up to three values in a fixed
order.  What is left out has its default, but `null` is no value of a field.  The first fault is
reported: in the alphabetical order of the names for an object, in the order of the values for a
list, whose length is looked at last.
-/

namespace PolicyEditing.Settings

/-- Reads a count of at most 64 bits. -/
def readCount (value : Json) : Except ReadFault Nat :=
  match Found.ofJson value with
  | .integer count =>
    if count < 0 then .error (.negativeCount count)
    else if count < wordSize 64 then .ok count.toNat
    else .error (.wrongType (.integer count) .count)
  | found => .error (.wrongType found .count)

def readFlag (value : Json) : Except ReadFault Bool :=
  match value with
  | .bool flag => .ok flag
  | _ => .error (.wrongType (Found.ofJson value) .flag)

/-- Reads a value that may be left out. -/
def readOr {α : Type} (read : Json → Except ReadFault α) (otherwise : α) :
    Option Json → Except ReadFault α
  | none => .ok otherwise
  | some value => read value

/-- Reads settings from named fields. -/
def readFields (value : Json) : Except ReadFault Settings := do
  let formattingEnabled ←
    readOr readFlag default.formattingEnabled (value.field? "formattingEnabled")
  let indentSize ← readOr readCount default.indentSize (value.field? "indentSize")
  let maxProblems ← readOr readCount default.maxProblems (value.field? "maxNumberOfProblems")
  return { maxProblems, formattingEnabled, indentSize }

/-- Reads settings from a list of values. -/
def readItems (items : List Json) : Except ReadFault Settings := do
  let maxProblems ← readOr readCount default.maxProblems items[0]?
  let formattingEnabled ← readOr readFlag default.formattingEnabled items[1]?
  let indentSize ← readOr readCount default.indentSize items[2]?
  if 3 < items.length then throw (.tooManyItems items.length)
  return { maxProblems, formattingEnabled, indentSize }

def read (value : Json) : Except ReadFault Settings :=
  match value with
  | .object _ => readFields value
  | .array items => readItems items
  | _ => .error (.wrongType (Found.ofJson value) .settings)

/-- Reads the settings of a configuration section, where `null` means that nothing is chosen. -/
def readSection (value : Json) : Except ReadFault Settings :=
  match value with
  | .null => .ok default
  | _ => read value

end PolicyEditing.Settings
