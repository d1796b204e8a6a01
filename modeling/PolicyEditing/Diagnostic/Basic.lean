import PolicyEditing.Text.Position

/-!
# Diagnostics

What can be wrong with a policy text, and where.
-/

namespace PolicyEditing

inductive Severity where
  | error
  | warning
deriving DecidableEq, Repr

/-- What can be wrong with a policy text. -/
inductive Problem where
  /-- A string is opened on a line and not closed on it. -/
  | unterminatedString
  /-- A variable is used with no assignment to it on an earlier line. -/
  | undefinedVariable (name : Text)
deriving DecidableEq, Repr

namespace Problem

/-- An open string is an error; a variable may still be defined elsewhere. -/
def severity : Problem → Severity
  | unterminatedString => .error
  | undefinedVariable _ => .warning

/-- The text that the editor shows. -/
def message : Problem → String
  | unterminatedString => "Unterminated string"
  | undefinedVariable name => "Variable '" ++ String.ofList name ++ "' may not be defined"

end Problem

structure Diagnostic where
  range : Range
  problem : Problem
deriving DecidableEq, Repr

/-- The name under which diagnostics are reported. -/
def Diagnostic.source : String := "guard"

end PolicyEditing
