import PolicyEditing.Text.Hidden

/-!
# Quoted text

A string as messages show it: between quotes, with quotes, backslashes and everything that has no
printed form escaped.
-/

namespace PolicyEditing.Text

/-- The escape of a character by its number. -/
def numberEscape (c : Char) : Text :=
  ['\\', 'u', '\x7b'] ++ Nat.toDigits 16 c.toNat ++ ['\x7d']

/-- A character as quoted text shows it. -/
def quoteChar (c : Char) : Text :=
  match c with
  | '\x00' => ['\\', '0']
  | '\t' => ['\\', 't']
  | '\n' => ['\\', 'n']
  | '\r' => ['\\', 'r']
  | '"' => ['\\', '"']
  | '\\' => ['\\', '\\']
  | _ => if c.toNat < 0x20 ∨ isHidden c then numberEscape c else [c]

/-- A text between quotes. -/
def quoted (text : Text) : Text :=
  '"' :: text.flatMap quoteChar ++ ['"']

end PolicyEditing.Text
