import PolicyEditing.Json.Basic
import PolicyEditing.Text.Position

/-!
# Completion items

What an editor shows in a list of completions, and what it does when one is chosen.  Numbers stand
for choices that the editor gives a meaning to; the server passes them through.
-/

namespace PolicyEditing.Completion

/-- Text beside a label. -/
structure LabelDetails where
  detail : Option String
  description : Option String
deriving DecidableEq, Repr

/-- How a marked-up text is written. -/
inductive MarkupKind where
  | plainText
  | markdown
deriving DecidableEq, Repr

/-- The explanation of an item. -/
inductive Documentation where
  | plain (text : String)
  | markup (kind : MarkupKind) (value : String)
deriving DecidableEq, Repr

/-- What the editor changes when an item is chosen: a range, or one of two ranges, depending on
whether the text behind the cursor is kept. -/
inductive MainEdit where
  | oneRange (edit : TextEdit)
  | eitherRange (newText : Text) (insert replace : Range)
deriving DecidableEq, Repr

/-- A command to run when an item was chosen. -/
structure Command where
  title : String
  command : String
  arguments : Option (List Json)

structure Item where
  label : String
  labelDetails : Option LabelDetails := none
  kind : Option Int := none
  detail : Option String := none
  documentation : Option Documentation := none
  deprecated : Option Bool := none
  preselect : Option Bool := none
  sortText : Option String := none
  filterText : Option String := none
  insertText : Option String := none
  insertTextFormat : Option Int := none
  insertTextMode : Option Int := none
  textEdit : Option MainEdit := none
  additionalTextEdits : Option (List TextEdit) := none
  command : Option Command := none
  commitCharacters : Option (List String) := none
  tags : Option (List Int) := none
  data : Option Json := none

end PolicyEditing.Completion
