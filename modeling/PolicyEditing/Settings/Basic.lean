import PolicyEditing.Layout

/-!
# Settings

What a user can choose, per document or for all documents.
-/

namespace PolicyEditing

/-- The choices of a user, with their defaults. -/
structure Settings where
  /-- The most problems that are reported for a document. -/
  maxProblems : Nat := 100
  /-- Whether documents may be laid out. -/
  formattingEnabled : Bool := true
  /-- The indentation of one level if a request for layout does not name one. -/
  indentSize : Nat := Layout.defaultIndentWidth
deriving DecidableEq, Repr

namespace Settings

/-- The settings of a user who chose nothing. -/
def default : Settings := {}

instance : Inhabited Settings := ⟨default⟩

/-- The name of the section that holds the settings in an editor's configuration. -/
def sectionName : String := "guard"

/-- The width of one level: never zero, and never above the widest. -/
def indentWidth (settings : Settings) : Nat :=
  if settings.indentSize = 0 then Layout.defaultIndentWidth
  else min settings.indentSize Layout.maxIndentWidth

/-- The settings as the log shows them. -/
def describe (settings : Settings) : String :=
  "GuardSettings \x7b max_number_of_problems: " ++ toString settings.maxProblems ++
    ", formatting_enabled: " ++ (if settings.formattingEnabled then "true" else "false") ++
    ", indent_size: " ++ toString settings.indentSize ++ " \x7d"

end Settings

end PolicyEditing
