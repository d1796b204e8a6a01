import PolicyEditing.Completion.Item
import PolicyEditing.Vocabulary

/-!
# Offering completions

Every request is answered with the whole vocabulary; the editor picks from it what fits the text.
The help of a built-in function is added later, when the editor shows the item.
-/

namespace PolicyEditing.Completion

/-- The number by which editors know a kind of word. -/
def kindNumber : WordKind → Int
  | .keyword => 14
  | .operator => 24
  | .function => 3

/-- The number of the insert format in which `$0` marks the cursor. -/
def snippetFormat : Int := 2

/-- The item of a word.  A function is inserted with parentheses and the cursor between them. -/
def Item.ofWord (kind : WordKind) (word : String) (ordinal : Nat) : Item where
  label := word
  kind := some (kindNumber kind)
  data := some (.nat ordinal)
  insertText := if kind = .function then some (word ++ "($0)") else none
  insertTextFormat := if kind = .function then some snippetFormat else none

/-- The items of all words, each with its place in the list as its data. -/
def items : List Item :=
  Vocabulary.entries.mapIdx fun ordinal (kind, word) => .ofWord kind word ordinal

/-- The item with the help of the built-in function that it stands for, if it stands for one. -/
def Item.resolve (item : Item) : Item :=
  match Vocabulary.functionHelp? item.label with
  | none => item
  | some help =>
    { item with
      detail := some Vocabulary.functionDetail
      documentation := some (.markup .markdown help) }

end PolicyEditing.Completion
