import PolicyEditing.Vocabulary
import PolicyEditing.Word

/-!
# Hovering

The explanation of the word under the cursor.
-/

namespace PolicyEditing

structure Hover where
  content : String
  range : Range
deriving DecidableEq, Repr

/-- The explanation of the word that touches an offset, if that word has one. -/
def Hover.at? (text : Text) (offset : Nat) : Option Hover := do
  let (first, last) ← Word.rangeAt text offset
  let content ← Vocabulary.explanation? (String.ofList (Text.slice text first last))
  some ⟨content, ⟨Text.positionAt text first, Text.positionAt text last⟩⟩

end PolicyEditing
