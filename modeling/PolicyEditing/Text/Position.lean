import PolicyEditing.Text.Basic

/-!
# Positions

An editor names a place in a text by its line and by the UTF-16 column in that line; the analyses
name it by a byte offset.  `positionAt` and `offsetAt` convert, and both are total: what lies
outside the text is moved to the nearest place inside.
-/

namespace PolicyEditing

/-- A place in a text: a line, and a column in UTF-16 code units, both counted from zero. -/
structure Position where
  line : Nat
  character : Nat
deriving DecidableEq, Repr

namespace Position

/-- The beginning of every text. -/
def origin : Position := ⟨0, 0⟩

/-- Positions are ordered as they follow each other in a text: by line, and on a line by column. -/
instance : LE Position where
  le first second :=
    first.line < second.line ∨ first.line = second.line ∧ first.character ≤ second.character

theorem le_iff {first second : Position} : first ≤ second ↔
    first.line < second.line ∨ first.line = second.line ∧ first.character ≤ second.character :=
  Iff.rfl

instance : DecidableLE Position := fun _ _ => decidable_of_iff _ le_iff.symm

/-- The position after one more character. -/
def advance (position : Position) (c : Char) : Position :=
  if c = '\n' then ⟨position.line + 1, 0⟩
  else ⟨position.line, position.character + Text.units c⟩

@[simp] theorem advance_newline (position : Position) :
    position.advance '\n' = ⟨position.line + 1, 0⟩ := rfl

theorem advance_of_ne {c : Char} (hc : c ≠ '\n') (position : Position) :
    position.advance c = ⟨position.line, position.character + Text.units c⟩ :=
  if_neg hc

end Position

/-- The part of a text from `start` up to, and without, `stop`. -/
structure Range where
  start : Position
  stop : Position
deriving DecidableEq, Repr

/-- The replacement of a range by a text. -/
structure TextEdit where
  range : Range
  newText : Text
deriving DecidableEq, Repr

namespace Text

/-- The position just past the last character of a text. -/
def endPosition (text : Text) : Position :=
  text.foldl Position.advance .origin

/-- The position of a byte offset.  An offset past the end counts as the end, and an offset inside
a character as the beginning of that character. -/
def positionAt (text : Text) (offset : Nat) : Position :=
  endPosition (takeBytes text offset)

/-- The bytes of a line before the first character that starts at or after `column`. -/
def columnOffset : Text → Nat → Nat
  | [], _ => 0
  | c :: rest, column =>
    if column = 0 then 0 else c.utf8Size + columnOffset rest (column - units c)

/-- The byte offset of a place in a text that is cut into lines. -/
def offsetInLines : List Text → Nat → Nat → Nat
  | [], _, _ => 0
  | line :: _, 0, column => columnOffset line column
  | [line], _ + 1, _ => byteCount line
  | line :: next :: more, number + 1, column =>
    byteCount line + 1 + offsetInLines (next :: more) number column

/-- The byte offset of a position.  A missing line counts as the end of the text, a column past the
end of its line as the end of that line, and a column between the two units of a character as the
place just after that character. -/
def offsetAt (text : Text) (position : Position) : Nat :=
  offsetInLines (lines text) position.line position.character

end Text

end PolicyEditing
