import PolicyEditing.Text.Position

/-!
# Documents

A document is a text that the editor changes by ranges.  Here lines end at a line feed, at a
carriage return, and at the two in a row, which are one break.

A position outside of the text is moved inside: a missing line counts as the end of the text, and a
column past the end of its line as the end of that line.
-/

namespace PolicyEditing

/-- A replacement: of a range, or of the whole text if there is no range. -/
structure Change where
  range : Option Range
  text : Text
deriving DecidableEq, Repr

/-- A text that is open in the editor, with the number of its version. -/
structure Document where
  text : Text
  version : Int
deriving DecidableEq, Repr

namespace Document

/-! ## Lines -/

/-- Puts a character in front of a text that is cut into lines with their breaks.  A carriage
return joins a line feed behind it. -/
def prependToLines (c : Char) : List Text → List Text
  | [] => [[c]]
  | line :: more =>
    if c = '\n' ∨ (c = '\r' ∧ line ≠ ['\n']) then [c] :: line :: more else (c :: line) :: more

/-- The lines of a text, each with the break that ends it.  There is one line more than there are
breaks. -/
def lines (text : Text) : List Text :=
  text.foldr prependToLines [[]]

@[simp] theorem lines_nil : lines [] = [[]] := rfl

theorem lines_cons (c : Char) (text : Text) :
    lines (c :: text) = prependToLines c (lines text) := rfl

theorem lines_ne_nil (text : Text) : lines text ≠ [] := by
  cases text with
  | nil => simp
  | cons c text =>
      rw [lines_cons]
      cases lines text <;> simp only [prependToLines]
      · simp
      · split <;> simp

/-- Cutting loses nothing. -/
theorem flatten_lines (text : Text) : (lines text).flatten = text := by
  induction text with
  | nil => rfl
  | cons c text ih =>
      rw [lines_cons]
      cases hlines : lines text with
      | nil => exact absurd hlines (lines_ne_nil text)
      | cons line more =>
          rw [hlines, List.flatten_cons] at ih
          simp only [prependToLines]
          split <;> simp [ih]

/-- A line without the line feed at its end and a carriage return before that. -/
def withoutBreak (line : Text) : Text :=
  if line.getLast? = some '\n' then
    if line.dropLast.getLast? = some '\r' then line.dropLast.dropLast else line.dropLast
  else line

/-! ## Positions -/

/-- The characters before a column.  A column between the two units of a character means the
beginning of that character, and one past the end means the end. -/
def columnIndex : Text → Nat → Nat
  | [], _ => 0
  | c :: rest, column =>
    if Text.units c ≤ column then 1 + columnIndex rest (column - Text.units c) else 0

/-- The characters before a place in a text that is cut into lines. -/
def indexInLines : List Text → Nat → Nat → Nat
  | [], _, _ => 0
  | line :: _, 0, column => columnIndex (withoutBreak line) column
  | line :: more, number + 1, column => line.length + indexInLines more number column

/-- The characters before a position. -/
def indexAt (text : Text) (position : Position) : Nat :=
  indexInLines (lines text) position.line position.character

/-! ## Changes -/

/-- The text after a change.  A range that ends before it starts is empty. -/
def changeText (text : Text) (change : Change) : Text :=
  match change.range with
  | none => change.text
  | some range =>
    let first := indexAt text range.start
    let last := max first (indexAt text range.stop)
    text.take first ++ change.text ++ text.drop last

/-- The document after some changes, one after the other, at a new version. -/
def edit (document : Document) (version : Int) (changes : List Change) : Document where
  text := changes.foldl changeText document.text
  version := version

end Document

end PolicyEditing
