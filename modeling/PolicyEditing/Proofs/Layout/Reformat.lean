import PolicyEditing.Proofs.Layout.Tidy
import PolicyEditing.Proofs.Text.Lines

/-!
# Laying out a text twice

A second pass sees nothing of the first one but the lines that the first one made tidy.  It finds
the same number of lines (`lines_format`), takes the indentation off again, and what is left is a
tidy line, which stays as it is (`tidyLine_laidLine`).  So the brackets that it counts are those
that the first pass counted, and every line comes to the same level.
-/

namespace PolicyEditing.Layout

/-! ## One line after the other -/

/-- The level behind a line. -/
def levelAfter (level : Nat) (line : Text) : Nat :=
  ((level : Int) + nestingChange (tidyLine line)).toNat

/-- A line as it is laid out at a level. -/
def laidLine (width level : Nat) (line : Text) : Text :=
  if tidyLine line = [] then []
  else indentation width (min level (levelAfter level line)) ++ tidyLine line

theorem levelAfter_of_blank {line : Text} (hblank : tidyLine line = []) (level : Nat) :
    levelAfter level line = level := by
  simp [levelAfter, hblank, nestingChange]

/-- Blank lines need no rule of their own: they have no brackets. -/
theorem indentLines_cons (width level : Nat) (line : Text) (rest : List Text) :
    indentLines width level (line :: rest) =
      laidLine width level line :: indentLines width (levelAfter level line) rest := by
  by_cases hblank : tidyLine line = []
  · simp [indentLines, laidLine, hblank, levelAfter_of_blank hblank]
  · simp [indentLines, laidLine, hblank, levelAfter]

/-- What was laid out before becomes the same tidy line. -/
theorem tidyLine_laidLine (width level : Nat) (line : Text) :
    tidyLine (laidLine width level line) = tidyLine line := by
  unfold laidLine
  split
  · rename_i hblank
    rw [hblank]
    rfl
  · rw [tidyLine_indentation_append, tidyLine_tidyLine]

theorem newline_notMem_laidLine {line : Text} (hline : '\n' ∉ line) (width level : Nat) :
    '\n' ∉ laidLine width level line := by
  unfold laidLine
  split
  · simp
  · intro hmem
    rcases List.mem_append.mp hmem with hmem | hmem
    · exact absurd (List.eq_of_mem_replicate hmem) (by decide)
    · exact newline_notMem_tidyLine hline hmem

/-! ## The lines of a laid out text -/

theorem length_indentLines (width level : Nat) (pieces : List Text) :
    (indentLines width level pieces).length = pieces.length := by
  induction pieces generalizing level with
  | nil => rfl
  | cons line rest ih => rw [indentLines_cons, List.length_cons, ih, List.length_cons]

theorem newline_notMem_indentLines {width level : Nat} {pieces : List Text}
    (hpieces : ∀ line ∈ pieces, '\n' ∉ line) :
    ∀ line ∈ indentLines width level pieces, '\n' ∉ line := by
  induction pieces generalizing level with
  | nil => simp [indentLines]
  | cons line rest ih =>
      intro laid hlaid
      rw [indentLines_cons] at hlaid
      rcases List.mem_cons.mp hlaid with rfl | hlaid
      · exact newline_notMem_laidLine (hpieces line List.mem_cons_self) width level
      · exact ih (fun other hother => hpieces other (List.mem_cons_of_mem _ hother)) laid hlaid

/-- There is one line for every line of the text. -/
theorem lines_format (text : Text) (width : Nat) :
    Text.lines (format text width) =
      indentLines (min width maxIndentWidth) 0 (Text.lines text) := by
  refine Text.lines_joinLines ?_ ?_
  · rw [← List.length_pos_iff, length_indentLines, List.length_pos_iff]
    exact Text.lines_ne_nil text
  · exact newline_notMem_indentLines fun _ => Text.newline_notMem_of_mem_lines

/-! ## The second pass -/

theorem levelAfter_congr {first second : Text} (htidy : tidyLine first = tidyLine second)
    (level : Nat) : levelAfter level first = levelAfter level second := by
  rw [levelAfter, levelAfter, htidy]

theorem laidLine_congr {first second : Text} (htidy : tidyLine first = tidyLine second)
    (width level : Nat) : laidLine width level first = laidLine width level second := by
  rw [laidLine, laidLine, htidy, levelAfter_congr htidy]

/-- The second pass takes the lines of the first for the lines that the first one was given. -/
theorem indentLines_indentLines (first second level : Nat) (pieces : List Text) :
    indentLines second level (indentLines first level pieces) =
      indentLines second level pieces := by
  induction pieces generalizing level with
  | nil => rfl
  | cons line rest ih =>
      have htidy := tidyLine_laidLine first level line
      have hlevel := levelAfter_congr htidy level
      calc indentLines second level (indentLines first level (line :: rest))
          = laidLine second level (laidLine first level line) ::
              indentLines second (levelAfter level (laidLine first level line))
                (indentLines first (levelAfter level line) rest) := by
            rw [indentLines_cons, indentLines_cons]
        _ = laidLine second level line :: indentLines second (levelAfter level line) rest := by
            rw [laidLine_congr htidy, hlevel, ih]
        _ = indentLines second level (line :: rest) := by rw [indentLines_cons]

/-- **Laying out forgets earlier layouts.**  A text that was laid out before is laid out like the
text that it was made from, whatever the two widths are. -/
theorem format_format (text : Text) (first second : Nat) :
    format (format text first) second = format text second := by
  unfold format
  calc Text.joinLines (indentLines (min second maxIndentWidth) 0 (Text.lines (format text first)))
      = Text.joinLines (indentLines (min second maxIndentWidth) 0
          (indentLines (min first maxIndentWidth) 0 (Text.lines text))) := by
        rw [lines_format]
    _ = Text.joinLines (indentLines (min second maxIndentWidth) 0 (Text.lines text)) := by
        rw [indentLines_indentLines]

end PolicyEditing.Layout
