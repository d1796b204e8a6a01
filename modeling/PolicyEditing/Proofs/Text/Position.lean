import PolicyEditing.Text.Position

/-!
# Positions at the end of a text

Positions of consecutive parts of a text compose: the end of the whole is the end of the second
part, seen from the end of the first (`endPosition_append`).  So a line feed begins a new line, any
other character moves the first line by its units, and the end of a text can be found by induction
from its beginning although the analyses find it with an accumulator.
-/

namespace PolicyEditing

namespace Position

/-- A position in a text that begins at another position. -/
def followedBy (first second : Position) : Position :=
  if second.line = 0 then ⟨first.line, first.character + second.character⟩
  else ⟨first.line + second.line, second.character⟩

@[simp] theorem followedBy_origin (position : Position) : position.followedBy origin = position :=
  rfl

@[simp] theorem followedBy_succ (first : Position) (line character : Nat) :
    first.followedBy ⟨line + 1, character⟩ = ⟨first.line + (line + 1), character⟩ := rfl

/-- A new line hides the column before it. -/
@[simp] theorem followedBy_newLine (line : Nat) (position : Position) :
    followedBy ⟨line, 0⟩ position = ⟨line + position.line, position.character⟩ := by
  unfold followedBy
  split
  · rename_i hline
    simp [hline]
  · rfl

theorem advance_followedBy (first second : Position) (c : Char) :
    (first.followedBy second).advance c = first.followedBy (second.advance c) := by
  unfold advance followedBy
  by_cases hc : c = '\n' <;> by_cases hline : second.line = 0
  all_goals simp [hc, hline, Nat.add_assoc]

end Position

namespace Text

/-- Cutting at the length of a text cuts nothing off. -/
@[simp] theorem takeBytes_byteCount (text : Text) : takeBytes text (byteCount text) = text := by
  induction text with
  | nil => rfl
  | cons c text ih => simp [takeBytes, ih]

/-- The offset past the last byte is the end. -/
@[simp] theorem positionAt_byteCount (text : Text) :
    positionAt text (byteCount text) = endPosition text := by
  rw [positionAt, takeBytes_byteCount]

/-! ## Composing positions -/

theorem foldl_advance (text : Text) (first second : Position) :
    text.foldl Position.advance (first.followedBy second) =
      first.followedBy (text.foldl Position.advance second) := by
  induction text generalizing second with
  | nil => rfl
  | cons c text ih => rw [List.foldl_cons, List.foldl_cons, Position.advance_followedBy, ih]

theorem endPosition_append (first second : Text) :
    endPosition (first ++ second) = (endPosition first).followedBy (endPosition second) := by
  have hsecond := foldl_advance second (endPosition first) .origin
  rw [Position.followedBy_origin] at hsecond
  rw [endPosition, List.foldl_append]
  exact hsecond

theorem endPosition_newline_cons (rest : Text) :
    endPosition ('\n' :: rest) = ⟨(endPosition rest).line + 1, (endPosition rest).character⟩ := by
  have happend := endPosition_append ['\n'] rest
  rw [List.singleton_append] at happend
  rw [happend, show endPosition ['\n'] = ⟨1, 0⟩ from rfl, Position.followedBy_newLine, Nat.add_comm]

theorem endPosition_cons_of_ne {c : Char} (hc : c ≠ '\n') (rest : Text) :
    endPosition (c :: rest) = Position.followedBy ⟨0, units c⟩ (endPosition rest) := by
  have hfirst : endPosition [c] = ⟨0, units c⟩ := by
    simp [endPosition, Position.advance_of_ne hc, Position.origin]
  rw [← List.singleton_append, endPosition_append, hfirst]

/-- Every line feed begins a line. -/
theorem line_endPosition (text : Text) : (endPosition text).line = text.count '\n' := by
  induction text with
  | nil => rfl
  | cons c rest ih =>
      by_cases hc : c = '\n'
      · rw [hc, endPosition_newline_cons, List.count_cons_self, ih]
      · rw [endPosition_cons_of_ne hc, List.count_cons_of_ne hc, ← ih]
        unfold Position.followedBy
        split
        · rename_i hline
          exact hline.symm
        · exact Nat.zero_add _

end Text

end PolicyEditing
