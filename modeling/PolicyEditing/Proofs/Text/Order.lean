import Mathlib.Order.Bounds.Basic
import Mathlib.Order.Monotone.Defs
import PolicyEditing.Proofs.Text.Offset

/-!
# Conversions keep the order of places

Positions follow each other by line, and on a line by column.  Both conversions keep that order on
all inputs, also on those that name no place and are moved to one.

From offsets to positions there is little to do: of two offsets the smaller one cuts off the shorter
beginning (`takeBytes_prefix_takeBytes`), and the position behind a beginning is not before the
position behind a shorter one, whatever stands between the two (`endPosition_le_of_prefix`).  The
order is strict as soon as the beginnings differ, because a position leads back to its beginning
(`positionAt_lt_iff`).

From positions to offsets three kinds of positions are moved: on a missing line, past the end of
their line, and inside of a character.  A position on a line stays on it, before the beginning of
any later line (`offsetAt_lt_start`), and nothing is moved past the end of the text, where the
missing lines are (`isBoundary_offsetAt`).  So the order could only be lost between two columns of
one line, and there a column inside of a character moves no further than the next place
(`columnOffset_mono`).
-/

namespace PolicyEditing

namespace Position

/-- The order of positions is linear, as that of the places of a text. -/
instance : LinearOrder Position where
  lt first second :=
    first.line < second.line ∨ first.line = second.line ∧ first.character < second.character
  lt_iff_le_not_ge first second := by
    rw [le_iff, le_iff]
    omega
  le_refl position := Or.inr ⟨rfl, Nat.le_refl _⟩
  le_trans first second third hfirst hsecond := by
    rw [le_iff] at hfirst hsecond ⊢
    omega
  le_antisymm := by
    rintro ⟨line, character⟩ ⟨line', character'⟩ hle hge
    simp only [le_iff] at hle hge
    rw [Position.mk.injEq]
    omega
  le_total first second := by
    rw [le_iff, le_iff]
    omega
  toDecidableLE := inferInstance
  toDecidableEq := inferInstance

/-- What stands behind a position does not come before it. -/
theorem le_followedBy (first second : Position) : first ≤ first.followedBy second := by
  unfold followedBy
  split
  · exact Or.inr ⟨rfl, Nat.le_add_right _ _⟩
  · rename_i hline
    exact Or.inl (Nat.lt_add_of_pos_right (Nat.pos_of_ne_zero hline))

end Position

namespace Text

/-- Whether a boundary is the last one of a text that is neither past an offset nor past the end of
the text. -/
def RoundsDownTo (text : Text) (offset boundary : Nat) : Prop :=
  IsGreatest {place | IsBoundary text place ∧ place ≤ min offset (byteCount text)} boundary

/-! ## From offsets to positions -/

theorem takeBytes_prefix_takeBytes (text : Text) {first second : Nat} (hle : first ≤ second) :
    takeBytes text first <+: takeBytes text second :=
  prefix_takeBytes (takeBytes_isPrefix text first) ((byteCount_takeBytes_le text first).trans hle)

theorem endPosition_le_of_prefix {before text : Text} (hbefore : before <+: text) :
    endPosition before ≤ endPosition text := by
  obtain ⟨after, rfl⟩ := hbefore
  rw [endPosition_append]
  exact Position.le_followedBy _ _

theorem positionAt_mono (text : Text) : Monotone (positionAt text) := by
  intro first second hle
  exact endPosition_le_of_prefix (takeBytes_prefix_takeBytes text hle)

/-- A position is found again at the boundary that its offset was moved back to. -/
theorem positionAt_offsetAt_positionAt (text : Text) (offset : Nat) :
    positionAt text (offsetAt text (positionAt text offset)) = positionAt text offset := by
  rw [offsetAt_positionAt, positionAt_of_prefix (takeBytes_isPrefix text offset)]
  rfl

/-- Between two offsets the position moves on if and only if the boundary does. -/
theorem positionAt_lt_iff (text : Text) {first second : Nat} (hle : first ≤ second) :
    positionAt text first < positionAt text second ↔
      offsetAt text (positionAt text first) ≠ offsetAt text (positionAt text second) := by
  constructor
  · intro hlt hoffset
    apply hlt.ne
    calc positionAt text first
        = positionAt text (offsetAt text (positionAt text first)) :=
          (positionAt_offsetAt_positionAt text first).symm
      _ = positionAt text (offsetAt text (positionAt text second)) := by rw [hoffset]
      _ = positionAt text second := positionAt_offsetAt_positionAt text second
  · intro hne
    apply lt_of_le_of_ne (positionAt_mono text hle)
    intro hsame
    exact hne (congrArg (offsetAt text) hsame)

/-! ## Columns of one line -/

theorem isBoundary_columnOffset (line : Text) (column : Nat) :
    IsBoundary line (columnOffset line column) := by
  induction line generalizing column with
  | nil => exact ⟨[], List.nil_prefix, rfl⟩
  | cons c rest ih =>
      unfold columnOffset
      split
      · exact ⟨[], List.nil_prefix, rfl⟩
      · obtain ⟨before, hbefore, hbytes⟩ := ih (column - units c)
        refine ⟨c :: before, List.cons_prefix_cons.mpr ⟨rfl, hbefore⟩, ?_⟩
        rw [byteCount_cons, hbytes]

theorem IsBoundary.le_byteCount {text : Text} {offset : Nat} (hoffset : IsBoundary text offset) :
    offset ≤ byteCount text := by
  obtain ⟨before, hbefore, rfl⟩ := hoffset
  exact byteCount_le_of_prefix hbefore

theorem columnOffset_mono (line : Text) : Monotone (columnOffset line) := by
  intro first second hle
  induction line generalizing first second with
  | nil => exact Nat.le_refl 0
  | cons c rest ih =>
      by_cases hfirst : first = 0
      · rw [hfirst, columnOffset_zero]
        exact Nat.zero_le _
      · have hsecond : second ≠ 0 := by omega
        have hrest := ih (Nat.sub_le_sub_right hle (units c))
        rw [columnOffset, columnOffset, if_neg hfirst, if_neg hsecond]
        exact Nat.add_le_add_left hrest _

/-! ## From positions to offsets -/

theorem offsetAt_of_getElem? {text line : Text} {position : Position}
    (hline : (lines text)[position.line]? = some line) :
    offsetAt text position = byteCount (endLines ((lines text).take position.line)) +
      columnOffset line position.character :=
  offsetInLines_of_getElem? hline position.character

/-- What a position is moved to is a place of the text. -/
theorem isBoundary_offsetAt (text : Text) (position : Position) :
    IsBoundary text (offsetAt text position) := by
  cases hline : (lines text)[position.line]? with
  | none => exact ⟨text, List.prefix_rfl, (offsetAt_of_missing hline).symm⟩
  | some line =>
      obtain ⟨before, hbefore, hbytes⟩ := isBoundary_columnOffset line position.character
      refine ⟨_, prefix_of_getElem? hline hbefore, ?_⟩
      rw [offsetAt_of_getElem? hline, byteCount_append, hbytes]

/-- A position on a line is found before any later line begins. -/
theorem offsetAt_lt_start {text line : Text} {position : Position}
    (hline : (lines text)[position.line]? = some line) {number : Nat}
    (hnumber : position.line < number) :
    offsetAt text position < byteCount (endLines ((lines text).take number)) := by
  have hnext : (lines text).take (position.line + 1) =
      (lines text).take position.line ++ [line] := by
    rw [List.take_add_one, hline, Option.toList_some]
  have hearlier : (lines text).take (position.line + 1) <+: (lines text).take number :=
    List.take_prefix_take_left hnumber
  obtain ⟨more, hmore⟩ := hearlier
  calc offsetAt text position
      = byteCount (endLines ((lines text).take position.line)) +
          columnOffset line position.character := offsetAt_of_getElem? hline
    _ ≤ byteCount (endLines ((lines text).take position.line)) + byteCount line :=
        Nat.add_le_add_left (isBoundary_columnOffset line position.character).le_byteCount _
    _ < byteCount (endLines ((lines text).take (position.line + 1))) := by
        rw [hnext, endLines_append, byteCount_append, endLines_cons, byteCount_append,
          byteCount_newline_cons]
        omega
    _ ≤ byteCount (endLines ((lines text).take number)) := by
        rw [← hmore, endLines_append, byteCount_append]
        exact Nat.le_add_right _ _

theorem offsetAt_mono (text : Text) : Monotone (offsetAt text) := by
  intro first second hle
  cases hsecond : (lines text)[second.line]? with
  | none =>
      rw [offsetAt_of_missing hsecond]
      exact (isBoundary_offsetAt text first).le_byteCount
  | some line =>
      rcases Position.le_iff.mp hle with hbefore | ⟨hsame, hcolumn⟩
      · -- the line of the first position is there because a later one is
        have hlt : first.line < (lines text).length :=
          hbefore.trans (List.getElem?_eq_some_iff.mp hsecond).1
        have hstart := offsetAt_lt_start (List.getElem?_eq_getElem hlt) hbefore
        rw [offsetAt_of_getElem? hsecond]
        omega
      · have hfirst : (lines text)[first.line]? = some line := by rw [hsame, hsecond]
        rw [offsetAt_of_getElem? hfirst, offsetAt_of_getElem? hsecond, hsame]
        exact Nat.add_le_add_left (columnOffset_mono line hcolumn) _

/-! ## Both ways -/

/-- **Conversions keep the order of places.**  Of two offsets the smaller one has no later position,
and an earlier one if and only if the two are moved back to different boundaries.  Of two positions
the earlier one has no larger offset.  Whatever the position, its offset is a boundary of the text
and not past its end. -/
theorem conversions_monotone (text : Text) :
    Monotone (positionAt text) ∧
    (∀ first second : Nat, first ≤ second → ∃ start stop,
      RoundsDownTo text first start ∧ RoundsDownTo text second stop ∧
        (positionAt text first < positionAt text second ↔ start ≠ stop)) ∧
    Monotone (offsetAt text) ∧
    ∀ position : Position,
      offsetAt text position ≤ byteCount text ∧ IsBoundary text (offsetAt text position) := by
  refine ⟨positionAt_mono text, fun first second hle => ?_, offsetAt_mono text, fun position => ?_⟩
  · exact ⟨_, _, isGreatest_offsetAt_positionAt text first,
      isGreatest_offsetAt_positionAt text second, positionAt_lt_iff text hle⟩
  · have hplace := isBoundary_offsetAt text position
    exact ⟨hplace.le_byteCount, hplace⟩

/-- Offsets inside of a character and behind it, and positions of each kind: inside of a character,
past the end of its line, on the next line, and on a missing one. -/
theorem conversions_monotone_emoji :
    let text : Text := ['é', '😀', '\n', 'x']
    (RoundsDownTo text 3 2 ∧ RoundsDownTo text 5 2 ∧ RoundsDownTo text 7 7) ∧
      positionAt text 3 ≤ positionAt text 5 ∧ ¬ positionAt text 3 < positionAt text 5 ∧
      positionAt text 3 < positionAt text 7 ∧
      offsetAt text ⟨0, 2⟩ ≤ offsetAt text ⟨0, 9⟩ ∧
      offsetAt text ⟨0, 9⟩ ≤ offsetAt text ⟨1, 0⟩ ∧
      offsetAt text ⟨1, 0⟩ ≤ offsetAt text ⟨2, 0⟩ ∧ offsetAt text ⟨2, 0⟩ ≤ 8 := by
  intro text
  obtain ⟨hposition, hstrict, hoffset, hplace⟩ := conversions_monotone text
  have hthree : RoundsDownTo text 3 2 := isGreatest_offsetAt_positionAt text 3
  have hfive : RoundsDownTo text 5 2 := isGreatest_offsetAt_positionAt text 5
  have hseven : RoundsDownTo text 7 7 := isGreatest_offsetAt_positionAt text 7
  obtain ⟨start, stop, hstart, hstop, hsame⟩ := hstrict 3 5 (by decide)
  obtain rfl := hstart.unique hthree
  obtain rfl := hstop.unique hfive
  obtain ⟨start, stop, hstart, hstop, hdiffer⟩ := hstrict 3 7 (by decide)
  obtain rfl := hstart.unique hthree
  obtain rfl := hstop.unique hseven
  refine ⟨⟨hthree, hfive, hseven⟩, hposition (by decide), ?_, hdiffer.mpr (by decide),
    hoffset (by decide), hoffset (by decide), hoffset (by decide), (hplace ⟨2, 0⟩).1⟩
  rw [hsame]
  exact fun hne => hne rfl

end Text

end PolicyEditing
