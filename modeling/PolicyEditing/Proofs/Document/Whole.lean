import Mathlib.Data.List.Chain
import PolicyEditing.Proofs.Document.Lines
import PolicyEditing.Proofs.Text.Position

/-!
# Replacing a whole document

An edit of a whole text ends at `Text.endPosition`, which only begins a line at a line feed.  The
document that takes the edit breaks lines at carriage returns too, so it looks for that position in
other lines.  The two meet at the end of the text exactly if no carriage return but those before a
line feed breaks a line inside the text (`length_le_indexAt_endPosition_iff`): a carriage return in
between gives the document more lines than the position counts, and what follows the line where the
document stops is kept.
-/

namespace PolicyEditing.Document

/-- Whether every carriage return inside a text stands before a line feed.  The last character may
be one. -/
def NoInnerReturn (text : Text) : Prop :=
  text.IsChain fun c next => c = '\r' → next = '\n'

instance (text : Text) : Decidable (NoInnerReturn text) :=
  inferInstanceAs (Decidable (text.IsChain _))

theorem noInnerReturn_cons_of_ne {c : Char} (hc : c ≠ '\r') (rest : Text) :
    NoInnerReturn (c :: rest) ↔ NoInnerReturn rest := by
  simp [NoInnerReturn, List.isChain_cons, hc]

theorem noInnerReturn_joint (rest : Text) :
    NoInnerReturn ('\r' :: '\n' :: rest) ↔ NoInnerReturn rest := by
  rw [← noInnerReturn_cons_of_ne (c := '\n') (by decide) rest]
  simp [NoInnerReturn, List.isChain_cons]

theorem noInnerReturn_lone {rest : Text} (hhead : rest.head? ≠ some '\n') :
    NoInnerReturn ('\r' :: rest) ↔ rest = [] := by
  cases rest with
  | nil => simp [NoInnerReturn]
  | cons c rest =>
      have hc : c ≠ '\n' := by simpa using hhead
      simp [NoInnerReturn, List.isChain_cons, hc]

/-! ## Positions behind the first characters -/

theorem columnIndex_le_length (line : Text) (column : Nat) :
    columnIndex line column ≤ line.length := by
  induction line generalizing column with
  | nil => exact Nat.le_refl 0
  | cons c rest ih =>
      unfold columnIndex
      split
      · have := ih (column - Text.units c)
        rw [List.length_cons]
        omega
      · exact Nat.zero_le _

theorem withoutBreak_cons {c : Char} (hreturn : c ≠ '\r') (hfeed : c ≠ '\n') (line : Text) :
    withoutBreak (c :: line) = c :: withoutBreak line := by
  cases line with
  | nil => simp [withoutBreak, hfeed]
  | cons d more =>
      have hlast : (c :: d :: more).getLast? = (d :: more).getLast? := List.getLast?_cons_cons
      have hdrop : (c :: d :: more).dropLast = c :: (d :: more).dropLast := rfl
      unfold withoutBreak
      rw [hlast, hdrop]
      split
      · cases hmore : (d :: more).dropLast with
        | nil => simp [hreturn]
        | cons e inner =>
            rw [List.getLast?_cons_cons]
            split <;> rfl
      · rfl

/-- Behind a character that breaks no line, the position on its line is shifted by its units. -/
theorem indexAt_plain {c : Char} {rest : Text} (hfeed : c ≠ '\n') (hreturn : c ≠ '\r')
    (position : Position) :
    indexAt (c :: rest) (Position.followedBy ⟨0, Text.units c⟩ position) =
      1 + indexAt rest position := by
  obtain ⟨line, more, hlines⟩ := List.exists_cons_of_ne_nil (lines_ne_nil rest)
  obtain ⟨number, column⟩ := position
  rw [indexAt, indexAt, lines_plain hfeed hreturn hlines, hlines]
  cases number with
  | zero =>
      simp [Position.followedBy, indexInLines, withoutBreak_cons hreturn hfeed, columnIndex]
  | succ number =>
      simp only [Position.followedBy_succ, Nat.zero_add, indexInLines, List.length_cons]
      omega

theorem indexAt_feed (rest : Text) (position : Position) :
    indexAt ('\n' :: rest) ⟨position.line + 1, position.character⟩ =
      1 + indexAt rest position := by
  simp [indexAt, lines_feed, indexInLines]

theorem indexAt_joint (rest : Text) (position : Position) :
    indexAt ('\r' :: '\n' :: rest) ⟨position.line + 1, position.character⟩ =
      2 + indexAt rest position := by
  simp [indexAt, lines_joint, indexInLines]

theorem indexAt_lone {rest : Text} (hhead : rest.head? ≠ some '\n') (position : Position) :
    indexAt ('\r' :: rest) ⟨position.line + 1, position.character⟩ =
      1 + indexAt rest position := by
  simp [indexAt, lines_lone hhead, indexInLines]

/-- A position before the end of a character that breaks no line is in front of it. -/
theorem indexAt_plain_of_lt {c : Char} {rest : Text} (hfeed : c ≠ '\n') (hreturn : c ≠ '\r')
    {column : Nat} (hcolumn : column < Text.units c) : indexAt (c :: rest) ⟨0, column⟩ = 0 := by
  obtain ⟨line, more, hlines⟩ := List.exists_cons_of_ne_nil (lines_ne_nil rest)
  rw [indexAt, lines_plain hfeed hreturn hlines, indexInLines, withoutBreak_cons hreturn hfeed,
    columnIndex, if_neg (Nat.not_le.mpr hcolumn)]

/-- A column on the first line that is not before the end of its first character is counted from
there. -/
theorem indexAt_plain_of_le {c : Char} {rest : Text} (hfeed : c ≠ '\n') (hreturn : c ≠ '\r')
    {column : Nat} (hcolumn : Text.units c ≤ column) :
    indexAt (c :: rest) ⟨0, column⟩ = 1 + indexAt rest ⟨0, column - Text.units c⟩ := by
  obtain ⟨later, rfl⟩ := Nat.exists_eq_add_of_le hcolumn
  rw [Nat.add_sub_cancel_left]
  exact indexAt_plain hfeed hreturn ⟨0, later⟩

/-- On a later line, a character in front of the first line does not move the column. -/
theorem indexAt_plain_succ {c : Char} {rest : Text} (hfeed : c ≠ '\n') (hreturn : c ≠ '\r')
    (number column : Nat) :
    indexAt (c :: rest) ⟨number + 1, column⟩ = 1 + indexAt rest ⟨number + 1, column⟩ := by
  have hshift := @indexAt_plain c rest hfeed hreturn ⟨number + 1, column⟩
  rwa [Position.followedBy_succ, Nat.zero_add] at hshift

/-- Nothing stands on a line in front of its break. -/
theorem indexAt_feed_zero (rest : Text) (column : Nat) :
    indexAt ('\n' :: rest) ⟨0, column⟩ = 0 := by
  simp [indexAt, lines_feed, indexInLines, withoutBreak, columnIndex]

theorem indexAt_joint_zero (rest : Text) (column : Nat) :
    indexAt ('\r' :: '\n' :: rest) ⟨0, column⟩ = 0 := by
  simp [indexAt, lines_joint, indexInLines, withoutBreak, columnIndex]

/-- A position on the line of a lone carriage return is not behind it. -/
theorem indexAt_lone_zero {rest : Text} (hhead : rest.head? ≠ some '\n') (column : Nat) :
    indexAt ('\r' :: rest) ⟨0, column⟩ ≤ 1 := by
  rw [indexAt, lines_lone hhead]
  exact columnIndex_le_length _ column

/-! ## The end of a text -/

/-- On a line that a line feed follows, no position reaches the end of the text. -/
theorem indexAt_lt {text : Text} {number : Nat} (hnumber : number < text.count '\n')
    (column : Nat) : indexAt text ⟨number, column⟩ < text.length := by
  induction text using breakInduction generalizing number column with
  | nil => simp at hnumber
  | joint rest ih =>
      cases number with
      | zero => simp [indexAt_joint_zero]
      | succ number =>
          have hrest := ih (by simpa using hnumber) column
          rw [indexAt_joint rest ⟨number, column⟩, List.length_cons, List.length_cons]
          omega
  | feed rest ih =>
      cases number with
      | zero => simp [indexAt_feed_zero]
      | succ number =>
          have hrest := ih (by simpa using hnumber) column
          rw [indexAt_feed rest ⟨number, column⟩, List.length_cons]
          omega
  | lone rest hhead ih =>
      rw [List.count_cons_of_ne (by decide)] at hnumber
      rw [List.length_cons]
      cases number with
      | zero =>
          -- the position stays on the line of the return, and a line feed is still to come
          have hline := indexAt_lone_zero hhead column
          have hrest := List.count_le_length (a := '\n') (l := rest)
          omega
      | succ number =>
          have hrest := ih (Nat.lt_of_succ_lt hnumber) column
          rw [indexAt_lone hhead ⟨number, column⟩]
          omega
  | plain c rest hfeed hreturn ih =>
      rw [List.count_cons_of_ne hfeed] at hnumber
      rw [List.length_cons]
      cases number with
      | zero =>
          by_cases hcolumn : column < Text.units c
          · rw [indexAt_plain_of_lt hfeed hreturn hcolumn]
            exact Nat.succ_pos _
          · have hrest := ih hnumber (column - Text.units c)
            rw [indexAt_plain_of_le hfeed hreturn (Nat.le_of_not_lt hcolumn)]
            omega
      | succ number =>
          have hrest := ih hnumber column
          rw [indexAt_plain_succ hfeed hreturn]
          omega

/-- The position at the end of a text is the end for the document exactly if no carriage return
inside the text breaks a line. -/
theorem length_le_indexAt_endPosition_iff (text : Text) :
    text.length ≤ indexAt text (Text.endPosition text) ↔ NoInnerReturn text := by
  induction text using breakInduction with
  | nil => simp [NoInnerReturn]
  | joint rest ih =>
      have hend : Text.endPosition ('\r' :: '\n' :: rest) =
          ⟨(Text.endPosition rest).line + 1, (Text.endPosition rest).character⟩ := by
        rw [Text.endPosition_cons_of_ne (by decide), Text.endPosition_newline_cons,
          Position.followedBy_succ, Nat.zero_add]
      rw [hend, indexAt_joint, noInnerReturn_joint, ← ih, List.length_cons, List.length_cons]
      omega
  | feed rest ih =>
      rw [Text.endPosition_newline_cons, indexAt_feed, noInnerReturn_cons_of_ne (by decide), ← ih,
        List.length_cons]
      omega
  | lone rest hhead _ =>
      rw [noInnerReturn_lone hhead]
      constructor
      · intro hle
        rw [Text.endPosition_cons_of_ne (by decide), List.length_cons] at hle
        -- the position counts no line for the return, so it is one line behind in the rest
        have hfeeds := Text.line_endPosition rest
        cases hend : Text.endPosition rest with
        | mk number column =>
            rw [hend] at hle hfeeds
            cases number with
            | zero =>
                have hstop := hle.trans (indexAt_lone_zero hhead _)
                exact List.length_eq_zero_iff.mp (by omega)
            | succ number =>
                have hstop := indexAt_lt (Nat.lt_of_succ_le hfeeds.le) column
                rw [Position.followedBy_succ, Nat.zero_add,
                  indexAt_lone hhead ⟨number, column⟩] at hle
                omega
      · rintro rfl
        decide
  | plain c rest hfeed hreturn ih =>
      rw [Text.endPosition_cons_of_ne hfeed, indexAt_plain hfeed hreturn,
        noInnerReturn_cons_of_ne hreturn, ← ih, List.length_cons]
      omega

/-! ## The change -/

@[simp] theorem indexAt_origin (text : Text) : indexAt text .origin = 0 := by
  obtain ⟨line, more, hlines⟩ := List.exists_cons_of_ne_nil (lines_ne_nil text)
  rw [indexAt, hlines]
  exact columnIndex_zero _

/-- A change up to the position at the end keeps what the document has behind that position. -/
theorem changeText_whole (text new : Text) :
    changeText text ⟨some ⟨.origin, Text.endPosition text⟩, new⟩ =
      new ++ text.drop (indexAt text (Text.endPosition text)) := by
  simp [changeText]

/-- Such a change replaces the whole text exactly if no carriage return inside the text breaks a
line. -/
theorem changeText_whole_eq_iff (text new : Text) :
    changeText text ⟨some ⟨.origin, Text.endPosition text⟩, new⟩ = new ↔ NoInnerReturn text := by
  rw [changeText_whole, List.append_right_eq_self, List.drop_eq_nil_iff]
  exact length_le_indexAt_endPosition_iff text

end PolicyEditing.Document
