import Mathlib.Order.Bounds.Defs
import PolicyEditing.Proofs.Text.Lines
import PolicyEditing.Proofs.Text.Position

/-!
# Offsets and positions are inverse to each other

A place in a text can be named by the bytes of what stands before it, and by the position behind
that.  The places are the beginnings of the text: of each, `positionAt` turns the bytes into the
position (`positionAt_of_prefix`) and `offsetAt` the position into the bytes
(`offsetAt_endPosition`).

What names no place is moved to one.  A byte offset goes back to the last place before it, a column
between the two units of a character goes on to the place behind that character, a column past the
end of its line goes back to that end, and a missing line is the end of the text.  No other case is
left (`isColumn_or_splitsCharacter`).
-/

namespace PolicyEditing.Text

/-- Whether a byte offset lies between two characters of a text, or at one of its ends. -/
def IsBoundary (text : Text) (offset : Nat) : Prop :=
  ∃ before, before <+: text ∧ byteCount before = offset

/-- Whether a column lies between two characters of a line, or at one of its ends. -/
def IsColumn (line : Text) (column : Nat) : Prop :=
  ∃ before, before <+: line ∧ unitCount before = column

/-- Whether a column lies between the two units of a character of a line. -/
def SplitsCharacter (line : Text) (column : Nat) : Prop :=
  ∃ before c, before ++ [c] <+: line ∧ unitCount before < column ∧
    column < unitCount (before ++ [c])

/-! ## Beginnings that fit a number of bytes -/

theorem byteCount_le_of_prefix {before text : Text} (hbefore : before <+: text) :
    byteCount before ≤ byteCount text := by
  obtain ⟨after, rfl⟩ := hbefore
  rw [byteCount_append]
  exact Nat.le_add_right _ _

theorem takeBytes_isPrefix (text : Text) (limit : Nat) : takeBytes text limit <+: text := by
  induction text generalizing limit with
  | nil => exact List.nil_prefix
  | cons c rest ih =>
      unfold takeBytes
      split
      · exact List.cons_prefix_cons.mpr ⟨rfl, ih _⟩
      · exact List.nil_prefix

theorem byteCount_takeBytes_le (text : Text) (limit : Nat) :
    byteCount (takeBytes text limit) ≤ limit := by
  induction text generalizing limit with
  | nil => exact Nat.zero_le _
  | cons c rest ih =>
      unfold takeBytes
      split
      · have hrest := ih (limit - c.utf8Size)
        rw [byteCount_cons]
        omega
      · exact Nat.zero_le _

/-- No beginning of a text that fits is longer than `takeBytes`. -/
theorem prefix_takeBytes {before text : Text} (hbefore : before <+: text) {limit : Nat}
    (hlimit : byteCount before ≤ limit) : before <+: takeBytes text limit := by
  induction text generalizing before limit with
  | nil => exact hbefore
  | cons c rest ih =>
      cases before with
      | nil => exact List.nil_prefix
      | cons d before =>
          obtain ⟨rfl, hrest⟩ := List.cons_prefix_cons.mp hbefore
          rw [byteCount_cons] at hlimit
          rw [takeBytes, if_pos (by omega), List.cons_prefix_cons]
          exact ⟨rfl, ih hrest (by omega)⟩

/-- A beginning of a text is what its bytes cut off. -/
theorem takeBytes_of_prefix {before text : Text} (hbefore : before <+: text) :
    takeBytes text (byteCount before) = before := by
  have hlonger : before <+: takeBytes text (byteCount before) :=
    prefix_takeBytes hbefore (Nat.le_refl _)
  obtain ⟨more, hmore⟩ := hlonger
  have hfits := byteCount_takeBytes_le text (byteCount before)
  rw [← hmore, byteCount_append] at hfits
  -- nothing more fits, as every character takes a byte
  have hnil : more = [] := by
    cases more with
    | nil => rfl
    | cons c more =>
        have hpos := c.utf8Size_pos
        rw [byteCount_cons] at hfits
        omega
  rw [← hmore, hnil, List.append_nil]

/-- The bytes of a beginning of a text are found at the position behind it. -/
theorem positionAt_of_prefix {before text : Text} (hbefore : before <+: text) :
    positionAt text (byteCount before) = endPosition before := by
  rw [positionAt, takeBytes_of_prefix hbefore]

/-! ## From positions to offsets -/

theorem offsetAt_feed (rest : Text) (position : Position) :
    offsetAt ('\n' :: rest) ⟨position.line + 1, position.character⟩ =
      1 + offsetAt rest position := by
  obtain ⟨line, more, hlines⟩ := List.exists_cons_of_ne_nil (lines_ne_nil rest)
  simp [offsetAt, lines_newline_cons, hlines, offsetInLines]

/-- Behind a character that ends no line, the position on its line is shifted by its units. -/
theorem offsetAt_plain {c : Char} (hc : c ≠ '\n') (rest : Text) (position : Position) :
    offsetAt (c :: rest) (Position.followedBy ⟨0, units c⟩ position) =
      c.utf8Size + offsetAt rest position := by
  obtain ⟨line, more, hlines⟩ := List.exists_cons_of_ne_nil (lines_ne_nil rest)
  have hpos := units_pos c
  obtain ⟨number, column⟩ := position
  rw [offsetAt, offsetAt, lines_cons_of_ne hc hlines, hlines]
  cases number with
  | zero =>
      have hcolumn : ¬ (units c + column = 0) := by omega
      simp only [Position.followedBy, if_true, Nat.zero_add, offsetInLines, columnOffset,
        if_neg hcolumn, Nat.add_sub_cancel_left]
  | succ number =>
      simp only [Position.followedBy_succ, Nat.zero_add]
      cases more with
      | nil => simp [offsetInLines]
      | cons next more =>
          simp only [offsetInLines, byteCount_cons]
          omega

theorem columnOffset_zero (line : Text) : columnOffset line 0 = 0 := by
  cases line <;> rfl

/-- The position behind a beginning of a text is found at its bytes. -/
theorem offsetAt_endPosition {before text : Text} (hbefore : before <+: text) :
    offsetAt text (endPosition before) = byteCount before := by
  induction before generalizing text with
  | nil =>
      obtain ⟨line, more, hlines⟩ := List.exists_cons_of_ne_nil (lines_ne_nil text)
      rw [offsetAt, hlines]
      exact columnOffset_zero line
  | cons c before ih =>
      obtain ⟨after, rfl⟩ := hbefore
      have hrest := ih (List.prefix_append before after)
      rw [List.cons_append, byteCount_cons]
      by_cases hc : c = '\n'
      · subst hc
        rw [endPosition_newline_cons, offsetAt_feed, hrest]
        rfl
      · rw [endPosition_cons_of_ne hc, offsetAt_plain hc, hrest]

/-! ## Places on a line -/

theorem endPosition_of_notMem {before : Text} (hbefore : '\n' ∉ before) :
    endPosition before = ⟨0, unitCount before⟩ := by
  induction before with
  | nil => rfl
  | cons c before ih =>
      rw [List.mem_cons, not_or] at hbefore
      rw [endPosition_cons_of_ne (Ne.symm hbefore.1), ih hbefore.2]
      rfl

/-- Each line with its line feed moves the position on by one line. -/
theorem endPosition_endLines {earlier : List Text} (hearlier : ∀ line ∈ earlier, '\n' ∉ line) :
    endPosition (endLines earlier) = ⟨earlier.length, 0⟩ := by
  induction earlier with
  | nil => rfl
  | cons line more ih =>
      have hline : '\n' ∉ line := hearlier line List.mem_cons_self
      have hmore := ih fun other hother => hearlier other (List.mem_cons_of_mem _ hother)
      rw [endLines_cons, endPosition_append, endPosition_of_notMem hline,
        endPosition_newline_cons, hmore, Position.followedBy_succ, List.length_cons, Nat.zero_add]

/-- The place behind a beginning of a line. -/
theorem prefix_of_getElem? {text line before : Text} {number : Nat}
    (hline : (lines text)[number]? = some line) (hbefore : before <+: line) :
    endLines ((lines text).take number) ++ before <+: text := by
  obtain ⟨rest, htext, -⟩ := exists_split_of_getElem? hline
  obtain ⟨after, rfl⟩ := hbefore
  refine ⟨after ++ rest, ?_⟩
  rw [← List.append_assoc, List.append_assoc _ before, ← htext]

theorem endPosition_of_getElem? {text line before : Text} {number : Nat}
    (hline : (lines text)[number]? = some line) (hbefore : before <+: line) :
    endPosition (endLines ((lines text).take number) ++ before) =
      ⟨number, unitCount before⟩ := by
  have hlt : number < (lines text).length := (List.getElem?_eq_some_iff.mp hline).1
  have hearlier : ∀ other ∈ (lines text).take number, '\n' ∉ other := fun other hother =>
    newline_notMem_of_mem_lines (List.mem_of_mem_take hother)
  have hnot : '\n' ∉ before := fun hmem =>
    newline_notMem_of_mem_lines (List.mem_of_getElem? hline) (hbefore.subset hmem)
  rw [endPosition_append, endPosition_endLines hearlier, endPosition_of_notMem hnot,
    Position.followedBy_newLine, Nat.add_zero, List.length_take,
    Nat.min_eq_left (Nat.le_of_lt hlt)]

/-! ## Columns that are no place -/

theorem not_splitsCharacter_nil (column : Nat) : ¬ SplitsCharacter [] column := by
  rintro ⟨before, c, hbefore, -, -⟩
  simp at hbefore

/-- A character in front of a line shifts what is inside of a character by its units. -/
theorem splitsCharacter_cons_iff (c : Char) (line : Text) (column : Nat) :
    SplitsCharacter (c :: line) (units c + column) ↔ SplitsCharacter line column := by
  constructor
  · rintro ⟨before, d, hbefore, hfirst, hlast⟩
    cases before with
    | nil =>
        obtain ⟨rfl, -⟩ := List.cons_prefix_cons.mp hbefore
        simp only [List.nil_append, unitCount_cons, unitCount_nil] at hlast
        omega
    | cons e before =>
        obtain ⟨rfl, hrest⟩ := List.cons_prefix_cons.mp hbefore
        simp only [List.cons_append, unitCount_cons] at hfirst hlast
        exact ⟨before, d, hrest, by omega, by omega⟩
  · rintro ⟨before, d, hbefore, hfirst, hlast⟩
    refine ⟨c :: before, d, List.cons_prefix_cons.mpr ⟨rfl, hbefore⟩, ?_, ?_⟩
    · rw [unitCount_cons]
      omega
    · rw [List.cons_append, unitCount_cons]
      omega

/-- A column on a line lies between two characters, or inside of one. -/
theorem isColumn_or_splitsCharacter {line : Text} {column : Nat}
    (hcolumn : column ≤ unitCount line) : IsColumn line column ∨ SplitsCharacter line column := by
  induction line generalizing column with
  | nil => exact .inl ⟨[], List.nil_prefix, (Nat.le_zero.mp hcolumn).symm⟩
  | cons c rest ih =>
      rcases Nat.eq_zero_or_pos column with rfl | hpos
      · exact .inl ⟨[], List.nil_prefix, rfl⟩
      rcases Nat.lt_or_ge column (units c) with hlt | hge
      · exact .inr ⟨[], c, by simp, hpos, by simpa using hlt⟩
      obtain ⟨later, rfl⟩ := Nat.exists_eq_add_of_le hge
      rw [unitCount_cons] at hcolumn
      rcases ih (show later ≤ unitCount rest by omega) with ⟨before, hbefore, hcount⟩ | hsplits
      · refine .inl ⟨c :: before, List.cons_prefix_cons.mpr ⟨rfl, hbefore⟩, ?_⟩
        rw [unitCount_cons, hcount]
      · exact .inr ((splitsCharacter_cons_iff c rest later).mpr hsplits)

theorem unitCount_le_of_prefix {before line : Text} (hbefore : before <+: line) :
    unitCount before ≤ unitCount line := by
  obtain ⟨after, rfl⟩ := hbefore
  rw [unitCount_append]
  exact Nat.le_add_right _ _

/-- No beginning of a text lies between two others that differ by a character. -/
theorem prefix_or_concat_prefix {before front text : Text} {c : Char} (hbefore : before <+: text)
    (hfront : front ++ [c] <+: text) : before <+: front ∨ front ++ [c] <+: before := by
  rcases List.prefix_or_prefix_of_prefix hbefore hfront with hshorter | hlonger
  · rcases List.prefix_concat_iff.mp hshorter with rfl | hfits
    · exact .inr List.prefix_rfl
    · exact .inl hfits
  · exact .inr hlonger

/-- No column lies both between two characters and inside of one. -/
theorem not_isColumn_of_splitsCharacter {line : Text} {column : Nat}
    (hsplits : SplitsCharacter line column) : ¬ IsColumn line column := by
  obtain ⟨front, c, hfront, hfirst, hlast⟩ := hsplits
  rintro ⟨before, hbefore, rfl⟩
  rcases prefix_or_concat_prefix hbefore hfront with hshorter | hlonger
  · have hle := unitCount_le_of_prefix hshorter
    exact absurd hfirst (Nat.not_lt_of_le hle)
  · have hle := unitCount_le_of_prefix hlonger
    exact absurd hlast (Nat.not_lt_of_le hle)

theorem columnOffset_of_le {line : Text} {column : Nat} (hcolumn : unitCount line ≤ column) :
    columnOffset line column = byteCount line := by
  induction line generalizing column with
  | nil => rfl
  | cons c rest ih =>
      have hpos := units_pos c
      rw [unitCount_cons] at hcolumn
      rw [columnOffset, if_neg (by omega), ih (by omega), byteCount_cons]

/-- A column that is past the beginning of a character, and not past its end, means that end. -/
theorem columnOffset_of_lt {line before : Text} {c : Char} {column : Nat}
    (hbefore : before ++ [c] <+: line) (hfirst : unitCount before < column)
    (hlast : column ≤ unitCount (before ++ [c])) :
    columnOffset line column = byteCount (before ++ [c]) := by
  induction before generalizing line column with
  | nil =>
      obtain ⟨rest, rfl⟩ := hbefore
      have hcolumn : column - units c = 0 := by
        simp only [List.nil_append, unitCount_cons, unitCount_nil] at hlast
        omega
      have hpos : column ≠ 0 := Nat.ne_of_gt (by simpa using hfirst)
      simp [columnOffset, hpos, hcolumn, columnOffset_zero]
  | cons d before ih =>
      obtain ⟨rest, rfl⟩ := hbefore
      simp only [List.cons_append, unitCount_cons] at hfirst hlast
      have hrest : columnOffset (before ++ [c] ++ rest) (column - units d) =
          byteCount (before ++ [c]) :=
        ih (List.prefix_append _ _) (by omega) (by omega)
      rw [List.cons_append, List.cons_append, columnOffset, if_neg (by omega), hrest,
        byteCount_cons]

/-! ## Offsets of lines -/

theorem byteCount_newline_cons (rest : Text) : byteCount ('\n' :: rest) = 1 + byteCount rest := rfl

theorem offsetInLines_of_getElem? {lines : List Text} {number : Nat} {line : Text}
    (hline : lines[number]? = some line) (column : Nat) :
    offsetInLines lines number column =
      byteCount (endLines (lines.take number)) + columnOffset line column := by
  induction lines generalizing number with
  | nil => simp at hline
  | cons head more ih =>
      cases number with
      | zero =>
          obtain rfl : head = line := by simpa using hline
          simp [offsetInLines]
      | succ number =>
          rw [List.getElem?_cons_succ] at hline
          have hrest := ih hline
          cases more with
          | nil => simp at hline
          | cons next more =>
              rw [offsetInLines, hrest, List.take_succ_cons, endLines_cons,
                byteCount_append, byteCount_newline_cons]
              omega

theorem offsetInLines_of_missing {lines : List Text} (hne : lines ≠ []) {number : Nat}
    (hmissing : lines.length ≤ number) (column : Nat) :
    offsetInLines lines number column = byteCount (joinLines lines) := by
  induction lines generalizing number with
  | nil => exact absurd rfl hne
  | cons line more ih =>
      obtain ⟨number, rfl⟩ := Nat.exists_eq_succ_of_ne_zero
        (Nat.ne_of_gt (Nat.lt_of_lt_of_le (Nat.succ_pos _) hmissing))
      cases more with
      | nil => rw [offsetInLines, joinLines_singleton]
      | cons next more =>
          have hrest := ih (List.cons_ne_nil next more) (Nat.le_of_succ_le_succ hmissing)
          rw [offsetInLines, hrest, joinLines_cons_cons, byteCount_append,
            byteCount_newline_cons]
          omega

/-! ## Both ways -/

/-- An offset goes back to the last place before it. -/
theorem offsetAt_positionAt (text : Text) (offset : Nat) :
    offsetAt text (positionAt text offset) = byteCount (takeBytes text offset) :=
  offsetAt_endPosition (takeBytes_isPrefix text offset)

/-- That place is the last boundary that is neither past the offset nor past the end of the text. -/
theorem isGreatest_offsetAt_positionAt (text : Text) (offset : Nat) :
    IsGreatest {boundary | IsBoundary text boundary ∧ boundary ≤ min offset (byteCount text)}
      (offsetAt text (positionAt text offset)) := by
  rw [offsetAt_positionAt]
  have hplace := takeBytes_isPrefix text offset
  have hfits := byteCount_takeBytes_le text offset
  refine ⟨⟨⟨_, hplace, rfl⟩, Nat.le_min.mpr ⟨hfits, byteCount_le_of_prefix hplace⟩⟩, ?_⟩
  rintro boundary ⟨⟨before, hbefore, rfl⟩, hle⟩
  exact byteCount_le_of_prefix (prefix_takeBytes hbefore (Nat.le_min.mp hle).1)

/-- A position between two characters of a line, or at an end of the line, is found again. -/
theorem positionAt_offsetAt {text line : Text} {position : Position}
    (hline : (lines text)[position.line]? = some line)
    (hcolumn : IsColumn line position.character) :
    positionAt text (offsetAt text position) = position := by
  obtain ⟨before, hbefore, hcount⟩ := hcolumn
  have hplace := prefix_of_getElem? hline hbefore
  have hposition :
      endPosition (endLines ((lines text).take position.line) ++ before) = position := by
    rw [endPosition_of_getElem? hline hbefore, hcount]
  rw [← hposition, offsetAt_endPosition hplace, positionAt_of_prefix hplace]

theorem offsetAt_of_missing {text : Text} {position : Position}
    (hmissing : (lines text)[position.line]? = none) :
    offsetAt text position = byteCount text := by
  have hlength : (lines text).length ≤ position.line := List.getElem?_eq_none_iff.mp hmissing
  rw [offsetAt, offsetInLines_of_missing (lines_ne_nil text) hlength, joinLines_lines]

/-- **Offsets and positions are inverse to each other.**  An offset that is turned into a position
and back is the last boundary that is not past it, nor past the end of the text.  A position between
two characters of a line, or at an end of the line, is found again.  As for all others: a missing
line is the end of the text, a column past the end of its line is that end, and a column inside of a
character is the place behind it. -/
theorem offsets_inverse_positions (text : Text) :
    (∀ offset, IsGreatest {boundary | IsBoundary text boundary ∧
      boundary ≤ min offset (byteCount text)} (offsetAt text (positionAt text offset))) ∧
    ∀ position : Position,
      match (lines text)[position.line]? with
      | none => offsetAt text position = byteCount text
      | some line =>
        let start := byteCount (endLines ((lines text).take position.line))
        (IsColumn line position.character → positionAt text (offsetAt text position) = position) ∧
        (unitCount line < position.character → offsetAt text position = start + byteCount line) ∧
        (position.character ≤ unitCount line → ¬ IsColumn line position.character →
          ∃ before c, before ++ [c] <+: line ∧ unitCount before < position.character ∧
            position.character < unitCount (before ++ [c]) ∧
            offsetAt text position = start + byteCount (before ++ [c])) := by
  refine ⟨isGreatest_offsetAt_positionAt text, fun position => ?_⟩
  cases hline : (lines text)[position.line]? with
  | none => exact offsetAt_of_missing hline
  | some line =>
      have hoffset : offsetAt text position = _ :=
        offsetInLines_of_getElem? hline position.character
      refine ⟨positionAt_offsetAt hline, fun hpast => ?_, fun hon hno => ?_⟩
      · rw [hoffset, columnOffset_of_le (Nat.le_of_lt hpast)]
      · obtain ⟨before, c, hbefore, hfirst, hlast⟩ :=
          (isColumn_or_splitsCharacter hon).resolve_left hno
        refine ⟨before, c, hbefore, hfirst, hlast, ?_⟩
        rw [hoffset, columnOffset_of_lt hbefore hfirst (Nat.le_of_lt hlast)]

/-- One position of each kind: found again, past the end of its line, inside of a character, and on
a missing line. -/
theorem offsets_inverse_positions_emoji :
    let text : Text := ['é', '😀', '\n', 'x']
    IsColumn ['é', '😀'] 1 ∧ ¬ IsColumn ['é', '😀'] 2 ∧
      positionAt text (offsetAt text ⟨0, 1⟩) = ⟨0, 1⟩ ∧
      offsetAt text ⟨0, 9⟩ = 6 ∧
      (∃ before c, before ++ [c] <+: ['é', '😀'] ∧ unitCount before < 2 ∧
        2 < unitCount (before ++ [c]) ∧ offsetAt text ⟨0, 2⟩ = byteCount (before ++ [c])) ∧
      offsetAt text ⟨2, 0⟩ = 8 := by
  intro text
  obtain ⟨-, hposition⟩ := offsets_inverse_positions text
  have hstart : IsColumn ['é', '😀'] 1 := ⟨['é'], ⟨['😀'], rfl⟩, by decide⟩
  have hinside : ¬ IsColumn ['é', '😀'] 2 :=
    not_isColumn_of_splitsCharacter ⟨['é'], '😀', List.prefix_rfl, by decide, by decide⟩
  refine ⟨hstart, hinside, (hposition ⟨0, 1⟩).1 hstart, (hposition ⟨0, 9⟩).2.1 (by decide), ?_,
    hposition ⟨2, 0⟩⟩
  obtain ⟨before, c, hbefore, hfirst, hlast, hoffset⟩ :=
    (hposition ⟨0, 2⟩).2.2 (by decide) hinside
  exact ⟨before, c, hbefore, hfirst, hlast, hoffset.trans (Nat.zero_add _)⟩

end PolicyEditing.Text
