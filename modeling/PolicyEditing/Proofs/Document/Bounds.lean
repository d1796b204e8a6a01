import PolicyEditing.Proofs.Document.Whole

/-!
# Every range is safe

Positions come from outside, and nothing is known of them.  A change that takes the text apart step
by step, and stops at the first access outside of it (`changeRange?`), is still never stopped: the
index of a position is the beginning of its line and a part of what stands on the line, so it lies
within the text, and a range that ends before it starts is made empty before anything is removed.

Of two positions the later one has no smaller index, because an index does not leave its line.  And
no index lies inside of a joint break, which is not part of what stands on a line.
-/

namespace PolicyEditing.Document

/-! ## Access with a check -/

/-- The characters before a line, or before the end of the text for the number behind the last
line. -/
def lineStart? (text : Text) (number : Nat) : Option Nat :=
  if number ≤ (lines text).length then some ((lines text).take number).flatten.length else none

/-- The characters of a line before its break, found by looking at its last two characters. -/
def contentLength? (row : Text) : Option Nat :=
  if 0 < row.length then do
    let last ← row[row.length - 1]?
    if last = '\n' then
      if 0 < row.length - 1 then do
        let previous ← row[row.length - 2]?
        return if previous = '\r' then row.length - 2 else row.length - 1
      else return row.length - 1
    else return row.length
  else return 0

/-- The units of the first characters of a line. -/
def unitsBefore? (line : Text) (count : Nat) : Option Nat :=
  if count ≤ line.length then some (Text.unitCount (line.take count)) else none

/-- The characters before a column, which must not lie behind the line. -/
def columnIndex? (line : Text) (column : Nat) : Option Nat :=
  if column ≤ Text.unitCount line then some (columnIndex line column) else none

/-- The characters before a position. -/
def indexAt? (text : Text) (position : Position) : Option Nat :=
  if (lines text).length ≤ position.line then some text.length
  else do
    let start ← lineStart? text position.line
    let line ← (lines text)[position.line]?
    let length ← contentLength? line
    let units ← unitsBefore? line length
    let index ← columnIndex? line (min position.character units)
    return start + index

def remove? (text : Text) (first last : Nat) : Option Text :=
  if first ≤ last ∧ last ≤ text.length then some (text.take first ++ text.drop last) else none

def insert? (text : Text) (index : Nat) (new : Text) : Option Text :=
  if index ≤ text.length then some (text.take index ++ new ++ text.drop index) else none

/-- The text after a change, if no step of the change leaves the text. -/
def changeRange? (text : Text) (range : Range) (new : Text) : Option Text := do
  let first ← indexAt? text range.start
  let last ← indexAt? text range.stop
  let shorter ← remove? text first (max first last)
  insert? shorter first new

/-! ## What stands on a line -/

theorem withoutBreak_isPrefix (line : Text) : withoutBreak line <+: line := by
  unfold withoutBreak
  split
  · split
    · exact (List.dropLast_prefix _).trans (List.dropLast_prefix _)
    · exact List.dropLast_prefix _
  · exact List.prefix_refl _

/-- The last two characters are there when they are looked at. -/
theorem contentLength?_eq_some (line : Text) :
    contentLength? line = some (withoutBreak line).length := by
  rcases List.eq_nil_or_concat line with rfl | ⟨front, last, rfl⟩
  · rfl
  rcases List.eq_nil_or_concat front with rfl | ⟨front, previous, rfl⟩
  · by_cases hlast : last = '\n' <;> simp [contentLength?, withoutBreak, hlast]
  · by_cases hlast : last = '\n' <;> by_cases hprevious : previous = '\r' <;>
      simp [contentLength?, withoutBreak, hlast, hprevious]

/-- A column that is cut down to a part of a line is a column of that part. -/
theorem columnIndex_min (first rest : Text) (column : Nat) :
    columnIndex (first ++ rest) (min column (Text.unitCount first)) = columnIndex first column := by
  induction first generalizing column with
  | nil => simp [columnIndex]
  | cons c first ih =>
      have hmin : min column (Text.units c + Text.unitCount first) - Text.units c =
          min (column - Text.units c) (Text.unitCount first) := by omega
      by_cases hcolumn : Text.units c ≤ column
      · rw [List.cons_append, Text.unitCount_cons, columnIndex, if_pos (by omega), hmin, ih,
          columnIndex, if_pos hcolumn]
      · rw [List.cons_append, Text.unitCount_cons, columnIndex, if_neg (by omega), columnIndex,
          if_neg hcolumn]

theorem columnIndex_mono (line : Text) {first second : Nat} (hle : first ≤ second) :
    columnIndex line first ≤ columnIndex line second := by
  induction line generalizing first second with
  | nil => exact Nat.le_refl 0
  | cons c rest ih =>
      by_cases hfirst : Text.units c ≤ first
      · have hrest := ih (Nat.sub_le_sub_right hle (Text.units c))
        rw [columnIndex, columnIndex, if_pos hfirst, if_pos (hfirst.trans hle)]
        omega
      · rw [columnIndex, if_neg hfirst]
        exact Nat.zero_le _

/-! ## The index of a position -/

theorem indexInLines_of_getElem? {pieces : List Text} {number : Nat} {line : Text}
    (hline : pieces[number]? = some line) (column : Nat) :
    indexInLines pieces number column =
      (pieces.take number).flatten.length + columnIndex (withoutBreak line) column := by
  induction pieces generalizing number with
  | nil => simp at hline
  | cons head more ih =>
      cases number with
      | zero =>
          obtain rfl : head = line := by simpa using hline
          simp [indexInLines]
      | succ number =>
          have hrest := ih (by simpa using hline)
          simp only [indexInLines, hrest, List.take_succ_cons, List.flatten_cons,
            List.length_append]
          omega

theorem indexInLines_of_length_le {pieces : List Text} {number : Nat}
    (hnumber : pieces.length ≤ number) (column : Nat) :
    indexInLines pieces number column = pieces.flatten.length := by
  induction pieces generalizing number with
  | nil => rfl
  | cons head more ih =>
      cases number with
      | zero => simp at hnumber
      | succ number =>
          rw [indexInLines, ih (Nat.le_of_succ_le_succ hnumber), List.flatten_cons,
            List.length_append]

/-- A position on a line does not leave the line. -/
theorem columnIndex_withoutBreak_le (line : Text) (column : Nat) :
    columnIndex (withoutBreak line) column ≤ line.length :=
  (columnIndex_le_length _ column).trans (withoutBreak_isPrefix line).length_le

theorem indexInLines_le (pieces : List Text) (number column : Nat) :
    indexInLines pieces number column ≤ pieces.flatten.length := by
  induction pieces generalizing number with
  | nil => exact Nat.le_refl 0
  | cons line more ih =>
      rw [List.flatten_cons, List.length_append]
      cases number with
      | zero => exact (columnIndex_withoutBreak_le line column).trans (Nat.le_add_right _ _)
      | succ number => exact Nat.add_le_add_left (ih number) _

theorem indexInLines_mono (pieces : List Text) {first second : Position} (hle : first ≤ second) :
    indexInLines pieces first.line first.character ≤
      indexInLines pieces second.line second.character := by
  obtain ⟨number, column⟩ := first
  obtain ⟨number', column'⟩ := second
  rw [Position.le_iff] at hle
  induction pieces generalizing number number' with
  | nil => exact Nat.le_refl 0
  | cons line more ih =>
      cases number with
      | zero =>
          cases number' with
          | zero => exact columnIndex_mono _ (by simpa using hle)
          | succ number' =>
              exact (columnIndex_withoutBreak_le line column).trans (Nat.le_add_right _ _)
      | succ number =>
          cases number' with
          | zero => simp at hle
          | succ number' => exact Nat.add_le_add_left (ih number number' (by simpa using hle)) _

theorem indexAt_le_length (text : Text) (position : Position) :
    indexAt text position ≤ text.length := by
  have hle := indexInLines_le (lines text) position.line position.character
  rwa [flatten_lines] at hle

theorem indexAt_mono (text : Text) {first second : Position} (hle : first ≤ second) :
    indexAt text first ≤ indexAt text second :=
  indexInLines_mono (lines text) hle

/-- No access on the way to the index of a position leaves the text. -/
theorem indexAt?_eq_some (text : Text) (position : Position) :
    indexAt? text position = some (indexAt text position) := by
  unfold indexAt? indexAt
  by_cases hnumber : (lines text).length ≤ position.line
  · rw [if_pos hnumber, indexInLines_of_length_le hnumber, flatten_lines]
  · have hlt := Nat.lt_of_not_le hnumber
    obtain ⟨line, hline⟩ : ∃ line, (lines text)[position.line]? = some line :=
      ⟨_, List.getElem?_eq_getElem hlt⟩
    obtain ⟨ending, hending⟩ := withoutBreak_isPrefix line
    have hlength : (withoutBreak line).length ≤ line.length :=
      (withoutBreak_isPrefix line).length_le
    have htake : line.take (withoutBreak line).length = withoutBreak line :=
      (List.prefix_iff_eq_take.mp (withoutBreak_isPrefix line)).symm
    have hunits : min position.character (Text.unitCount (withoutBreak line)) ≤
        Text.unitCount line := by
      have hcount := congrArg Text.unitCount hending
      rw [Text.unitCount_append] at hcount
      omega
    have hindex := columnIndex_min (withoutBreak line) ending position.character
    rw [hending] at hindex
    have hcolumn : columnIndex? line (min position.character (Text.unitCount (withoutBreak line))) =
        some (columnIndex (withoutBreak line) position.character) := by
      rw [columnIndex?, if_pos hunits, hindex]
    rw [if_neg hnumber, indexInLines_of_getElem? hline]
    simp [lineStart?, hlt.le, hline, contentLength?_eq_some, unitsBefore?, hlength, htake, hcolumn]

/-! ## Joint breaks -/

/-- Whether an index lies between the two characters of a joint break. -/
def SplitsJoint (text : Text) (index : Nat) : Prop :=
  ∃ before after, text = before ++ '\r' :: '\n' :: after ∧ index = before.length + 1

theorem not_splitsJoint_zero (text : Text) : ¬ SplitsJoint text 0 := by
  rintro ⟨before, after, -, hindex⟩
  omega

theorem not_splitsJoint_max {text : Text} {first second : Nat} (hfirst : ¬ SplitsJoint text first)
    (hsecond : ¬ SplitsJoint text second) : ¬ SplitsJoint text (max first second) := by
  rcases Nat.le_total first second with hle | hle
  · rwa [Nat.max_eq_right hle]
  · rwa [Nat.max_eq_left hle]

/-- An index behind the first character splits a break there or a break of the rest. -/
theorem SplitsJoint.of_cons {c : Char} {rest : Text} {index : Nat}
    (hsplit : SplitsJoint (c :: rest) (1 + index)) :
    (index = 0 ∧ c = '\r' ∧ rest.head? = some '\n') ∨ SplitsJoint rest index := by
  obtain ⟨before, after, htext, hindex⟩ := hsplit
  cases before with
  | nil =>
      obtain ⟨rfl, rfl⟩ := List.cons.inj htext
      have hzero : index = 0 := by
        rw [List.length_nil] at hindex
        omega
      exact Or.inl ⟨hzero, rfl, rfl⟩
  | cons other before =>
      obtain ⟨-, rfl⟩ := List.cons.inj htext
      rw [List.length_cons] at hindex
      exact Or.inr ⟨before, after, rfl, by omega⟩

/-- A position is in front of the first character, or it is a position of the rest. -/
theorem indexAt_plain_cases {c : Char} {rest : Text} (hfeed : c ≠ '\n') (hreturn : c ≠ '\r')
    (position : Position) :
    indexAt (c :: rest) position = 0 ∨
      ∃ later, indexAt (c :: rest) position = 1 + indexAt rest later := by
  obtain ⟨number, column⟩ := position
  cases number with
  | zero =>
      rcases Nat.lt_or_ge column (Text.units c) with hlt | hge
      · exact Or.inl (indexAt_plain_of_lt hfeed hreturn hlt)
      · exact Or.inr ⟨_, indexAt_plain_of_le hfeed hreturn hge⟩
  | succ number => exact Or.inr ⟨_, indexAt_plain_succ hfeed hreturn number column⟩

/-- No position means the place between the two characters of a joint break. -/
theorem not_splitsJoint_indexAt (text : Text) (position : Position) :
    ¬ SplitsJoint text (indexAt text position) := by
  induction text using breakInduction generalizing position with
  | nil =>
      rintro ⟨before, after, htext, -⟩
      simp at htext
  | joint rest ih =>
      obtain ⟨number, column⟩ := position
      cases number with
      | zero =>
          rw [indexAt_joint_zero]
          exact not_splitsJoint_zero _
      | succ number =>
          intro hsplit
          rw [indexAt_joint rest ⟨number, column⟩, Nat.add_assoc 1 1] at hsplit
          rcases hsplit.of_cons with ⟨hzero, -⟩ | hsplit
          · omega
          rcases hsplit.of_cons with ⟨-, hreturn, -⟩ | hsplit
          · exact absurd hreturn (by decide)
          · exact ih _ hsplit
  | feed rest ih =>
      obtain ⟨number, column⟩ := position
      cases number with
      | zero =>
          rw [indexAt_feed_zero]
          exact not_splitsJoint_zero _
      | succ number =>
          intro hsplit
          rw [indexAt_feed rest ⟨number, column⟩] at hsplit
          rcases hsplit.of_cons with ⟨-, hreturn, -⟩ | hsplit
          · exact absurd hreturn (by decide)
          · exact ih _ hsplit
  | lone rest hhead ih =>
      obtain ⟨number, column⟩ := position
      cases number with
      | zero =>
          intro hsplit
          have hline := indexAt_lone_zero hhead column
          obtain hzero | hone :
              indexAt ('\r' :: rest) ⟨0, column⟩ = 0 ∨
                indexAt ('\r' :: rest) ⟨0, column⟩ = 1 + 0 := by
            omega
          · exact not_splitsJoint_zero _ (hzero ▸ hsplit)
          · rw [hone] at hsplit
            rcases hsplit.of_cons with ⟨-, -, hfeed⟩ | hsplit
            · exact hhead hfeed
            · exact not_splitsJoint_zero _ hsplit
      | succ number =>
          intro hsplit
          rw [indexAt_lone hhead ⟨number, column⟩] at hsplit
          rcases hsplit.of_cons with ⟨-, -, hfeed⟩ | hsplit
          · exact hhead hfeed
          · exact ih _ hsplit
  | plain c rest hfeed hreturn ih =>
      rcases indexAt_plain_cases hfeed hreturn position with hzero | ⟨later, hlater⟩
      · rw [hzero]
        exact not_splitsJoint_zero _
      · intro hsplit
        rw [hlater] at hsplit
        rcases hsplit.of_cons with ⟨-, hc, -⟩ | hsplit
        · exact hreturn hc
        · exact ih _ hsplit

/-! ## Changes -/

theorem insert?_remove? {text : Text} {first last : Nat} (hfirst : first ≤ last)
    (hlast : last ≤ text.length) (new : Text) :
    ((remove? text first last).bind fun shorter => insert? shorter first new) =
      some (text.take first ++ new ++ text.drop last) := by
  have hlength : (text.take first).length = first := List.length_take_of_le (hfirst.trans hlast)
  have hinsert : first ≤ (text.take first ++ text.drop last).length := by
    rw [List.length_append]
    omega
  rw [remove?, if_pos ⟨hfirst, hlast⟩, Option.bind_some, insert?, if_pos hinsert,
    List.take_left' hlength, List.drop_left' hlength]

/-- **Every range is safe.**  Whatever a position is, its index lies within the text and not between
the two characters of a joint break, and a later position has no smaller index.  So a change of any
range comes to an end with every access checked, and puts the new text between two parts of the old
one.  That the second part does not begin before the first one ends is only asked of ranges that end
before they start; for all others it is so. -/
theorem changeRange?_eq_some (text : Text) :
    (∀ position, indexAt? text position = some (indexAt text position) ∧
      indexAt text position ≤ text.length ∧ ¬ SplitsJoint text (indexAt text position)) ∧
    (∀ first second : Position, first ≤ second → indexAt text first ≤ indexAt text second) ∧
    ∀ (range : Range) (new : Text),
      let first := indexAt text range.start
      let last := max first (indexAt text range.stop)
      changeRange? text range new = some (changeText text ⟨some range, new⟩) ∧
        changeText text ⟨some range, new⟩ = text.take first ++ new ++ text.drop last ∧
        last ≤ text.length ∧ ¬ SplitsJoint text first ∧ ¬ SplitsJoint text last ∧
        (range.start ≤ range.stop → last = indexAt text range.stop) := by
  refine ⟨fun position => ⟨indexAt?_eq_some text position, indexAt_le_length text position,
    not_splitsJoint_indexAt text position⟩, fun _ _ => indexAt_mono text, ?_⟩
  intro range new first last
  have hfirst : first ≤ text.length := indexAt_le_length text range.start
  have hstop : indexAt text range.stop ≤ text.length := indexAt_le_length text range.stop
  have hlast : last ≤ text.length := max_le hfirst hstop
  refine ⟨?_, rfl, hlast, not_splitsJoint_indexAt text range.start,
    not_splitsJoint_max (not_splitsJoint_indexAt text _) (not_splitsJoint_indexAt text _), ?_⟩
  · calc changeRange? text range new
        = (remove? text first last).bind fun shorter => insert? shorter first new := by
          simp only [changeRange?, indexAt?_eq_some, Option.bind_eq_bind, Option.bind_some]
          rfl
      _ = some (text.take first ++ new ++ text.drop last) :=
          insert?_remove? (le_max_left _ _) hlast new
  · intro hrange
    exact max_eq_right (indexAt_mono text hrange)

/-- From behind the first line into the middle of a pair, and the other way round. -/
theorem changeRange?_emoji :
    let text := "a\r\n😀b".toList
    let forward : Range := ⟨⟨0, 9⟩, ⟨1, 1⟩⟩
    let backward : Range := ⟨⟨1, 1⟩, ⟨0, 9⟩⟩
    forward.start ≤ forward.stop ∧
      indexAt text forward.start ≤ indexAt text forward.stop ∧
      max (indexAt text forward.start) (indexAt text forward.stop) = 3 ∧
      changeRange? text forward ['-'] = some "a-😀b".toList ∧
      changeRange? text backward ['-'] = some "a\r\n-😀b".toList := by
  intro text forward backward
  obtain ⟨-, hmono, hchange⟩ := changeRange?_eq_some text
  have hle : forward.start ≤ forward.stop := by decide
  obtain ⟨hforward, -, -, -, -, hlast⟩ := hchange forward ['-']
  obtain ⟨hbackward, -⟩ := hchange backward ['-']
  refine ⟨hle, hmono _ _ hle, (hlast hle).trans (by decide), hforward.trans ?_, hbackward.trans ?_⟩
  · decide
  · decide

end PolicyEditing.Document
