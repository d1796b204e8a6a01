import Mathlib.Data.List.DropRight
import PolicyEditing.Proofs.Document.Bounds

/-!
# Inserting on a line

A position on a line that exists is meant to name a place on that line, however large its column is,
so that what is inserted there changes this line and not the next one.  For this the column is cut
down to what stands in front of the break, which is a line feed, or a carriage return and a line
feed.  A carriage return alone ends a line too, but is not taken for its break at this point: a
column past what stands on such a line means the place behind the return, where the next line begins
(`PassesLoneReturn`).  There is no other exception (`stays_on_line_iff`).

What an insertion does to the lines is seen by undoing the cut.  Pieces that could be lines
(`AreLines`) are found again in the text that they make (`lines_flatten`), and they still could be
lines when something without a break comes in front of the break of one of them
(`AreLines.insertAt`).
-/

namespace PolicyEditing.Document

/-! ## Pieces that are lines -/

/-- Whether a line ends with a break that does not go on in the text behind it. -/
def EndsBefore (line rest : Text) : Prop :=
  ending line = ['\n'] ∨ ending line = ['\r', '\n'] ∨
    ending line = ['\r'] ∧ rest.head? ≠ some '\n'

/-- Whether some pieces are the lines of the text that they make. -/
def AreLines : List Text → Prop
  | [] => False
  | [line] => ending line = []
  | line :: next :: more => EndsBefore line (next :: more).flatten ∧ AreLines (next :: more)

theorem areLines_cons {line : Text} {more : List Text} (hne : more ≠ []) :
    AreLines (line :: more) ↔ EndsBefore line more.flatten ∧ AreLines more := by
  obtain ⟨next, more, rfl⟩ := List.exists_cons_of_ne_nil hne
  exact Iff.rfl

theorem isBreak_eq_false_iff {c : Char} : isBreak c = false ↔ c ≠ '\n' ∧ c ≠ '\r' := by
  simp [isBreak]

theorem ending_ending (line : Text) : ending (ending line) = ending line :=
  List.dropWhile_idempotent _ line

theorem areLines_lines (text : Text) : AreLines (lines text) := by
  induction text using breakInduction with
  | nil => rfl
  | joint rest ih =>
      rw [lines_joint, areLines_cons (lines_ne_nil rest)]
      exact ⟨Or.inr (Or.inl rfl), ih⟩
  | feed rest ih =>
      rw [lines_feed, areLines_cons (lines_ne_nil rest)]
      exact ⟨Or.inl rfl, ih⟩
  | lone rest hhead ih =>
      rw [lines_lone hhead, areLines_cons (lines_ne_nil rest), flatten_lines]
      exact ⟨Or.inr (Or.inr ⟨rfl, hhead⟩), ih⟩
  | plain c rest hfeed hreturn ih =>
      obtain ⟨line, more, hlines⟩ := List.exists_cons_of_ne_nil (lines_ne_nil rest)
      have hending := ending_cons (isBreak_eq_false_iff.mpr ⟨hfeed, hreturn⟩) line
      rw [hlines] at ih
      rw [lines_plain hfeed hreturn hlines]
      cases more with
      | nil => exact hending.trans ih
      | cons next more =>
          refine ⟨?_, ih.2⟩
          rw [EndsBefore, hending]
          exact ih.1

/-! ## Cutting undoes joining -/

theorem lines_plain_append {first : Text} (hfirst : ∀ c ∈ first, isBreak c = false)
    {rest line : Text} {more : List Text} (hlines : lines rest = line :: more) :
    lines (first ++ rest) = (first ++ line) :: more := by
  induction first with
  | nil => exact hlines
  | cons c first ih =>
      obtain ⟨hfeed, hreturn⟩ := isBreak_eq_false_iff.mp (hfirst c List.mem_cons_self)
      apply lines_plain hfeed hreturn
      exact ih fun other hother => hfirst other (List.mem_cons_of_mem _ hother)

theorem lines_line_append {line rest : Text} (hends : EndsBefore line rest) :
    lines (line ++ rest) = line :: lines rest := by
  have hbreak : lines (ending line ++ rest) = ending line :: lines rest := by
    rcases hends with h | h | ⟨h, hhead⟩ <;> rw [h]
    · exact lines_feed rest
    · exact lines_joint rest
    · exact lines_lone hhead
  calc lines (line ++ rest)
      = lines (content line ++ (ending line ++ rest)) := by
        rw [← List.append_assoc, content_append_ending]
    _ = (content line ++ ending line) :: lines rest :=
        lines_plain_append (fun _ => isBreak_of_mem_content) hbreak
    _ = line :: lines rest := by rw [content_append_ending]

/-- Cutting undoes joining. -/
theorem lines_flatten {pieces : List Text} (hpieces : AreLines pieces) :
    lines pieces.flatten = pieces := by
  induction pieces with
  | nil => exact absurd hpieces id
  | cons line more ih =>
      cases more with
      | nil =>
          have hcontent : content line = line := by
            have hline := content_append_ending line
            rwa [show ending line = [] from hpieces, List.append_nil] at hline
          have hplain : ∀ c ∈ line, isBreak c = false := by
            intro c hc
            exact isBreak_of_mem_content (hcontent ▸ hc)
          simpa using lines_plain_append hplain lines_nil
      | cons next more =>
          obtain ⟨hends, hmore⟩ := hpieces
          rw [List.flatten_cons, lines_line_append hends, ih hmore]

/-- A line of a text ends with a break, or it is the last one. -/
theorem AreLines.endsBefore {pieces : List Text} (hpieces : AreLines pieces) {number : Nat}
    {line : Text} (hline : pieces[number]? = some line) :
    (EndsBefore line (pieces.drop (number + 1)).flatten ∧ AreLines (pieces.drop (number + 1))) ∨
      ending line = [] ∧ pieces.drop (number + 1) = [] := by
  induction pieces generalizing number with
  | nil => exact absurd hpieces id
  | cons head more ih =>
      cases number with
      | zero =>
          obtain rfl : head = line := by simpa using hline
          cases more with
          | nil => exact Or.inr ⟨hpieces, rfl⟩
          | cons next more => exact Or.inl hpieces
      | succ number =>
          have hmore : more ≠ [] := by
            rintro rfl
            simp at hline
          exact ih ((areLines_cons hmore).mp hpieces).2 (by simpa using hline)

/-! ## Insertions -/

/-- A text with a new part behind its first characters. -/
def insertAt (text : Text) (count : Nat) (new : Text) : Text :=
  text.take count ++ new ++ text.drop count

/-- The change that puts a new part in at a position. -/
def insertion (position : Position) (new : Text) : Change where
  range := some ⟨position, position⟩
  text := new

theorem changeText_insertion (text : Text) (position : Position) (new : Text) :
    changeText text (insertion position new) = insertAt text (indexAt text position) new := by
  simp [changeText, insertion, insertAt]

theorem insertAt_append_of_le {count : Nat} {first : Text} (hcount : count ≤ first.length)
    (rest new : Text) : insertAt (first ++ rest) count new = insertAt first count new ++ rest := by
  rw [insertAt, insertAt, List.take_append_of_le_length hcount,
    List.drop_append_of_le_length hcount]
  simp only [List.append_assoc]

theorem insertAt_length_add (first rest : Text) (count : Nat) (new : Text) :
    insertAt (first ++ rest) (first.length + count) new = first ++ insertAt rest count new := by
  rw [insertAt, insertAt, List.take_length_add_append, List.drop_length_add_append]
  simp only [List.append_assoc]

/-- What is put in on a line changes the text at that line. -/
theorem insertAt_flatten {pieces : List Text} {number : Nat} {line : Text}
    (hline : pieces[number]? = some line) {count : Nat} (hcount : count ≤ line.length)
    (new : Text) :
    insertAt pieces.flatten ((pieces.take number).flatten.length + count) new =
      (pieces.set number (insertAt line count new)).flatten := by
  induction pieces generalizing number with
  | nil => simp at hline
  | cons head more ih =>
      cases number with
      | zero =>
          obtain rfl : head = line := by simpa using hline
          simpa using insertAt_append_of_le hcount more.flatten new
      | succ number =>
          rw [List.take_succ_cons, List.flatten_cons, List.flatten_cons, List.length_append,
            Nat.add_assoc, insertAt_length_add, ih (by simpa using hline), List.set_cons_succ,
            List.flatten_cons]

theorem length_content_le (line : Text) : (content line).length ≤ line.length :=
  (List.takeWhile_prefix _).length_le

/-- What is put in before the end of what stands on a line comes in front of the break. -/
theorem insertAt_eq_append_ending {line : Text} {count : Nat}
    (hcount : count ≤ (content line).length) (new : Text) :
    insertAt line count new = insertAt (content line) count new ++ ending line := by
  rw [← insertAt_append_of_le hcount, content_append_ending]

/-- In front of a break, something without breaks leaves the break alone. -/
theorem ending_insertAt {line : Text} {count : Nat} (hcount : count ≤ (content line).length)
    {new : Text} (hnew : ∀ c ∈ new, isBreak c = false) :
    ending (insertAt line count new) = ending line := by
  have hplain : ∀ c ∈ insertAt (content line) count new, isBreak c = false := by
    intro c hc
    rw [insertAt, List.mem_append, List.mem_append] at hc
    rcases hc with (hc | hc) | hc
    · exact isBreak_of_mem_content (List.mem_of_mem_take hc)
    · exact hnew c hc
    · exact isBreak_of_mem_content (List.mem_of_mem_drop hc)
  calc ending (insertAt line count new)
      = ending (insertAt (content line) count new ++ ending line) := by
        rw [insertAt_eq_append_ending hcount]
    _ = ending (ending line) := List.dropWhile_append_of_pos (by simpa using hplain)
    _ = ending line := ending_ending line

/-- Something without breaks puts no line feed in front of a text. -/
theorem head?_insertAt {text : Text} (hhead : text.head? ≠ some '\n') (count : Nat) {new : Text}
    (hnew : ∀ c ∈ new, isBreak c = false) : (insertAt text count new).head? ≠ some '\n' := by
  have hfront : (new ++ text).head? ≠ some '\n' := by
    cases new with
    | nil => exact hhead
    | cons c new =>
        intro hc
        obtain rfl : c = '\n' := by simpa using hc
        exact absurd (hnew '\n' List.mem_cons_self) (by decide)
  cases text with
  | nil => simpa [insertAt] using hfront
  | cons c rest =>
      cases count with
      | zero => simpa [insertAt] using hfront
      | succ count => simpa [insertAt] using hhead

/-- A line stays a line when something without breaks is put in front of its break. -/
theorem AreLines.insertAt {pieces : List Text} (hpieces : AreLines pieces) {number : Nat}
    {line : Text} (hline : pieces[number]? = some line) {count : Nat}
    (hcount : count ≤ (content line).length) {new : Text}
    (hnew : ∀ c ∈ new, isBreak c = false) :
    AreLines (pieces.set number (insertAt line count new)) := by
  have hending := ending_insertAt hcount hnew
  induction pieces generalizing number with
  | nil => exact absurd hpieces id
  | cons head more ih =>
      cases number with
      | zero =>
          obtain rfl : head = line := by simpa using hline
          cases more with
          | nil => exact hending.trans hpieces
          | cons next more =>
              refine ⟨?_, hpieces.2⟩
              rw [EndsBefore, hending]
              exact hpieces.1
      | succ number =>
          rw [List.getElem?_cons_succ] at hline
          have hmore : more ≠ [] := by
            rintro rfl
            simp at hline
          obtain ⟨hends, hlines⟩ := (areLines_cons hmore).mp hpieces
          rw [List.set_cons_succ, areLines_cons (by simpa using hmore)]
          refine ⟨?_, ih hlines hline⟩
          -- the line before sees no line feed that it did not see
          rcases hends with h | h | ⟨h, hhead⟩
          · exact Or.inl h
          · exact Or.inr (Or.inl h)
          · refine Or.inr (Or.inr ⟨h, ?_⟩)
            rw [← insertAt_flatten hline (hcount.trans (length_content_le line))]
            exact head?_insertAt hhead _ hnew

/-- An insertion of something without breaks changes one line. -/
theorem lines_insertAt {text line : Text} {number : Nat}
    (hline : (lines text)[number]? = some line) {count : Nat}
    (hcount : count ≤ (content line).length) {new : Text}
    (hnew : ∀ c ∈ new, isBreak c = false) :
    lines (insertAt text (((lines text).take number).flatten.length + count) new) =
      (lines text).set number (insertAt line count new) := by
  have hflatten := insertAt_flatten hline (hcount.trans (length_content_le line)) new
  rw [flatten_lines] at hflatten
  rw [hflatten]
  exact lines_flatten ((areLines_lines text).insertAt hline hcount hnew)

/-- The lines behind a break stay whatever comes in front of the break. -/
theorem lines_suffix {line rest : Text} (hends : EndsBefore line rest) (front : Text) :
    lines rest <:+ (lines (front ++ (line ++ rest))).tail := by
  induction front with
  | nil =>
      rw [List.nil_append, lines_line_append hends]
      exact List.suffix_refl _
  | cons c front ih =>
      obtain ⟨first, more, hlines⟩ :=
        List.exists_cons_of_ne_nil (lines_ne_nil (front ++ (line ++ rest)))
      rw [hlines, List.tail_cons] at ih
      rw [List.cons_append, lines_cons, hlines, prependToLines]
      split
      · exact ih.trans (List.suffix_cons first more)
      · exact ih

/-- What is put in on a line stands between the lines before it and the lines behind it. -/
theorem insertAt_of_getElem? {text line : Text} {number : Nat}
    (hline : (lines text)[number]? = some line) {count : Nat} (hcount : count ≤ line.length)
    (new : Text) :
    insertAt text (((lines text).take number).flatten.length + count) new =
      ((lines text).take number).flatten ++
        (insertAt line count new ++ ((lines text).drop (number + 1)).flatten) := by
  have hcut := congrArg
    (insertAt · (((lines text).take number).flatten.length + count) new)
    (eq_append_of_getElem? hline)
  refine hcut.trans ?_
  rw [insertAt_length_add, insertAt_append_of_le hcount]

/-- No insertion in front of the break of a line changes a later line. -/
theorem later_suffix_lines {text line : Text} {number : Nat}
    (hline : (lines text)[number]? = some line) {count : Nat}
    (hcount : count ≤ (content line).length) (new : Text) :
    (lines text).drop (number + 1) <:+
      lines (insertAt text (((lines text).take number).flatten.length + count) new) := by
  rcases (areLines_lines text).endsBefore hline with ⟨hends, hlater⟩ | ⟨-, hlast⟩
  · have hbreak : EndsBefore (ending line) ((lines text).drop (number + 1)).flatten := by
      rwa [EndsBefore, ending_ending]
    have hsuffix := lines_suffix hbreak
      (((lines text).take number).flatten ++ insertAt (content line) count new)
    rw [lines_flatten hlater, List.append_assoc, ← List.append_assoc (insertAt _ _ _),
      ← insertAt_eq_append_ending hcount,
      ← insertAt_of_getElem? hline (hcount.trans (length_content_le line))] at hsuffix
    exact hsuffix.trans (List.tail_suffix _)
  · rw [hlast]
    exact List.nil_suffix

/-! ## Columns past the end of a line -/

/-- Whether a column is past what stands on a line that a carriage return alone ends. -/
def PassesLoneReturn (line : Text) (column : Nat) : Prop :=
  ending line = ['\r'] ∧ Text.unitCount (content line) < column

instance (line : Text) (column : Nat) : Decidable (PassesLoneReturn line column) :=
  inferInstanceAs (Decidable (_ ∧ _))

theorem withoutBreak_of_getLast?_ne {line : Text} (hlast : line.getLast? ≠ some '\n') :
    withoutBreak line = line :=
  if_neg hlast

theorem withoutBreak_append_feed {first : Text} (hfirst : first.getLast? ≠ some '\r') :
    withoutBreak (first ++ ['\n']) = first := by
  simp [withoutBreak, hfirst]

theorem withoutBreak_append_joint (first : Text) :
    withoutBreak (first ++ ['\r', '\n']) = first := by
  rw [List.append_cons]
  simp [withoutBreak]

theorem getLast?_content_ne (line : Text) {c : Char} (hc : isBreak c = true) :
    (content line).getLast? ≠ some c := by
  intro hlast
  have hplain := isBreak_of_mem_content (List.mem_of_getLast? hlast)
  rw [hplain] at hc
  exact Bool.false_ne_true hc

/-- A line feed, alone or behind a carriage return, is taken off a line. -/
theorem withoutBreak_eq_content {line rest : Text}
    (hends : EndsBefore line rest ∨ ending line = []) (hlone : ending line ≠ ['\r']) :
    withoutBreak line = content line := by
  have hline := content_append_ending line
  rcases hends with (h | h | ⟨h, -⟩) | h
  · rw [h] at hline
    conv_lhs => rw [← hline]
    exact withoutBreak_append_feed (getLast?_content_ne line rfl)
  · rw [h] at hline
    conv_lhs => rw [← hline]
    exact withoutBreak_append_joint _
  · exact absurd h hlone
  · rw [h, List.append_nil] at hline
    conv_lhs => rw [← hline]
    exact withoutBreak_of_getLast?_ne (getLast?_content_ne line rfl)

/-- A carriage return alone is not. -/
theorem withoutBreak_of_lone {line : Text} (hlone : ending line = ['\r']) :
    withoutBreak line = content line ++ ['\r'] := by
  have hline := content_append_ending line
  rw [hlone] at hline
  rw [hline]
  apply withoutBreak_of_getLast?_ne
  rw [← hline, List.getLast?_concat]
  decide

/-- A column that is not before the end of a line means that end. -/
theorem columnIndex_of_le {line : Text} {column : Nat} (hcolumn : Text.unitCount line ≤ column) :
    columnIndex line column = line.length := by
  apply Nat.le_antisymm (columnIndex_le_length line column)
  calc line.length
      = columnIndex line (Text.unitCount line) := by
        have hend := columnIndex_append line []
        rw [List.append_nil] at hend
        exact hend.symm
    _ ≤ columnIndex line column := columnIndex_mono line hcolumn

/-- The characters of a line before a column: no more than stand on the line, if the column is not
past a carriage return alone. -/
theorem columnIndex_le_content {line rest : Text}
    (hends : EndsBefore line rest ∨ ending line = []) {column : Nat}
    (hcolumn : ¬ PassesLoneReturn line column) :
    columnIndex (withoutBreak line) column ≤ (content line).length := by
  by_cases hlone : ending line = ['\r']
  · have hon : column ≤ Text.unitCount (content line) := by
      apply Nat.le_of_not_lt
      intro hpast
      exact hcolumn ⟨hlone, hpast⟩
    have hmin := columnIndex_min (content line) ['\r'] column
    rw [Nat.min_eq_left hon] at hmin
    rw [withoutBreak_of_lone hlone, hmin]
    exact columnIndex_le_length _ _
  · rw [withoutBreak_eq_content hends hlone]
    exact columnIndex_le_length _ _

/-- Past a carriage return alone, a column means the end of the line with the return. -/
theorem columnIndex_of_passesLoneReturn {line : Text} {column : Nat}
    (hpasses : PassesLoneReturn line column) :
    columnIndex (withoutBreak line) column = line.length := by
  obtain ⟨hlone, hcolumn⟩ := hpasses
  have hline := content_append_ending line
  rw [hlone] at hline
  have hunits : Text.unitCount line = Text.unitCount (content line) + 1 := by
    conv_lhs => rw [← hline, Text.unitCount_append]
    rfl
  rw [withoutBreak_of_lone hlone, hline]
  apply columnIndex_of_le
  omega

/-! ## Insertions at a position -/

/-- Behind a line that a break ends, there is a next line. -/
theorem exists_next {text line : Text} {number : Nat} (hline : (lines text)[number]? = some line)
    (hbreak : ending line ≠ []) : ∃ next, (lines text)[number + 1]? = some next := by
  rcases (areLines_lines text).endsBefore hline with ⟨-, hlater⟩ | ⟨hlast, -⟩
  · cases hdrop : (lines text).drop (number + 1) with
    | nil =>
        rw [hdrop] at hlater
        exact absurd hlater id
    | cons next more =>
        have hnext := @List.getElem?_drop _ (lines text) (number + 1) 0
        rw [hdrop] at hnext
        exact ⟨next, hnext.symm⟩
  · exact absurd hlast hbreak

/-- What is put in behind the break of a line comes in front of the next line. -/
theorem lines_insertAt_next {text line next : Text} {number : Nat}
    (hline : (lines text)[number]? = some line)
    (hnext : (lines text)[number + 1]? = some next) {new : Text}
    (hnew : ∀ c ∈ new, isBreak c = false) :
    lines (insertAt text (((lines text).take number).flatten.length + line.length) new) =
      (lines text).set (number + 1) (new ++ next) := by
  have hstart : ((lines text).take (number + 1)).flatten.length + 0 =
      ((lines text).take number).flatten.length + line.length := by
    rw [List.take_add_one, hline, Option.toList_some, List.flatten_append, List.length_append,
      List.flatten_singleton, Nat.add_zero]
  have hfront : insertAt next 0 new = new ++ next := by simp [insertAt]
  rw [← hstart, lines_insertAt hnext (Nat.zero_le _) hnew, hfront]

/-- **A position stays on its line.**  The index of a position on a line that exists is not before
the beginning of the line, and it is not past what stands on the line unless the column is and a
carriage return alone ends the line.  With this exception, an insertion at the position changes the
line in front of its break and no later line, and it changes nothing but the line if no break is
inserted.  In the exception it is the next line that is changed. -/
theorem stays_on_line_iff {text line : Text} {position : Position}
    (hline : (lines text)[position.line]? = some line) :
    let earlier := (lines text).take position.line
    let later := (lines text).drop (position.line + 1)
    let start := earlier.flatten.length
    let index := indexAt text position
    start ≤ index ∧
      (index ≤ start + (content line).length ↔ ¬ PassesLoneReturn line position.character) ∧
      (¬ PassesLoneReturn line position.character → ∀ new,
        changeText text (insertion position new) =
            earlier.flatten ++ (insertAt line (index - start) new ++ later.flatten) ∧
          later <:+ lines (changeText text (insertion position new)) ∧
          ((∀ c ∈ new, isBreak c = false) →
            lines (changeText text (insertion position new)) =
              (lines text).set position.line (insertAt line (index - start) new))) ∧
      (PassesLoneReturn line position.character → index = start + line.length ∧
        ∃ next, (lines text)[position.line + 1]? = some next ∧ ∀ new,
          (∀ c ∈ new, isBreak c = false) →
            lines (changeText text (insertion position new)) =
              (lines text).set (position.line + 1) (new ++ next)) := by
  intro earlier later start index
  have hends : EndsBefore line later.flatten ∨ ending line = [] := by
    rcases (areLines_lines text).endsBefore hline with ⟨hends, -⟩ | ⟨hlast, -⟩
    · exact Or.inl hends
    · exact Or.inr hlast
  have hindex : index = start + columnIndex (withoutBreak line) position.character :=
    indexInLines_of_getElem? hline position.character
  have hinsertion : ∀ new, changeText text (insertion position new) =
      insertAt text (start + columnIndex (withoutBreak line) position.character) new := by
    intro new
    rw [changeText_insertion]
    exact congrArg (insertAt text · new) hindex
  refine ⟨by omega, ⟨?_, ?_⟩, ?_, ?_⟩
  · intro hle hpasses
    have hcolumn := columnIndex_of_passesLoneReturn hpasses
    have hlength := congrArg List.length (content_append_ending line)
    rw [hpasses.1, List.length_append, List.length_singleton] at hlength
    omega
  · intro hpasses
    have hcolumn := columnIndex_le_content hends hpasses
    omega
  · intro hpasses new
    have hcolumn := columnIndex_le_content hends hpasses
    have hcount : index - start = columnIndex (withoutBreak line) position.character := by omega
    rw [hinsertion, hcount]
    refine ⟨?_, later_suffix_lines hline hcolumn new, fun hnew => lines_insertAt hline hcolumn hnew⟩
    exact insertAt_of_getElem? hline (hcolumn.trans (length_content_le line)) new
  · intro hpasses
    have hcolumn := columnIndex_of_passesLoneReturn hpasses
    have hbreak : ending line ≠ [] := by simp [hpasses.1]
    obtain ⟨next, hnext⟩ := exists_next hline hbreak
    refine ⟨hindex.trans (by rw [hcolumn]), next, hnext, ?_⟩
    intro new hnew
    rw [hinsertion, hcolumn]
    exact lines_insertAt_next hline hnext hnew

/-- A position past the end of a line of each kind.  On the line that a carriage return alone ends,
it is the next line that changes. -/
theorem stays_on_line_mixed :
    let text := "a\r\nb\rc\nd".toList
    (lines text)[0]? = some "a\r\n".toList ∧ (lines text)[1]? = some "b\r".toList ∧
      ¬ PassesLoneReturn "a\r\n".toList 9 ∧ PassesLoneReturn "b\r".toList 9 ∧
      indexAt text ⟨0, 9⟩ ≤ 1 ∧ ¬ indexAt text ⟨1, 9⟩ ≤ 4 ∧
      lines (changeText text (insertion ⟨0, 9⟩ ['+'])) =
        ["a+\r\n".toList, "b\r".toList, "c\n".toList, "d".toList] ∧
      lines (changeText text (insertion ⟨1, 9⟩ ['+'])) =
        ["a\r\n".toList, "b\r".toList, "+c\n".toList, "d".toList] := by
  intro text
  have hfirst : (lines text)[(⟨0, 9⟩ : Position).line]? = some "a\r\n".toList := by decide
  have hsecond : (lines text)[(⟨1, 9⟩ : Position).line]? = some "b\r".toList := by decide
  have hstays : ¬ PassesLoneReturn "a\r\n".toList 9 := by decide
  have hpasses : PassesLoneReturn "b\r".toList 9 := by decide
  have hplain : ∀ c ∈ ['+'], isBreak c = false := List.forall_mem_singleton.mpr rfl
  obtain ⟨-, hfirstIndex, hfirstLines, -⟩ := stays_on_line_iff hfirst
  obtain ⟨-, hsecondIndex, -, hsecondLines⟩ := stays_on_line_iff hsecond
  obtain ⟨-, next, hnext, hchanged⟩ := hsecondLines hpasses
  have hthird : (lines text)[2]? = some "c\n".toList := by decide
  obtain rfl : "c\n".toList = next := Option.some_inj.mp (hthird.symm.trans hnext)
  refine ⟨hfirst, hsecond, hstays, hpasses, hfirstIndex.mpr hstays, ?_, ?_, ?_⟩
  · intro hle
    exact hsecondIndex.mp hle hpasses
  · exact ((hfirstLines hstays ['+']).2.2 hplain).trans (by decide)
  · exact (hchanged ['+'] hplain).trans (by decide)

/-- A position on a line that exists can name a place behind the line, so that an insertion there
leaves the line alone and changes the next one. -/
theorem insertion_leaves_line :
    let text := "a\rb".toList
    let position : Position := ⟨0, 5⟩
    (lines text)[position.line]? = some "a\r".toList ∧
      ¬ indexAt text position ≤ (content "a\r".toList).length ∧
      lines (changeText text (insertion position ['!'])) = ["a\r".toList, "!b".toList] := by
  decide

end PolicyEditing.Document
