import PolicyEditing.Proofs.Layout.Blanks

/-!
# The form of laid out lines

Two questions about a line and what a layout makes of it: what is still there, and what can stand
there at all.  The first is one more view that is blind to blanks, the characters that are none.
For the second, a line is its indentation and a tidy body, and all commas stand in the body, so what
is known of the body's ends and of its commas is known of the line.
-/

namespace PolicyEditing.Layout

/-! ## What is still there -/

/-- The characters of a line that are no blanks, in their order. -/
def ink (line : Text) : Text :=
  line.filter fun c => !Text.isBlank c

theorem ink_append (first second : Text) : ink (first ++ second) = ink first ++ ink second :=
  List.filter_append _ _

theorem ink_cons_of_blank {c : Char} (hc : Text.isBlank c = true) (line : Text) :
    ink (c :: line) = ink line :=
  List.filter_cons_of_neg (by simp [hc])

theorem blind_ink : Blind ink where
  inFront := ink_cons_of_blank
  behind hc line := by
    rw [ink_append, ink_cons_of_blank hc]
    exact List.append_nil _
  behindComma {c} hc front line := by
    have hgap : ink (',' :: c :: line) = ink (',' :: line) := by
      rw [← List.singleton_append, ink_append, ink_cons_of_blank hc, ← ink_append,
        List.singleton_append]
    rw [ink_append, hgap, ← ink_append]

/-- What a blind view sees of the lines of a text, it sees of the lines of its layout. -/
theorem Blind.map_indentLines {α : Type} {view : Text → α} (hview : Blind view)
    (width level : Nat) (pieces : List Text) :
    (indentLines width level pieces).map view = pieces.map view := by
  induction pieces generalizing level with
  | nil => rfl
  | cons line rest ih =>
      rw [indentLines_cons, List.map_cons, hview.view_laidLine, ih, List.map_cons]

/-! ## What can stand there -/

/-- The form of a laid out line. -/
structure Canonical (line : Text) : Prop where
  /-- The line is empty, or it is a trimmed body behind an indentation of spaces. -/
  body : line = [] ∨
    ∃ spaces body, line = List.replicate spaces ' ' ++ body ∧ body ≠ [] ∧ Text.Trimmed body
  /-- A comma ends the line, or no blank stands behind it, or one space and then no blank. -/
  commas : ∀ front rest, line = front ++ ',' :: rest →
    rest = [] ∨
      (∃ c more, rest = c :: more ∧ Text.isBlank c = false) ∨
      ∃ c more, rest = ' ' :: c :: more ∧ Text.isBlank c = false

/-- In a tidy text without a blank at its end, something stands behind the space behind a comma. -/
theorem Tidy.behind_comma {front rest : Text} (htidy : Tidy (front ++ ',' :: rest))
    (hlast : (front ++ ',' :: rest).getLast?.any Text.isBlank = false) :
    rest = [] ∨
      (∃ c more, rest = c :: more ∧ Text.isBlank c = false) ∨
      ∃ c more, rest = ' ' :: c :: more ∧ Text.isBlank c = false := by
  cases rest with
  | nil => exact Or.inl rfl
  | cons next more =>
      by_cases hnext : Text.isBlank next = true
      · obtain ⟨hcomma, -⟩ := tidy_of_suffix htidy (List.suffix_append _ _)
        obtain ⟨more, hmore, hhead⟩ := hcomma rfl hnext
        obtain ⟨rfl, rfl⟩ := List.cons.inj hmore
        cases more with
        | nil =>
            -- the space would be the last character
            have hend : (front ++ [',', ' ']).getLast? = some ' ' := by simp
            rw [hend] at hlast
            exact absurd hlast (by decide)
        | cons c more => exact Or.inr (Or.inr ⟨c, more, rfl, by simpa using hhead⟩)
      · exact Or.inr (Or.inl ⟨next, more, rfl, by simpa using hnext⟩)

/-- A comma does not stand in the indentation. -/
theorem exists_of_indentation_append_eq {spaces : Nat} {body front rest : Text}
    (hline : List.replicate spaces ' ' ++ body = front ++ ',' :: rest) :
    ∃ inside, body = inside ++ ',' :: rest := by
  rcases List.append_eq_append_iff.mp hline with ⟨inside, -, hbody⟩ | ⟨inside, hspaces, hrest⟩
  · exact ⟨inside, hbody⟩
  · cases inside with
    | nil => exact ⟨[], hrest.symm⟩
    | cons c inside =>
        obtain ⟨rfl, -⟩ := List.cons.inj hrest
        have hmem : ',' ∈ List.replicate spaces ' ' := by
          rw [hspaces]
          exact List.mem_append_right _ List.mem_cons_self
        exact absurd (List.eq_of_mem_replicate hmem) (by decide)

theorem canonical_laidLine (width level : Nat) (line : Text) :
    Canonical (laidLine width level line) := by
  unfold laidLine
  split
  · exact ⟨Or.inl rfl, fun front rest h => absurd h (by simp)⟩
  · rename_i hne
    have htrim := trimmed_tidyLine line
    constructor
    · exact Or.inr ⟨_, _, rfl, hne, htrim⟩
    · intro front rest hline
      obtain ⟨inside, hbody⟩ := exists_of_indentation_append_eq hline
      have hlast := htrim.last
      have htidy := tidy_tidyLine line
      rw [hbody] at hlast htidy
      exact htidy.behind_comma hlast

theorem canonical_of_mem_indentLines {width level : Nat} {pieces : List Text} {laid : Text}
    (hlaid : laid ∈ indentLines width level pieces) : Canonical laid := by
  induction pieces generalizing level with
  | nil => simp [indentLines] at hlaid
  | cons line rest ih =>
      rw [indentLines_cons] at hlaid
      rcases List.mem_cons.mp hlaid with rfl | hlaid
      · exact canonical_laidLine width level line
      · exact ih hlaid

/-! ## Layouts -/

/-- **A layout moves blanks only, and its lines are canonical.**  A text and its layout have the
same number of lines, and line by line the same characters that are no blanks.  Every line of the
layout is empty or a trimmed body behind spaces, and behind each of its commas stands nothing, or no
blank, or one space and then no blank. -/
theorem canonical_format (text : Text) (width : Nat) :
    (Text.lines (format text width)).length = (Text.lines text).length ∧
      (Text.lines (format text width)).map ink = (Text.lines text).map ink ∧
      ∀ line ∈ Text.lines (format text width), Canonical line := by
  rw [lines_format]
  exact ⟨length_indentLines _ _ _, blind_ink.map_indentLines _ _ _,
    fun _ => canonical_of_mem_indentLines⟩

/-- The blanks behind the last comma go with the end of the line, among them a carriage return. -/
theorem canonical_format_comma_run :
    let text := "if \x7b\n\t a , ,,\u3000,\u00a0 ,\u2003\r\n".toList
    let line := "   a , ,, , ,".toList
    line ∈ Text.lines (format text 3) ∧ Canonical line ∧
      (Text.lines (format text 3)).map ink = ["if\x7b".toList, "a,,,,,".toList, []] := by
  intro text line
  obtain ⟨-, hink, hform⟩ := canonical_format text 3
  have hline : line ∈ Text.lines (format text 3) := by decide +kernel
  exact ⟨hline, hform line hline, hink.trans (by decide +kernel)⟩

end PolicyEditing.Layout
