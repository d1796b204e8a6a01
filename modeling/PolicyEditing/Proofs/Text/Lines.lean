import PolicyEditing.Text.Basic

/-!
# Cutting into lines and joining them

Cutting undoes joining: lines without line feeds are found again in the text that joins them.  Each
line of a text is such a line, so the lines of a text and the texts that join them determine each
other.
-/

namespace PolicyEditing.Text

theorem lines_newline_cons (rest : Text) : lines ('\n' :: rest) = [] :: lines rest := by
  obtain ⟨line, more, hlines⟩ := List.exists_cons_of_ne_nil (lines_ne_nil rest)
  simp [lines_cons, prependToLines, hlines]

theorem lines_cons_of_ne {c : Char} (hc : c ≠ '\n') {rest line : Text} {more : List Text}
    (hlines : lines rest = line :: more) : lines (c :: rest) = (c :: line) :: more := by
  simp [lines_cons, prependToLines, hlines, hc]

theorem newline_notMem_of_mem_lines {text line : Text} (hline : line ∈ lines text) :
    '\n' ∉ line := by
  induction text generalizing line with
  | nil => simp_all
  | cons c text ih =>
      obtain ⟨head, more, hlines⟩ := List.exists_cons_of_ne_nil (lines_ne_nil text)
      by_cases hc : c = '\n'
      · rw [hc, lines_newline_cons] at hline
        rcases List.mem_cons.mp hline with rfl | hline
        · simp
        · exact ih hline
      · rw [lines_cons_of_ne hc hlines] at hline
        rcases List.mem_cons.mp hline with rfl | hline
        · have hhead : '\n' ∉ head := ih (hlines ▸ List.mem_cons_self)
          simp [hhead, Ne.symm hc]
        · exact ih (hlines ▸ List.mem_cons_of_mem _ hline)

/-- A line feed ends the first line. -/
theorem lines_append_newline {line : Text} (hline : '\n' ∉ line) (rest : Text) :
    lines (line ++ '\n' :: rest) = line :: lines rest := by
  induction line with
  | nil => exact lines_newline_cons rest
  | cons c line ih =>
      rw [List.mem_cons, not_or] at hline
      exact lines_cons_of_ne (Ne.symm hline.1) (ih hline.2)

/-- A line feed ends the lines before it. -/
theorem lines_append (first second : Text) :
    lines (first ++ '\n' :: second) = lines first ++ lines second := by
  induction first with
  | nil => exact lines_newline_cons second
  | cons c first ih =>
      obtain ⟨line, more, hlines⟩ := List.exists_cons_of_ne_nil (lines_ne_nil first)
      rw [hlines, List.cons_append] at ih
      by_cases hc : c = '\n'
      · rw [hc, List.cons_append, lines_newline_cons, lines_newline_cons, ih, hlines]
        rfl
      · rw [List.cons_append, lines_cons_of_ne hc ih, lines_cons_of_ne hc hlines, List.cons_append]

theorem lines_of_notMem {line : Text} (hline : '\n' ∉ line) : lines line = [line] := by
  induction line with
  | nil => rfl
  | cons c line ih =>
      rw [List.mem_cons, not_or] at hline
      exact lines_cons_of_ne (Ne.symm hline.1) (ih hline.2)

/-- Cutting undoes joining. -/
theorem lines_joinLines {pieces : List Text} (hne : pieces ≠ [])
    (hpieces : ∀ line ∈ pieces, '\n' ∉ line) : lines (joinLines pieces) = pieces := by
  induction pieces with
  | nil => exact absurd rfl hne
  | cons line more ih =>
      have hline : '\n' ∉ line := hpieces line List.mem_cons_self
      cases more with
      | nil => rw [joinLines_singleton, lines_of_notMem hline]
      | cons next more =>
          rw [joinLines_cons_cons, lines_append_newline hline,
            ih (by simp) fun other hother => hpieces other (List.mem_cons_of_mem _ hother)]

/-! ## Beginnings of a text -/

/-- Some lines, each with the line feed behind it. -/
def endLines (pieces : List Text) : Text :=
  pieces.flatMap (· ++ ['\n'])

@[simp] theorem endLines_nil : endLines [] = [] := rfl

@[simp] theorem endLines_cons (line : Text) (more : List Text) :
    endLines (line :: more) = line ++ '\n' :: endLines more := by
  simp [endLines]

@[simp] theorem endLines_append (first second : List Text) :
    endLines (first ++ second) = endLines first ++ endLines second := by
  simp [endLines]

theorem joinLines_append (first : List Text) {second : List Text} (hne : second ≠ []) :
    joinLines (first ++ second) = endLines first ++ joinLines second := by
  induction first with
  | nil => rfl
  | cons line first ih =>
      obtain ⟨next, more, hmore⟩ :=
        List.exists_cons_of_ne_nil (l := first ++ second) (by simp [hne])
      rw [List.cons_append, hmore, joinLines_cons_cons, ← hmore, ih]
      simp

/-- A text begins with the lines before any of its lines. -/
theorem eq_endLines_append {text line : Text} {earlier rest : List Text}
    (hlines : lines text = earlier ++ line :: rest) :
    text = endLines earlier ++ joinLines (line :: rest) := by
  rw [← joinLines_append earlier (List.cons_ne_nil line rest), ← hlines, joinLines_lines]

theorem lines_eq_of_getElem? {text line : Text} {number : Nat}
    (hline : (lines text)[number]? = some line) :
    lines text = (lines text).take number ++ line :: (lines text).drop (number + 1) := by
  obtain ⟨hlt, rfl⟩ := List.getElem?_eq_some_iff.mp hline
  rw [← List.drop_eq_getElem_cons hlt, List.take_append_drop]

/-- A line stands behind the lines before it, and the text ends with it or goes on with a line
feed. -/
theorem exists_split_of_getElem? {text line : Text} {number : Nat}
    (hline : (lines text)[number]? = some line) :
    ∃ rest, text = endLines ((lines text).take number) ++ line ++ rest ∧
      (rest = [] ∨ rest.head? = some '\n') := by
  have htext := eq_endLines_append (lines_eq_of_getElem? hline)
  cases hdrop : (lines text).drop (number + 1) with
  | nil =>
      rw [hdrop, joinLines_singleton] at htext
      exact ⟨[], by rw [List.append_nil, ← htext], Or.inl rfl⟩
  | cons next more =>
      rw [hdrop, joinLines_cons_cons, ← List.append_assoc] at htext
      exact ⟨_, htext, Or.inr rfl⟩

/-- The lines of a text, each with a line feed, are the text with one more line feed. -/
theorem endLines_lines (text : Text) : endLines (lines text) = text ++ ['\n'] := by
  have hjoin := joinLines_append (lines text) (List.cons_ne_nil ([] : Text) [])
  rw [joinLines_singleton, List.append_nil] at hjoin
  rw [← hjoin, ← joinLines_lines (text ++ ['\n']), lines_append, lines_nil]

/-! ## Search in lines -/

/-- A part without a character stands before that character or behind it. -/
theorem infix_append_cons_iff {part : Text} {c : Char} (hne : part ≠ []) (hpart : c ∉ part)
    {front rest : Text} :
    part <:+: front ++ c :: rest ↔ part <:+: front ∨ part <:+: rest := by
  constructor
  · rintro ⟨before, after, h⟩
    rw [List.append_assoc] at h
    rcases List.append_eq_append_iff.mp h with ⟨more, rfl, hmore⟩ | ⟨more, rfl, hmore⟩
    · -- the part begins in front of the character
      rcases List.append_eq_append_iff.mp hmore with ⟨inside, rfl, _⟩ | ⟨inside, rfl, hinside⟩
      · exact Or.inl ⟨before, inside, List.append_assoc _ _ _⟩
      · cases inside with
        | nil => exact Or.inl ⟨before, [], by simp⟩
        | cons other inside =>
            obtain ⟨rfl, -⟩ := List.cons.inj hinside
            exact absurd (List.mem_append_right more List.mem_cons_self) hpart
    · -- the part begins behind it
      cases more with
      | nil =>
          obtain ⟨other, part, rfl⟩ := List.exists_cons_of_ne_nil hne
          obtain ⟨rfl, -⟩ := List.cons.inj hmore
          exact absurd List.mem_cons_self hpart
      | cons other more =>
          obtain ⟨-, hrest⟩ := List.cons.inj hmore
          exact Or.inr ⟨more, after, (List.append_assoc _ _ _).trans hrest.symm⟩
  · rintro (h | h)
    · exact List.infix_append_of_infix_left h
    · exact List.infix_append_of_infix_right (List.infix_cons h)

/-- A part without line feeds stands on one of the lines. -/
theorem infix_endLines_iff {part : Text} (hne : part ≠ []) (hpart : '\n' ∉ part)
    {pieces : List Text} : part <:+: endLines pieces ↔ ∃ line ∈ pieces, part <:+: line := by
  induction pieces with
  | nil => simp [hne]
  | cons line more ih =>
      rw [endLines_cons, infix_append_cons_iff hne hpart, ih]
      simp only [List.mem_cons, exists_eq_or_imp]

theorem infix_iff_lines {part : Text} (hne : part ≠ []) (hpart : '\n' ∉ part) (text : Text) :
    part <:+: text ↔ ∃ line ∈ lines text, part <:+: line := by
  rw [← infix_endLines_iff hne hpart, endLines_lines, infix_append_cons_iff hne hpart]
  simp [hne]

end PolicyEditing.Text
