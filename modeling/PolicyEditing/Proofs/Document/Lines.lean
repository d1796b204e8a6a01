import Mathlib.Data.List.TakeWhile
import PolicyEditing.Document

/-!
# The lines of a document

A document is cut into lines from its end to its beginning.  Read from the beginning, the cut makes
one of four steps: over the two characters of a joint break, over a line feed, over a carriage
return that stands alone, or over a character that breaks no line.  `breakInduction` is the
induction along these steps, and there is one equation of `lines` for each.
-/

namespace PolicyEditing.Document

/-! ## The cut, read from the beginning -/

/-- Induction along the breaks of a text. -/
theorem breakInduction {motive : Text → Prop} (nil : motive [])
    (joint : ∀ rest, motive rest → motive ('\r' :: '\n' :: rest))
    (feed : ∀ rest, motive rest → motive ('\n' :: rest))
    (lone : ∀ rest, rest.head? ≠ some '\n' → motive rest → motive ('\r' :: rest))
    (plain : ∀ c rest, c ≠ '\n' → c ≠ '\r' → motive rest → motive (c :: rest)) (text : Text) :
    motive text := by
  induction hlength : text.length using Nat.strong_induction_on generalizing text with
  | _ length ih =>
      subst hlength
      cases text with
      | nil => exact nil
      | cons c rest =>
          have hrest : motive rest := ih rest.length (by simp) rest rfl
          by_cases hfeed : c = '\n'
          · exact hfeed ▸ feed rest hrest
          by_cases hreturn : c = '\r'
          · subst hreturn
            -- a joint break takes two characters, hence the induction on the length
            by_cases hhead : rest.head? = some '\n'
            · obtain ⟨more, rfl⟩ := List.head?_eq_some_iff.mp hhead
              exact joint more (ih more.length (by simp only [List.length_cons]; omega) more rfl)
            · exact lone rest hhead hrest
          · exact plain c rest hfeed hreturn hrest

/-- A line feed alone makes the first line only of a text that begins with one. -/
theorem head?_lines_ne {text : Text} (hhead : text.head? ≠ some '\n') :
    (lines text).head? ≠ some ['\n'] := by
  intro hlines
  obtain ⟨more, hmore⟩ := List.head?_eq_some_iff.mp hlines
  have htext := flatten_lines text
  rw [hmore] at htext
  exact hhead (by simp [← htext])

theorem lines_feed (rest : Text) : lines ('\n' :: rest) = ['\n'] :: lines rest := by
  obtain ⟨line, more, hlines⟩ := List.exists_cons_of_ne_nil (lines_ne_nil rest)
  simp [lines_cons, prependToLines, hlines]

theorem lines_joint (rest : Text) : lines ('\r' :: '\n' :: rest) = ['\r', '\n'] :: lines rest := by
  rw [lines_cons, lines_feed]
  simp [prependToLines]

theorem lines_lone {rest : Text} (hhead : rest.head? ≠ some '\n') :
    lines ('\r' :: rest) = ['\r'] :: lines rest := by
  obtain ⟨line, more, hlines⟩ := List.exists_cons_of_ne_nil (lines_ne_nil rest)
  have hline : line ≠ ['\n'] := by
    intro hline
    exact head?_lines_ne hhead (by simp [hlines, hline])
  simp [lines_cons, prependToLines, hlines, hline]

theorem lines_plain {c : Char} {rest line : Text} {more : List Text} (hfeed : c ≠ '\n')
    (hreturn : c ≠ '\r') (hlines : lines rest = line :: more) :
    lines (c :: rest) = (c :: line) :: more := by
  simp [lines_cons, prependToLines, hlines, hfeed, hreturn]

/-- A line stands between the lines before it and the lines behind it. -/
theorem eq_append_of_getElem? {text line : Text} {number : Nat}
    (hline : (lines text)[number]? = some line) :
    text = ((lines text).take number).flatten ++
      (line ++ ((lines text).drop (number + 1)).flatten) := by
  obtain ⟨hlt, rfl⟩ := List.getElem?_eq_some_iff.mp hline
  rw [← List.flatten_cons, ← List.drop_eq_getElem_cons hlt, ← List.flatten_append,
    List.take_append_drop, flatten_lines]

/-! ## A line and its break -/

/-- Whether a character belongs to a break. -/
def isBreak (c : Char) : Bool := c = '\n' || c = '\r'

/-- What stands on a line. -/
def content (line : Text) : Text :=
  line.takeWhile fun c => !isBreak c

/-- The break at the end of a line. -/
def ending (line : Text) : Text :=
  line.dropWhile fun c => !isBreak c

@[simp] theorem content_append_ending (line : Text) : content line ++ ending line = line :=
  List.takeWhile_append_dropWhile

theorem isBreak_of_mem_content {line : Text} {c : Char} (hc : c ∈ content line) :
    isBreak c = false := by
  simpa using List.mem_takeWhile_imp hc

theorem content_cons {c : Char} (hc : isBreak c = false) (line : Text) :
    content (c :: line) = c :: content line := by
  simp [content, hc]

theorem ending_cons {c : Char} (hc : isBreak c = false) (line : Text) :
    ending (c :: line) = ending line := by
  simp [ending, hc]

theorem prefix_dropLast {first line : Text} {c : Char} (hfirst : first <+: line)
    (hlast : line.getLast? = some c) (hc : c ∉ first) : first <+: line.dropLast := by
  have hne : first ≠ line := by
    rintro rfl
    exact hc (List.mem_of_getLast? hlast)
  have hlt : first.length < line.length :=
    hfirst.length_le.lt_of_ne (mt hfirst.eq_of_length hne)
  refine List.prefix_of_prefix_length_le hfirst (List.dropLast_prefix line) ?_
  rw [List.length_dropLast]
  omega

/-- Nothing that stands on a line is lost with its break.  A carriage return alone is not taken
for a break here, so that more may be left. -/
theorem content_prefix_withoutBreak (line : Text) : content line <+: withoutBreak line := by
  have hnot : ∀ c, isBreak c = true → c ∉ content line := by
    intro c hbreak hc
    simp [isBreak_of_mem_content hc] at hbreak
  have hline : content line <+: line := List.takeWhile_prefix _
  unfold withoutBreak
  split
  · rename_i hfeed
    have hdrop := prefix_dropLast hline hfeed (hnot _ rfl)
    split
    · rename_i hreturn
      exact prefix_dropLast hdrop hreturn (hnot _ rfl)
    · exact hdrop
  · exact hline

/-! ## Columns between characters -/

@[simp] theorem columnIndex_zero (line : Text) : columnIndex line 0 = 0 := by
  cases line with
  | nil => rfl
  | cons c rest => simp [columnIndex, (Text.units_pos c).ne']

/-- The column at which a part of a line ends means the end of that part. -/
theorem columnIndex_append (first rest : Text) :
    columnIndex (first ++ rest) (Text.unitCount first) = first.length := by
  induction first with
  | nil => simp
  | cons c first ih => simp [columnIndex, ih, Nat.add_comm]

/-- A column on the content of a line is counted from the beginning of the line. -/
theorem indexInLines_eq {lines : List Text} {number : Nat} {line first rest : Text}
    (hline : lines[number]? = some line) (hcontent : content line = first ++ rest) :
    indexInLines lines number (Text.unitCount first) =
      ((lines.take number).flatten ++ first).length := by
  induction lines generalizing number with
  | nil => simp at hline
  | cons head more ih =>
      cases number with
      | zero =>
          obtain rfl : head = line := by simpa using hline
          obtain ⟨after, hafter⟩ := content_prefix_withoutBreak head
          rw [hcontent, List.append_assoc] at hafter
          simp [indexInLines, ← hafter, columnIndex_append]
      | succ number =>
          have := @ih number (by simpa using hline)
          simp only [indexInLines, this, List.take_succ_cons, List.flatten_cons,
            List.length_append]
          omega

end PolicyEditing.Document
