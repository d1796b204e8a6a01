import Mathlib.Data.List.TakeWhile
import PolicyEditing.Text.Blank

/-!
# Trimmed texts

A trimmed text neither begins nor ends with a blank.  Trimming gives such a text, leaves it alone,
and takes away every blank that is put in front of it or behind it.
-/

namespace PolicyEditing.Text

/-! ## Where a run ends -/

theorem takeWhile_append_of_head? {α : Type} {p : α → Bool} {run rest : List α}
    (hrun : ∀ a ∈ run, p a = true) (hrest : rest.head?.any p = false) :
    (run ++ rest).takeWhile p = run := by
  rw [List.takeWhile_append_of_pos hrun]
  cases rest with
  | nil => simp
  | cons a rest =>
      rw [List.takeWhile_cons_of_neg (by simpa using hrest), List.append_nil]

theorem any_head?_dropWhile {α : Type} (p : α → Bool) (list : List α) :
    (list.dropWhile p).head?.any p = false := by
  have hhead := List.head?_dropWhile_not p list
  cases hdrop : (list.dropWhile p).head? with
  | none => rfl
  | some a => simpa [hdrop] using hhead

/-! ## Trimmed texts -/

/-- Neither the first nor the last character is a blank. -/
structure Trimmed (text : Text) : Prop where
  head : text.head?.any isBlank = false
  last : text.getLast?.any isBlank = false

theorem head?_trimStart (text : Text) : (trimStart text).head?.any isBlank = false :=
  any_head?_dropWhile isBlank text

theorem trimStart_of_head? {text : Text} (hhead : text.head?.any isBlank = false) :
    trimStart text = text := by
  cases text with
  | nil => rfl
  | cons c rest => exact List.dropWhile_cons_of_neg (by simpa using hhead)

theorem trimStart_append_of_blank {blanks : Text} (hblanks : ∀ c ∈ blanks, isBlank c = true)
    (text : Text) : trimStart (blanks ++ text) = trimStart text :=
  List.dropWhile_append_of_pos hblanks

theorem trimStart_suffix (text : Text) : trimStart text <:+ text :=
  List.dropWhile_suffix _

/-- A last character that is no blank stays. -/
theorem getLast?_trimStart {text : Text} (hlast : text.getLast?.any isBlank = false) :
    (trimStart text).getLast? = text.getLast? := by
  induction text with
  | nil => rfl
  | cons c rest ih =>
      by_cases hc : isBlank c = true
      · -- a blank in front is not the last character, which is no blank
        have hne : rest ≠ [] := by
          rintro rfl
          simp [hc] at hlast
        rw [List.getLast?_cons_of_ne_nil hne] at hlast ⊢
        rw [← ih hlast, trimStart, List.dropWhile_cons_of_pos hc, ← trimStart]
      · rw [trimStart, List.dropWhile_cons_of_neg hc]

theorem trimEnd_eq (text : Text) : trimEnd text = (trimStart text.reverse).reverse := rfl

theorem trimEnd_isPrefix (text : Text) : trimEnd text <+: text := by
  rw [trimEnd_eq, ← List.reverse_suffix, List.reverse_reverse]
  exact trimStart_suffix _

theorem trimmed_trim (text : Text) : Trimmed (trim text) where
  head := by
    obtain ⟨rest, hrest⟩ := trimEnd_isPrefix (trimStart text)
    have hhead := head?_trimStart text
    unfold trim
    cases htrim : trimEnd (trimStart text) with
    | nil => rfl
    | cons c more =>
        rw [← hrest, htrim] at hhead
        exact hhead
  last := by
    rw [trim, trimEnd_eq, List.getLast?_reverse]
    exact head?_trimStart _

/-! ## What is cut off -/

theorem exists_blanks_append_trimStart (text : Text) :
    ∃ blanks : Text, (∀ c ∈ blanks, isBlank c = true) ∧ blanks ++ trimStart text = text :=
  ⟨text.takeWhile isBlank, fun _ hc => List.mem_takeWhile_imp hc, List.takeWhile_append_dropWhile⟩

theorem exists_trimEnd_append_blanks (text : Text) :
    ∃ blanks : Text, (∀ c ∈ blanks, isBlank c = true) ∧ trimEnd text ++ blanks = text := by
  obtain ⟨blanks, hblanks, htext⟩ := exists_blanks_append_trimStart text.reverse
  refine ⟨blanks.reverse, fun c hc => hblanks c (List.mem_reverse.mp hc), ?_⟩
  rw [trimEnd_eq, ← List.reverse_append, htext, List.reverse_reverse]

/-! ## Trimming a trimmed text, and one with blanks around -/

theorem trim_of_trimmed {text : Text} (htext : Trimmed text) : trim text = text := by
  rw [trim, trimStart_of_head? htext.head, trimEnd_eq, trimStart_of_head?, List.reverse_reverse]
  rw [List.head?_reverse]
  exact htext.last

theorem trim_append_of_blank {blanks : Text} (hblanks : ∀ c ∈ blanks, isBlank c = true)
    (text : Text) : trim (blanks ++ text) = trim text := by
  rw [trim, trimStart_append_of_blank hblanks, ← trim]

theorem trimEnd_concat {c : Char} (hc : isBlank c = true) (text : Text) :
    trimEnd (text ++ [c]) = trimEnd text := by
  rw [trimEnd, List.reverse_concat, List.dropWhile_cons_of_pos hc, ← trimEnd]

theorem trim_concat {c : Char} (hc : isBlank c = true) (text : Text) :
    trim (text ++ [c]) = trim text := by
  have hstart : trimStart (text ++ [c]) =
      if (trimStart text).isEmpty then trimStart [c] else trimStart text ++ [c] :=
    List.dropWhile_append
  rw [trim, hstart]
  split
  · rename_i hblank
    rw [List.isEmpty_iff] at hblank
    rw [trim, hblank, trimStart, List.dropWhile_cons_of_pos hc, List.dropWhile_nil]
  · rw [trimEnd_concat hc, ← trim]

theorem mem_of_mem_trim {text : Text} {c : Char} (hc : c ∈ trim text) : c ∈ text :=
  (trimStart_suffix text).subset ((trimEnd_isPrefix _).subset hc)

end PolicyEditing.Text
