import PolicyEditing.Proofs.Layout.Reformat

/-!
# What a layout leaves alone

All that a layout changes on a line are blanks at three places: in front of the line, behind it, and
right behind a comma.  A view of lines that is blind to blanks at these places sees the same in a
line and in what a layout makes of it (`Blind.view_laidLine`).  So whoever looks at lines through
such views has three small facts to prove for each of them, and nothing about layouts.
-/

namespace PolicyEditing.Layout

/-- A view of lines that does not see a blank in front of a line, behind it, or behind a comma. -/
structure Blind {α : Type} (view : Text → α) : Prop where
  inFront {c : Char} (hc : Text.isBlank c = true) (line : Text) : view (c :: line) = view line
  behind {c : Char} (hc : Text.isBlank c = true) (line : Text) : view (line ++ [c]) = view line
  behindComma {c : Char} (hc : Text.isBlank c = true) (front line : Text) :
    view (front ++ ',' :: c :: line) = view (front ++ ',' :: line)

namespace Blind

variable {α : Type} {view : Text → α} {blanks : Text}

/-! ## Many blanks -/

theorem view_blanks_append (hview : Blind view) (hblanks : ∀ c ∈ blanks, Text.isBlank c = true)
    (line : Text) : view (blanks ++ line) = view line := by
  induction blanks with
  | nil => rfl
  | cons c blanks ih =>
      obtain ⟨hc, hblanks⟩ := List.forall_mem_cons.mp hblanks
      rw [List.cons_append, hview.inFront hc, ih hblanks]

theorem view_append_blanks (hview : Blind view) (hblanks : ∀ c ∈ blanks, Text.isBlank c = true)
    (line : Text) : view (line ++ blanks) = view line := by
  induction blanks generalizing line with
  | nil => rw [List.append_nil]
  | cons c blanks ih =>
      obtain ⟨hc, hblanks⟩ := List.forall_mem_cons.mp hblanks
      rw [List.append_cons, ih hblanks, hview.behind hc]

theorem view_comma_blanks_append (hview : Blind view)
    (hblanks : ∀ c ∈ blanks, Text.isBlank c = true) (front line : Text) :
    view (front ++ ',' :: (blanks ++ line)) = view (front ++ ',' :: line) := by
  induction blanks with
  | nil => rfl
  | cons c blanks ih =>
      obtain ⟨hc, hblanks⟩ := List.forall_mem_cons.mp hblanks
      rw [List.cons_append, hview.behindComma hc, ih hblanks]

/-! ## What a line becomes -/

theorem view_trimStart (hview : Blind view) (line : Text) :
    view (Text.trimStart line) = view line := by
  obtain ⟨blanks, hblanks, hline⟩ := Text.exists_blanks_append_trimStart line
  have hsame := hview.view_blanks_append hblanks (Text.trimStart line)
  rw [hline] at hsame
  exact hsame.symm

theorem view_trim (hview : Blind view) (line : Text) : view (Text.trim line) = view line := by
  obtain ⟨blanks, hblanks, hstart⟩ := Text.exists_trimEnd_append_blanks (Text.trimStart line)
  have hsame := hview.view_append_blanks hblanks (Text.trim line)
  rw [Text.trim, hstart, hview.view_trimStart] at hsame
  exact hsame.symm

/-- A comma is written with the text before it, so that it can be seen what it follows. -/
theorem view_append_spaceCommas (hview : Blind view) (front line : Text) :
    view (front ++ spaceCommas line) = view (front ++ line) := by
  induction line generalizing front with
  | nil => rfl
  | cons c line ih =>
      have hrest : view (front ++ c :: spaceCommas line) = view (front ++ c :: line) := by
        have hfront := ih (front ++ [c])
        rwa [List.append_assoc, List.append_assoc] at hfront
      rw [spaceCommas_cons, prependTidy]
      split
      · rename_i hcomma
        obtain ⟨rfl, -⟩ := hcomma
        obtain ⟨blanks, hblanks, htidy⟩ := Text.exists_blanks_append_trimStart (spaceCommas line)
        calc view (front ++ ',' :: ' ' :: Text.trimStart (spaceCommas line))
            = view (front ++ ',' :: Text.trimStart (spaceCommas line)) :=
              hview.behindComma (by decide) _ _
          _ = view (front ++ ',' :: spaceCommas line) := by
              rw [← hview.view_comma_blanks_append hblanks, htidy]
          _ = view (front ++ ',' :: line) := hrest
      · exact hrest

theorem view_tidyLine (hview : Blind view) (line : Text) : view (tidyLine line) = view line := by
  have hcommas := hview.view_append_spaceCommas [] (Text.trim line)
  rw [List.nil_append, List.nil_append, hview.view_trim] at hcommas
  exact hcommas

/-- A layout changes nothing that a blind view sees on a line. -/
theorem view_laidLine (hview : Blind view) (width level : Nat) (line : Text) :
    view (laidLine width level line) = view line := by
  have htidy := hview.view_tidyLine line
  unfold laidLine
  split
  · rename_i hblank
    rwa [hblank] at htidy
  · rw [hview.view_blanks_append fun _ => isBlank_of_mem_indentation, htidy]

end Blind

end PolicyEditing.Layout
