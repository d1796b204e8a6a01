import PolicyEditing.Layout
import PolicyEditing.Proofs.Text.Trim

/-!
# Tidy lines

The form in which a laid out line leaves the commas: behind a comma stands no blank, or one space
and then no blank.  Spacing the commas of a line brings it into this form and leaves alone what is
in it already; neither end of a trimmed line is touched.
-/

namespace PolicyEditing.Layout

/-! ## Commas -/

/-- Every comma is followed by no blank, or by a single space. -/
def Tidy : Text → Prop
  | [] => True
  | c :: rest =>
    (c = ',' → rest.head?.any Text.isBlank = true →
      ∃ more, rest = ' ' :: more ∧ more.head?.any Text.isBlank = false) ∧ Tidy rest

theorem tidy_of_suffix {line rest : Text} (hline : Tidy line) (hrest : rest <:+ line) :
    Tidy rest := by
  induction line with
  | nil => rwa [List.suffix_nil.mp hrest]
  | cons c line ih =>
      rcases List.suffix_cons_iff.mp hrest with rfl | hrest
      · exact hline
      · exact ih hline.2 hrest

theorem tidy_prependTidy (c : Char) {tidy : Text} (htidy : Tidy tidy) :
    Tidy (prependTidy c tidy) := by
  unfold prependTidy
  split
  · refine ⟨fun _ _ => ⟨_, rfl, Text.head?_trimStart tidy⟩, ?_, ?_⟩
    · -- the new space is no comma
      intro hspace
      exact absurd hspace (by decide)
    · exact tidy_of_suffix htidy (Text.trimStart_suffix tidy)
  · rename_i hcomma
    refine ⟨fun hc hblank => absurd ⟨hc, hblank⟩ hcomma, htidy⟩

theorem tidy_spaceCommas (line : Text) : Tidy (spaceCommas line) := by
  induction line with
  | nil => trivial
  | cons c line ih => exact tidy_prependTidy c ih

theorem spaceCommas_of_tidy {line : Text} (hline : Tidy line) : spaceCommas line = line := by
  induction line with
  | nil => rfl
  | cons c line ih =>
      obtain ⟨hcomma, hrest⟩ := hline
      rw [spaceCommas_cons, ih hrest, prependTidy]
      split
      · rename_i hc
        -- the one space behind a comma is taken off and put back
        obtain ⟨more, rfl, hmore⟩ := hcomma hc.1 hc.2
        have hspace : ∀ c ∈ [' '], Text.isBlank c = true := List.forall_mem_singleton.mpr rfl
        have htrim : Text.trimStart (' ' :: more) = more :=
          calc Text.trimStart (' ' :: more)
              = Text.trimStart more := Text.trimStart_append_of_blank hspace more
            _ = more := Text.trimStart_of_head? hmore
        rw [htrim, hc.1]
      · rfl

/-! ## The ends of a line -/

theorem head?_spaceCommas (line : Text) : (spaceCommas line).head? = line.head? := by
  cases line with
  | nil => rfl
  | cons c line =>
      rw [spaceCommas_cons, prependTidy]
      split
      · rename_i hc
        simp [hc.1]
      · rfl

theorem getLast?_prependTidy (c : Char) {tidy : Text} (hne : tidy ≠ [])
    (hlast : tidy.getLast?.any Text.isBlank = false) :
    (prependTidy c tidy).getLast? = tidy.getLast? := by
  have hstart := Text.getLast?_trimStart hlast
  unfold prependTidy
  split
  · have htrim : Text.trimStart tidy ≠ [] := by
      intro hempty
      rw [hempty, List.getLast?_nil] at hstart
      exact hne (List.getLast?_eq_none_iff.mp hstart.symm)
    rw [List.getLast?_cons_cons, List.getLast?_cons_of_ne_nil htrim, hstart]
  · exact List.getLast?_cons_of_ne_nil hne

theorem spaceCommas_ne_nil {line : Text} (hne : line ≠ []) : spaceCommas line ≠ [] := by
  intro hempty
  have hhead := head?_spaceCommas line
  rw [hempty, List.head?_nil] at hhead
  exact hne (List.head?_eq_none_iff.mp hhead.symm)

/-- The last character stays if it is no blank: the blanks behind a comma end before it. -/
theorem getLast?_spaceCommas {line : Text} (hlast : line.getLast?.any Text.isBlank = false) :
    (spaceCommas line).getLast? = line.getLast? := by
  induction line with
  | nil => rfl
  | cons c line ih =>
      cases line with
      | nil => simp [prependTidy]
      | cons next line =>
          rw [List.getLast?_cons_cons] at hlast ⊢
          have hend := ih hlast
          rw [spaceCommas_cons, getLast?_prependTidy c (spaceCommas_ne_nil (by simp)), hend]
          rw [hend]
          exact hlast

theorem mem_spaceCommas {line : Text} {c : Char} (hc : c ∈ spaceCommas line) :
    c ∈ line ∨ c = ' ' := by
  induction line with
  | nil => simp at hc
  | cons head line ih =>
      rw [spaceCommas_cons, prependTidy] at hc
      split at hc
      · rename_i hcomma
        rw [List.mem_cons, List.mem_cons] at hc
        rcases hc with rfl | rfl | hc
        · exact Or.inl (hcomma.1 ▸ List.mem_cons_self)
        · exact Or.inr rfl
        · exact (ih ((Text.trimStart_suffix _).subset hc)).imp_left (List.mem_cons_of_mem _)
      · rcases List.mem_cons.mp hc with rfl | hc
        · exact Or.inl List.mem_cons_self
        · exact (ih hc).imp_left (List.mem_cons_of_mem _)

/-! ## What a line becomes -/

theorem tidy_tidyLine (line : Text) : Tidy (tidyLine line) :=
  tidy_spaceCommas _

theorem trimmed_tidyLine (line : Text) : Text.Trimmed (tidyLine line) := by
  have htrim := Text.trimmed_trim line
  constructor
  · rw [tidyLine, head?_spaceCommas]
    exact htrim.head
  · rw [tidyLine, getLast?_spaceCommas htrim.last]
    exact htrim.last

/-- A line that is trimmed and tidy stays as it is. -/
theorem tidyLine_of_tidy {line : Text} (htrim : Text.Trimmed line) (htidy : Tidy line) :
    tidyLine line = line := by
  rw [tidyLine, Text.trim_of_trimmed htrim, spaceCommas_of_tidy htidy]

theorem isBlank_of_mem_indentation {width level : Nat} {c : Char}
    (hc : c ∈ indentation width level) : Text.isBlank c = true := by
  rw [List.eq_of_mem_replicate hc]
  decide

/-- Indentation makes no difference to what a line becomes. -/
theorem tidyLine_indentation_append (width level : Nat) (line : Text) :
    tidyLine (indentation width level ++ line) = tidyLine line := by
  rw [tidyLine, Text.trim_append_of_blank fun _ => isBlank_of_mem_indentation, ← tidyLine]

@[simp] theorem tidyLine_tidyLine (line : Text) : tidyLine (tidyLine line) = tidyLine line :=
  tidyLine_of_tidy (trimmed_tidyLine line) (tidy_tidyLine line)

theorem newline_notMem_tidyLine {line : Text} (hline : '\n' ∉ line) : '\n' ∉ tidyLine line := by
  intro hmem
  rcases mem_spaceCommas hmem with hmem | hspace
  · exact hline (Text.mem_of_mem_trim hmem)
  · exact absurd hspace (by decide)

end PolicyEditing.Layout
