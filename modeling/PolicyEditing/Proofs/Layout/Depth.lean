import Mathlib.Data.Finset.Lattice.Fold
import PolicyEditing.Proofs.Layout.Blanks

/-!
# A closed form of layouts

The level of a line is kept by a counter that stops at zero.  Without the counter it is read off the
brackets of the text: `balance` sums up what the first lines open less what they close, and the
depth behind them is the height of that sum above its lowest value so far (`levelBefore_eq`).  A
line stands at the smaller one of the depths before it and behind it.

What stands on a line needs no second definition of trimming, but one of the spaced commas: they are
made from the end of the line to its beginning, and `replaceGaps` says what a search for a comma
with blanks behind it replaces, from the beginning to the end.
-/

namespace PolicyEditing.Layout

/-! ## Commas -/

/-- A line with every comma and the run of blanks behind it replaced by a comma and one space, from
the left to the right.  A comma without blanks behind it stays. -/
def replaceGaps : Text → Text
  | [] => []
  | c :: rest =>
    if c = ',' ∧ rest.head?.any Text.isBlank then
      ',' :: ' ' :: replaceGaps (rest.dropWhile Text.isBlank)
    else c :: replaceGaps rest
termination_by line => line.length
decreasing_by
  all_goals
    have := (List.dropWhile_suffix (l := rest) Text.isBlank).length_le
    simp only [List.length_cons]
    omega

theorem spaceCommas_cons_of_ne {c : Char} (hc : c ≠ ',') (line : Text) :
    spaceCommas (c :: line) = c :: spaceCommas line := by
  rw [spaceCommas_cons, prependTidy, if_neg fun h => hc h.1]

/-- Blanks in front of a line are not touched by its commas. -/
theorem trimStart_spaceCommas (line : Text) :
    Text.trimStart (spaceCommas line) = spaceCommas (Text.trimStart line) := by
  induction line with
  | nil => rfl
  | cons c line ih =>
      by_cases hc : Text.isBlank c = true
      · have hne : c ≠ ',' := by
          rintro rfl
          exact absurd hc (by decide)
        calc Text.trimStart (spaceCommas (c :: line))
            = Text.trimStart (spaceCommas line) := by
              rw [spaceCommas_cons_of_ne hne, Text.trimStart, List.dropWhile_cons_of_pos hc,
                ← Text.trimStart]
          _ = spaceCommas (Text.trimStart line) := ih
          _ = spaceCommas (Text.trimStart (c :: line)) := by
              rw [Text.trimStart, Text.trimStart, List.dropWhile_cons_of_pos hc]
      · have hhead : (c :: line).head?.any Text.isBlank = false := by simpa using hc
        have hspaced : (spaceCommas (c :: line)).head?.any Text.isBlank = false := by
          rwa [head?_spaceCommas]
        rw [Text.trimStart_of_head? hspaced, Text.trimStart_of_head? hhead]

/-- Both directions come to the same. -/
theorem spaceCommas_eq_replaceGaps (line : Text) : spaceCommas line = replaceGaps line := by
  induction line using replaceGaps.induct with
  | case1 => rw [spaceCommas_nil, replaceGaps]
  | case2 c rest hgap ih =>
      obtain ⟨rfl, hblank⟩ := hgap
      have hspaced : (spaceCommas rest).head?.any Text.isBlank = true := by
        rwa [head?_spaceCommas]
      rw [replaceGaps, if_pos ⟨rfl, hblank⟩, ← ih, spaceCommas_cons, prependTidy,
        if_pos ⟨rfl, hspaced⟩, trimStart_spaceCommas, Text.trimStart]
  | case3 c rest hgap ih =>
      rw [replaceGaps, if_neg hgap, ← ih, spaceCommas_cons, prependTidy, head?_spaceCommas,
        if_neg hgap]

/-! ## Brackets -/

theorem nestingChange_append (first second : Text) :
    nestingChange (first ++ second) = nestingChange first + nestingChange second := by
  simp only [nestingChange, List.countP_append]
  omega

theorem nestingChange_singleton_of_blank {c : Char} (hc : Text.isBlank c = true) :
    nestingChange [c] = 0 := by
  have hopener : isOpener c = false := by
    by_contra h
    simp only [isOpener, Bool.not_eq_false, Bool.or_eq_true, decide_eq_true_eq] at h
    rcases h with rfl | rfl <;> exact absurd hc (by decide)
  have hcloser : isCloser c = false := by
    by_contra h
    simp only [isCloser, Bool.not_eq_false, Bool.or_eq_true, decide_eq_true_eq] at h
    rcases h with rfl | rfl <;> exact absurd hc (by decide)
  simp [nestingChange, hopener, hcloser]

/-- The brackets of a line do not depend on its blanks. -/
theorem blind_nestingChange : Blind nestingChange where
  inFront {c} hc line := by
    rw [← List.singleton_append, nestingChange_append, nestingChange_singleton_of_blank hc]
    omega
  behind hc line := by
    rw [nestingChange_append, nestingChange_singleton_of_blank hc]
    omega
  behindComma {c} hc front line := by
    have hcomma : nestingChange (',' :: c :: line) =
        nestingChange [','] + (nestingChange [c] + nestingChange line) := by
      rw [← nestingChange_append, ← nestingChange_append]
      rfl
    have hplain : nestingChange (',' :: line) = nestingChange [','] + nestingChange line := by
      rw [← nestingChange_append]
      rfl
    rw [nestingChange_append, nestingChange_append, hcomma, hplain,
      nestingChange_singleton_of_blank hc]
    omega

/-! ## Depths -/

/-- The brackets that the first `count` lines open, less those that they close. -/
def balance (pieces : List Text) : Nat → Int
  | 0 => 0
  | count + 1 => balance pieces count + nestingChange (pieces.getD count [])

/-- The smallest balance behind the first `count` lines and all lines before them.  It is not above
zero, which is the balance before the first line. -/
def lowest (pieces : List Text) (count : Nat) : Int :=
  (Finset.range (count + 1)).inf' Finset.nonempty_range_add_one (balance pieces)

/-- How deep a text stands behind its first `count` lines. -/
def depth (pieces : List Text) (count : Nat) : Int :=
  balance pieces count - lowest pieces count

theorem lowest_succ (pieces : List Text) (count : Nat) :
    lowest pieces (count + 1) = min (lowest pieces count) (balance pieces (count + 1)) := by
  rw [min_comm, lowest, lowest, ← Finset.inf'_insert]
  congr 1
  exact Finset.range_add_one

theorem lowest_le_balance (pieces : List Text) (count : Nat) :
    lowest pieces count ≤ balance pieces count :=
  Finset.inf'_le _ (Finset.self_mem_range_succ count)

theorem depth_nonneg (pieces : List Text) (count : Nat) : 0 ≤ depth pieces count :=
  Int.sub_nonneg_of_le (lowest_le_balance pieces count)

/-- Behind one more line, the depth changes by its brackets, but not below zero. -/
theorem depth_succ (pieces : List Text) (count : Nat) :
    depth pieces (count + 1) =
      max 0 (depth pieces count + nestingChange (pieces.getD count [])) := by
  have hlowest := lowest_succ pieces count
  have hbalance : balance pieces (count + 1) =
      balance pieces count + nestingChange (pieces.getD count []) := rfl
  unfold depth
  omega

/-- Where no line before closes more than is open, the depth is the plain balance. -/
theorem depth_eq_balance {pieces : List Text} {count : Nat}
    (hopen : ∀ earlier ≤ count, 0 ≤ balance pieces earlier) :
    depth pieces count = balance pieces count := by
  have hlowest : lowest pieces count = 0 := by
    apply le_antisymm
    · exact Finset.inf'_le _ (Finset.mem_range.mpr (Nat.succ_pos count))
    · apply Finset.le_inf'
      intro earlier hearlier
      exact hopen earlier (Nat.lt_succ_iff.mp (Finset.mem_range.mp hearlier))
  rw [depth, hlowest, Int.sub_zero]

/-! ## The counter -/

/-- The level before a line, as the counter has it. -/
def levelBefore (pieces : List Text) (count : Nat) : Nat :=
  (pieces.take count).foldl levelAfter 0

/-- The brackets may be counted before the line is trimmed. -/
theorem levelAfter_eq (level : Nat) (line : Text) :
    levelAfter level line = ((level : Int) + nestingChange line).toNat := by
  rw [levelAfter, blind_nestingChange.view_tidyLine]

theorem levelBefore_succ (pieces : List Text) (count : Nat) :
    levelBefore pieces (count + 1) =
      levelAfter (levelBefore pieces count) (pieces.getD count []) := by
  rw [levelBefore, List.take_add_one, List.foldl_append, ← levelBefore,
    List.getD_eq_getElem?_getD]
  cases pieces[count]? with
  | none =>
      -- behind the last line the level stays
      rw [Option.getD_none, levelAfter_of_blank rfl]
      rfl
  | some line => rfl

/-- The counter has the depth. -/
theorem levelBefore_eq (pieces : List Text) (count : Nat) :
    (levelBefore pieces count : Int) = depth pieces count := by
  induction count with
  | zero => rfl
  | succ count ih =>
      rw [levelBefore_succ, levelAfter_eq, depth_succ, ← ih]
      omega

theorem indentLines_eq_mapIdx (width level : Nat) (pieces : List Text) :
    indentLines width level pieces =
      pieces.mapIdx fun index line =>
        laidLine width ((pieces.take index).foldl levelAfter level) line := by
  induction pieces generalizing level with
  | nil => rfl
  | cons line rest ih =>
      rw [indentLines_cons, ih, List.mapIdx_cons]
      rfl

/-! ## The closed form -/

theorem tidyLine_eq_nil_iff {line : Text} : tidyLine line = [] ↔ Text.trim line = [] := by
  constructor
  · intro htidy
    by_contra htrim
    exact spaceCommas_ne_nil htrim htidy
  · intro htrim
    rw [tidyLine, htrim, spaceCommas_nil]

/-- A line at its place, laid out without the counter. -/
theorem laidLine_levelBefore (width : Nat) {pieces : List Text} {index : Nat} {line : Text}
    (hline : pieces[index]? = some line) :
    laidLine width (levelBefore pieces index) line =
      if Text.trim line = [] then []
      else
        List.replicate (width * (min (depth pieces index) (depth pieces (index + 1))).toNat) ' ' ++
          replaceGaps (Text.trim line) := by
  have hget : pieces.getD index [] = line := by
    rw [List.getD_eq_getElem?_getD, hline, Option.getD_some]
  have hlevel : min (levelBefore pieces index) (levelAfter (levelBefore pieces index) line) =
      (min (depth pieces index) (depth pieces (index + 1))).toNat := by
    rw [← levelBefore_eq, ← levelBefore_eq, levelBefore_succ, hget]
    omega
  have hbody : tidyLine line = replaceGaps (Text.trim line) := spaceCommas_eq_replaceGaps _
  rw [laidLine, hlevel, hbody, indentation]
  by_cases htrim : Text.trim line = []
  · rw [if_pos htrim, ← hbody, if_pos (tidyLine_eq_nil_iff.mpr htrim)]
  · rw [if_neg htrim, ← hbody, if_neg (mt tidyLine_eq_nil_iff.mp htrim)]

/-- **A closed form of layouts.**  Every line of a text becomes one line.  It is empty if only
blanks stand on the line; otherwise it is the trimmed line with one space for the blanks behind
each comma, indented by the smaller one of the depths before and behind the line.  A depth is the
balance of the brackets above its lowest value so far, and the balance itself where that was never
below zero. -/
theorem lines_format_eq_mapIdx (text : Text) (width : Nat) :
    let pieces := Text.lines text
    Text.lines (format text width) =
        pieces.mapIdx (fun index line =>
          if Text.trim line = [] then []
          else
            List.replicate
                (min width 16 * (min (depth pieces index) (depth pieces (index + 1))).toNat) ' ' ++
              replaceGaps (Text.trim line)) ∧
      (∀ count, 0 ≤ depth pieces count) ∧
      ∀ count, (∀ earlier ≤ count, 0 ≤ balance pieces earlier) →
        depth pieces count = balance pieces count := by
  intro pieces
  refine ⟨?_, depth_nonneg pieces, fun count => depth_eq_balance⟩
  rw [lines_format, indentLines_eq_mapIdx, List.mapIdx_eq_mapIdx_iff]
  intro index hindex
  exact laidLine_levelBefore _ (List.getElem?_eq_getElem hindex)

/-- The depth is the balance up to the line that closes too much, and stands above it from there
on. -/
theorem lines_format_close_too_much :
    let text := "a \x7b\n \n b,\t c  \n\x7d\x7d\nd [\ne".toList
    let pieces := Text.lines text
    (∀ earlier ≤ 3, 0 ≤ balance pieces earlier) ∧ depth pieces 3 = 1 ∧
      balance pieces 5 = 0 ∧ depth pieces 5 = 1 ∧
      Text.lines (format text 20) =
        ["a \x7b".toList, [], "                b, c".toList, "\x7d\x7d".toList, "d [".toList,
          "                e".toList] := by
  intro text pieces
  have hopen : ∀ earlier ≤ 3, 0 ≤ balance pieces earlier := by decide
  obtain ⟨hlines, -, hplain⟩ := lines_format_eq_mapIdx text 20
  have hdepth : depth pieces 3 = 1 := (hplain 3 hopen).trans (by decide)
  refine ⟨hopen, hdepth, by decide, by decide, hlines.trans ?_⟩
  decide +kernel

end PolicyEditing.Layout
