import PolicyEditing.Proofs.Diagnostic.Scan
import PolicyEditing.Proofs.Text.Part
import PolicyEditing.Proofs.Text.Trim

/-!
# What diagnostics point at

A diagnostic points at what it complains about and at nothing else: an error at its whole line, a
warning at the percent sign and the name behind it, which is not cut short (`PointsAt`).  The
columns are counted along the line, and are nevertheless those of the places in the whole text,
because a part of a line is a part of the text (`Text.covers_of_getElem?`).

Diagnostics come in the order of their lines, on a line the error first, and then the warnings from
left to right without an overlap (`ComesBefore`).  The reason for the last is that a reference is a
percent sign and a name, and no name holds a percent sign: the next reference on a line begins
behind the name of the last one (`end_le_of_refersAt`).
-/

namespace PolicyEditing.Diagnostic

/-! ## What is said of a diagnostic -/

/-- Whether a diagnostic points at exactly what it complains about. -/
def PointsAt (text : Text) (diagnostic : Diagnostic) : Prop :=
  ∃ part rest, Text.Covers text diagnostic.range part rest ∧
    match diagnostic.problem.severity with
    | .error =>
      diagnostic.problem.message = "Unterminated string" ∧
        (Text.lines text)[diagnostic.range.start.line]? = some part
    | .warning =>
      ∃ name, diagnostic.problem.message =
          "Variable '" ++ String.ofList name ++ "' may not be defined" ∧
        part = '%' :: name ∧ rest.head?.any continuesName = false

/-- Whether one diagnostic may come before another one. -/
structure ComesBefore (first second : Diagnostic) : Prop where
  line_le : first.range.start.line ≤ second.range.start.line
  /-- Only the first diagnostic on a line is an error. -/
  error_first : first.range.start.line = second.range.start.line →
    second.problem.severity = .warning
  /-- The warnings on a line do not overlap. -/
  disjoint : first.range.start.line = second.range.start.line →
    first.problem.severity = .warning →
      first.range.start.character < first.range.stop.character ∧
        first.range.stop.character ≤ second.range.start.character

theorem ComesBefore.ne {first second : Diagnostic} (hbefore : ComesBefore first second) :
    first ≠ second := by
  rintro rfl
  obtain ⟨hlt, hle⟩ := hbefore.disjoint rfl (hbefore.error_first rfl)
  omega

/-! ## References -/

/-- What stands behind a reference does not go on with its name. -/
theorem exists_split_of_refersAt {line : Text} {index : Nat}
    (hrefers : refersAt line index = true) :
    ∃ after, line = line.take index ++ '%' :: nameAt line (index + 1) ++ after ∧
      after.head?.any continuesName = false := by
  refine ⟨(line.drop (index + 1)).dropWhile continuesName, ?_, ?_⟩
  · simp only [refersAt, Bool.and_eq_true, decide_eq_true_eq] at hrefers
    obtain ⟨hlt, hpercent⟩ := List.getElem?_eq_some_iff.mp hrefers.1
    calc line
        = line.take index ++ line.drop index := (List.take_append_drop index line).symm
      _ = line.take index ++ '%' :: line.drop (index + 1) := by
          rw [List.drop_eq_getElem_cons hlt, hpercent]
      _ = line.take index ++ '%' :: nameAt line (index + 1) ++
            (line.drop (index + 1)).dropWhile continuesName := by
          rw [List.append_assoc, List.cons_append, nameAt, List.takeWhile_append_dropWhile]
  · exact Text.any_head?_dropWhile continuesName _

/-- The next reference begins behind the name of the last one. -/
theorem end_le_of_refersAt {line : Text} {index later : Nat} (hlt : index < later)
    (hrefers : refersAt line later = true) :
    index + 1 + (nameAt line (index + 1)).length ≤ later := by
  apply Nat.le_of_not_lt
  intro hinside
  obtain ⟨count, rfl⟩ := Nat.exists_eq_add_of_le (Nat.succ_le_of_lt hlt)
  have hcount : count < (nameAt line (index + 1)).length := by omega
  simp only [refersAt, Bool.and_eq_true, decide_eq_true_eq] at hrefers
  -- a percent sign inside of a name
  have hpercent : (nameAt line (index + 1))[count] = '%' := by
    have hbegins : nameAt line (index + 1) <+: line.drop (index + 1) := List.takeWhile_prefix _
    have hplace : (line.drop (index + 1))[count]? = some '%' := by
      rw [List.getElem?_drop]
      exact hrefers.1
    rw [hbegins.getElem hcount]
    exact (List.getElem?_eq_some_iff.mp hplace).2
  have hname : continuesName (nameAt line (index + 1))[count] = true :=
    List.mem_takeWhile_imp (List.getElem_mem hcount)
  exact startsName_of_ne hname hpercent

theorem warningAt?_eq_some {earlier : List Text} {number : Nat} {line : Text} {index : Nat}
    {diagnostic : Diagnostic}
    (hwarning : warningAt? earlier number line index = some diagnostic) :
    refersAt line index = true ∧ diagnostic =
      { range :=
          ⟨⟨number, Text.unitCount (line.take index)⟩,
            ⟨number, Text.unitCount (line.take index ++ '%' :: nameAt line (index + 1))⟩⟩
        problem := .undefinedVariable (nameAt line (index + 1)) } := by
  unfold warningAt? at hwarning
  dsimp only at hwarning
  split at hwarning
  · rename_i hwarns
    rw [take_reference hwarns.1] at hwarning
    exact ⟨hwarns.1, (Option.some_inj.mp hwarning).symm⟩
  · simp at hwarning

/-! ## One line -/

theorem pointsAt_unterminatedString {text line : Text} {number : Nat}
    (hline : (Text.lines text)[number]? = some line) :
    PointsAt text (unterminatedString number line) := by
  have hsplit : line = [] ++ line ++ [] := by simp
  obtain ⟨rest, -, hcovers⟩ := Text.covers_of_getElem? hline hsplit
  exact ⟨line, _, hcovers, rfl, hline⟩

theorem pointsAt_of_warningAt? {text line : Text} {number : Nat}
    (hline : (Text.lines text)[number]? = some line) {earlier : List Text} {index : Nat}
    {diagnostic : Diagnostic}
    (hwarning : warningAt? earlier number line index = some diagnostic) :
    PointsAt text diagnostic := by
  obtain ⟨hrefers, rfl⟩ := warningAt?_eq_some hwarning
  obtain ⟨after, hsplit, hafter⟩ := exists_split_of_refersAt hrefers
  obtain ⟨rest, hrest, hcovers⟩ := Text.covers_of_getElem? hline hsplit
  refine ⟨_, _, hcovers, _, rfl, rfl, ?_⟩
  -- behind the line the text ends, or a line feed comes
  cases after with
  | nil =>
      rcases hrest with rfl | hrest
      · rfl
      · rw [List.nil_append, hrest]
        decide
  | cons c after => exact hafter

/-- A problem of a line is the one error, or a warning about a place of the line. -/
theorem cases_of_mem_lineListing {earlier : List Text} {number : Nat} {line : Text}
    {diagnostic : Diagnostic} (hmem : diagnostic ∈ lineListing earlier number line) :
    (hasUnterminatedString line = true ∧ diagnostic = unterminatedString number line) ∨
      ∃ index, warningAt? earlier number line index = some diagnostic := by
  rw [lineListing, List.mem_append, List.mem_filterMap] at hmem
  rcases hmem with hmem | ⟨index, -, hwarning⟩
  · split at hmem
    · rename_i hopens
      exact .inl ⟨hopens, List.mem_singleton.mp hmem⟩
    · simp at hmem
  · exact .inr ⟨index, hwarning⟩

/-- The place of a diagnostic about a line. -/
theorem line_eq_of_mem {earlier : List Text} {number : Nat} {line : Text} {diagnostic : Diagnostic}
    (hmem : diagnostic ∈ lineListing earlier number line) :
    diagnostic.range.start.line = number := by
  rcases cases_of_mem_lineListing hmem with ⟨-, rfl⟩ | ⟨index, hwarning⟩
  · rfl
  · rw [(warningAt?_eq_some hwarning).2]

theorem pointsAt_of_mem_lineListing {text line : Text} {number : Nat}
    (hline : (Text.lines text)[number]? = some line) {earlier : List Text}
    {diagnostic : Diagnostic} (hmem : diagnostic ∈ lineListing earlier number line) :
    PointsAt text diagnostic := by
  rcases cases_of_mem_lineListing hmem with ⟨-, rfl⟩ | ⟨index, hwarning⟩
  · exact pointsAt_unterminatedString hline
  · exact pointsAt_of_warningAt? hline hwarning

/-- The warnings about two places of a line come in the order of the places. -/
theorem comesBefore_of_lt {earlier : List Text} {number : Nat} {line : Text} {index later : Nat}
    (hlt : index < later) {first second : Diagnostic}
    (hfirst : warningAt? earlier number line index = some first)
    (hsecond : warningAt? earlier number line later = some second) : ComesBefore first second := by
  obtain ⟨hrefers, rfl⟩ := warningAt?_eq_some hfirst
  obtain ⟨hlater, rfl⟩ := warningAt?_eq_some hsecond
  refine ⟨Nat.le_refl _, fun _ => rfl, fun _ _ => ⟨?_, ?_⟩⟩
  · have hpos := Text.units_pos '%'
    simp only [Text.unitCount_append, Text.unitCount_cons]
    omega
  · have hend := end_le_of_refersAt hlt hlater
    simp only
    rw [← take_reference hrefers]
    exact Text.unitCount_le_of_prefix (List.take_prefix_take_left hend)

theorem pairwise_lineListing (earlier : List Text) (number : Nat) (line : Text) :
    (lineListing earlier number line).Pairwise ComesBefore := by
  rw [lineListing, List.pairwise_append]
  refine ⟨?_, ?_, ?_⟩
  · split
    · exact List.pairwise_singleton _ _
    · exact List.Pairwise.nil
  · rw [List.pairwise_filterMap]
    apply List.pairwise_lt_range.imp
    intro index later hlt first hfirst second hsecond
    exact comesBefore_of_lt hlt hfirst hsecond
  · -- an error in front of the warnings
    intro error herror warning hwarning
    obtain ⟨index, -, hwarning⟩ := List.mem_filterMap.mp hwarning
    obtain ⟨-, rfl⟩ := warningAt?_eq_some hwarning
    split at herror
    · rw [List.mem_singleton.mp herror]
      refine ⟨Nat.le_refl _, fun _ => rfl, ?_⟩
      intro _ hseverity
      exact Severity.noConfusion hseverity
    · simp at herror

/-! ## All lines -/

theorem pointsAt_of_mem_listing {text : Text} {diagnostic : Diagnostic}
    (hmem : diagnostic ∈ listing text) : PointsAt text diagnostic := by
  obtain ⟨⟨line, number⟩, hline, hmem⟩ := List.mem_flatMap.mp hmem
  exact pointsAt_of_mem_lineListing (List.mem_zipIdx_iff_getElem?.mp hline) hmem

theorem pairwise_listing (text : Text) : (listing text).Pairwise ComesBefore := by
  rw [listing, List.pairwise_flatMap]
  constructor
  · intro entry _
    exact pairwise_lineListing _ _ _
  · have hnumbers : (Text.lines text).zipIdx.Pairwise fun first second => first.2 < second.2 := by
      rw [← List.pairwise_map, List.zipIdx_map_snd]
      exact List.pairwise_lt_range' 1
    apply hnumbers.imp
    intro entry later hlt first hfirst second hsecond
    have hne : first.range.start.line < second.range.start.line := by
      rw [line_eq_of_mem hfirst, line_eq_of_mem hsecond]
      exact hlt
    exact ⟨Nat.le_of_lt hne, fun h => absurd h (Nat.ne_of_lt hne),
      fun h => absurd h (Nat.ne_of_lt hne)⟩

/-- **Diagnostics point at exactly what they complain about, in order.**  The range of a diagnostic
stands for a part of one line: the whole line, or a percent sign and the name in the message, with
nothing behind it that goes on with the name.  The lines do not decrease; on a line there is at most
one error, which is the first diagnostic, and the warnings follow without overlaps from left to
right.  So no diagnostic occurs twice. -/
theorem scan_points_in_order (text : Text) (limit : Nat) :
    (∀ diagnostic ∈ scan text limit, PointsAt text diagnostic) ∧
      (scan text limit).Pairwise ComesBefore ∧ (scan text limit).Nodup := by
  have hpairwise : (scan text limit).Pairwise ComesBefore := by
    rw [scan_eq]
    exact (pairwise_listing text).sublist (List.take_sublist _ _)
  refine ⟨?_, hpairwise, hpairwise.imp ComesBefore.ne⟩
  intro diagnostic hmem
  rw [scan_eq] at hmem
  exact pointsAt_of_mem_listing (List.mem_of_mem_take hmem)

end PolicyEditing.Diagnostic
