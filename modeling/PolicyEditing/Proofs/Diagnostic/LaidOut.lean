import PolicyEditing.Proofs.Diagnostic.Report
import PolicyEditing.Proofs.Layout.Blanks

/-!
# The problems of a laid out text

`report_scan_format`: laying a text out changes nothing that a scan reports but the columns.

None of the three ways in which a scan looks at a line sees the blanks that a layout changes
(`blind_hasUnterminatedString`, `blind_names`, `blind_defines`), so a line and what a layout makes
of it are alike.
-/

namespace PolicyEditing.Diagnostic

/-! ## Blanks in strings and comments -/

theorem opensString_cons_of_blank {c : Char} (hc : Text.isBlank c = true) (inString : Bool)
    (line : Text) : opensString inString (c :: line) = opensString inString line := by
  have hquote : c ≠ '"' := by
    rintro rfl
    exact absurd hc (by decide)
  have hcomment : c ≠ '#' := by
    rintro rfl
    exact absurd hc (by decide)
  simp [opensString, hquote, hcomment]

theorem opensString_append_congr {first second : Text}
    (hsame : ∀ inString, opensString inString first = opensString inString second)
    (inString : Bool) (front : Text) :
    opensString inString (front ++ first) = opensString inString (front ++ second) := by
  induction front generalizing inString with
  | nil => exact hsame inString
  | cons c front ih => simp only [List.cons_append, opensString, ih]

theorem blind_hasUnterminatedString : Layout.Blind hasUnterminatedString where
  inFront hc line := opensString_cons_of_blank hc false line
  behind {c} hc line := by
    have hsame := opensString_append_congr
      (fun inString => opensString_cons_of_blank hc inString []) false line
    rwa [List.append_nil] at hsame
  behindComma {c} hc front line := by
    refine opensString_append_congr (fun inString => ?_) false front
    exact opensString_append_congr (fun inString => opensString_cons_of_blank hc inString line)
      inString [',']

/-! ## Blanks and names -/

theorem bounds_of_continuesName {c : Char} (hc : continuesName c = true) :
    48 ≤ c.toNat ∧ c.toNat ≤ 122 := by
  simp only [continuesName, startsName, Bool.or_eq_true, Bool.and_eq_true, decide_eq_true_eq,
    Char.le_def, UInt32.le_iff_toNat_le] at hc
  rcases hc with ((⟨hlow, hhigh⟩ | ⟨hlow, hhigh⟩) | rfl) | ⟨hlow, hhigh⟩
  · change 97 ≤ c.toNat at hlow
    change c.toNat ≤ 122 at hhigh
    omega
  · change 65 ≤ c.toNat at hlow
    change c.toNat ≤ 90 at hhigh
    omega
  · decide
  · change 48 ≤ c.toNat at hlow
    change c.toNat ≤ 57 at hhigh
    omega

theorem not_isBlank_of_continuesName {c : Char} (hc : continuesName c = true) :
    ¬ Text.isBlank c = true := by
  have hbounds := bounds_of_continuesName hc
  intro hblank
  simp only [Text.isBlank, Text.blankRanges, List.any_cons, List.any_nil, Bool.or_eq_true,
    Bool.and_eq_true, decide_eq_true_eq, Bool.false_eq_true, or_false] at hblank
  omega

theorem any_head?_startsName (line : Text) :
    line.head?.any startsName = (line.takeWhile continuesName).head?.any startsName := by
  cases line with
  | nil => rfl
  | cons c rest =>
      by_cases hc : continuesName c = true
      · rw [List.takeWhile_cons_of_pos hc, List.head?_cons, List.head?_cons]
      · have hstart : ¬ startsName c = true := mt continuesName_of_startsName hc
        simp [List.takeWhile_cons_of_neg hc, hstart]

/-- What stands behind a text matters to its names only by its own names and by the characters with
which it goes on with a name. -/
theorem names_append_congr {first second : Text} (hnames : names first = names second)
    (hrun : first.takeWhile continuesName = second.takeWhile continuesName) (front : Text) :
    names (front ++ first) = names (front ++ second) ∧
      (front ++ first).takeWhile continuesName = (front ++ second).takeWhile continuesName := by
  induction front with
  | nil => exact ⟨hnames, hrun⟩
  | cons c front ih =>
      obtain ⟨ihnames, ihrun⟩ := ih
      have hhead := any_head?_startsName (front ++ first)
      rw [ihrun, ← any_head?_startsName] at hhead
      constructor
      · rw [List.cons_append, List.cons_append, names, names, hhead, ihrun, ihnames]
      · rw [List.cons_append, List.cons_append, List.takeWhile_cons, List.takeWhile_cons, ihrun]

theorem names_cons_of_ne {c : Char} (hc : c ≠ '%') (line : Text) :
    names (c :: line) = names line := by
  rw [names, if_neg fun h => hc h.1]

theorem ne_percent_of_blank {c : Char} (hc : Text.isBlank c = true) : c ≠ '%' := by
  rintro rfl
  exact absurd hc (by decide)

theorem blind_names : Layout.Blind names where
  inFront hc line := names_cons_of_ne (ne_percent_of_blank hc) line
  behind {c} hc line := by
    have hend : ¬ continuesName c = true := fun hname => not_isBlank_of_continuesName hname hc
    have hsame : names (line ++ [c]) = names (line ++ []) :=
      (names_append_congr (names_cons_of_ne (ne_percent_of_blank hc) [])
        (List.takeWhile_cons_of_neg hend) line).1
    rwa [List.append_nil] at hsame
  behindComma {c} hc front line := by
    refine (names_append_congr ?_ ?_ front).1
    · rw [names_cons_of_ne (by decide), names_cons_of_ne (ne_percent_of_blank hc),
        names_cons_of_ne (by decide)]
    · rw [List.takeWhile_cons_of_neg (by decide), List.takeWhile_cons_of_neg (by decide)]

/-! ## Blanks and assignments -/

theorem assignment_infix_cons_iff {name line : Text} {c : Char} (hc : Text.isBlank c = true) :
    "let ".toList ++ name <:+: c :: line ↔ "let ".toList ++ name <:+: line := by
  rw [List.infix_cons_iff]
  refine or_iff_right fun hfirst => ?_
  -- an assignment begins with a letter
  obtain ⟨rfl, -⟩ := List.cons_prefix_cons.mp hfirst
  exact absurd hc (by decide)

theorem blind_defines {name : Text} (hname : IsName name) :
    Layout.Blind fun line => defines line name where
  inFront {c} hc line := by
    rw [Bool.eq_iff_iff, defines, defines, Text.includes_iff, Text.includes_iff,
      assignment_infix_cons_iff hc]
  behind {c} hc line := by
    rw [Bool.eq_iff_iff, defines, defines, Text.includes_iff, Text.includes_iff,
      List.infix_concat_iff]
    refine or_iff_right fun hlast => ?_
    -- an assignment ends with a character of its name
    obtain ⟨before, hline⟩ := hlast
    have hend := congrArg List.getLast? hline
    rw [← List.append_assoc, List.getLast?_append_of_ne_nil _ hname.ne_nil,
      List.getLast?_concat] at hend
    exact not_isBlank_of_continuesName (hname.continues c (List.mem_of_getLast? hend)) hc
  behindComma {c} hc front line := by
    have hcomma : ',' ∉ "let ".toList ++ name := by
      intro hmem
      rcases List.mem_append.mp hmem with hmem | hmem
      · exact absurd hmem (by decide)
      · exact absurd (hname.continues ',' hmem) (by decide)
    rw [Bool.eq_iff_iff, defines, defines, Text.includes_iff, Text.includes_iff,
      Text.infix_append_cons_iff (by simp) hcomma, Text.infix_append_cons_iff (by simp) hcomma,
      assignment_infix_cons_iff hc]

/-! ## Laid out lines -/

theorem alike_laidLine (width level : Nat) (line : Text) :
    Alike (Layout.laidLine width level line) line where
  opens := blind_hasUnterminatedString.view_laidLine width level line
  names := blind_names.view_laidLine width level line
  defines hname := (blind_defines hname).view_laidLine width level line

theorem forall₂_alike_indentLines (width level : Nat) (pieces : List Text) :
    List.Forall₂ Alike (Layout.indentLines width level pieces) pieces := by
  induction pieces generalizing level with
  | nil => exact List.Forall₂.nil
  | cons line rest ih =>
      rw [Layout.indentLines_cons]
      exact List.Forall₂.cons (alike_laidLine width level line) (ih _)

/-- **A layout changes nothing that a scan reports but the columns.**  With any width and any limit,
the laid out text and the text itself have the same problems, one by one, on the same lines. -/
theorem report_scan_format (text : Text) (width limit : Nat) :
    (scan (Layout.format text width) limit).map report = (scan text limit).map report := by
  have hlines : List.Forall₂ Alike (Text.lines (Layout.format text width)) (Text.lines text) := by
    rw [Layout.lines_format]
    exact forall₂_alike_indentLines _ _ _
  rw [scan_eq, scan_eq, List.map_take, List.map_take, map_report_listing_congr hlines]

end PolicyEditing.Diagnostic
