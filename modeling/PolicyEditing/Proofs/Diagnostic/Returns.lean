import PolicyEditing.Proofs.Diagnostic.LaidOut

/-!
# Carriage returns in front of line feeds

Lines end at line feeds only.  So where a text breaks its lines with a carriage return and a line
feed, the return stays at the end of its line, of every line but the last one (`lines_withReturns`).

It is a blank at the end of a line, so that the line becomes the same when it is laid out
(`tidyLine_concat`), and a scan finds the same in it: the return does not go on with a name, so not
even the columns of the warnings change (`references_concat`).  Only the error about an open string
spans the line to its end, and with it the return.
-/

namespace PolicyEditing

namespace Text

/-- A text with a carriage return in front of every line feed. -/
def withReturns (text : Text) : Text :=
  text.flatMap fun c => if c = '\n' then ['\r', '\n'] else [c]

@[simp] theorem withReturns_nil : withReturns [] = [] := rfl

theorem withReturns_cons (c : Char) (text : Text) :
    withReturns (c :: text) = (if c = '\n' then ['\r', '\n'] else [c]) ++ withReturns text := by
  simp [withReturns]

/-- Some lines with a carriage return at the end of each but the last. -/
def endWithReturns : List Text → List Text
  | [] => []
  | [line] => [line]
  | line :: next :: more => (line ++ ['\r']) :: endWithReturns (next :: more)

theorem endWithReturns_cons {more : List Text} (hne : more ≠ []) (line : Text) :
    endWithReturns (line :: more) = (line ++ ['\r']) :: endWithReturns more := by
  obtain ⟨next, more, rfl⟩ := List.exists_cons_of_ne_nil hne
  rfl

theorem lines_withReturns (text : Text) :
    lines (withReturns text) = endWithReturns (lines text) := by
  induction text with
  | nil => rfl
  | cons c rest ih =>
      rw [withReturns_cons]
      by_cases hc : c = '\n'
      · have hreturn : lines ('\r' :: '\n' :: withReturns rest) =
            ['\r'] :: lines (withReturns rest) :=
          lines_cons_of_ne (by decide) (lines_newline_cons _)
        rw [if_pos hc, hc, lines_newline_cons, endWithReturns_cons (lines_ne_nil rest), ← ih]
        exact hreturn
      · obtain ⟨line, more, hlines⟩ := List.exists_cons_of_ne_nil (lines_ne_nil rest)
        rw [hlines] at ih
        rw [if_neg hc, lines_cons_of_ne hc hlines]
        cases more with
        | nil => exact lines_cons_of_ne hc ih
        | cons next more => exact lines_cons_of_ne hc ih

/-- What is the same of a line with and without a return is the same of all lines. -/
theorem forall₂_endWithReturns {same : Text → Text → Prop} (hsame : ∀ line, same line line)
    (hreturn : ∀ line, same (line ++ ['\r']) line) (pieces : List Text) :
    List.Forall₂ same (endWithReturns pieces) pieces := by
  induction pieces with
  | nil => exact List.Forall₂.nil
  | cons line more ih =>
      cases more with
      | nil => exact List.Forall₂.cons (hsame line) List.Forall₂.nil
      | cons next more => exact List.Forall₂.cons (hreturn line) ih

/-- Lines with their numbers, where the last one is looked at for itself. -/
theorem flatMap_zipIdx_endWithReturns {α : Type} {pieces : List Text} {start : Nat}
    {onReturned onPlain : Text × Nat → List α}
    (hinner : ∀ line number, number + 1 < start + pieces.length →
      onReturned (line ++ ['\r'], number) = onPlain (line, number))
    (hlast : ∀ line number, number + 1 = start + pieces.length →
      onReturned (line, number) = onPlain (line, number)) :
    ((endWithReturns pieces).zipIdx start).flatMap onReturned =
      (pieces.zipIdx start).flatMap onPlain := by
  induction pieces generalizing start with
  | nil => rfl
  | cons line more ih =>
      cases more with
      | nil =>
          have hline := hlast line start rfl
          simpa [endWithReturns] using hline
      | cons next more =>
          have hlength : start + (line :: next :: more).length =
              start + 1 + (next :: more).length := by
            simp only [List.length_cons]
            omega
          rw [hlength] at hinner hlast
          have hline := hinner line start (by simp only [List.length_cons]; omega)
          rw [endWithReturns, List.zipIdx_cons, List.zipIdx_cons, List.flatMap_cons,
            List.flatMap_cons, ih hinner hlast, hline]

end Text

namespace Layout

/-! ## Returns and layouts -/

theorem tidyLine_concat {c : Char} (hc : Text.isBlank c = true) (line : Text) :
    tidyLine (line ++ [c]) = tidyLine line := by
  rw [tidyLine, Text.trim_concat hc, ← tidyLine]

/-- A layout sees nothing of its lines but what becomes of them. -/
theorem indentLines_congr {first second : List Text}
    (hlines : List.Forall₂ (fun line other => tidyLine line = tidyLine other) first second)
    (width level : Nat) : indentLines width level first = indentLines width level second := by
  induction hlines generalizing level with
  | nil => rfl
  | cons htidy _ ih =>
      rw [indentLines_cons, indentLines_cons, laidLine_congr htidy, levelAfter_congr htidy, ih]

theorem format_withReturns (text : Text) (width : Nat) :
    format (Text.withReturns text) width = format text width := by
  have hlines : List.Forall₂ (fun line other => tidyLine line = tidyLine other)
      (Text.endWithReturns (Text.lines text)) (Text.lines text) :=
    @Text.forall₂_endWithReturns (fun line other => tidyLine line = tidyLine other)
      (fun _ => rfl) (tidyLine_concat rfl) _
  rw [format, format, Text.lines_withReturns, indentLines_congr hlines]

end Layout

namespace Diagnostic

/-! ## Returns and scans -/

theorem alike_refl (line : Text) : Alike line line where
  opens := rfl
  names := rfl
  defines _ := rfl

theorem alike_concat {c : Char} (hc : Text.isBlank c = true) (line : Text) :
    Alike (line ++ [c]) line where
  opens := blind_hasUnterminatedString.behind hc line
  names := blind_names.behind hc line
  defines hname := (blind_defines hname).behind hc line

theorem takeWhile_continuesName_concat {c : Char} (hc : Text.isBlank c = true) (line : Text) :
    (line ++ [c]).takeWhile continuesName = line.takeWhile continuesName := by
  have hend : ¬ continuesName c = true := fun hname => not_isBlank_of_continuesName hname hc
  have hsame := (names_append_congr (names_cons_of_ne (ne_percent_of_blank hc) [])
    (List.takeWhile_cons_of_neg hend) line).2
  rwa [List.append_nil] at hsame

/-- Whether a line refers to a variable at its beginning, and to which. -/
theorem referenceAt?_zero (column : Nat) (c : Char) (line : Text) :
    referenceAt? column (c :: line) 0 =
      if c = '%' ∧ (line.takeWhile continuesName).head?.any startsName then
        some ⟨column, line.takeWhile continuesName⟩
      else none := by
  rw [← any_head?_startsName]
  simp [referenceAt?, refersAt, nameAt, List.head?_eq_getElem?]

/-- A blank at the end of a line moves none of its references. -/
theorem references_concat {c : Char} (hc : Text.isBlank c = true) (column : Nat) (line : Text) :
    references column (line ++ [c]) = references column line := by
  rw [references_eq, references_eq]
  induction line generalizing column with
  | nil => exact allReferences_cons_of_ne (ne_percent_of_blank hc) column []
  | cons d rest ih =>
      rw [List.cons_append, allReferences_cons, allReferences_cons, ih, referenceAt?_zero,
        referenceAt?_zero, takeWhile_continuesName_concat hc]

/-- A diagnostic in a text with carriage returns in front of the line feeds: an error about an open
string spans the return at the end of its line, if the line is not the last one of `count` lines. -/
def reachReturn (count : Nat) (diagnostic : Diagnostic) : Diagnostic :=
  if diagnostic.problem = .unterminatedString ∧ diagnostic.range.start.line + 1 < count then
    { diagnostic with
      range.stop.character := diagnostic.range.stop.character + 1 }
  else diagnostic

theorem reachReturn_undefinedVariable (count number : Nat) (reference : Reference) :
    reachReturn count (undefinedVariable number reference) = undefinedVariable number reference :=
  if_neg fun h => Problem.noConfusion h.1

theorem reachReturn_of_last {count : Nat} {diagnostic : Diagnostic}
    (hlast : ¬ diagnostic.range.start.line + 1 < count) :
    reachReturn count diagnostic = diagnostic :=
  if_neg fun h => hlast h.2

/-- An open string, on an inner line and on the last one. -/
theorem reachReturn_unterminatedString {count number : Nat} (hinner : number + 1 < count)
    (line : Text) :
    reachReturn count (unterminatedString number line) =
      unterminatedString number (line ++ ['\r']) := by
  rw [reachReturn, if_pos ⟨rfl, hinner⟩, unterminatedString, unterminatedString,
    Text.unitCount_append]
  rfl

theorem map_reachReturn_undefinedVariable (count number : Nat) (found : List Reference) :
    (found.map (undefinedVariable number)).map (reachReturn count) =
      found.map (undefinedVariable number) := by
  rw [List.map_map]
  apply List.map_congr_left
  intro reference _
  exact reachReturn_undefinedVariable count number reference

/-- The warnings on a line depend on the lines before only by the variables that these define. -/
theorem filter_defines_congr {first second : List Text} (hlines : List.Forall₂ Alike first second)
    (line : Text) :
    ((references 0 line).filter fun reference =>
        !defines (Text.endLines first) reference.name) =
      (references 0 line).filter fun reference =>
        !defines (Text.endLines second) reference.name := by
  apply List.filter_congr
  intro reference hreference
  have hname := isName_of_mem_references hreference
  rw [defines_endLines first hname, defines_endLines second hname, any_defines_congr hlines hname]

section

variable {returned plain : List Text} {count number : Nat}

theorem lineListing_inner (hearlier : List.Forall₂ Alike returned plain)
    (hinner : number + 1 < count) (line : Text) :
    lineListing returned number (line ++ ['\r']) =
      (lineListing plain number line).map (reachReturn count) := by
  rw [lineListing_eq, lineListing_eq, List.map_append, map_reachReturn_undefinedVariable,
    references_concat rfl, filter_defines_congr hearlier, (alike_concat rfl line).opens]
  congr 1
  split
  · rw [List.map_singleton, reachReturn_unterminatedString hinner]
  · rfl

theorem lineListing_last (hearlier : List.Forall₂ Alike returned plain)
    (hlast : number + 1 = count) (line : Text) :
    lineListing returned number line = (lineListing plain number line).map (reachReturn count) := by
  have herror : reachReturn count (unterminatedString number line) =
      unterminatedString number line :=
    reachReturn_of_last (Nat.not_lt_of_le hlast.ge)
  rw [lineListing_eq, lineListing_eq, List.map_append, map_reachReturn_undefinedVariable,
    filter_defines_congr hearlier]
  congr 1
  split
  · rw [List.map_singleton, herror]
  · rfl

end

theorem listing_withReturns (text : Text) :
    listing (Text.withReturns text) =
      (listing text).map (reachReturn (Text.lines text).length) := by
  have hlines : List.Forall₂ Alike (Text.endWithReturns (Text.lines text)) (Text.lines text) :=
    Text.forall₂_endWithReturns alike_refl (alike_concat rfl) _
  rw [listing, listing, Text.lines_withReturns, List.map_flatMap]
  apply Text.flatMap_zipIdx_endWithReturns
  · intro line number hinner
    rw [Nat.zero_add] at hinner
    exact lineListing_inner (List.forall₂_take number hlines) hinner line
  · intro line number hlast
    rw [Nat.zero_add] at hlast
    exact lineListing_last (List.forall₂_take number hlines) hlast line

/-- **Both ways to break lines come to the same.**  With a carriage return in front of every line
feed, a text is laid out as without, and a scan finds the same problems, except that the error about
an open string ends one column later on every line but the last. -/
theorem format_and_scan_withReturns (text : Text) :
    (∀ width, Layout.format (Text.withReturns text) width = Layout.format text width) ∧
      ∀ limit, scan (Text.withReturns text) limit =
        (scan text limit).map (reachReturn (Text.lines text).length) := by
  constructor
  · exact Layout.format_withReturns text
  · intro limit
    rw [scan_eq, scan_eq, listing_withReturns, List.map_take]

end Diagnostic

end PolicyEditing
