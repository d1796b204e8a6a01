import PolicyEditing.Proofs.Diagnostic.Scan

/-!
# The problems of two texts in a row

Two texts with a line feed between them have the problems of the first, and then those of the
second, which are moved down by the lines of the first.  Only warnings can get lost, namely those
about variables that the first text defines (`listing_append`).  So what comes later changes nothing
about what was found before.

The reason is that a definition stands on one line: it is looked for in the lines of the first text
and in the earlier lines of the second, and never across the line feed between them
(`forall_mem_lines_iff`).

A text has at most one problem more than it has characters (`length_listing_le`), so that a scan
with the largest limit finds all of them.
-/

namespace PolicyEditing.Diagnostic

/-- The largest limit that a scan can have, a number of 64 bits. -/
def largestLimit : Nat := 18446744073709551615

/-- A diagnostic as many lines further down. -/
def below (count : Nat) (diagnostic : Diagnostic) : Diagnostic where
  range :=
    ⟨⟨count + diagnostic.range.start.line, diagnostic.range.start.character⟩,
      ⟨count + diagnostic.range.stop.line, diagnostic.range.stop.character⟩⟩
  problem := diagnostic.problem

/-- Whether a diagnostic stays if a text comes before the text that it is about.  A warning does not
if the text before defines its variable. -/
def staysBehind (front : Text) (diagnostic : Diagnostic) : Bool :=
  match diagnostic.problem with
  | .unterminatedString => true
  | .undefinedVariable name => ¬ "let ".toList ++ name <:+: front

/-! ## One line -/

/-- No line of a text defines a variable if the text does not. -/
theorem forall_mem_lines_iff {name : Text} (hname : '\n' ∉ name) (text : Text) :
    (∀ line ∈ Text.lines text, ¬ "let ".toList ++ name <:+: line) ↔
      ¬ "let ".toList ++ name <:+: text := by
  have hpart : '\n' ∉ "let ".toList ++ name := by simp [hname]
  rw [Text.infix_iff_lines (by simp) hpart text, not_exists]
  simp only [not_and]

/-- A place of a line is warned about behind another text if that does not define the variable. -/
theorem warningAt?_append (front : Text) (earlier : List Text) (count number : Nat) (line : Text)
    (index : Nat) :
    warningAt? (Text.lines front ++ earlier) (count + number) line index =
      ((warningAt? earlier number line index).filter (staysBehind front)).map (below count) := by
  have hfront := forall_mem_lines_iff (newline_notMem_nameAt line (index + 1)) front
  unfold warningAt?
  simp only [List.forall_mem_append, hfront]
  by_cases hwarns : refersAt line index = true ∧
      ∀ other ∈ earlier, ¬ "let ".toList ++ nameAt line (index + 1) <:+: other
  · rw [if_pos hwarns, Option.filter_some]
    by_cases hdefined : "let ".toList ++ nameAt line (index + 1) <:+: front
    · rw [if_neg fun h => h.2.1 hdefined, if_neg (by simpa [staysBehind] using hdefined)]
      rfl
    · rw [if_pos ⟨hwarns.1, hdefined, hwarns.2⟩, if_pos (by simpa [staysBehind] using hdefined)]
      rfl
  · rw [if_neg hwarns, if_neg fun h => hwarns ⟨h.1, h.2.2⟩]
    rfl

/-- The problems of a line behind another text. -/
theorem lineListing_append (front : Text) (earlier : List Text) (count number : Nat)
    (line : Text) :
    lineListing (Text.lines front ++ earlier) (count + number) line =
      ((lineListing earlier number line).filter (staysBehind front)).map (below count) := by
  unfold lineListing
  rw [List.filter_append, List.map_append, List.filter_filterMap, List.map_filterMap]
  congr 1
  · split <;> rfl
  · congr 1
    funext index
    exact warningAt?_append front earlier count number line index

/-! ## All lines -/

theorem listing_eq_flatMap (text : Text) :
    listing text = (Text.lines text).zipIdx.flatMap fun entry =>
      lineListing ((Text.lines text).take entry.2) entry.2 entry.1 := rfl

/-- The problems of two texts in a row. -/
theorem listing_append (first second : Text) :
    listing (first ++ '\n' :: second) =
      listing first ++
        ((listing second).filter (staysBehind first)).map
          (below (Text.lines first).length) := by
  have hfirst : (Text.lines first).zipIdx.flatMap (fun entry =>
        lineListing ((Text.lines first ++ Text.lines second).take entry.2) entry.2 entry.1) =
      listing first := by
    rw [listing_eq_flatMap]
    refine List.flatMap_congr fun entry hentry => ?_
    have hlt := (List.mem_zipIdx hentry).2.1
    rw [Nat.zero_add] at hlt
    rw [List.take_append_of_le_length (Nat.le_of_lt hlt)]
  have hsecond : (Text.lines second).zipIdx.flatMap (fun entry =>
        lineListing
          ((Text.lines first ++ Text.lines second).take ((Text.lines first).length + entry.2))
          ((Text.lines first).length + entry.2) entry.1) =
      ((listing second).filter (staysBehind first)).map (below (Text.lines first).length) := by
    rw [listing_eq_flatMap, List.filter_flatMap, List.map_flatMap]
    refine List.flatMap_congr fun entry _ => ?_
    rw [List.take_length_add_append, lineListing_append]
  rw [listing_eq_flatMap, Text.lines_append, List.zipIdx_append, List.flatMap_append, hfirst,
    Nat.zero_add, List.zipIdx_eq_map_add, List.flatMap_map]
  exact congrArg (listing first ++ ·) hsecond

/-! ## The number of problems -/

theorem length_lineListing_le (earlier : List Text) (number : Nat) (line : Text) :
    (lineListing earlier number line).length ≤ line.length + 1 := by
  have hwarnings := List.length_filterMap_le (warningAt? earlier number line)
    (List.range line.length)
  rw [List.length_range] at hwarnings
  rw [lineListing, List.length_append, Nat.add_comm]
  refine Nat.add_le_add hwarnings ?_
  split
  · exact Nat.le_refl 1
  · exact Nat.zero_le 1

/-- Lines with at most one problem more than they have characters. -/
theorem length_flatMap_zipIdx_le {problems : Text × Nat → List Diagnostic}
    (hproblems : ∀ line number, (problems (line, number)).length ≤ line.length + 1)
    (pieces : List Text) (start : Nat) :
    ((pieces.zipIdx start).flatMap problems).length ≤ (Text.endLines pieces).length := by
  induction pieces generalizing start with
  | nil => exact Nat.le_refl 0
  | cons line more ih =>
      have hline := hproblems line start
      have hmore := ih (start + 1)
      rw [List.zipIdx_cons, List.flatMap_cons, Text.endLines_cons, List.length_append,
        List.length_append, List.length_cons]
      omega

/-- A text has at most one problem more than it has characters. -/
theorem length_listing_le (text : Text) : (listing text).length ≤ text.length + 1 := by
  have hlines : (listing text).length ≤ (Text.endLines (Text.lines text)).length :=
    length_flatMap_zipIdx_le (fun line number => length_lineListing_le _ number line) _ 0
  rwa [Text.endLines_lines, List.length_append, List.length_singleton] at hlines

theorem length_le_byteCount (text : Text) : text.length ≤ Text.byteCount text := by
  induction text with
  | nil => exact Nat.le_refl 0
  | cons c rest ih =>
      have hpos := c.utf8Size_pos
      rw [List.length_cons, Text.byteCount_cons]
      omega

/-- The largest limit leaves nothing out. -/
theorem scan_largestLimit {text : Text} (hsize : Text.byteCount text < 4294967296) :
    scan text largestLimit = listing text := by
  have hcount := length_listing_le text
  have hlength := length_le_byteCount text
  rw [scan_eq]
  refine List.take_of_length_le ?_
  unfold largestLimit
  omega

/-- **Scanning two texts in a row.**  With the largest limit, the scan of two texts with a line feed
between them gives what the scan of the first text gives, and then what the scan of the second
gives, further down by the lines of the first and without the warnings about variables that the
first defines. -/
theorem scan_append_newline {first second : Text}
    (hsize : Text.byteCount (first ++ '\n' :: second) < 4294967296) :
    scan (first ++ '\n' :: second) largestLimit =
      scan first largestLimit ++
        ((scan second largestLimit).filter (staysBehind first)).map
          (below (Text.lines first).length) := by
  have hsum := hsize
  rw [Text.byteCount_append, Text.byteCount_cons] at hsum
  have hfirst : Text.byteCount first < 4294967296 := by omega
  have hsecond : Text.byteCount second < 4294967296 := by omega
  rw [scan_largestLimit hsize, scan_largestLimit hfirst, scan_largestLimit hsecond, listing_append]

/-- The first text defines one of two variables of the second, which also leaves a string open. -/
theorem scan_append_newline_defined :
    let first : Text := ['l', 'e', 't', ' ', 'a']
    let second : Text := ['%', 'a', ' ', '%', 'b', '\n', '"']
    Text.byteCount (first ++ '\n' :: second) < 4294967296 ∧
      scan (first ++ '\n' :: second) largestLimit =
        [⟨⟨⟨1, 3⟩, ⟨1, 5⟩⟩, .undefinedVariable ['b']⟩,
          ⟨⟨⟨2, 0⟩, ⟨2, 1⟩⟩, .unterminatedString⟩] := by
  intro first second
  have hsize : Text.byteCount (first ++ '\n' :: second) < 4294967296 := by decide
  refine ⟨hsize, ?_⟩
  rw [scan_append_newline hsize]
  decide +kernel

end PolicyEditing.Diagnostic
