import PolicyEditing.Proofs.Diagnostic.Listing
import PolicyEditing.Proofs.Text.Offset

/-!
# A scan finds the first problems

`scan_eq_take_listing`: with any limit, a scan gives the beginning of the list of all problems.

The scan keeps three things from line to line: the room that is left, the number of the line, and
the byte at which the line begins.  The invariant is that the lines read so far, each with its line
feed, are the text up to that byte (`takeBytes_endLines`).  Then searching that text for a name is
searching the lines read so far, one by one, because a name stands on one line (`defines_iff`).
-/

namespace PolicyEditing.Diagnostic

/-! ## Earlier lines -/

theorem newline_notMem_nameAt (line : Text) (index : Nat) : '\n' ∉ nameAt line index := by
  intro hmem
  exact absurd (List.mem_takeWhile_imp hmem) (by decide)

/-- A name that stands behind some lines is looked for on each of them. -/
theorem defines_iff {earlier : List Text} {name : Text} (hname : '\n' ∉ name) :
    defines (Text.endLines earlier) name = true ↔
      ∃ line ∈ earlier, "let ".toList ++ name <:+: line := by
  rw [defines, Text.includes_iff, Text.infix_endLines_iff (by simp)]
  simp [hname]

/-! ## One line -/

/-- The early exit among the references of a line cuts their list. -/
theorem undefinedReferences_eq (earlier : Text) (room : Nat) (found : List Reference) :
    undefinedReferences earlier room found =
      (found.filter fun reference => !defines earlier reference.name).take room := by
  induction found generalizing room with
  | nil => cases room <;> rfl
  | cons reference rest ih =>
      cases room with
      | zero => rfl
      | succ room =>
          by_cases h : defines earlier reference.name <;> simp [undefinedReferences, h, ih]

/-- A reference is warned about in the list and in the scan alike. -/
theorem warningAt?_eq (earlier : List Text) (number : Nat) (line : Text) (index : Nat) :
    warningAt? earlier number line index =
      ((referenceAt? 0 line index).filter fun reference =>
        !defines (Text.endLines earlier) reference.name).map (undefinedVariable number) := by
  have hname := newline_notMem_nameAt line (index + 1)
  unfold warningAt? referenceAt?
  by_cases hrefers : refersAt line index = true
  · by_cases hknown : defines (Text.endLines earlier) (nameAt line (index + 1)) = true
    · have hfound : ¬ ∀ other ∈ earlier, ¬ "let ".toList ++ nameAt line (index + 1) <:+: other := by
        intro hnone
        obtain ⟨other, hother, hinfix⟩ := (defines_iff hname).mp hknown
        exact hnone other hother hinfix
      rw [if_neg fun h => hfound h.2, if_pos hrefers, Option.filter_some, if_neg (by simp [hknown]),
        Option.map_none]
    · have hnone : ∀ other ∈ earlier, ¬ "let ".toList ++ nameAt line (index + 1) <:+: other := by
        intro other hother hinfix
        exact hknown ((defines_iff hname).mpr ⟨other, hother, hinfix⟩)
      -- the end of the range, counted from the line or from the percent sign
      have hcolumn : Text.unitCount (line.take index) +
          Text.unitCount ('%' :: nameAt line (index + 1)) =
            Text.unitCount (line.take (index + 1 + (nameAt line (index + 1)).length)) := by
        rw [take_reference hrefers, Text.unitCount_append]
      rw [if_pos ⟨hrefers, hnone⟩, if_pos hrefers, Option.filter_some, if_pos (by simp [hknown]),
        Option.map_some, undefinedVariable, Reference.endColumn, Nat.zero_add, hcolumn]
  · simp [hrefers]

/-- The problems of a line, with the earlier lines as one text. -/
theorem lineListing_eq (earlier : List Text) (number : Nat) (line : Text) :
    lineListing earlier number line =
      (if hasUnterminatedString line then [unterminatedString number line] else []) ++
        ((references 0 line).filter fun reference =>
          !defines (Text.endLines earlier) reference.name).map (undefinedVariable number) := by
  rw [lineListing, references_eq, allReferences, List.filter_filterMap, List.map_filterMap]
  congr 2
  funext index
  rw [warningAt?_eq]

/-- The exits on a line cut its problems. -/
theorem scanLine_eq (earlier : List Text) {room : Nat} (hroom : room ≠ 0) (number : Nat)
    (line : Text) :
    scanLine (Text.endLines earlier) room number line =
      (lineListing earlier number line).take room := by
  rw [lineListing_eq, scanLine, undefinedReferences_eq, List.map_take]
  split
  · have herror : [unterminatedString number line].take room = [unterminatedString number line] :=
      List.take_of_length_le (Nat.one_le_iff_ne_zero.mpr hroom)
    rw [List.take_append, herror]
  · simp

/-! ## All lines -/

/-- The text up to the byte at which a line begins is the lines before it, each with its line
feed. -/
theorem takeBytes_endLines {text line : Text} {earlier rest : List Text}
    (hlines : Text.lines text = earlier ++ line :: rest) :
    Text.takeBytes text (Text.byteCount (Text.endLines earlier)) = Text.endLines earlier := by
  apply Text.takeBytes_of_prefix
  exact ⟨Text.joinLines (line :: rest), (Text.eq_endLines_append hlines).symm⟩

/-- The next line begins behind a line and its line feed. -/
theorem byteCount_endLines_concat (earlier : List Text) (line : Text) :
    Text.byteCount (Text.endLines (earlier ++ [line])) =
      Text.byteCount (Text.endLines earlier) + Text.byteCount line + 1 := by
  have hfeed : Text.byteCount ['\n'] = 1 := rfl
  rw [Text.endLines_append, Text.endLines_cons, Text.endLines_nil, Text.byteCount_append,
    Text.byteCount_append, hfeed, Nat.add_assoc]

/-- From any line on, the scan finds the first problems of the lines that are left. -/
theorem scanLines_eq {text : Text} {earlier rest : List Text}
    (hlines : Text.lines text = earlier ++ rest) (room : Nat) :
    scanLines text room earlier.length (Text.byteCount (Text.endLines earlier)) rest =
      ((rest.zipIdx earlier.length).flatMap fun (line, number) =>
        lineListing ((Text.lines text).take number) number line).take room := by
  induction rest generalizing earlier room with
  | nil => simp [scanLines]
  | cons line rest ih =>
      rw [scanLines]
      split
      · rename_i hroom
        rw [hroom, List.take_zero]
      · rename_i hroom
        have hearlier : (Text.lines text).take earlier.length = earlier := by
          rw [hlines]
          exact List.take_left
        have hnumber : earlier.length + 1 = (earlier ++ [line]).length := by simp
        rw [takeBytes_endLines hlines, scanLine_eq earlier hroom, List.zipIdx_cons,
          List.flatMap_cons]
        dsimp only
        rw [hearlier, List.take_append, hnumber, ← byteCount_endLines_concat,
          ih (by simpa using hlines), List.length_take]
        congr 2
        omega

theorem scan_eq (text : Text) (limit : Nat) : scan text limit = (listing text).take limit :=
  @scanLines_eq text [] _ rfl limit

/-- **A scan finds the first problems.**  With any limit it gives the beginning of the list of all
problems. -/
theorem scan_eq_take_listing (text : Text) (limit : Nat) :
    scan text limit = (listing text).take limit :=
  scan_eq text limit

end PolicyEditing.Diagnostic
