import PolicyEditing.Proofs.Text.Offset

/-!
# Parts of a text

A range that stands for a part of a text: its ends are converted to the bytes before and behind the
part, and these bytes are converted back.  Every part of a text without line feeds has such a range
on one line, from the position in front of it to the one behind it (`covers_of_split`).
-/

namespace PolicyEditing.Text

theorem slice_of_split {text before part after : Text} (htext : text = before ++ part ++ after) :
    slice text (byteCount before) (byteCount (before ++ part)) = part := by
  have hbefore : before <+: text := ⟨part ++ after, by rw [htext, List.append_assoc]⟩
  have hpart : before ++ part <+: text := ⟨after, htext.symm⟩
  rw [slice, takeBytes_of_prefix hbefore, takeBytes_of_prefix hpart, List.drop_left]

theorem slice_byteCount {text before after : Text} (htext : text = before ++ after) :
    slice text (byteCount before) (byteCount text) = after := by
  have hslice := @slice_of_split text before after [] (by rw [htext, List.append_nil])
  rwa [← htext] at hslice

/-- A range on one line stands for a part of a text, and behind the part comes the rest. -/
structure Covers (text : Text) (range : Range) (part rest : Text) : Prop where
  oneLine : range.start.line = range.stop.line
  start_boundary : IsBoundary text (offsetAt text range.start)
  stop_boundary : IsBoundary text (offsetAt text range.stop)
  ordered : offsetAt text range.start ≤ offsetAt text range.stop
  start_eq : positionAt text (offsetAt text range.start) = range.start
  stop_eq : positionAt text (offsetAt text range.stop) = range.stop
  part_eq : slice text (offsetAt text range.start) (offsetAt text range.stop) = part
  rest_eq : slice text (offsetAt text range.stop) (byteCount text) = rest

theorem covers_of_split {text before part after : Text} (htext : text = before ++ part ++ after)
    (hpart : '\n' ∉ part) :
    Covers text ⟨endPosition before, endPosition (before ++ part)⟩ part after := by
  have hbefore : before <+: text := ⟨part ++ after, by rw [htext, List.append_assoc]⟩
  have hbehind : before ++ part <+: text := ⟨after, htext.symm⟩
  have hstart := offsetAt_endPosition hbefore
  have hstop := offsetAt_endPosition hbehind
  constructor
  · show (endPosition before).line = (endPosition (before ++ part)).line
    rw [line_endPosition, line_endPosition, List.count_append, List.count_eq_zero_of_not_mem hpart,
      Nat.add_zero]
  · exact ⟨before, hbefore, hstart.symm⟩
  · exact ⟨before ++ part, hbehind, hstop.symm⟩
  · show offsetAt text (endPosition before) ≤ offsetAt text (endPosition (before ++ part))
    rw [hstart, hstop]
    exact byteCount_le_of_prefix (List.prefix_append before part)
  · show positionAt text (offsetAt text (endPosition before)) = endPosition before
    rw [hstart, positionAt_of_prefix hbefore]
  · show positionAt text (offsetAt text (endPosition (before ++ part))) = _
    rw [hstop, positionAt_of_prefix hbehind]
  · show slice text (offsetAt text _) (offsetAt text _) = part
    rw [hstart, hstop, slice_of_split htext]
  · show slice text (offsetAt text _) (byteCount text) = after
    rw [hstop, slice_byteCount htext]

/-- A part of a line is covered from its first column to the column behind it. -/
theorem covers_of_getElem? {text line : Text} {number : Nat}
    (hline : (lines text)[number]? = some line) {before part after : Text}
    (hsplit : line = before ++ part ++ after) :
    ∃ rest, (rest = [] ∨ rest.head? = some '\n') ∧
      Covers text ⟨⟨number, unitCount before⟩, ⟨number, unitCount (before ++ part)⟩⟩ part
        (after ++ rest) := by
  obtain ⟨rest, htext, hrest⟩ := exists_split_of_getElem? hline
  have hbefore : before <+: line := ⟨part ++ after, by rw [hsplit, List.append_assoc]⟩
  have hbehind : before ++ part <+: line := ⟨after, hsplit.symm⟩
  have hpart : '\n' ∉ part := by
    intro hmem
    apply newline_notMem_of_mem_lines (List.mem_of_getElem? hline)
    exact hbehind.subset (List.mem_append_right before hmem)
  have hcut : text = endLines ((lines text).take number) ++ before ++ part ++ (after ++ rest) := by
    refine htext.trans ?_
    rw [hsplit]
    simp only [List.append_assoc]
  have hcovers := covers_of_split hcut hpart
  rw [List.append_assoc, endPosition_of_getElem? hline hbefore,
    endPosition_of_getElem? hline hbehind] at hcovers
  exact ⟨rest, hrest, hcovers⟩

end PolicyEditing.Text
