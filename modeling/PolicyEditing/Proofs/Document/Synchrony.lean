import PolicyEditing.Proofs.Document.Units

/-!
# Documents follow the editor

An editor counts units, a document counts characters, and the two are told of a change by the same
positions.  Every position that the editor can point to lies between two characters
(`exists_split_of_admits`): the characters before it are those that the document counts, and their
units are those that the editor counts.  So a change does the same at both ends
(`encode_changeText`), and by induction a whole run of changes does.

A change can move, join and part all later lines, so nothing about lines is carried from one change
to the next: the invariant is that the units of the document's text are the editor's.
-/

namespace PolicyEditing.Editor

/-! ## Positions -/

theorem units_encodeLine (line : Text) : (encodeLine line).units = encode line := by
  rw [Line.units, encodeLine, ← encode_append, Document.content_append_ending]

theorem flatMap_units_encodeLine (lines : List Text) :
    (lines.map encodeLine).flatMap Line.units = encode lines.flatten := by
  induction lines with
  | nil => rfl
  | cons line lines ih =>
      rw [List.map_cons, List.flatMap_cons, ih, units_encodeLine, List.flatten_cons, encode_append]

/-- A position that the editor can point to lies between the same two characters for the editor and
for the document. -/
theorem exists_split_of_admits {text : Text} {position : Position}
    (hadmits : Admits (encode text) position) :
    ∃ before after, text = before ++ after ∧ Document.indexAt text position = before.length ∧
      offset (encode text) position = Text.unitCount before := by
  obtain ⟨encoded, hencoded, hcolumn, hpair⟩ := hadmits
  rw [lines_encode, List.getElem?_map, Option.mem_def, Option.map_eq_some_iff] at hencoded
  obtain ⟨line, hline, rfl⟩ := hencoded
  obtain ⟨first, rest, hcontent, hfirst⟩ :=
    exists_split_of_splitsPair (by simpa [encodeLine] using hcolumn) hpair
  -- the column is reached on the content of the line, before its break
  have hparts : first ++ (rest ++ Document.ending line) = line := by
    rw [← List.append_assoc, ← hcontent, Document.content_append_ending]
  have htext := Document.eq_append_of_getElem? hline
  rw [← hparts, List.append_assoc, ← List.append_assoc] at htext
  refine ⟨_, _, htext, ?_, ?_⟩
  · rw [Document.indexAt, ← hfirst]
    exact Document.indexInLines_eq hline hcontent
  · rw [offset, lines_encode, ← List.map_take, flatMap_units_encodeLine, length_encode,
      Text.unitCount_append, hfirst]

/-- The editor counts at least as far as the end of every earlier line. -/
theorem offset_mono {units : List UInt16} {first last : Position} (hle : first ≤ last)
    (hfirst : Admits units first) : offset units first ≤ offset units last := by
  rcases hle with hlt | ⟨hline, hcolumn⟩
  · obtain ⟨line, hmem, hcharacter, _⟩ := hfirst
    obtain ⟨hbound, rfl⟩ := List.getElem?_eq_some_iff.mp hmem
    obtain ⟨between, hbetween⟩ : (lines units).take (first.line + 1) <+:
        (lines units).take last.line := List.take_prefix_take_left hlt
    unfold offset
    rw [← hbetween, List.take_succ_eq_append_getElem hbound]
    simp only [List.flatMap_append, List.flatMap_cons, List.flatMap_nil, List.length_append,
      List.length_nil, Line.units]
    omega
  · unfold offset
    rw [hline]
    omega

/-- Of two beginnings of a text, the one with fewer units is not longer. -/
theorem length_le_of_unitCount_le {first second firstRest secondRest : Text}
    (heq : first ++ firstRest = second ++ secondRest)
    (hle : Text.unitCount first ≤ Text.unitCount second) : first.length ≤ second.length := by
  rcases List.append_eq_append_iff.mp heq with ⟨more, rfl, _⟩ | ⟨more, rfl, _⟩
  · simp
  · cases more with
    | nil => simp
    | cons c more =>
        have := Text.units_pos c
        simp only [Text.unitCount_append, Text.unitCount_cons] at hle
        omega

/-! ## Changes -/

/-- A change does the same to the editor's text and to the document. -/
theorem encode_changeText {text : Text} {change : Change}
    (hallows : Allows (encode text) change) :
    encode (Document.changeText text change) = apply (encode text) change := by
  obtain ⟨range, new⟩ := change
  cases range with
  | none => rfl
  | some range =>
      obtain ⟨hle, hstart, hstop⟩ := hallows range rfl
      have hoffset := offset_mono hle hstart
      obtain ⟨before, rest, htext, hfirst, hbefore⟩ := exists_split_of_admits hstart
      obtain ⟨start, after, htext', hlast, hstart'⟩ := exists_split_of_admits hstop
      have hindex : before.length ≤ start.length := by
        refine length_le_of_unitCount_le (htext.symm.trans htext') ?_
        rw [← hbefore, ← hstart']
        exact hoffset
      -- both ends keep what stands before the start and behind the stop
      have hkept : text.take before.length = before := by rw [htext, List.take_left]
      have hleft : text.drop start.length = after := by rw [htext', List.drop_left]
      have hkeptUnits : (encode text).take (Text.unitCount before) = encode before := by
        rw [htext, encode_append, ← length_encode, List.take_left]
      have hleftUnits : (encode text).drop (Text.unitCount start) = encode after := by
        rw [htext', encode_append, ← length_encode, List.drop_left]
      simp only [Document.changeText, apply, hfirst, hlast, hbefore, hstart',
        Nat.max_eq_right hindex, hkept, hleft, hkeptUnits, hleftUnits, encode_append]

/-- A run of changes does the same to the editor's text and to the document. -/
theorem encode_foldl_changeText {text : Text} {changes : List Change}
    (hallows : AllowsAll (encode text) changes) :
    encode (changes.foldl Document.changeText text) = changes.foldl apply (encode text) := by
  induction changes generalizing text with
  | nil => rfl
  | cons change rest ih =>
      obtain ⟨hchange, hrest⟩ := hallows
      -- the later changes are allowed in the units of the changed document
      rw [← encode_changeText hchange] at hrest
      calc encode ((change :: rest).foldl Document.changeText text)
          = rest.foldl apply (encode (Document.changeText text change)) := ih hrest
        _ = (change :: rest).foldl apply (encode text) := by
            rw [encode_changeText hchange, List.foldl_cons]

/-- **Documents follow the editor.**  After any changes that the editor can make, the document's
text is the one text whose units the editor holds. -/
theorem encode_eq_foldl_apply_iff (text : Text) (changes : List Change)
    (hallows : AllowsAll (encode text) changes) (version version' : Int) (other : Text) :
    encode other = changes.foldl apply (encode text) ↔
      other = (Document.edit ⟨text, version⟩ version' changes).text := by
  rw [← encode_foldl_changeText hallows]
  exact ⟨encode_injective, congrArg encode⟩

/-- A carriage return joins the line feed behind it, so that the second change finds its place
behind both. -/
theorem edits_join_break :
    let text : Text := ['😀', 'a', '\n']
    let changes : List Change :=
      [⟨some ⟨⟨0, 2⟩, ⟨0, 3⟩⟩, ['b', '\r']⟩, ⟨some ⟨⟨1, 0⟩, ⟨1, 0⟩⟩, ['c']⟩]
    AllowsAll (encode text) changes ∧
      ∀ other : Text, encode other = changes.foldl apply (encode text) ↔
        other = ['😀', 'b', '\r', '\n', 'c'] :=
  ⟨by decide, encode_eq_foldl_apply_iff _ _ (by decide) 1 2⟩

end PolicyEditing.Editor
