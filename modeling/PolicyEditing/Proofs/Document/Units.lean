import PolicyEditing.Proofs.Document.Editor
import PolicyEditing.Proofs.Document.Lines

/-!
# Characters and their units

An editor's units determine the characters that they stand for, and what an editor calls a line is
a line of the document: no unit of another character looks like a line feed or a carriage return.
-/

namespace PolicyEditing.Editor

/-! ## The units of a text -/

@[simp] theorem encode_nil : encode [] = [] := rfl

@[simp] theorem encode_cons (c : Char) (text : Text) :
    encode (c :: text) = encodeChar c ++ encode text := by
  simp [encode]

@[simp] theorem encode_append (first second : Text) :
    encode (first ++ second) = encode first ++ encode second := by
  simp [encode]

theorem encodeChar_of_lt {c : Char} (hc : c.toNat < 0x10000) :
    encodeChar c = [UInt16.ofNat c.toNat] :=
  if_pos hc

theorem isHigh_iff {unit : UInt16} :
    isHigh unit = true ↔ 0xD800 ≤ unit.toNat ∧ unit.toNat < 0xDC00 := by
  simp [isHigh, UInt16.le_iff_toNat_le, UInt16.lt_iff_toNat_lt]

theorem isLow_iff {unit : UInt16} :
    isLow unit = true ↔ 0xDC00 ≤ unit.toNat ∧ unit.toNat < 0xE000 := by
  simp [isLow, UInt16.le_iff_toNat_le, UInt16.lt_iff_toNat_lt]

/-- A character beyond the basic plane is a pair of surrogates. -/
theorem encodeChar_of_le {c : Char} (hc : 0x10000 ≤ c.toNat) :
    ∃ high low, encodeChar c = [high, low] ∧ isHigh high = true ∧ isLow low = true ∧
      c.toNat = 0x10000 + (high.toNat - 0xD800) * 0x400 + (low.toNat - 0xDC00) := by
  have hvalid : c.toNat < 0x110000 := by
    rcases c.valid with hlow | ⟨_, hhigh⟩
    · have : c.toNat < 0xD800 := hlow
      omega
    · exact hhigh
  refine ⟨_, _, if_neg (by omega), ?_, ?_, ?_⟩
  · rw [isHigh_iff, UInt16.toNat_ofNat']
    omega
  · rw [isLow_iff, UInt16.toNat_ofNat']
    omega
  · rw [UInt16.toNat_ofNat', UInt16.toNat_ofNat']
    omega

/-- No character of the basic plane looks like the first half of another one. -/
theorem isHigh_of_lt {c : Char} (hc : c.toNat < 0x10000) :
    isHigh (UInt16.ofNat c.toNat) = false := by
  rw [Bool.eq_false_iff, ne_eq, isHigh_iff, UInt16.toNat_ofNat', Nat.mod_eq_of_lt hc]
  rcases c.valid with hlow | ⟨hhigh, _⟩
  · have : c.toNat < 0xD800 := hlow
    omega
  · have : 0xDFFF < c.toNat := hhigh
    omega

theorem length_encodeChar (c : Char) : (encodeChar c).length = Text.units c := by
  unfold encodeChar Text.units
  split <;> rfl

@[simp] theorem length_encode (text : Text) : (encode text).length = Text.unitCount text := by
  induction text with
  | nil => rfl
  | cons c text ih => simp [ih, length_encodeChar]

/-! ## Units determine characters -/

theorem encodeChar_append_ne {c d : Char} (hc : c.toNat < 0x10000) (hd : 0x10000 ≤ d.toNat)
    (first second : List UInt16) : encodeChar c ++ first ≠ encodeChar d ++ second := by
  intro h
  obtain ⟨high, low, hpair, hhigh, _⟩ := encodeChar_of_le hd
  simp only [encodeChar_of_lt hc, hpair, List.cons_append, List.nil_append, List.cons.injEq] at h
  simp [← h.1, isHigh_of_lt hc] at hhigh

/-- No character's units begin another character's. -/
theorem encodeChar_append_inj {c d : Char} {first second : List UInt16}
    (h : encodeChar c ++ first = encodeChar d ++ second) : c = d ∧ first = second := by
  rcases Nat.lt_or_ge c.toNat 0x10000 with hc | hc <;>
    rcases Nat.lt_or_ge d.toNat 0x10000 with hd | hd
  · simp only [encodeChar_of_lt hc, encodeChar_of_lt hd, List.cons_append, List.nil_append,
      List.cons.injEq] at h
    obtain ⟨hunit, hrest⟩ := h
    have hnat := congrArg UInt16.toNat hunit
    rw [UInt16.toNat_ofNat', UInt16.toNat_ofNat', Nat.mod_eq_of_lt hc, Nat.mod_eq_of_lt hd] at hnat
    exact ⟨Char.toNat_inj.mp hnat, hrest⟩
  · exact absurd h (encodeChar_append_ne hc hd _ _)
  · exact absurd h.symm (encodeChar_append_ne hd hc _ _)
  · obtain ⟨high, low, hcpair, _, _, hcnat⟩ := encodeChar_of_le hc
    obtain ⟨high', low', hdpair, _, _, hdnat⟩ := encodeChar_of_le hd
    rw [hcpair, hdpair] at h
    simp only [List.cons_append, List.nil_append, List.cons.injEq] at h
    obtain ⟨rfl, rfl, hrest⟩ := h
    exact ⟨Char.toNat_inj.mp (hcnat.trans hdnat.symm), hrest⟩

theorem encodeChar_ne_nil (c : Char) : encodeChar c ≠ [] := by
  intro h
  have := Text.units_pos c
  rw [← length_encodeChar, h] at this
  exact Nat.lt_irrefl _ this

theorem encode_injective {first second : Text} (h : encode first = encode second) :
    first = second := by
  induction first generalizing second with
  | nil =>
      cases second with
      | nil => rfl
      | cons d second => simp [encodeChar_ne_nil] at h
  | cons c first ih =>
      cases second with
      | nil => simp [encodeChar_ne_nil] at h
      | cons d second =>
          obtain ⟨rfl, hrest⟩ := encodeChar_append_inj (by simpa using h)
          rw [ih hrest]

/-! ## Columns between characters -/

/-- A column behind the beginning of a part splits a pair of that part or none. -/
theorem splitsPair_append (first rest : List UInt16) {column : Nat} (hpos : 0 < column) :
    splitsPair (first ++ rest) (first.length + column) = splitsPair rest column := by
  obtain ⟨column, rfl⟩ := Nat.exists_eq_succ_of_ne_zero hpos.ne'
  rw [Nat.succ_eq_add_one, ← Nat.add_assoc]
  simp only [splitsPair, Nat.add_assoc, List.getElem?_append_right (Nat.le_add_right _ _),
    Nat.add_sub_cancel_left]

/-- A column inside of a character splits its pair. -/
theorem splitsPair_encodeChar {c : Char} {column : Nat} (hpos : 0 < column)
    (hlt : column < Text.units c) (rest : List UInt16) :
    splitsPair (encodeChar c ++ rest) column = true := by
  have hbeyond : 0x10000 ≤ c.toNat := by
    by_contra hbasic
    rw [Text.units, if_pos (Nat.lt_of_not_le hbasic)] at hlt
    omega
  obtain ⟨high, low, hpair, hhigh, hlow, _⟩ := encodeChar_of_le hbeyond
  -- a character has at most two units, so the column lies between them
  have hone : column = 1 := by
    rw [Text.units, if_neg (by omega)] at hlt
    omega
  simp [hone, hpair, splitsPair, hhigh, hlow]

/-- A column that splits no pair lies between two characters. -/
theorem exists_split_of_splitsPair {text : Text} {column : Nat}
    (hcolumn : column ≤ Text.unitCount text) (hpair : splitsPair (encode text) column = false) :
    ∃ before after, text = before ++ after ∧ Text.unitCount before = column := by
  induction text generalizing column with
  | nil => exact ⟨[], [], rfl, (Nat.le_zero.mp hcolumn).symm⟩
  | cons c text ih =>
      rcases Nat.eq_zero_or_pos column with rfl | hpos
      · exact ⟨[], c :: text, rfl, rfl⟩
      rw [encode_cons] at hpair
      rcases Nat.lt_or_ge column (Text.units c) with hlt | hge
      · simp [splitsPair_encodeChar hpos hlt] at hpair
      obtain ⟨rest, rfl⟩ := Nat.exists_eq_add_of_le hge
      have hrest : splitsPair (encode text) rest = false := by
        rcases Nat.eq_zero_or_pos rest with rfl | hmore
        · rfl
        · rwa [← length_encodeChar, splitsPair_append _ _ hmore] at hpair
      obtain ⟨before, after, rfl, hbefore⟩ := ih (by simpa using hcolumn) hrest
      exact ⟨c :: before, after, rfl, by simp [hbefore]⟩

/-! ## Lines -/

theorem encodeChar_feed : encodeChar '\n' = [0x0A] := rfl

theorem encodeChar_return : encodeChar '\r' = [0x0D] := rfl

/-- A text whose first unit is a line feed begins with a line feed. -/
theorem head?_of_encode {text : Text} {rest : List UInt16} (h : encode text = 0x0A :: rest) :
    text.head? = some '\n' := by
  cases text with
  | nil => simp at h
  | cons c text =>
      rw [encode_cons, show (0x0A :: rest : List UInt16) = encodeChar '\n' ++ rest from rfl] at h
      simp [(encodeChar_append_inj h).1]

/-- Only a line feed has the unit of a line feed, and only a carriage return that of a carriage
return. -/
theorem ne_of_mem_encodeChar {c : Char} {unit : UInt16} (hfeed : c ≠ '\n') (hreturn : c ≠ '\r')
    (hunit : unit ∈ encodeChar c) : unit ≠ 0x0D ∧ unit ≠ 0x0A := by
  rcases Nat.lt_or_ge c.toNat 0x10000 with hc | hc
  · rw [encodeChar_of_lt hc, List.mem_singleton] at hunit
    have hnat : unit.toNat = c.toNat := by
      rw [hunit, UInt16.toNat_ofNat', Nat.mod_eq_of_lt hc]
    constructor
    · rintro rfl
      exact hreturn (Char.toNat_inj.mp hnat.symm)
    · rintro rfl
      exact hfeed (Char.toNat_inj.mp hnat.symm)
  · obtain ⟨high, low, hpair, hhigh, hlow, _⟩ := encodeChar_of_le hc
    rw [isHigh_iff] at hhigh
    rw [isLow_iff] at hlow
    rw [hpair, List.mem_cons, List.mem_singleton] at hunit
    have hsurrogate : 0xD800 ≤ unit.toNat := by
      rcases hunit with rfl | rfl <;> omega
    constructor <;> rintro rfl <;> exact absurd hsurrogate (by decide)

theorem lines_cons {unit : UInt16} (hreturn : unit ≠ 0x0D) (hfeed : unit ≠ 0x0A)
    (rest : List UInt16) : lines (unit :: rest) = prependToLines unit (lines rest) := by
  rw [lines]
  · intro _ h _
    exact hreturn h
  · exact hreturn
  · exact hfeed

/-- The units of a line. -/
def encodeLine (line : Text) : Line :=
  ⟨encode (Document.content line), encode (Document.ending line)⟩

/-- The units of a character that breaks no line come in front of the first line. -/
theorem lines_append {first : List UInt16} (hfirst : ∀ unit ∈ first, unit ≠ 0x0D ∧ unit ≠ 0x0A)
    {rest : List UInt16} {line : Line} {more : List Line} (hrest : lines rest = line :: more) :
    lines (first ++ rest) = { line with content := first ++ line.content } :: more := by
  induction first with
  | nil => exact hrest
  | cons unit first ih =>
      obtain ⟨hreturn, hfeed⟩ := hfirst unit List.mem_cons_self
      rw [List.cons_append, lines_cons hreturn hfeed,
        ih fun other hother => hfirst other (List.mem_cons_of_mem _ hother)]
      rfl

/-- The editor's lines are the lines of the document. -/
theorem lines_encode (text : Text) :
    lines (encode text) = (Document.lines text).map encodeLine := by
  induction text using Document.breakInduction with
  | nil => rfl
  | joint rest ih =>
      rw [Document.lines_joint, List.map_cons, ← ih, encode_cons, encode_cons, encodeChar_return,
        encodeChar_feed]
      rfl
  | feed rest ih =>
      rw [Document.lines_feed, List.map_cons, ← ih, encode_cons, encodeChar_feed]
      rfl
  | lone rest hhead ih =>
      rw [Document.lines_lone hhead, List.map_cons, ← ih, encode_cons, encodeChar_return]
      show lines (0x0D :: encode rest) = _
      rw [lines]
      · rfl
      · -- the rest does not begin with a line feed, and so neither do its units
        intro more hmore
        exact hhead (head?_of_encode hmore)
  | plain c rest hfeed hreturn ih =>
      obtain ⟨line, more, hlines⟩ := List.exists_cons_of_ne_nil (Document.lines_ne_nil rest)
      rw [hlines, List.map_cons] at ih
      have hbreak : Document.isBreak c = false := by simp [Document.isBreak, hfeed, hreturn]
      rw [Document.lines_plain hfeed hreturn hlines, encode_cons,
        lines_append (fun unit hunit => ne_of_mem_encodeChar hfeed hreturn hunit) ih]
      simp [encodeLine, Document.content_cons hbreak, Document.ending_cons hbreak]

end PolicyEditing.Editor
