import PolicyEditing.Proofs.Word

/-!
# The longest word at an offset

What `rangeAt` finds is described by the bytes alone: a range of word bytes that touches the offset
and that no word byte adjoins (`IsLongest`).  Two such ranges at one offset are the same
(`IsLongest.unique`), and the two runs of word bytes, to the left and to the right of the offset,
make one as soon as one of them is not empty (`isLongest_runs`).

A word byte is a whole character (`exists_split_of_wordAt`).  So the ends of a range that is found
stand between two characters, and an offset inside of a character touches no word.
-/

namespace PolicyEditing.Word

open Text (IsBoundary byteCount bytes)

/-- Whether the byte at an index is an ASCII letter or digit, or an underscore. -/
def WordAt (text : Text) (index : Nat) : Prop :=
  ∃ c, isWordChar c = true ∧ (bytes text)[index]? = some (UInt8.ofNat c.toNat)

/-- Whether a word byte stands before or behind an offset. -/
def TouchesWord (text : Text) (offset : Nat) : Prop :=
  0 < offset ∧ WordAt text (offset - 1) ∨ WordAt text offset

/-- A range of word bytes that touches an offset and cannot be made longer. -/
structure IsLongest (text : Text) (offset first last : Nat) : Prop where
  first_le : first ≤ offset
  le_last : offset ≤ last
  nonempty : first < last
  inside : ∀ index, first ≤ index → index < last → WordAt text index
  before : ∀ index, index + 1 = first → ¬ WordAt text index
  behind : ¬ WordAt text last

/-- Whether an offset lies between two bytes of one character. -/
def SplitsBytes (text : Text) (offset : Nat) : Prop :=
  ∃ before c, before ++ [c] <+: text ∧ byteCount before < offset ∧
    offset < byteCount (before ++ [c])

variable {text : Text} {offset index first last : Nat}

/-! ## Word bytes -/

/-- A word byte is a character of its own, and no part of another one. -/
theorem exists_split_of_isWordByte (hbyte : (bytes text)[index]?.any isWordByte = true) :
    ∃ front c rest, text = front ++ c :: rest ∧ byteCount front = index ∧
      isWordChar c = true := by
  induction text generalizing index with
  | nil => simp at hbyte
  | cons d rest ih =>
      have hlength := String.length_utf8EncodeChar d
      rw [Text.bytes_cons] at hbyte
      rcases Nat.lt_or_ge index d.utf8Size with hlt | hge
      · rw [List.getElem?_append_left (by omega), List.getElem?_eq_getElem (by omega),
          Option.any_some, isWordByte_of_mem (List.getElem_mem _)] at hbyte
        have hsize : d.utf8Size = 1 := by
          rw [← hlength, utf8EncodeChar_of_lt (lt_of_isWordChar hbyte)]
          rfl
        exact ⟨[], d, rest, rfl, (show index = 0 by omega).symm, hbyte⟩
      · rw [List.getElem?_append_right (by omega), hlength] at hbyte
        obtain ⟨front, c, behind, rfl, hcount, hc⟩ := ih hbyte
        refine ⟨d :: front, c, behind, rfl, ?_, hc⟩
        rw [Text.byteCount_cons, hcount]
        omega

theorem getElem?_bytes_append {front rest : Text} {c : Char} (hc : isWordChar c = true) :
    (bytes (front ++ c :: rest))[byteCount front]? = some (UInt8.ofNat c.toNat) := by
  rw [Text.bytes_append, ← Text.length_bytes, List.getElem?_append_right (Nat.le_refl _),
    Nat.sub_self, Text.bytes_cons, utf8EncodeChar_of_lt (lt_of_isWordChar hc)]
  rfl

theorem wordAt_iff : WordAt text index ↔ (bytes text)[index]?.any isWordByte = true := by
  constructor
  · rintro ⟨c, hc, hbyte⟩
    rw [hbyte, Option.any_some, isWordByte_ofNat (lt_of_isWordChar hc), Char.ofNat_toNat, hc]
  · intro hbyte
    obtain ⟨front, c, rest, rfl, rfl, hc⟩ := exists_split_of_isWordByte hbyte
    exact ⟨c, hc, getElem?_bytes_append hc⟩

theorem exists_split_of_wordAt (hword : WordAt text index) :
    ∃ front c rest, text = front ++ c :: rest ∧ byteCount front = index ∧ isWordChar c = true :=
  exists_split_of_isWordByte (wordAt_iff.mp hword)

/-- Both ends of a word byte are boundaries. -/
theorem isBoundary_of_wordAt (hword : WordAt text index) :
    IsBoundary text index ∧ IsBoundary text (index + 1) := by
  obtain ⟨front, c, rest, rfl, rfl, hc⟩ := exists_split_of_wordAt hword
  refine ⟨⟨front, List.prefix_append _ _, rfl⟩, ⟨front ++ [c], ⟨rest, by simp⟩, ?_⟩⟩
  have hsize : byteCount [c] = 1 := byteCount_of_isWord (by simpa using hc)
  rw [Text.byteCount_append, hsize]

theorem not_isBoundary_of_splitsBytes (hsplits : SplitsBytes text offset) :
    ¬ IsBoundary text offset := by
  obtain ⟨front, c, hfront, hfirst, hlast⟩ := hsplits
  rintro ⟨before, hbefore, rfl⟩
  rcases Text.prefix_or_concat_prefix hbefore hfront with hshorter | hlonger
  · exact absurd hfirst (Nat.not_lt_of_le (Text.byteCount_le_of_prefix hshorter))
  · exact absurd hlast (Nat.not_lt_of_le (Text.byteCount_le_of_prefix hlonger))

/-! ## Longest ranges -/

namespace IsLongest

/-- Where there is a range, a word byte is next to the offset. -/
theorem touches (hlongest : IsLongest text offset first last) : TouchesWord text offset := by
  obtain ⟨hfirst, hlast, hlt, hinside, -, -⟩ := hlongest
  rcases Nat.lt_or_ge first offset with hbefore | hat
  · exact .inl ⟨by omega, hinside (offset - 1) (by omega) (by omega)⟩
  · exact .inr (hinside offset hfirst (by omega))

/-- No range reaches beyond another one at the same offset. -/
theorem reaches {otherFirst otherLast : Nat} (hlongest : IsLongest text offset first last)
    (hother : IsLongest text offset otherFirst otherLast) :
    first ≤ otherFirst ∧ otherLast ≤ last := by
  obtain ⟨hfirst, hlast, -, -, hbefore, hbehind⟩ := hlongest
  obtain ⟨hotherFirst, hotherLast, -, hinside, -, -⟩ := hother
  constructor
  · by_contra hlt
    exact hbefore (first - 1) (by omega) (hinside (first - 1) (by omega) (by omega))
  · by_contra hlt
    exact hbehind (hinside last (by omega) (by omega))

theorem unique {otherFirst otherLast : Nat} (hlongest : IsLongest text offset first last)
    (hother : IsLongest text offset otherFirst otherLast) :
    first = otherFirst ∧ last = otherLast := by
  obtain ⟨hfirst, hlast⟩ := hlongest.reaches hother
  obtain ⟨hotherFirst, hotherLast⟩ := hother.reaches hlongest
  exact ⟨Nat.le_antisymm hfirst hotherFirst, Nat.le_antisymm hotherLast hlast⟩

/-- A range is the longest one at each offset that it touches. -/
theorem seenFrom (hlongest : IsLongest text offset first last) {other : Nat}
    (hfirst : first ≤ other) (hlast : other ≤ last) : IsLongest text other first last :=
  { hlongest with first_le := hfirst, le_last := hlast }

theorem isBoundary (hlongest : IsLongest text offset first last) :
    IsBoundary text first ∧ IsBoundary text last := by
  obtain ⟨-, -, hlt, hinside, -, -⟩ := hlongest
  obtain ⟨later, rfl⟩ := Nat.exists_eq_add_of_lt hlt
  constructor
  · exact (isBoundary_of_wordAt (hinside first (by omega) (by omega))).1
  · exact (isBoundary_of_wordAt (hinside (first + later) (by omega) (by omega))).2

end IsLongest

/-! ## Runs -/

section Runs

variable {α : Type} {p : α → Bool}

/-- Every element of a run has the property. -/
theorem any_getElem?_of_lt {list : List α} {index : Nat}
    (hlt : index < (list.takeWhile p).length) : list[index]?.any p = true := by
  have hrun := List.takeWhile_prefix (l := list) p
  have hget : list[index]? = some (list.takeWhile p)[index] := by
    rw [List.getElem?_eq_getElem (Nat.lt_of_lt_of_le hlt hrun.length_le), hrun.getElem hlt]
  rw [hget, Option.any_some]
  exact List.mem_takeWhile_imp (List.getElem_mem hlt)

/-- The element behind a run does not have it. -/
theorem any_getElem?_length (list : List α) :
    list[(list.takeWhile p).length]?.any p = false := by
  have hbehind : (list.takeWhile p ++ list.dropWhile p)[(list.takeWhile p).length]? = _ :=
    List.getElem?_append_right (Nat.le_refl _)
  rw [List.takeWhile_append_dropWhile, Nat.sub_self, ← List.head?_eq_getElem?] at hbehind
  rw [hbehind, Text.any_head?_dropWhile]

end Runs

/-- The bytes behind the offset. -/
theorem wordAt_add_iff : WordAt text (offset + index) ↔
    ((bytes text).drop offset)[index]?.any isWordByte = true := by
  rw [wordAt_iff, List.getElem?_drop]

/-- The bytes before the offset, counted backwards. -/
theorem wordAt_sub_iff (hoffset : offset ≤ (bytes text).length) (hindex : index < offset) :
    WordAt text (offset - 1 - index) ↔
      ((bytes text).take offset).reverse[index]?.any isWordByte = true := by
  have hlength : ((bytes text).take offset).length = offset := List.length_take_of_le hoffset
  rw [wordAt_iff, List.getElem?_reverse (by omega), hlength, List.getElem?_take_of_lt (by omega)]

/-- The bytes of the run before the offset. -/
def runBefore (text : Text) (offset : Nat) : Nat :=
  (((bytes text).take offset).reverse.takeWhile isWordByte).length

/-- The bytes of the run behind the offset. -/
def runBehind (text : Text) (offset : Nat) : Nat :=
  (((bytes text).drop offset).takeWhile isWordByte).length

theorem runBefore_le : runBefore text offset ≤ offset := by
  have hrun := (List.takeWhile_prefix (l := ((bytes text).take offset).reverse)
    isWordByte).length_le
  rw [List.length_reverse] at hrun
  exact Nat.le_trans hrun (List.length_take_le _ _)

/-- The runs on both sides make one, as soon as there is one. -/
theorem isLongest_runs (hoffset : offset ≤ (bytes text).length)
    (hsome : runBefore text offset + runBehind text offset ≠ 0) :
    IsLongest text offset (offset - runBefore text offset) (offset + runBehind text offset) where
  first_le := Nat.sub_le _ _
  le_last := Nat.le_add_right _ _
  nonempty := by
    have hle := @runBefore_le text offset
    omega
  inside := by
    intro index hfirst hlast
    rcases Nat.lt_or_ge index offset with hbefore | hbehind
    · obtain ⟨count, hcount, rfl⟩ : ∃ count, count < offset ∧ index = offset - 1 - count :=
        ⟨offset - 1 - index, by omega, by omega⟩
      rw [wordAt_sub_iff hoffset hcount]
      exact any_getElem?_of_lt (show count < runBefore text offset by omega)
    · obtain ⟨count, rfl⟩ := Nat.exists_eq_add_of_le hbehind
      rw [wordAt_add_iff]
      exact any_getElem?_of_lt (show count < runBehind text offset by omega)
  before := by
    intro index hindex hword
    have hplace : index = offset - 1 - runBefore text offset := by omega
    rw [hplace, wordAt_sub_iff hoffset (by omega), runBefore, any_getElem?_length] at hword
    exact Bool.false_ne_true hword
  behind := by
    intro hword
    rw [wordAt_add_iff, runBehind, any_getElem?_length] at hword
    exact Bool.false_ne_true hword

/-- Where a word byte is next to the offset, there is a run. -/
theorem runs_ne_zero_iff (hoffset : offset ≤ (bytes text).length) :
    runBefore text offset + runBehind text offset ≠ 0 ↔ TouchesWord text offset := by
  constructor
  · intro hsome
    exact (isLongest_runs hoffset hsome).touches
  · intro htouches hnone
    obtain ⟨hbefore, hbehind⟩ := Nat.add_eq_zero_iff.mp hnone
    rcases htouches with ⟨hpos, hword⟩ | hword
    · rw [← Nat.sub_zero (offset - 1), wordAt_sub_iff hoffset hpos, ← hbefore, runBefore,
        any_getElem?_length] at hword
      exact Bool.false_ne_true hword
    · rw [← Nat.add_zero offset, wordAt_add_iff, ← hbehind, runBehind,
        any_getElem?_length] at hword
      exact Bool.false_ne_true hword

/-! ## The range that is found -/

section Found

variable {place : Nat} (hplace : place = min offset (bytes text).length)

include hplace

theorem rangeAt_eq : rangeAt text offset =
    if runBefore text place + runBehind text place = 0 then none
    else some (place - runBefore text place, place + runBehind text place) := by
  subst hplace
  rfl

/-- What is found is the longest range, and nothing is found only where there is none. -/
theorem rangeAt_eq_some_iff :
    rangeAt text offset = some (first, last) ↔ IsLongest text place first last := by
  have hinside : place ≤ (bytes text).length := hplace ▸ Nat.min_le_right _ _
  rw [rangeAt_eq hplace]
  constructor
  · intro hfound
    split at hfound
    · exact absurd hfound.symm (Option.some_ne_none _)
    · rename_i hsome
      obtain ⟨rfl, rfl⟩ := Prod.mk.inj (Option.some.inj hfound)
      exact isLongest_runs hinside hsome
  · intro hlongest
    have hsome := (runs_ne_zero_iff hinside).mpr hlongest.touches
    obtain ⟨rfl, rfl⟩ := hlongest.unique (isLongest_runs hinside hsome)
    rw [if_neg hsome]

theorem isSome_rangeAt_iff : (rangeAt text offset).isSome ↔ TouchesWord text place := by
  have hinside : place ≤ (bytes text).length := hplace ▸ Nat.min_le_right _ _
  rw [rangeAt_eq hplace, ← runs_ne_zero_iff hinside]
  split
  · rename_i hnone
    exact iff_of_false (by simp) fun hsome => hsome hnone
  · rename_i hsome
    exact iff_of_true rfl hsome

end Found

/-- Cutting at boundaries cuts no character. -/
theorem bytes_slice (hfirst : IsBoundary text first) (hlast : IsBoundary text last)
    (hle : first ≤ last) :
    bytes (Text.slice text first last) = ((bytes text).drop first).take (last - first) := by
  obtain ⟨before, hbefore, rfl⟩ := hfirst
  obtain ⟨behind, ⟨after, rfl⟩, rfl⟩ := hlast
  obtain ⟨part, rfl⟩ := prefix_of_byteCount_le hbefore (List.prefix_append _ after) hle
  have hstart : (bytes before).length = byteCount before := Text.length_bytes before
  have hpart : (bytes part).length = byteCount (before ++ part) - byteCount before := by
    rw [Text.length_bytes, Text.byteCount_append, Nat.add_sub_cancel_left]
  rw [Text.slice_of_split rfl, Text.bytes_append, Text.bytes_append, List.append_assoc,
    List.drop_left' hstart, List.take_left' hpart]

/-- Nothing is found inside of a character. -/
theorem rangeAt_of_splitsBytes (hsplits : SplitsBytes text offset) :
    rangeAt text offset = none := by
  have hinside : offset ≤ (bytes text).length := by
    obtain ⟨before, c, hbefore, -, hlast⟩ := hsplits
    rw [Text.length_bytes]
    exact Nat.le_trans (Nat.le_of_lt hlast) (Text.byteCount_le_of_prefix hbefore)
  have hno := not_isBoundary_of_splitsBytes hsplits
  rw [← Option.not_isSome_iff_eq_none,
    isSome_rangeAt_iff (Nat.min_eq_left hinside).symm]
  rintro (⟨hpos, hword⟩ | hword)
  · have hboundary := (isBoundary_of_wordAt hword).2
    rw [Nat.sub_add_cancel hpos] at hboundary
    exact hno hboundary
  · exact hno (isBoundary_of_wordAt hword).1

/-- **The word at an offset is the longest range of word bytes that touches it, and the only one.**
The offset counts as the end of the text if it is past it.  Something is found exactly if the byte
before or behind the offset is a word byte, and what is found is exactly the longest range.  Its
ends are boundaries, so that cutting it out gives its bytes, and it is found from every offset that
it touches.  Inside of a character nothing is found. -/
theorem rangeAt_longest (text : Text) (offset : Nat) :
    let place := min offset (bytes text).length
    ((rangeAt text offset).isSome ↔ TouchesWord text place) ∧
    (∀ first last, rangeAt text offset = some (first, last) ↔ IsLongest text place first last) ∧
    (∀ first last, rangeAt text offset = some (first, last) →
      IsBoundary text first ∧ IsBoundary text last ∧
      bytes (Text.slice text first last) = ((bytes text).drop first).take (last - first) ∧
      ∀ other, first ≤ other → other ≤ last → rangeAt text other = some (first, last)) ∧
    (SplitsBytes text offset → rangeAt text offset = none) := by
  intro place
  refine ⟨isSome_rangeAt_iff rfl, fun first last => rangeAt_eq_some_iff rfl, ?_,
    rangeAt_of_splitsBytes⟩
  intro first last hfound
  have hlongest := (rangeAt_eq_some_iff rfl).mp hfound
  obtain ⟨hfirst, hlast⟩ := hlongest.isBoundary
  refine ⟨hfirst, hlast, bytes_slice hfirst hlast (Nat.le_of_lt hlongest.nonempty), ?_⟩
  intro other hstart hstop
  have hinside : other ≤ (bytes text).length := by
    obtain ⟨before, hbefore, rfl⟩ := hlast
    rw [Text.length_bytes]
    exact Nat.le_trans hstop (Text.byteCount_le_of_prefix hbefore)
  exact (rangeAt_eq_some_iff (Nat.min_eq_left hinside).symm).mpr (hlongest.seenFrom hstart hstop)

/-- A word between two characters of more bytes: seen from behind its first letter and from both of
its ends, and not from inside of the character before it. -/
theorem rangeAt_longest_between :
    let text : Text := ['é', 'a', '1', '😀']
    rangeAt text 3 = some (2, 4) ∧ IsLongest text 3 2 4 ∧
      rangeAt text 2 = some (2, 4) ∧ rangeAt text 4 = some (2, 4) ∧
      bytes (Text.slice text 2 4) = [97, 49] ∧ SplitsBytes text 1 ∧ rangeAt text 1 = none := by
  intro text
  obtain ⟨-, hlongest, hfound, -⟩ := rangeAt_longest text 3
  obtain ⟨-, -, -, hnone⟩ := rangeAt_longest text 1
  have hrange : rangeAt text 3 = some (2, 4) := by decide
  have hsplits : SplitsBytes text 1 := ⟨[], 'é', ⟨['a', '1', '😀'], rfl⟩, by decide, by decide⟩
  obtain ⟨-, -, hbytes, hseen⟩ := hfound 2 4 hrange
  refine ⟨hrange, (hlongest 2 4).mp hrange, hseen 2 (by decide) (by decide),
    hseen 4 (by decide) (by decide), ?_, hsplits, hnone hsplits⟩
  rw [hbytes]
  decide

end PolicyEditing.Word
