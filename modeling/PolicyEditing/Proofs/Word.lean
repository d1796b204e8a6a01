import Mathlib.Data.List.DropRight
import PolicyEditing.Proofs.Text.Part
import PolicyEditing.Proofs.Text.Trim
import PolicyEditing.Word

/-!
# The word that touches an offset

A text can be cut around an offset: the longest run of word characters that touches the offset, and
what stands before and behind it (`Cut`).  Around every place there is one such cut and no other
(`nonempty_cut`, `Cut.unique`); its word is empty if no word touches the offset.

The word is looked for in the bytes, to the left and to the right of the offset.  Every byte of a
character says whether the character can stand in a word (`isWordByte_of_mem`): word characters are
ASCII and take one byte, and in UTF-8 all bytes of other characters are no ASCII.  So the runs of
bytes are those of the characters, and what is found is the word of the cut (`rangeAt_of_cut`),
also from any other offset that touches it (`Cut.seenFrom`).
-/

namespace PolicyEditing.Word

open Text (byteCount bytes)

/-- Whether a character can stand in a word: an ASCII letter or digit, or an underscore. -/
def isWordChar (c : Char) : Bool :=
  ('0' ≤ c && c ≤ '9') || ('A' ≤ c && c ≤ 'Z') || c = '_' || ('a' ≤ c && c ≤ 'z')

/-- A text, cut around the longest word that touches an offset.  The word may be empty. -/
@[ext] structure Cut (text : Text) (offset : Nat) where
  before : Text
  word : Text
  after : Text
  text_eq : text = before ++ word ++ after
  isWord : ∀ c ∈ word, isWordChar c = true
  before_ends : before.getLast?.any isWordChar = false
  after_begins : after.head?.any isWordChar = false
  start_le : byteCount before ≤ offset
  le_stop : offset ≤ byteCount (before ++ word)

/-! ## Characters and their bytes -/

theorem lt_of_isWordChar {c : Char} (hc : isWordChar c = true) : c.toNat < 128 := by
  simp only [isWordChar, Bool.or_eq_true, Bool.and_eq_true, decide_eq_true_eq, Char.le_def,
    UInt32.le_iff_toNat_le] at hc
  rcases hc with ((⟨-, hdigit⟩ | ⟨-, hupper⟩) | rfl) | ⟨-, hlower⟩
  · change c.toNat ≤ 57 at hdigit
    omega
  · change c.toNat ≤ 90 at hupper
    omega
  · decide
  · change c.toNat ≤ 122 at hlower
    omega

theorem isWordByte_ofNat {code : Nat} (hcode : code < 128) :
    isWordByte (UInt8.ofNat code) = isWordChar (Char.ofNat code) := by
  revert code
  decide

theorem isWordByte_of_le {byte : UInt8} (hbyte : 128 ≤ byte.toNat) : isWordByte byte = false := by
  simp [isWordByte, UInt8.le_iff_toNat_le, ← UInt8.toNat_inj]
  omega

theorem utf8EncodeChar_of_lt {c : Char} (hc : c.toNat < 128) :
    String.utf8EncodeChar c = [UInt8.ofNat c.toNat] := by
  have hsmall : c.val.toNat ≤ 127 := Nat.le_of_lt_succ hc
  rw [String.utf8EncodeChar, if_pos hsmall]
  rfl

/-- Only ASCII characters have ASCII bytes. -/
theorem le_of_mem_utf8EncodeChar {c : Char} (hc : 128 ≤ c.toNat) {byte : UInt8}
    (hbyte : byte ∈ String.utf8EncodeChar c) : 128 ≤ byte.toNat := by
  have hlarge : ¬ c.val.toNat ≤ 127 := Nat.not_le_of_lt hc
  rw [String.utf8EncodeChar, if_neg hlarge] at hbyte
  split at hbyte
  · simp only [List.mem_cons, List.not_mem_nil, or_false] at hbyte
    rcases hbyte with rfl | rfl
    all_goals rw [UInt8.toNat_ofNat']; omega
  · split at hbyte
    · simp only [List.mem_cons, List.not_mem_nil, or_false] at hbyte
      rcases hbyte with rfl | rfl | rfl
      all_goals rw [UInt8.toNat_ofNat']; omega
    · simp only [List.mem_cons, List.not_mem_nil, or_false] at hbyte
      rcases hbyte with rfl | rfl | rfl | rfl
      all_goals rw [UInt8.toNat_ofNat']; omega

/-- Every byte of a character says whether the character can stand in a word. -/
theorem isWordByte_of_mem {c : Char} {byte : UInt8} (hbyte : byte ∈ String.utf8EncodeChar c) :
    isWordByte byte = isWordChar c := by
  rcases Nat.lt_or_ge c.toNat 128 with hascii | hlarge
  · rw [utf8EncodeChar_of_lt hascii, List.mem_singleton] at hbyte
    rw [hbyte, isWordByte_ofNat hascii, Char.ofNat_toNat]
  · rw [isWordByte_of_le (le_of_mem_utf8EncodeChar hlarge hbyte)]
    symm
    rw [← Bool.not_eq_true]
    intro hc
    exact Nat.not_le_of_lt (lt_of_isWordChar hc) hlarge

theorem utf8EncodeChar_ne_nil (c : Char) : String.utf8EncodeChar c ≠ [] := by
  apply List.ne_nil_of_length_pos
  rw [String.length_utf8EncodeChar]
  exact c.utf8Size_pos

/-! ## Words and their bytes -/

section Words

variable {word : Text} (hword : ∀ c ∈ word, isWordChar c = true)

include hword

theorem isWordByte_of_mem_bytes {byte : UInt8} (hbyte : byte ∈ bytes word) :
    isWordByte byte = true := by
  obtain ⟨c, hc, hmem⟩ := List.mem_flatMap.mp hbyte
  rw [isWordByte_of_mem hmem]
  exact hword c hc

theorem byteCount_of_isWord : byteCount word = word.length := by
  induction word with
  | nil => rfl
  | cons c word ih =>
      have hc : c.utf8Size = 1 := by
        rw [← String.length_utf8EncodeChar,
          utf8EncodeChar_of_lt (lt_of_isWordChar (hword c List.mem_cons_self))]
        rfl
      have hrest := ih fun d hd => hword d (List.mem_cons_of_mem _ hd)
      rw [Text.byteCount_cons, hc, hrest, List.length_cons, Nat.add_comm]

theorem unitCount_of_isWord : Text.unitCount word = word.length := by
  induction word with
  | nil => rfl
  | cons c word ih =>
      have hc : Text.units c = 1 := by
        have hlt := lt_of_isWordChar (hword c List.mem_cons_self)
        exact if_pos (by omega)
      have hrest := ih fun d hd => hword d (List.mem_cons_of_mem _ hd)
      rw [Text.unitCount_cons, hc, hrest, List.length_cons, Nat.add_comm]

theorem newline_notMem_of_isWord : '\n' ∉ word := by
  intro hmem
  exact absurd (hword '\n' hmem) (by decide)

end Words

/-! ## The ends of a run -/

theorem any_head?_bytes (text : Text) :
    (bytes text).head?.any isWordByte = text.head?.any isWordChar := by
  cases text with
  | nil => rfl
  | cons c rest =>
      obtain ⟨byte, more, hbytes⟩ := List.exists_cons_of_ne_nil (utf8EncodeChar_ne_nil c)
      have hmem : byte ∈ String.utf8EncodeChar c := hbytes ▸ List.mem_cons_self
      rw [Text.bytes_cons, hbytes]
      exact isWordByte_of_mem hmem

theorem any_head?_reverse_bytes (text : Text) :
    (bytes text).reverse.head?.any isWordByte = text.getLast?.any isWordChar := by
  rcases List.eq_nil_or_concat text with rfl | ⟨front, c, rfl⟩
  · rfl
  · obtain ⟨more, byte, hbytes⟩ :=
      (List.eq_nil_or_concat (String.utf8EncodeChar c)).resolve_left (utf8EncodeChar_ne_nil c)
    have hmem : byte ∈ String.utf8EncodeChar c := by simp [hbytes]
    have hlast : (bytes (front ++ [c])).reverse.head? = some byte := by simp [hbytes]
    rw [List.concat_eq_append, hlast, List.getLast?_concat]
    exact isWordByte_of_mem hmem

/-! ## There is one cut -/

/-- Of two beginnings of a text, the one with less bytes is a beginning of the other. -/
theorem prefix_of_byteCount_le {text first second : Text} (hfirst : first <+: text)
    (hsecond : second <+: text) (hle : byteCount first ≤ byteCount second) : first <+: second := by
  have hshorter := Text.prefix_takeBytes hfirst hle
  rwa [Text.takeBytes_of_prefix hsecond] at hshorter

namespace Cut

variable {text : Text} {offset : Nat}

theorem before_isPrefix (cut : Cut text offset) : cut.before <+: text :=
  ⟨cut.word ++ cut.after, by rw [← List.append_assoc, ← cut.text_eq]⟩

theorem behind_isPrefix (cut : Cut text offset) : cut.before ++ cut.word <+: text :=
  ⟨cut.after, cut.text_eq.symm⟩

/-- No cut begins behind another one. -/
theorem before_eq {first second : Cut text offset} (hle : first.before <+: second.before) :
    first.before = second.before := by
  obtain ⟨more, hmore⟩ := hle
  -- what is more than the first beginning is a part of the first word
  have hword : more <+: first.word := by
    have hinside : second.before <+: first.before ++ first.word :=
      prefix_of_byteCount_le second.before_isPrefix first.behind_isPrefix
        (Nat.le_trans second.start_le first.le_stop)
    rw [← hmore] at hinside
    exact (List.prefix_append_right_inj _).mp hinside
  rcases List.eq_nil_or_concat more with rfl | ⟨front, c, rfl⟩
  · rw [← hmore, List.append_nil]
  · have hc : isWordChar c = true := first.isWord c (hword.subset (by simp))
    have hends := second.before_ends
    rw [← hmore] at hends
    simp [hc] at hends

theorem word_eq_takeWhile (cut : Cut text offset) :
    (cut.word ++ cut.after).takeWhile isWordChar = cut.word :=
  Text.takeWhile_append_of_head? cut.isWord cut.after_begins

theorem unique (first second : Cut text offset) : first = second := by
  have hbefore : first.before = second.before := by
    rcases List.prefix_or_prefix_of_prefix first.before_isPrefix second.before_isPrefix with h | h
    · exact before_eq h
    · exact (before_eq h).symm
  have hrest : first.word ++ first.after = second.word ++ second.after := by
    have htext := first.text_eq.symm.trans second.text_eq
    rw [hbefore, List.append_assoc, List.append_assoc] at htext
    exact List.append_cancel_left htext
  have hword : first.word = second.word := by
    rw [← first.word_eq_takeWhile, hrest, second.word_eq_takeWhile]
  have hafter : first.after = second.after := by
    rw [hword] at hrest
    exact List.append_cancel_left hrest
  exact Cut.ext hbefore hword hafter

/-- The cut at a place of a text. -/
def around (front rest : Text) : Cut (front ++ rest) (byteCount front) where
  before := front.rdropWhile isWordChar
  word := front.rtakeWhile isWordChar ++ rest.takeWhile isWordChar
  after := rest.dropWhile isWordChar
  text_eq := by
    rw [← List.append_assoc, List.rdropWhile_append_rtakeWhile, List.append_assoc,
      List.takeWhile_append_dropWhile]
  isWord := by
    intro c hc
    rw [List.mem_append] at hc
    exact hc.elim List.mem_rtakeWhile_imp List.mem_takeWhile_imp
  before_ends := by
    rw [List.rdropWhile, List.getLast?_reverse]
    exact Text.any_head?_dropWhile isWordChar front.reverse
  after_begins := Text.any_head?_dropWhile isWordChar rest
  start_le := Text.byteCount_le_of_prefix (List.rdropWhile_prefix _ _)
  le_stop := by
    rw [← List.append_assoc, List.rdropWhile_append_rtakeWhile]
    exact Text.byteCount_le_of_prefix (List.prefix_append _ _)

/-- A cut is the same at all offsets that touch its word. -/
def seenFrom (cut : Cut text offset) {other : Nat} (hstart : byteCount cut.before ≤ other)
    (hstop : other ≤ byteCount (cut.before ++ cut.word)) : Cut text other :=
  { cut with start_le := hstart, le_stop := hstop }

/-- The offset stands between two characters of the word, or at one of its ends. -/
theorem exists_split (cut : Cut text offset) :
    ∃ first second, cut.word = first ++ second ∧ byteCount (cut.before ++ first) = offset := by
  have hstart := cut.start_le
  have hstop := cut.le_stop
  rw [Text.byteCount_append, byteCount_of_isWord cut.isWord] at hstop
  have hfirst : ∀ c ∈ cut.word.take (offset - byteCount cut.before), isWordChar c = true :=
    fun c hc => cut.isWord c (List.mem_of_mem_take hc)
  refine ⟨_, _, (List.take_append_drop (offset - byteCount cut.before) cut.word).symm, ?_⟩
  rw [Text.byteCount_append, byteCount_of_isWord hfirst, List.length_take]
  omega

/-- The bytes on both sides of a place in the word. -/
theorem bytes_eq (cut : Cut text offset) {first second : Text}
    (hsplit : cut.word = first ++ second) :
    bytes text = bytes (cut.before ++ first) ++ bytes (second ++ cut.after) := by
  have htext : text = cut.before ++ first ++ (second ++ cut.after) := by
    refine cut.text_eq.trans ?_
    rw [hsplit]
    simp only [List.append_assoc]
  exact (congrArg bytes htext).trans (Text.bytes_append _ _)

end Cut

theorem nonempty_cut {text : Text} {offset : Nat} (hoffset : Text.IsBoundary text offset) :
    Nonempty (Cut text offset) := by
  obtain ⟨front, ⟨rest, rfl⟩, rfl⟩ := hoffset
  exact ⟨.around front rest⟩

/-! ## The word that is found -/

/-- Behind the beginning of a word the run of word bytes is the rest of the word. -/
theorem takeWhile_bytes {word after : Text} (hword : ∀ c ∈ word, isWordChar c = true)
    (hafter : after.head?.any isWordChar = false) :
    (bytes (word ++ after)).takeWhile isWordByte = bytes word := by
  rw [Text.bytes_append]
  apply Text.takeWhile_append_of_head?
  · intro byte hbyte
    exact isWordByte_of_mem_bytes hword hbyte
  · rw [any_head?_bytes, hafter]

/-- In front of the end of a word the run of word bytes is the word. -/
theorem takeWhile_reverse_bytes {before word : Text} (hword : ∀ c ∈ word, isWordChar c = true)
    (hbefore : before.getLast?.any isWordChar = false) :
    (bytes (before ++ word)).reverse.takeWhile isWordByte = (bytes word).reverse := by
  rw [Text.bytes_append, List.reverse_append]
  apply Text.takeWhile_append_of_head?
  · intro byte hbyte
    exact isWordByte_of_mem_bytes hword (List.mem_reverse.mp hbyte)
  · rw [any_head?_reverse_bytes, hbefore]

/-- The word of the cut is found, if there is one. -/
theorem rangeAt_of_cut {text : Text} {offset : Nat} (cut : Cut text offset) :
    rangeAt text offset =
      if cut.word = [] then none
      else some (byteCount cut.before, byteCount (cut.before ++ cut.word)) := by
  obtain ⟨first, second, hsplit, hoffset⟩ := cut.exists_split
  have hword := cut.isWord
  rw [hsplit, List.forall_mem_append] at hword
  obtain ⟨hfirst, hsecond⟩ := hword
  have hbytes := cut.bytes_eq hsplit
  have hlength : (bytes (cut.before ++ first)).length = offset :=
    (Text.length_bytes _).trans hoffset
  have hinside : min offset (bytes text).length = offset := by
    rw [hbytes, List.length_append, hlength]
    exact Nat.min_eq_left (Nat.le_add_right _ _)
  have hleft : ((bytes text).take offset).reverse.takeWhile isWordByte = (bytes first).reverse := by
    rw [hbytes, List.take_left' hlength, takeWhile_reverse_bytes hfirst cut.before_ends]
  have hright : ((bytes text).drop offset).takeWhile isWordByte = bytes second := by
    rw [hbytes, List.drop_left' hlength, takeWhile_bytes hsecond cut.after_begins]
  have hcount : byteCount first + byteCount second = cut.word.length := by
    rw [← Text.byteCount_append, ← hsplit, byteCount_of_isWord cut.isWord]
  rw [Text.byteCount_append] at hoffset
  have hstart : offset - byteCount first = byteCount cut.before := by omega
  have hstop : offset + byteCount second = byteCount (cut.before ++ cut.word) := by
    rw [Text.byteCount_append, byteCount_of_isWord cut.isWord]
    omega
  unfold rangeAt
  dsimp only
  rw [hinside, hleft, hright, List.length_reverse, Text.length_bytes, Text.length_bytes, hcount,
    hstart, hstop]
  simp only [List.length_eq_zero_iff]

end PolicyEditing.Word
