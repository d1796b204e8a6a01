/-!
# Texts and their measures

A text is the list of its characters.  It is measured in characters, in the bytes of its UTF-8
form, and in UTF-16 code units, which is how editors count columns.

Lines end at a line feed and nowhere else: `lines` cuts a text there, and there is always one line
more than there are line feeds.
-/

namespace PolicyEditing

/-- A text is the list of its characters. -/
abbrev Text := List Char

namespace Text

/-! ## Measures -/

/-- The UTF-16 code units of a character: one in the basic plane, two beyond it. -/
def units (c : Char) : Nat :=
  if c.toNat < 0x10000 then 1 else 2

/-- The length of a text in UTF-16 code units. -/
def unitCount (text : Text) : Nat :=
  text.foldr (fun c count => units c + count) 0

@[simp] theorem unitCount_nil : unitCount [] = 0 := rfl

@[simp] theorem unitCount_cons (c : Char) (text : Text) :
    unitCount (c :: text) = units c + unitCount text := rfl

@[simp] theorem unitCount_append (first second : Text) :
    unitCount (first ++ second) = unitCount first + unitCount second := by
  induction first with
  | nil => simp
  | cons c first ih => simp [ih, Nat.add_assoc]

theorem units_pos (c : Char) : 0 < units c := by
  unfold units
  split <;> decide

/-- The length of a text in bytes of its UTF-8 form. -/
def byteCount (text : Text) : Nat :=
  text.foldr (fun c count => c.utf8Size + count) 0

@[simp] theorem byteCount_nil : byteCount [] = 0 := rfl

@[simp] theorem byteCount_cons (c : Char) (text : Text) :
    byteCount (c :: text) = c.utf8Size + byteCount text := rfl

@[simp] theorem byteCount_append (first second : Text) :
    byteCount (first ++ second) = byteCount first + byteCount second := by
  induction first with
  | nil => simp
  | cons c first ih => simp [ih, Nat.add_assoc]

/-- The UTF-8 form of a text. -/
def bytes (text : Text) : List UInt8 :=
  text.flatMap String.utf8EncodeChar

@[simp] theorem bytes_nil : bytes [] = [] := rfl

@[simp] theorem bytes_cons (c : Char) (text : Text) :
    bytes (c :: text) = String.utf8EncodeChar c ++ bytes text := by
  simp [bytes]

@[simp] theorem bytes_append (first second : Text) :
    bytes (first ++ second) = bytes first ++ bytes second := by
  simp [bytes]

theorem length_bytes (text : Text) : (bytes text).length = byteCount text := by
  induction text with
  | nil => rfl
  | cons c text ih => simp [ih]

/-! ## Cutting at byte offsets -/

/-- The longest beginning of a text that takes at most `limit` bytes.  An offset past the end gives
the whole text, and an offset inside a character stops before that character. -/
def takeBytes : Text → Nat → Text
  | [], _ => []
  | c :: rest, limit =>
    if c.utf8Size ≤ limit then c :: takeBytes rest (limit - c.utf8Size) else []

/-- The part of a text from byte `first` up to byte `last`. -/
def slice (text : Text) (first last : Nat) : Text :=
  (takeBytes text last).drop (takeBytes text first).length

/-! ## Lines -/

/-- Puts a character in front of a text that is already cut into lines. -/
def prependToLines (c : Char) : List Text → List Text
  | [] => if c = '\n' then [[], []] else [[c]]
  | line :: more => if c = '\n' then [] :: line :: more else (c :: line) :: more

/-- The lines of a text, without the line feeds between them. -/
def lines (text : Text) : List Text :=
  text.foldr prependToLines [[]]

@[simp] theorem lines_nil : lines [] = [[]] := rfl

theorem lines_cons (c : Char) (text : Text) :
    lines (c :: text) = prependToLines c (lines text) := rfl

theorem lines_ne_nil (text : Text) : lines text ≠ [] := by
  cases text with
  | nil => simp
  | cons c text =>
      rw [lines_cons]
      cases lines text <;> simp only [prependToLines] <;> split <;> simp

/-- Joins lines with a line feed between neighbours. -/
def joinLines (lines : List Text) : Text :=
  ['\n'].intercalate lines

@[simp] theorem joinLines_singleton (line : Text) : joinLines [line] = line := by
  simp [joinLines, List.intercalate]

@[simp] theorem joinLines_cons_cons (line next : Text) (more : List Text) :
    joinLines (line :: next :: more) = line ++ '\n' :: joinLines (next :: more) := by
  simp [joinLines, List.intercalate]

/-- Cutting loses nothing. -/
theorem joinLines_lines (text : Text) : joinLines (lines text) = text := by
  induction text with
  | nil => simp
  | cons c text ih =>
      rw [lines_cons]
      cases hlines : lines text with
      | nil => exact absurd hlines (lines_ne_nil text)
      | cons line more =>
          rw [hlines] at ih
          simp only [prependToLines]
          split
          · rename_i hc
            simp [ih, hc]
          · cases more <;> simp_all

/-! ## Search -/

/-- Whether `part` stands somewhere in a text. -/
def includes (part : Text) : Text → Bool
  | [] => part.isEmpty
  | c :: rest => part.isPrefixOf (c :: rest) || includes part rest

/-- `includes` decides the infix relation. -/
theorem includes_iff {part text : Text} : includes part text = true ↔ part <:+: text := by
  induction text with
  | nil => simp [includes]
  | cons c rest ih => simp [includes, ih, List.infix_cons_iff]

end Text

end PolicyEditing
