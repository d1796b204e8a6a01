import PolicyEditing.Text.Position

/-!
# The word at an offset

A word is a run of ASCII letters, digits and underscores.  It is looked for in the bytes of a text,
where these characters are single bytes and no byte of another character looks like one of them.
-/

namespace PolicyEditing.Word

/-- Whether a byte is an ASCII letter or digit, or an underscore. -/
def isWordByte (byte : UInt8) : Bool :=
  (48 ≤ byte && byte ≤ 57) || (65 ≤ byte && byte ≤ 90) || byte = 95 || (97 ≤ byte && byte ≤ 122)

/-- The byte range of the word that touches an offset.  An offset past the end counts as the end. -/
def rangeAt (text : Text) (offset : Nat) : Option (Nat × Nat) :=
  let bytes := Text.bytes text
  let offset := min offset bytes.length
  let before := ((bytes.take offset).reverse.takeWhile isWordByte).length
  let after := ((bytes.drop offset).takeWhile isWordByte).length
  if before + after = 0 then none else some (offset - before, offset + after)

end PolicyEditing.Word
