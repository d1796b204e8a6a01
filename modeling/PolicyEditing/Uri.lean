/-!
# Document addresses

A document is known by its URI, which is never looked into.  Which texts are addresses, and which
of them name the same document however they are written, is left open: a `UriReading` reads them,
and nothing is assumed of it.
-/

namespace PolicyEditing

/-- The address of a document, as it is written in what is sent. -/
structure Uri where
  text : String
deriving DecidableEq, Repr

/-- How addresses are read.  Texts that are read as the same address name the same document. -/
class UriReading where
  read? : String → Option Uri

namespace Uri

/-- The address that a text is read as. -/
def ofString? [UriReading] (text : String) : Option Uri :=
  UriReading.read? text

/-! ## Addresses that are read as they are written -/

/-- Whether a character can go on with a scheme. -/
def isSchemeChar (c : Char) : Bool :=
  c.isAlphanum || c = '+' || c = '-' || c = '.'

/-- Whether a text begins with a scheme and a colon. -/
def hasScheme (text : List Char) : Bool :=
  text.head?.any Char.isAlpha && (text.dropWhile isSchemeChar).head? = some ':'

/-- The reading for a session in which all addresses come in their normal form: it only looks for
the scheme. -/
instance asWritten : UriReading where
  read? text := if hasScheme text.toList then some ⟨text⟩ else none

end Uri

end PolicyEditing
