import PolicyEditing.Document

/-!
# An editor's text

What an editor holds at its end of a session: not characters but UTF-16 code units, as they are
counted in positions.  Nothing of this is used by a server; it is what a server's documents have to
agree with.

The editor only sends a change whose range it can point to: both ends lie on a line that exists,
not behind the end of what stands on it, and not between the two units of one character.
-/

namespace PolicyEditing.Editor

/-! ## Units -/

/-- The units of a character: its own number in the basic plane, a pair of surrogates beyond it. -/
def encodeChar (c : Char) : List UInt16 :=
  if c.toNat < 0x10000 then [UInt16.ofNat c.toNat]
  else
    [UInt16.ofNat (0xD800 + (c.toNat - 0x10000) / 0x400),
      UInt16.ofNat (0xDC00 + (c.toNat - 0x10000) % 0x400)]

/-- The units of a text. -/
def encode (text : Text) : List UInt16 :=
  text.flatMap encodeChar

/-- Whether a unit is the first of a pair. -/
def isHigh (unit : UInt16) : Bool := 0xD800 ≤ unit && unit < 0xDC00

/-- Whether a unit is the second of a pair. -/
def isLow (unit : UInt16) : Bool := 0xDC00 ≤ unit && unit < 0xE000

/-- Whether a column lies between the two units of a pair. -/
def splitsPair (content : List UInt16) : Nat → Bool
  | 0 => false
  | column + 1 => content[column]?.any isHigh && content[column + 1]?.any isLow

/-! ## Lines -/

/-- What stands on a line, and the break that ends it. -/
structure Line where
  content : List UInt16
  ending : List UInt16
deriving DecidableEq, Repr

/-- All units of a line. -/
def Line.units (line : Line) : List UInt16 :=
  line.content ++ line.ending

/-- Puts a unit in front of a text that is cut into lines. -/
def prependToLines (unit : UInt16) : List Line → List Line
  | [] => [⟨[unit], []⟩]
  | line :: more => { line with content := unit :: line.content } :: more

/-- The lines of a text.  They end at a line feed, at a carriage return, and at the two in a row,
which are one break. -/
def lines : List UInt16 → List Line
  | [] => [⟨[], []⟩]
  | 0x0D :: 0x0A :: rest => ⟨[], [0x0D, 0x0A]⟩ :: lines rest
  | 0x0D :: rest => ⟨[], [0x0D]⟩ :: lines rest
  | 0x0A :: rest => ⟨[], [0x0A]⟩ :: lines rest
  | unit :: rest => prependToLines unit (lines rest)

/-! ## Positions -/

/-- Whether the editor can point to a position of its text. -/
def Admits (units : List UInt16) (position : Position) : Prop :=
  ∃ line ∈ (lines units)[position.line]?,
    position.character ≤ line.content.length ∧ splitsPair line.content position.character = false

instance (units : List UInt16) (position : Position) : Decidable (Admits units position) :=
  inferInstanceAs (Decidable (∃ line ∈ (lines units)[position.line]?, _ ∧ _))

/-- The units before a position. -/
def offset (units : List UInt16) (position : Position) : Nat :=
  (((lines units).take position.line).flatMap Line.units).length + position.character

/-! ## Changes -/

/-- Whether the editor can make a change to its text. -/
def Allows (units : List UInt16) (change : Change) : Prop :=
  ∀ range ∈ change.range,
    range.start ≤ range.stop ∧ Admits units range.start ∧ Admits units range.stop

instance (units : List UInt16) (change : Change) : Decidable (Allows units change) :=
  inferInstanceAs (Decidable (∀ range ∈ change.range, _ ∧ _ ∧ _))

/-- The editor's text after a change. -/
def apply (units : List UInt16) (change : Change) : List UInt16 :=
  match change.range with
  | none => encode change.text
  | some range =>
    units.take (offset units range.start) ++ encode change.text ++
      units.drop (offset units range.stop)

/-- Whether the editor can make some changes, one after the other. -/
def AllowsAll (units : List UInt16) : List Change → Prop
  | [] => True
  | change :: rest => Allows units change ∧ AllowsAll (apply units change) rest

instance decidableAllowsAll : (units : List UInt16) → (changes : List Change) →
    Decidable (AllowsAll units changes)
  | _, [] => inferInstanceAs (Decidable True)
  | units, change :: rest =>
    have := decidableAllowsAll (apply units change) rest
    inferInstanceAs (Decidable (Allows units change ∧ AllowsAll (apply units change) rest))

end PolicyEditing.Editor
