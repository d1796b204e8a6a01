import PolicyEditing.Diagnostic.Basic

/-!
# Scanning a policy text

The scan goes through the lines in order and stops once it has found as many problems as it may
report.  On each line an open string comes first, then the undefined variables from left to right.

A variable counts as defined if the text before its line holds `let` and its name somewhere, also
in a comment or as the beginning of a longer name.
-/

namespace PolicyEditing

namespace Diagnostic

/-! ## Open strings -/

/-- Whether a string is open at the end of a line, if one is open (`inString`) at its beginning.
A quote opens or closes a string, and a `#` outside of strings starts a comment. -/
def opensString (inString : Bool) : Text → Bool
  | [] => inString
  | c :: rest =>
    if c = '"' then opensString (!inString) rest
    else if c = '#' ∧ ¬ inString then false
    else opensString inString rest

/-- Whether a line leaves a string open. -/
def hasUnterminatedString (line : Text) : Bool :=
  opensString false line

/-! ## References to variables -/

/-- Whether a character can begin a name: an ASCII letter or an underscore. -/
def isNameStart (c : Char) : Bool :=
  c.isAlpha || c = '_'

/-- Whether a character can go on with a name: an ASCII letter or digit, or an underscore. -/
def isNameChar (c : Char) : Bool :=
  c.isAlphanum || c = '_'

/-- A use `%name` of a variable, and the column of its percent sign. -/
structure Reference where
  column : Nat
  name : Text
deriving DecidableEq, Repr

def Reference.endColumn (reference : Reference) : Nat :=
  reference.column + Text.unitCount ('%' :: reference.name)

/-- The references on a line that begins at `column`, from left to right.  Each takes the longest
name that it can, and the search goes on behind it. -/
def references (column : Nat) : Text → List Reference
  | [] => []
  | c :: rest =>
    if c = '%' ∧ rest.head?.any isNameStart then
      let reference : Reference := ⟨column, rest.takeWhile isNameChar⟩
      reference :: references reference.endColumn (rest.dropWhile isNameChar)
    else references (column + Text.units c) rest
termination_by text => text.length
decreasing_by
  · exact Nat.lt_succ_of_le (List.dropWhile_sublist _).length_le
  · exact Nat.lt_succ_self _

/-- Whether a text assigns to a variable. -/
def defines (text name : Text) : Bool :=
  Text.includes ("let ".toList ++ name) text

/-- The first references, at most `room` of them, that the text `earlier` does not define. -/
def undefinedReferences (earlier : Text) : Nat → List Reference → List Reference
  | 0, _ => []
  | _, [] => []
  | room + 1, reference :: rest =>
    if defines earlier reference.name then undefinedReferences earlier (room + 1) rest
    else reference :: undefinedReferences earlier room rest

/-! ## The scan -/

/-- The error for a line that leaves a string open.  It spans the line. -/
def unterminatedString (number : Nat) (line : Text) : Diagnostic where
  range := ⟨⟨number, 0⟩, ⟨number, Text.unitCount line⟩⟩
  problem := .unterminatedString

/-- The warning for an undefined variable.  It spans the reference. -/
def undefinedVariable (number : Nat) (reference : Reference) : Diagnostic where
  range := ⟨⟨number, reference.column⟩, ⟨number, reference.endColumn⟩⟩
  problem := .undefinedVariable reference.name

/-- The problems on one line, at most `room` of them. -/
def scanLine (earlier : Text) (room number : Nat) (line : Text) : List Diagnostic :=
  let errors := if hasUnterminatedString line then [unterminatedString number line] else []
  let undefined := undefinedReferences earlier (room - errors.length) (references 0 line)
  errors ++ undefined.map (undefinedVariable number)

/-- The problems on the lines from `number` on, of which the first begins at byte `start` of the
text.  The scan ends when there is no more room. -/
def scanLines (text : Text) (room number start : Nat) : List Text → List Diagnostic
  | [] => []
  | line :: rest =>
    if room = 0 then []
    else
      let found := scanLine (Text.takeBytes text start) room number line
      let next := start + Text.byteCount line + 1
      found ++ scanLines text (room - found.length) (number + 1) next rest

/-- The problems of a text, at most `limit` of them. -/
def scan (text : Text) (limit : Nat) : List Diagnostic :=
  scanLines text limit 0 0 (Text.lines text)

end Diagnostic

end PolicyEditing
