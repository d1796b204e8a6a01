import PolicyEditing.Text.Blank

/-!
# Laying out a policy text

Every line is trimmed, its commas are followed by one space or by none, and it is indented by the
depth of the brackets around it.  A line that closes more brackets than it opens already stands at
the outer depth; a line that opens more moves the lines after it.  Blank lines are emptied and
never move the depth.
-/

namespace PolicyEditing.Layout

/-- The indentation of one level where nothing else is asked for. -/
def defaultIndentWidth : Nat := 4

/-- The widest indentation of one level. -/
def maxIndentWidth : Nat := 16

/-! ## One line -/

/-- Puts a character in front of a tidy text.  Blanks after a comma become one space. -/
def prependTidy (c : Char) (tidy : Text) : Text :=
  if c = ',' ∧ tidy.head?.any Text.isBlank then ',' :: ' ' :: Text.trimStart tidy else c :: tidy

/-- A line with every run of blanks after a comma replaced by one space. -/
def spaceCommas (line : Text) : Text :=
  line.foldr prependTidy []

@[simp] theorem spaceCommas_nil : spaceCommas [] = [] := rfl

@[simp] theorem spaceCommas_cons (c : Char) (line : Text) :
    spaceCommas (c :: line) = prependTidy c (spaceCommas line) := rfl

def isOpener (c : Char) : Bool := c = '{' || c = '['

def isCloser (c : Char) : Bool := c = '}' || c = ']'

/-- The brackets that a line opens, less those that it closes. -/
def nestingChange (line : Text) : Int :=
  (line.countP isOpener : Int) - line.countP isCloser

/-- What a line becomes, apart from its indentation. -/
def tidyLine (line : Text) : Text :=
  spaceCommas (Text.trim line)

/-! ## All lines -/

def indentation (width level : Nat) : Text :=
  List.replicate (width * level) ' '

/-- The lines laid out from a level on. -/
def indentLines (width level : Nat) : List Text → List Text
  | [] => []
  | line :: rest =>
    let body := tidyLine line
    if body.isEmpty then [] :: indentLines width level rest
    else
      let after := ((level : Int) + nestingChange body).toNat
      (indentation width (min level after) ++ body) :: indentLines width after rest

/-- A text laid out with the given width of one level, which is capped. -/
def format (text : Text) (width : Nat) : Text :=
  Text.joinLines (indentLines (min width maxIndentWidth) 0 (Text.lines text))

end PolicyEditing.Layout
