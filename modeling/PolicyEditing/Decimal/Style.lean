import PolicyEditing.Decimal.Shortest
import PolicyEditing.Text.Basic

/-!
# Written decimals

How a decimal is written: in positions near the point, with an exponent far from it.  Where the
change lies, and how an exponent looks, is one value of `DecimalStyle`.
-/

namespace PolicyEditing

/-- The choices in writing a decimal. -/
structure DecimalStyle where
  /-- The least power of ten of a leading digit that is written in positions. -/
  leastPositional : Int
  /-- The greatest power of ten of a leading digit that is written in positions. -/
  greatestPositional : Int
  /-- The character in front of an exponent. -/
  exponentMark : Char
  /-- Whether an exponent that is not negative carries a plus sign. -/
  plusSign : Bool

namespace DecimalStyle

/-- Decimals from `10 ^ -5` up to `10 ^ 16` are written in positions with at least one place after
the point, all others as in `1.5e+20`. -/
def standard : DecimalStyle where
  leastPositional := -5
  greatestPositional := 15
  exponentMark := 'e'
  plusSign := true

def writeExponent (style : DecimalStyle) (exponent : Int) : Text :=
  let sign := if exponent < 0 then ['-'] else if style.plusSign then ['+'] else []
  style.exponentMark :: (sign ++ Nat.toDigits 10 exponent.natAbs)

def write (style : DecimalStyle) (decimal : Decimal) : Text :=
  let digits := Nat.toDigits 10 decimal.digits
  let leading := (digits.length : Int) - 1 + decimal.power
  if leading < style.leastPositional ∨ style.greatestPositional < leading then
    let mantissa := match digits with
      | first :: second :: more => first :: '.' :: second :: more
      | short => short
    mantissa ++ style.writeExponent leading
  else if 0 ≤ decimal.power then
    digits ++ List.replicate decimal.power.toNat '0' ++ ['.', '0']
  else if 0 ≤ leading then
    let whole := (leading + 1).toNat
    digits.take whole ++ '.' :: digits.drop whole
  else
    ['0', '.'] ++ List.replicate (-leading - 1).toNat '0' ++ digits

end DecimalStyle

/-- The written form of a binary number: its sign and its shortest decimal. -/
def Binary64.write (value : Binary64) : String :=
  let digits := DecimalStyle.standard.write value.shortest
  String.ofList (if value.negative then '-' :: digits else digits)

end PolicyEditing
