/-!
# Binary floating-point numbers

Finite numbers of the 64-bit binary format in exact arithmetic.  `ofRatio?` rounds a quotient to
the nearest such number, ties to the even significand; every other operation here goes through it.

`ofDecimal?` reads a decimal literal the way the settings' numbers are read: the leading digits
that fit in 64 bits are kept, rounded once, and then scaled by a rounded power of ten.
-/

namespace PolicyEditing

/-- The number `± significand · 2 ^ exponent`. -/
structure Binary64 where
  negative : Bool
  significand : Nat
  exponent : Int
deriving DecidableEq, Repr

namespace Binary64

/-- The exponent of the least positive number. -/
def leastExponent : Int := -1074

/-- The exponent of the greatest numbers. -/
def greatestExponent : Int := 971

def zero (negative : Bool) : Binary64 := ⟨negative, 0, leastExponent⟩

/-! ## Rounding -/

/-- The quotient rounded to the nearest whole number, a tie to the even one. -/
def roundDiv (numerator denominator : Nat) : Nat :=
  let quotient := numerator / denominator
  let remainder := numerator % denominator
  if denominator < 2 * remainder ∨ (denominator = 2 * remainder ∧ quotient % 2 = 1) then
    quotient + 1
  else quotient

/-- The greatest `k` with `2 ^ k` at most the quotient of two positive numbers. -/
def log2Ratio (numerator denominator : Nat) : Int :=
  let estimate : Int := (numerator.log2 : Int) - denominator.log2
  if numerator * Nat.pow 2 (-estimate).toNat < denominator * Nat.pow 2 estimate.toNat then
    estimate - 1
  else estimate

/-- The nearest number to a quotient, or nothing if that is beyond the greatest one. -/
def ofRatio? (negative : Bool) (numerator denominator : Nat) : Option Binary64 :=
  if numerator = 0 then some (zero negative)
  else
    let exponent := max (log2Ratio numerator denominator - 52) leastExponent
    let rounded :=
      roundDiv (numerator * Nat.pow 2 (-exponent).toNat) (denominator * Nat.pow 2 exponent.toNat)
    let (significand, exponent) :=
      if rounded = Nat.pow 2 53 then (Nat.pow 2 52, exponent + 1) else (rounded, exponent)
    if greatestExponent < exponent then none else some ⟨negative, significand, exponent⟩

/-- The numerator and denominator of a number's magnitude. -/
def ratio (value : Binary64) : Nat × Nat :=
  (value.significand * Nat.pow 2 value.exponent.toNat, Nat.pow 2 (-value.exponent).toNat)

/-! ## Powers of ten -/

/-- The nearest number to a power of ten, as a quotient. -/
def tenPower (power : Nat) : Nat × Nat :=
  match ofRatio? false (Nat.pow 10 power) 1 with
  | some value => value.ratio
  | none => (Nat.pow 10 power, 1)

def timesTenPower? (value : Binary64) (power : Nat) : Option Binary64 :=
  let (numerator, denominator) := value.ratio
  let (tenNumerator, tenDenominator) := tenPower power
  ofRatio? value.negative (numerator * tenNumerator) (denominator * tenDenominator)

def overTenPower (value : Binary64) (power : Nat) : Binary64 :=
  let (numerator, denominator) := value.ratio
  let (tenNumerator, tenDenominator) := tenPower power
  (ofRatio? value.negative (numerator * tenDenominator) (denominator * tenNumerator)).getD
    (zero value.negative)

def greatestTenPower : Nat := 308

/-- Divides by a power of ten of any size, in steps that each stay in range. -/
def shrink (value : Binary64) (power : Nat) : Binary64 :=
  if value.significand = 0 then value
  else if power ≤ greatestTenPower then overTenPower value power
  else shrink (overTenPower value greatestTenPower) (power - greatestTenPower)
termination_by power
decreasing_by simp only [greatestTenPower] at *; omega

/-- Scales by a power of ten, or gives nothing if the result is out of range. -/
def scale? (value : Binary64) (power : Int) : Option Binary64 :=
  if value.significand = 0 then some value
  else if power < 0 then some (shrink value (-power).toNat)
  else if power.toNat ≤ greatestTenPower then timesTenPower? value power.toNat
  else none

/-! ## Decimal literals -/

/-- Extends a number by decimal digits as long as it stays below `2 ^ 64`, and counts the digits
that are left over. -/
def absorbDigits (value : Nat) : List Nat → Nat × Nat
  | [] => (value, 0)
  | digit :: rest =>
    if 10 * value + digit < Nat.pow 2 64 then absorbDigits (10 * value + digit) rest
    else (value, rest.length + 1)

/-- The number that the literal `whole.fraction · 10 ^ power` stands for, or nothing if it is out
of range. -/
def ofDecimal? (negative : Bool) (whole fraction : List Nat) (power : Int) : Option Binary64 := do
  let (wholeValue, dropped) := absorbDigits 0 whole
  let (value, unread) := absorbDigits wholeValue fraction
  let significand ← ofRatio? negative value 1
  scale? significand (power + dropped - (fraction.length - unread : Nat))

/-- The number that a whole number too long for 64 bits stands for. -/
def ofInt? (value : Int) : Option Binary64 :=
  ofDecimal? (value < 0) ((Nat.toDigits 10 value.natAbs).map fun c => c.toNat - '0'.toNat) [] 0

end Binary64

end PolicyEditing
