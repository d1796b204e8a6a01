import PolicyEditing.Decimal.Binary64

/-!
# Shortest decimals

The shortest decimal that reads back as a given binary number.  The numbers that round to it form
an interval, whose ends belong to it exactly when the significand is even.  The coarsest decimal
grid with a point in that interval gives the shortest decimal, and of two points of the grid the
one nearer to the number is taken.
-/

namespace PolicyEditing

/-- The decimal `digits · 10 ^ power`. -/
structure Decimal where
  digits : Nat
  power : Int
deriving DecidableEq, Repr

namespace Binary64

/-- A positive number with the interval that rounds to it, in quarters of its last binary place.
The lower gap is half as wide at a power of two. -/
structure Interval where
  lower : Nat
  middle : Nat
  upper : Nat
  closed : Bool
deriving DecidableEq, Repr

def interval (value : Binary64) : Interval where
  lower :=
    if value.significand = Nat.pow 2 52 ∧ leastExponent < value.exponent then
      4 * value.significand - 1
    else 4 * value.significand - 2
  middle := 4 * value.significand
  upper := 4 * value.significand + 2
  closed := value.significand % 2 = 0

/-- The point of the grid of multiples of `10 ^ power` that lies in the number's interval, the
nearer one if there are two. -/
def gridPoint? (value : Binary64) (power : Int) : Option Decimal :=
  let quarter := value.exponent - 2
  -- both sides of each comparison, brought to whole numbers
  let place (quarters : Nat) := quarters * Nat.pow 2 quarter.toNat * Nat.pow 10 (-power).toNat
  let step := Nat.pow 10 power.toNat * Nat.pow 2 (-quarter).toNat
  let { lower, middle, upper, closed } := value.interval
  let inside (count : Nat) : Bool :=
    if closed then place lower ≤ count * step ∧ count * step ≤ place upper
    else place lower < count * step ∧ count * step < place upper
  let below := place middle / step
  let distanceBelow := place middle - below * step
  let distanceAbove := (below + 1) * step - place middle
  if inside below ∧ (¬ inside (below + 1) ∨ distanceBelow < distanceAbove ∨
      (distanceBelow = distanceAbove ∧ below % 2 = 0)) then some ⟨below, power⟩
  else if inside (below + 1) then some ⟨below + 1, power⟩
  else none

/-- The shortest decimal that reads back as the number's magnitude.  The grids are tried from the
coarsest on; the finest of them has a point in every interval. -/
def shortest (value : Binary64) : Decimal :=
  if value.significand = 0 then ⟨0, 0⟩
  else
    let grids := (List.range 650).map fun (index : Nat) => (310 : Int) - index
    (grids.findSome? value.gridPoint?).getD ⟨0, 0⟩

end Binary64

end PolicyEditing
