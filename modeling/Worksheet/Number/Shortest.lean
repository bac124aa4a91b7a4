import Worksheet.Number.Binary64

/-!
# The shortest decimal of a double

In lowest terms a finite magnitude has a power of two as its denominator, so it is also a decimal
with as many places as that power has factors. Of the decimals that are read as a magnitude the
shortest one is taken, the one with the fewest significant digits; of two with equally many the
nearer one, and of two equally near the larger one. Seventeen digits always suffice.
-/

namespace Worksheet.Number

/-- A decimal fraction that is not negative: its digits as one number, and how many of them stand
behind the point. -/
structure Decimal where
  coefficient : Nat
  places : Nat
deriving DecidableEq, Repr

/-- The bits of the magnitude that a decimal is read as. -/
def Decimal.bits (decimal : Decimal) : Nat :=
  magnitudeBits decimal.coefficient (Nat.pow 10 decimal.places)

/-- The decimal that a finite magnitude is, with no more places than it needs. -/
def exactDecimal (bits : Nat) : Decimal :=
  let one := Nat.pow 2 1074
  let common := Nat.gcd (magnitudeUnits bits) one
  let places := (one / common).log2
  ⟨magnitudeUnits bits / common * Nat.pow 5 places, places⟩

/-- The multiple of a step next to the exact decimal of a magnitude that is read as it: the nearer
one if it is, the upper one if both are equally near, else the other one. -/
def neighbour? (bits : Nat) (exact : Decimal) (step : Nat) : Option Decimal :=
  let below := exact.coefficient / step * step
  let above := below + step
  let byDistance :=
    if 2 * (exact.coefficient - below) < step then [below, above] else [above, below]
  (byDistance.map fun coefficient => { exact with coefficient }).find? fun decimal =>
    decimal.bits == bits

/-- The shortest decimal that is read as a magnitude: the first hit on the grids of one, two, …
seventeen significant digits. -/
def shortestDecimal (bits : Nat) : Decimal :=
  let exact := exactDecimal bits
  let length := (Nat.toDigits 10 exact.coefficient).length
  let shortest? :=
    (List.range' 1 17).findSome? fun digits => neighbour? bits exact (Nat.pow 10 (length - digits))
  shortest?.getD exact

theorem bits_of_neighbour? {bits step : Nat} {exact decimal : Decimal}
    (hit : neighbour? bits exact step = some decimal) : decimal.bits = bits := by
  simpa using List.find?_some hit

end Worksheet.Number
