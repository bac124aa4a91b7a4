/-!
# Doubles as multiples of their smallest unit

A double is a sign and a magnitude, and every finite magnitude is a whole multiple of `2 ^ -1074`.
Reading a decimal rounds a quotient to the nearest magnitude; writing one takes a magnitude apart
again. Both are done here on natural numbers, where nothing is lost.

The bits of a magnitude are the bits of the double without its sign. They grow with the magnitude,
so a carry out of the significand is a carry into the exponent, and what is too large for any finite
double ends at the bits of infinity.
-/

namespace Worksheet.Number

/-- The quotient of two numbers, rounded to the nearest number, a half to the even one. -/
def roundedQuotient (numerator denominator : Nat) : Nat :=
  let quotient := numerator / denominator
  let twice := 2 * (numerator % denominator)
  if twice < denominator ∨ (twice = denominator ∧ quotient % 2 = 0) then quotient else quotient + 1

/-- The bits of infinity. -/
def infinityBits : Nat := 0x7FF * Nat.pow 2 52

/-- The bits of the canonical result that is not a number. -/
def nanBits : Nat := infinityBits + Nat.pow 2 51

/-- The bits of the magnitude nearest to a quotient, a tie to the even significand.

The quotient is counted in units of `2 ^ -1074`. Its integer part tells how many low bits the 53 of
a significand leave out, none for the smallest magnitudes. -/
def magnitudeBits (numerator denominator : Nat) : Nat :=
  let units := numerator * Nat.pow 2 1074
  let shift := (units / denominator).log2 - 52
  min infinityBits (shift * Nat.pow 2 52 + roundedQuotient units (denominator * Nat.pow 2 shift))

/-- A finite magnitude as a multiple of `2 ^ -1074`. -/
def magnitudeUnits (bits : Nat) : Nat :=
  let exponent := bits / Nat.pow 2 52
  let fraction := bits % Nat.pow 2 52
  if exponent = 0 then fraction else (fraction + Nat.pow 2 52) * Nat.pow 2 (exponent - 1)

/-- The double with the given sign and bits of its magnitude. -/
def ofMagnitude (negative : Bool) (bits : Nat) : Float :=
  Float.ofBits (UInt64.ofNat (if negative then bits + Nat.pow 2 63 else bits))

/-- The bits of a double without its sign. -/
def magnitudeOf (x : Float) : Nat :=
  x.toBits.toNat % Nat.pow 2 63

/-- The sign bit of a double is set. -/
def isNegative (x : Float) : Bool :=
  Nat.pow 2 63 ≤ x.toBits.toNat

/-- Rounding does not see a common factor. -/
theorem roundedQuotient_mul (factor numerator denominator : Nat) (positive : 0 < factor) :
    roundedQuotient (factor * numerator) (factor * denominator) =
      roundedQuotient numerator denominator := by
  unfold roundedQuotient
  rw [Nat.mul_div_mul_left _ _ positive, Nat.mul_mod_mul_left]
  have twice : 2 * (factor * (numerator % denominator)) =
      factor * (2 * (numerator % denominator)) := Nat.mul_left_comm _ _ _
  simp only [twice, Nat.mul_lt_mul_left positive, Nat.mul_right_inj (Nat.ne_of_gt positive)]

/-- Nor does the nearest magnitude: a quotient may be reduced or extended before it is read. -/
theorem magnitudeBits_mul (factor numerator denominator : Nat) (positive : 0 < factor) :
    magnitudeBits (factor * numerator) (factor * denominator) =
      magnitudeBits numerator denominator := by
  simp only [magnitudeBits, Nat.mul_assoc factor, Nat.mul_div_mul_left _ _ positive,
    roundedQuotient_mul _ _ _ positive]

end Worksheet.Number
