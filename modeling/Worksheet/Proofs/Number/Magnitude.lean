import Mathlib.Data.Nat.Prime.Basic
import Mathlib.Tactic.Ring
import Worksheet.Number.Shortest

/-!
# Decimals that are read as their magnitude

A finite magnitude is a whole number of units, and this number is rounded to the magnitude itself:
the bits that a significand leaves out are zero. Its exact decimal is the same quotient in other
terms. Whatever shorter decimal is taken instead has been checked to be read as the magnitude, so
the shortest decimal of a magnitude is always read as this magnitude.
-/

namespace Worksheet.Number

/-- Stated for any exponent: that of the units is too large to be worked out. -/
theorem two_pow_positive (exponent : Nat) : 0 < Nat.pow 2 exponent :=
  Nat.pow_pos (by decide)

/-! ### Rounding what is exact -/

/-- A quotient without a remainder is not rounded. -/
theorem roundedQuotient_mul_self {denominator : Nat} (positive : 0 < denominator)
    (quotient : Nat) : roundedQuotient (quotient * denominator) denominator = quotient := by
  unfold roundedQuotient
  rw [Nat.mul_div_cancel _ positive, Nat.mul_mod_left]
  exact if_pos (.inl positive)

/-- A number of units of which no bit is left out that is not zero. -/
theorem magnitudeBits_of_units {units significand shift : Nat}
    (scaled : units = significand * Nat.pow 2 shift) (leaves : units.log2 - 52 = shift) :
    magnitudeBits units (Nat.pow 2 1074) =
      min infinityBits (shift * Nat.pow 2 52 + significand) := by
  unfold magnitudeBits
  generalize 1074 = exponent
  dsimp only
  have positive := two_pow_positive exponent
  have exactly : units * Nat.pow 2 exponent =
      significand * (Nat.pow 2 exponent * Nat.pow 2 shift) := by
    rw [scaled, Nat.mul_assoc, Nat.mul_comm (Nat.pow 2 shift)]
  rw [Nat.mul_div_cancel _ positive, leaves, exactly,
    roundedQuotient_mul_self (Nat.mul_pos positive (two_pow_positive shift))]

/-- A finite magnitude is the one nearest to itself. -/
theorem magnitudeBits_magnitudeUnits {bits : Nat} (finite : bits < infinityBits) :
    magnitudeBits (magnitudeUnits bits) (Nat.pow 2 1074) = bits := by
  have size : Nat.pow 2 52 = 2 ^ 52 := rfl
  have fraction : bits % Nat.pow 2 52 < 2 ^ 52 := Nat.mod_lt _ (by decide)
  have parts : 2 ^ 52 * (bits / Nat.pow 2 52) + bits % Nat.pow 2 52 = bits :=
    Nat.div_add_mod bits (2 ^ 52)
  unfold magnitudeUnits
  dsimp only
  generalize bits / Nat.pow 2 52 = exponent at *
  generalize bits % Nat.pow 2 52 = significand at *
  split
  next lowest =>
    -- No bit is left out of the smallest magnitudes.
    have few : significand.log2 - 52 = 0 := by
      by_cases none : significand = 0
      · rw [none, Nat.log2_zero]
      · have bound := (Nat.log2_lt none).mpr fraction
        omega
    rw [magnitudeBits_of_units (Nat.mul_one _).symm few]
    omega
  next proper =>
    have nonzero : (significand + 2 ^ 52) * 2 ^ (exponent - 1) ≠ 0 :=
      Nat.mul_ne_zero (by omega) (Nat.two_pow_pos _).ne'
    have long : ((significand + 2 ^ 52) * 2 ^ (exponent - 1)).log2 = 52 + (exponent - 1) := by
      rw [Nat.log2_eq_iff nonzero, Nat.add_right_comm, Nat.pow_add, Nat.pow_add]
      exact ⟨Nat.mul_le_mul_right _ (by omega),
        Nat.mul_lt_mul_of_pos_right (by omega) (Nat.two_pow_pos _)⟩
    have leaves : ((significand + 2 ^ 52) * 2 ^ (exponent - 1)).log2 - 52 = exponent - 1 := by
      rw [long, Nat.add_sub_cancel_left]
    have bound : infinityBits = 2047 * 2 ^ 52 := rfl
    rw [size, magnitudeBits_of_units rfl leaves, size, bound]
    omega

/-! ### The exact decimal -/

/-- A quotient with a power of two below is a decimal fraction when it is in lowest terms. -/
theorem magnitudeBits_lowest_terms (units exponent : Nat) :
    magnitudeBits
        (units / Nat.gcd units (Nat.pow 2 exponent) *
          Nat.pow 5 (Nat.pow 2 exponent / Nat.gcd units (Nat.pow 2 exponent)).log2)
        (Nat.pow 10 (Nat.pow 2 exponent / Nat.gcd units (Nat.pow 2 exponent)).log2) =
      magnitudeBits units (Nat.pow 2 exponent) := by
  have above := Nat.gcd_dvd_left units (Nat.pow 2 exponent)
  have below := Nat.gcd_dvd_right units (Nat.pow 2 exponent)
  have positive : 0 < Nat.gcd units (Nat.pow 2 exponent) :=
    Nat.gcd_pos_of_pos_right _ (two_pow_positive exponent)
  obtain ⟨places, least⟩ : ∃ places, Nat.pow 2 exponent / Nat.gcd units (Nat.pow 2 exponent) =
      2 ^ places := by
    obtain ⟨places, -, least⟩ := (Nat.dvd_prime_pow Nat.prime_two).mp (Nat.div_dvd_of_dvd below)
    exact ⟨places, least⟩
  generalize Nat.gcd units (Nat.pow 2 exponent) = common at *
  have ten : Nat.pow 10 places = 5 ^ places * 2 ^ places := Nat.mul_pow 5 2 places
  calc magnitudeBits (units / common * Nat.pow 5 (Nat.pow 2 exponent / common).log2)
        (Nat.pow 10 (Nat.pow 2 exponent / common).log2)
    _ = magnitudeBits (5 ^ places * (units / common))
        (5 ^ places * (Nat.pow 2 exponent / common)) := by
      rw [least, Nat.log2_two_pow, ten, Nat.mul_comm (units / common)]
      rfl
    _ = magnitudeBits (units / common) (Nat.pow 2 exponent / common) :=
      magnitudeBits_mul _ _ _ (Nat.pow_pos (by decide))
    _ = magnitudeBits units (Nat.pow 2 exponent) := by
      rw [← magnitudeBits_mul common _ _ positive, Nat.mul_div_cancel' above,
        Nat.mul_div_cancel' below]

/-- The exact decimal of a magnitude is its number of units, divided by the units in one. -/
theorem bits_exactDecimal_eq (bits : Nat) :
    (exactDecimal bits).bits = magnitudeBits (magnitudeUnits bits) (Nat.pow 2 1074) := by
  unfold exactDecimal Decimal.bits
  generalize 1074 = exponent
  exact magnitudeBits_lowest_terms (magnitudeUnits bits) exponent

/-- The shortest decimal of a finite magnitude is read as this magnitude. -/
theorem bits_shortestDecimal {bits : Nat} (finite : bits < infinityBits) :
    (shortestDecimal bits).bits = bits := by
  unfold shortestDecimal
  dsimp only
  generalize hits : List.findSome? _ _ = shortest?
  cases shortest? with
  | none => rw [Option.getD_none, bits_exactDecimal_eq, magnitudeBits_magnitudeUnits finite]
  | some decimal =>
    obtain ⟨digits, -, hit⟩ := List.exists_of_findSome?_eq_some hits
    exact bits_of_neighbour? hit

end Worksheet.Number
