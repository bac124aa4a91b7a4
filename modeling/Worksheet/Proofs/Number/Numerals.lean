import Mathlib.Data.List.TakeWhile
import Worksheet.Number.Reading

/-!
# Numerals without an exponent

A numeral that is written with digits alone, or with digits on both sides of a point, is read as it
stands. It has no sign and is no name, so the number that is read is the one of its digits, divided
by a power of ten.
-/

namespace Worksheet.Number

/-- What starts with no sign has none. -/
theorem splitSign_of_head? {text : List Char} (minus : text.head? ≠ some '-')
    (plus : text.head? ≠ some '+') : splitSign text = (false, text) := by
  unfold splitSign
  split
  next => exact absurd rfl minus
  next => exact absurd rfl plus
  next => rfl

theorem magnitudeBits_zero {denominator : Nat} (positive : 0 < denominator) :
    magnitudeBits 0 denominator = 0 := by
  unfold magnitudeBits
  generalize 1074 = exponent
  simp [roundedQuotient, positive]

/-- A numeral without an exponent stands for the number of its digits, divided by a power of ten. -/
theorem Numeral.bits_eq {whole fraction : List Char} {value : Nat}
    (read : Text.number? 10 (whole ++ fraction) = some value) :
    (⟨whole, fraction, false, 0⟩ : Numeral).bits =
      magnitudeBits value (Nat.pow 10 fraction.length) := by
  have coefficient : (⟨whole, fraction, false, 0⟩ : Numeral).coefficient = value := by
    simp [Numeral.coefficient, read]
  unfold Numeral.bits
  simp only [coefficient]
  split
  next none =>
    have positive : 0 < Nat.pow 10 fraction.length := Nat.pow_pos (by decide)
    rw [none, magnitudeBits_zero positive]
  next => simp

section Digits

variable {whole fraction : List Char} (nonempty : whole ≠ [])
  (digits : ∀ c ∈ whole, c.isDigit = true)
include nonempty digits

theorem numeralOf?_whole : numeralOf? whole = some ⟨whole, [], false, 0⟩ := by
  have taken : whole.takeWhile Char.isDigit = whole := List.takeWhile_eq_self_iff.mpr digits
  have dropped : whole.dropWhile Char.isDigit = [] := List.dropWhile_eq_nil_iff.mpr digits
  simp [numeralOf?, taken, dropped, nonempty, exponentOf?]

theorem numeralOf?_point (places : ∀ c ∈ fraction, c.isDigit = true) :
    numeralOf? (whole ++ '.' :: fraction) = some ⟨whole, fraction, false, 0⟩ := by
  have taken : fraction.takeWhile Char.isDigit = fraction := List.takeWhile_eq_self_iff.mpr places
  have dropped : fraction.dropWhile Char.isDigit = [] := List.dropWhile_eq_nil_iff.mpr places
  have point : Char.isDigit '.' = false := rfl
  simp [numeralOf?, List.takeWhile_append_of_pos digits, List.dropWhile_append_of_pos digits,
    point, taken, dropped, nonempty, exponentOf?]

/-- What starts with a digit is no name, so it is read as a numeral. -/
theorem magnitudeOf?_of_digits (rest : List Char) :
    magnitudeOf? (whole ++ rest) = (numeralOf? (whole ++ rest)).map Numeral.bits := by
  obtain ⟨c, others, rfl⟩ := List.exists_cons_of_ne_nil nonempty
  have digit : c.isDigit = true := digits c List.mem_cons_self
  have lower : c.toLower = c := by
    have range := Char.isDigit_iff_toNat.mp digit
    unfold Char.toLower
    split
    next upper =>
      have low : 65 ≤ c.toNat := upper.1
      have high : c.toNat ≤ 57 := range.2
      omega
    next => rfl
  have other {name : List Char} (start : name.head?.any Char.isDigit = false) :
      ((c :: others) ++ rest).map Char.toLower ≠ name := by
    rintro rfl
    simp [lower, digit] at start
  unfold magnitudeOf?
  dsimp only
  rw [if_neg (not_or.mpr ⟨other rfl, other rfl⟩), if_neg (other rfl)]

end Digits

end Worksheet.Number
