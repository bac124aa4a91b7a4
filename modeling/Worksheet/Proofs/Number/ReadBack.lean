import Mathlib.Data.List.DropRight
import Worksheet.Number.Display
import Worksheet.Proofs.Number.Bits
import Worksheet.Proofs.Number.Magnitude
import Worksheet.Proofs.Number.Numerals
import Worksheet.Proofs.Text.Names

/-!
# Displayed numbers are read back

The text that a double is displayed with is read as this very double: zero with its sign, the
infinities, the smallest and the largest magnitudes and all others to the last bit. What is not a
number is read as what is not a number.

A displayed decimal has all its places written out, but for the zeros that would end them, so it is
read as the quotient that it was; and a shortest decimal was only taken because this quotient is
read as the magnitude.
-/

namespace Worksheet.Number

/-! ### Decimals with all their places -/

/-- Nothing but zeros is left out at the end of a fraction. -/
theorem exists_fractionDigits_append (places fraction : Nat) :
    ∃ count, List.replicate (places - (Nat.toDigits 10 fraction).length) '0' ++
      Nat.toDigits 10 fraction = fractionDigits places fraction ++ List.replicate count '0' := by
  unfold fractionDigits
  dsimp only
  generalize List.replicate _ '0' ++ Nat.toDigits 10 fraction = digits
  refine ⟨(digits.rtakeWhile (· == '0')).length, ?_⟩
  have zeros : digits.rtakeWhile (· == '0') =
      List.replicate (digits.rtakeWhile (· == '0')).length '0' :=
    List.eq_replicate_of_mem fun c member => by simpa using List.mem_rtakeWhile_imp member
  rw [← zeros]
  exact List.rdropWhile_append_rtakeWhile.symm

/-- What a decimal with a fraction is written with: digits that, with the zeros left out of them,
are those of the whole decimal. -/
structure Spelled (decimal : Decimal) (whole fraction : List Char) : Prop where
  nonempty : whole ≠ []
  digits : ∀ c ∈ whole, c.isDigit = true
  places : ∀ c ∈ fraction, c.isDigit = true
  left_out : ∃ count, fraction.length + count = decimal.places ∧
    Nat.ofDigitChars 10 (whole ++ fraction) 0 * 10 ^ count = decimal.coefficient

theorem Spelled.bits_eq {decimal : Decimal} {whole fraction : List Char}
    (spelled : Spelled decimal whole fraction) :
    (⟨whole, fraction, false, 0⟩ : Numeral).bits = decimal.bits := by
  obtain ⟨count, places, coefficient⟩ := spelled.left_out
  have read := Text.number?_of_isDigit (List.forall_mem_append.mpr ⟨spelled.digits, spelled.places⟩)
  have ten : Nat.pow 10 decimal.places = 10 ^ count * 10 ^ fraction.length := by
    rw [← places, Nat.add_comm]
    exact Nat.pow_add 10 _ _
  rw [Numeral.bits_eq read, Decimal.bits, ten, ← coefficient, Nat.mul_comm _ (10 ^ count),
    magnitudeBits_mul _ _ _ (Nat.pow_pos (by decide))]
  rfl

theorem spelled_whole {decimal : Decimal}
    (none : decimal.coefficient % Nat.pow 10 decimal.places = 0) :
    Spelled decimal (Nat.toDigits 10 (decimal.coefficient / Nat.pow 10 decimal.places)) [] where
  nonempty := Nat.toDigits_ne_nil
  digits _ := Nat.isDigit_of_mem_toDigits (by decide) (by decide)
  places := by simp
  left_out := by
    refine ⟨decimal.places, Nat.zero_add _, ?_⟩
    rw [List.append_nil, Nat.ofDigitChars_ten_toDigits]
    exact Nat.div_mul_cancel (Nat.dvd_of_mod_eq_zero none)

theorem spelled_fraction {decimal : Decimal}
    (some : decimal.coefficient % Nat.pow 10 decimal.places ≠ 0) :
    Spelled decimal (Nat.toDigits 10 (decimal.coefficient / Nat.pow 10 decimal.places))
      (fractionDigits decimal.places (decimal.coefficient % Nat.pow 10 decimal.places)) := by
  obtain ⟨coefficient, places⟩ := decimal
  dsimp only at *
  have parts : Nat.pow 10 places * (coefficient / Nat.pow 10 places) +
      coefficient % Nat.pow 10 places = coefficient := Nat.div_add_mod coefficient (10 ^ places)
  have below : coefficient % Nat.pow 10 places < 10 ^ places :=
    Nat.mod_lt _ (Nat.pow_pos (by decide))
  obtain ⟨count, padded⟩ :=
    exists_fractionDigits_append places (coefficient % Nat.pow 10 places)
  -- From here on only the sizes of the two parts matter, not where they come from.
  generalize coefficient / Nat.pow 10 places = whole at *
  generalize coefficient % Nat.pow 10 places = fraction at *
  have short : (Nat.toDigits 10 fraction).length ≤ places := by
    refine (Nat.length_toDigits_le_iff (by decide) (Nat.pos_of_ne_zero fun none => ?_)).mpr below
    rw [none, Nat.pow_zero] at below
    exact some (Nat.lt_one_iff.mp below)
  have total : (fractionDigits places fraction).length + count = places := by
    have length := congrArg List.length padded
    simp only [List.length_append, List.length_replicate] at length
    omega
  refine ⟨Nat.toDigits_ne_nil, fun c => Nat.isDigit_of_mem_toDigits (by decide) (by decide),
    fun c member => ?_, count, total, ?_⟩
  · have within : c ∈ List.replicate _ '0' ++ Nat.toDigits 10 fraction :=
      padded ▸ List.mem_append_left _ member
    rcases List.mem_append.mp within with zero | digit
    · rw [List.eq_of_mem_replicate zero]
      rfl
    · exact Nat.isDigit_of_mem_toDigits (by decide) (by decide) digit
  · -- With the zeros put back, these are the digits of the whole number and of all places.
    calc Nat.ofDigitChars 10 (Nat.toDigits 10 whole ++ fractionDigits places fraction) 0 *
          10 ^ count
      _ = Nat.ofDigitChars 10 (Nat.toDigits 10 whole ++
            (fractionDigits places fraction ++ List.replicate count '0')) 0 := by
        rw [← List.append_assoc, Nat.ofDigitChars_append (m := List.replicate count '0'),
          Nat.ofDigitChars_replicate_zero, Nat.mul_comm]
      _ = 10 ^ places * whole + fraction := by
        rw [← padded, Nat.ofDigitChars_append, Nat.ofDigitChars_ten_toDigits,
          Nat.ofDigitChars_eq_ofDigitChars_zero, Nat.ofDigitChars_append,
          Nat.ofDigitChars_replicate_zero, Nat.mul_zero, Nat.ofDigitChars_ten_toDigits,
          List.length_append, List.length_replicate, Nat.sub_add_cancel short]
      _ = coefficient := parts

theorem magnitudeOf?_positional (decimal : Decimal) :
    magnitudeOf? (positional decimal).toList = some decimal.bits := by
  unfold positional
  dsimp only
  split
  next none =>
    have spelled := spelled_whole none
    have read := magnitudeOf?_of_digits spelled.nonempty spelled.digits []
    rw [List.append_nil] at read
    rw [Nat.toList_repr, read, numeralOf?_whole spelled.nonempty spelled.digits, Option.map_some,
      spelled.bits_eq]
  next some =>
    have spelled := spelled_fraction some
    rw [String.toList_append, String.toList_append, String.toList_ofList, String.toList_ofList,
      Nat.toList_repr, List.append_assoc, List.singleton_append,
      magnitudeOf?_of_digits spelled.nonempty spelled.digits, numeralOf?_point spelled.nonempty
        spelled.digits spelled.places, Option.map_some, spelled.bits_eq]

/-! ### Displayed numbers -/

theorem magnitudeOf?_magnitudeText {bits : Nat} (number : bits ≤ infinityBits) :
    magnitudeOf? (magnitudeText bits).toList = some bits := by
  unfold magnitudeText
  split
  next infinite =>
    rw [infinite]
    rfl
  next other =>
    -- All places are written out, but the decimal was chosen because it is read as the magnitude.
    have finite : bits < infinityBits := Nat.lt_of_le_of_ne number other
    rw [magnitudeOf?_positional, bits_shortestDecimal finite]

/-- A magnitude is displayed without a sign and without a blank. -/
theorem isAlphanum_of_mem_magnitudeText {bits : Nat} {c : Char}
    (member : c ∈ (magnitudeText bits).toList) : c.isAlphanum = true ∨ c = '.' := by
  have digit {c : Char} (digit : c.isDigit = true) : c.isAlphanum = true := by
    simp [Char.isAlphanum, digit]
  revert member
  unfold magnitudeText positional
  dsimp only
  split
  next =>
    intro member
    have letters : "Infinity".toList.all Char.isAlphanum = true := rfl
    exact Or.inl (List.all_eq_true.mp letters c member)
  next =>
    split
    next none =>
      intro member
      rw [Nat.toList_repr] at member
      exact Or.inl (digit ((spelled_whole none).digits c member))
    next some =>
      have spelled := spelled_fraction some
      intro member
      rw [String.toList_append, String.toList_append, String.toList_ofList, String.toList_ofList,
        Nat.toList_repr, List.append_assoc, List.singleton_append] at member
      rcases List.mem_append.mp member with whole | tail
      · exact Or.inl (digit (spelled.digits c whole))
      · rcases List.mem_cons.mp tail with point | fraction
        · exact Or.inr point
        · exact Or.inl (digit (spelled.places c fraction))

theorem splitSign_magnitudeText (bits : Nat) :
    splitSign (magnitudeText bits).toList = (false, (magnitudeText bits).toList) := by
  have unsigned {c : Char} (letter : c.isAlphanum = false) (other : c ≠ '.') :
      (magnitudeText bits).toList.head? ≠ some c := fun start => by
    rcases isAlphanum_of_mem_magnitudeText (List.mem_of_mem_head? start) with plain | point
    · exact absurd plain (by simp [letter])
    · exact other point
  exact splitSign_of_head? (unsigned rfl (by decide)) (unsigned rfl (by decide))

/-- There is no blank in what is displayed. -/
theorem trim_display (x : Float) : Text.trim (display x) = display x := by
  have solid (bits : Nat) {c : Char} (member : c ∈ (magnitudeText bits).toList) :
      Text.isBlank c = false := by
    rcases isAlphanum_of_mem_magnitudeText member with plain | rfl
    · exact Text.isBlank_of_isAlphanum plain
    · rfl
  apply Text.trim_of_not_isBlank
  unfold display
  dsimp only
  split
  next =>
    intro c member
    have letters : "NaN".toList.all Char.isAlphanum = true := rfl
    exact Text.isBlank_of_isAlphanum (List.all_eq_true.mp letters c member)
  next =>
    split
    next =>
      intro c member
      rw [String.toList_append] at member
      rcases List.mem_append.mp member with minus | plain
      · rw [List.mem_singleton.mp minus]
        rfl
      · exact solid _ plain
    next => exact fun c => solid _

/-- What is displayed for a double is read as this double. -/
theorem ofValue?_display (x : Float) : ofValue? (display x) = some x := by
  rw [ofValue?, trim_display]
  unfold display ofText?
  dsimp only
  split
  next past =>
    rw [eq_nan_of_past past]
    rfl
  next number =>
    have read := magnitudeOf?_magnitudeText (Nat.le_of_not_gt number)
    have whole := ofMagnitude_magnitudeOf x
    split
    next negative =>
      rw [negative] at whole
      rw [String.toList_append]
      change (magnitudeOf? (magnitudeText (magnitudeOf x)).toList).map (ofMagnitude true) = some x
      rw [read, Option.map_some, whole]
    next positive =>
      rw [Bool.not_eq_true _ |>.mp positive] at whole
      rw [splitSign_magnitudeText]
      change (magnitudeOf? (magnitudeText (magnitudeOf x)).toList).map (ofMagnitude false) = some x
      rw [read, Option.map_some, whole]

end Worksheet.Number
