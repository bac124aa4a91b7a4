import Mathlib.Algebra.Group.Nat.Defs
import Worksheet.Number.Binary64

/-!
# Doubles and their words

A double is its word of 64 bits, except that all words of results that are not numbers stand for one
double. So a double is told by its word, and a word by its double unless it is such a word: a sign,
all bits of the exponent, and a fraction that is not zero.

A word is taken apart into a sign, an exponent and a fraction. What stands for a number is packed
from the same three parts again, whether the significand has a bit before its fraction or not.
-/

namespace Worksheet.Number

open Float.Model Float.Model.UnpackedFloat

/-- The words that doubles have. -/
abbrev Word := BitVec Format.binary64.numBits

/-! ### The parts of a word -/

section Words

variable (word : Word)

theorem toNat_unpackSign : (unpackSign word).toNat = word.toNat / 2 ^ 63 := by
  have bound : word.toNat < 2 ^ 64 := word.isLt
  have bit : word.toNat / 2 ^ 63 < 2 := by omega
  change word.toNat >>> 63 % 2 = _
  rw [Nat.shiftRight_eq_div_pow, Nat.mod_eq_of_lt bit]

theorem toNat_unpackExponent : (unpackExponent word).toNat = word.toNat / 2 ^ 52 % 2 ^ 11 := by
  rw [unpackExponent, BitVec.toNat_cast, BitVec.extractLsb_toNat, Nat.shiftRight_eq_div_pow]
  rfl

theorem toNat_unpackMantissa : (unpackMantissa word).toNat = word.toNat % 2 ^ 52 := by
  rw [unpackMantissa, BitVec.toNat_cast, BitVec.extractLsb_toNat]
  rfl

/-- The bits of a word without the one of the sign. -/
theorem toNat_mod_eq :
    word.toNat % 2 ^ 63 = (unpackExponent word).toNat * 2 ^ 52 + (unpackMantissa word).toNat := by
  rw [toNat_unpackExponent, toNat_unpackMantissa]
  omega

/-- A word that is past infinity stands for no number, and no other word does. -/
theorem past_infinity_iff : infinityBits < word.toNat % 2 ^ 63 ↔
    unpackExponent word = -1#11 ∧ unpackMantissa word ≠ 0#52 := by
  -- Without their signs words are ordered by the exponent first, then by the fraction.
  have small := (unpackMantissa word).isLt
  have few := (unpackExponent word).isLt
  have all : unpackExponent word = -1#11 ↔ (unpackExponent word).toNat = 2047 :=
    ⟨fun same => by rw [same]; rfl, fun same => BitVec.eq_of_toNat_eq same⟩
  have none : unpackMantissa word = 0#52 ↔ (unpackMantissa word).toNat = 0 :=
    ⟨fun same => by rw [same]; rfl, fun same => BitVec.eq_of_toNat_eq same⟩
  have infinity : infinityBits = 2047 * 2 ^ 52 := rfl
  rw [toNat_mod_eq, all, ne_eq, none, infinity]
  change _ < 2 ^ 52 at small
  change _ < 2 ^ 11 at few
  omega

theorem toNat_packComponents (sign : Sign) (exponent : BitVec 11) (fraction : BitVec 52) :
    (packComponents .binary64 sign exponent fraction).toNat =
      sign.toBitVec.toNat * 2 ^ 63 + exponent.toNat * 2 ^ 52 + fraction.toNat := by
  rw [packComponents, BitVec.toNat_append, BitVec.toNat_append,
    ← Nat.shiftLeft_add_eq_or_of_lt fraction.isLt, ← Nat.shiftLeft_add_eq_or_of_lt exponent.isLt]
  simp only [Nat.shiftLeft_eq]
  omega

/-- A word is made of its parts. -/
theorem packComponents_unpack : packComponents .binary64 (Sign.ofBitVec (unpackSign word))
    (unpackExponent word) (unpackMantissa word) = word := by
  have sign : (Sign.ofBitVec (unpackSign word)).toBitVec = unpackSign word := by
    generalize unpackSign word = bit
    revert bit
    decide
  apply BitVec.eq_of_toNat_eq
  rw [toNat_packComponents, sign, toNat_unpackSign, toNat_unpackExponent, toNat_unpackMantissa]
  omega

end Words

/-! ### Packing what has been unpacked -/

/-- A significand of 53 bits is packed without the first one, and a shorter one without an
exponent. -/
theorem pack_finite (sign : Sign) {significand biased : Nat} {exponent : Int}
    (positive : 0 < significand) (shifted : exponent + 1075 = biased) (less : biased < 2047) :
    UnpackedFloat.pack .binary64 (.finite sign significand exponent positive) =
      packComponents .binary64 sign
        (if significand.log2 = 52 then BitVec.ofNat 11 biased else 0#11)
        (BitVec.ofNat 52 significand) := by
  have bias : (exponent + Format.binary64.exponentBias +
      Format.binary64.mantissaBitsWithoutImplicit).toNat = biased := by
    change (exponent + (1023 : Int) + (52 : Int)).toNat = biased
    omega
  have finite : ¬ 2 ^ Format.binary64.exponentBits ≤ biased + 1 := by
    change ¬ 2 ^ 11 ≤ biased + 1
    omega
  have full : significand.log2 + 1 = Format.binary64.mantissaBits ↔ significand.log2 = 52 :=
    Nat.succ_inj
  unfold UnpackedFloat.pack
  simp only [bias, if_neg finite, full]
  split <;> rfl

/-- Without a bit before it a fraction is packed with the lowest exponent. -/
theorem pack_subnormal (sign : Sign) {fraction : BitVec 52} (positive : 0 < fraction.toNat) :
    UnpackedFloat.pack .binary64 (.finite sign fraction.toNat (-1074) positive) =
      packComponents .binary64 sign 0#11 fraction := by
  have short : fraction.toNat.log2 ≠ 52 :=
    Nat.ne_of_lt ((Nat.log2_lt (Nat.ne_of_gt positive)).mpr fraction.isLt)
  rw [pack_finite sign positive (rfl : _ = ((1 : Nat) : Int)) (by decide), if_neg short,
    BitVec.ofNat_toNat, BitVec.setWidth_eq]

/-- With one it is packed with the exponent that it had. -/
theorem pack_normal (sign : Sign) {exponent : BitVec 11} (fraction : BitVec 52)
    (finite : exponent ≠ -1#11) (positive : 0 < (1#1 ++ fraction).toNat) :
    UnpackedFloat.pack .binary64
        (.finite sign (1#1 ++ fraction).toNat (exponent.toNat - 1075) positive) =
      packComponents .binary64 sign exponent fraction := by
  have small : fraction.toNat < 2 ^ 52 := fraction.isLt
  have below : exponent.toNat ≠ 2047 := fun same => finite (BitVec.eq_of_toNat_eq same)
  have few : exponent.toNat < 2 ^ 11 := exponent.isLt
  have whole : (1#1 ++ fraction).toNat = 2 ^ 52 + fraction.toNat := by
    rw [BitVec.toNat_append, ← Nat.shiftLeft_add_eq_or_of_lt small]
    rfl
  have full : (1#1 ++ fraction).toNat.log2 = 52 := by
    rw [whole, Nat.log2_eq_iff (by omega)]
    omega
  have rest : BitVec.ofNat 52 (1#1 ++ fraction).toNat = fraction := by
    apply BitVec.eq_of_toNat_eq
    rw [BitVec.toNat_ofNat, whole]
    omega
  rw [pack_finite sign positive (Int.sub_add_cancel _ _) (by omega), if_pos full, rest,
    BitVec.ofNat_toNat, BitVec.setWidth_eq]

/-- **Packing.** A word of a double is packed from what it is unpacked to. -/
theorem pack_unpack {word : Word} (valid : Format.binary64.Valid word) :
    UnpackedFloat.pack .binary64 (UnpackedFloat.unpack .binary64 word) = word := by
  have parts := packComponents_unpack word
  unfold UnpackedFloat.unpack
  dsimp only
  by_cases all : unpackExponent word = -1#11
  · rw [if_pos all]
    by_cases none : unpackMantissa word = 0#52
    · rw [all, none] at parts
      rwa [if_pos none]
    · rw [if_neg none]
      exact (valid.eq_packedNaN all none).symm
  · rw [if_neg all]
    by_cases lowest : unpackExponent word = 0#11
    · rw [lowest] at parts ⊢
      rw [if_pos rfl]
      by_cases none : unpackMantissa word = 0#52
      · rw [none] at parts
        rwa [dif_pos none]
      · rw [dif_neg none]
        exact (pack_subnormal _ _).trans parts
    · rw [if_neg lowest]
      exact (pack_normal _ _ all _).trans parts

/-! ### Words and doubles -/

theorem ofBits_toBits (x : Float) : Float.ofBits x.toBits = x := by
  have same : (Float.ofBits x.toBits).toBits = x.toBits :=
    congrArg UInt64.ofBitVec (pack_unpack x.toModel.valid)
  generalize Float.ofBits x.toBits = other at same
  obtain ⟨⟨word, valid⟩⟩ := x
  obtain ⟨⟨otherWord, otherValid⟩⟩ := other
  obtain rfl : otherWord = word := same
  rfl

/-- A word that stands for a number is the word of that double. -/
theorem toBits_ofBits {word : UInt64} (number : word.toNat % 2 ^ 63 ≤ infinityBits) :
    (Float.ofBits word).toBits = word := by
  have valid : Format.binary64.Valid word.toBitVec := by
    refine ⟨fun all some => absurd ?_ (Nat.not_lt.mpr number)⟩
    exact (past_infinity_iff word.toBitVec).mpr ⟨all, some⟩
  exact congrArg UInt64.ofBitVec (pack_unpack valid)

theorem isNaN_ofBits {word : UInt64} (past : infinityBits < word.toNat % 2 ^ 63) :
    (Float.ofBits word).isNaN = true := by
  obtain ⟨all, some⟩ := (past_infinity_iff word.toBitVec).mp past
  have unpacked : UnpackedFloat.unpack .binary64 word.toBitVec = .notANumber := by
    unfold UnpackedFloat.unpack
    dsimp only
    rw [if_pos all, if_neg some]
  have packed : Float.ofBits word = Float.ofModel (Float.Model.pack UnpackedFloat.notANumber) :=
    congrArg (fun parts => Float.ofModel (Float.Model.pack parts)) unpacked
  rw [packed]
  rfl

/-- One double stands for all results that are not numbers. -/
theorem eq_nan_of_past {x : Float} (past : infinityBits < magnitudeOf x) :
    x = ofMagnitude false nanBits := by
  obtain ⟨all, some⟩ := (past_infinity_iff x.toBits.toBitVec).mp past
  have word : x.toBits.toBitVec = packedNaN .binary64 := x.toModel.valid.eq_packedNaN all some
  calc x
    _ = Float.ofBits (UInt64.ofBitVec x.toBits.toBitVec) := (ofBits_toBits x).symm
    _ = ofMagnitude false nanBits := by rw [word]; rfl

/-- A double has its sign and its magnitude, and nothing else. -/
theorem ofMagnitude_magnitudeOf (x : Float) :
    ofMagnitude (isNegative x) (magnitudeOf x) = x := by
  have top : Nat.pow 2 63 = 2 ^ 63 := rfl
  have bound := x.toBits.toNat_lt
  have whole : (if isNegative x then magnitudeOf x + 2 ^ 63 else magnitudeOf x) =
      x.toBits.toNat := by
    simp only [isNegative, magnitudeOf, top, decide_eq_true_eq]
    split <;> omega
  rw [ofMagnitude, top, whole, UInt64.ofNat_toNat, ofBits_toBits]

end Worksheet.Number
