import Mathlib.Data.Set.Function
import Worksheet.Proofs.Text.Names

/-!
# Names of cells as a codec

The texts that are read as a cell differ only in the zeros before the number of its row, and the
name of the cell is the one without any. So reading gives back what a name was made from, whatever
the number of digits; only at the size of a word it ends.

A cell past the last letter has a name that is not read as any cell. But no other cell has the same
one: it starts with a sign that is no letter, and its column ends at the only colon.
-/

namespace Worksheet

namespace Text

/-! ### Decimal digits and their number -/

variable {c : Char} {digits : List Char}

theorem toDigits_of_isDigit (digit : c.isDigit = true) :
    c.toNat - '0'.toNat < 10 ∧ Nat.toDigits 10 (c.toNat - '0'.toNat) = [c] := by
  have range : 48 ≤ c.toNat ∧ c.toNat ≤ 57 := Char.isDigit_iff_toNat.mp digit
  have small : c.toNat - '0'.toNat < 10 := by
    change c.toNat - 48 < 10
    omega
  refine ⟨small, ?_⟩
  rw [Nat.toDigits_of_lt_base small, List.singleton_inj, ← Char.toNat_inj,
    Nat.toNat_digitChar_of_lt_ten small]
  change 48 + (c.toNat - 48) = c.toNat
  omega

/-- Further digits behind those of a number make the number that is written with all of them. -/
theorem toDigits_ofDigitChars_of_pos (decimal : ∀ c ∈ digits, c.isDigit = true) {number : Nat}
    (positive : 0 < number) :
    Nat.toDigits 10 (Nat.ofDigitChars 10 digits number) = Nat.toDigits 10 number ++ digits := by
  induction digits generalizing number with
  | nil => simp
  | cons c digits ih =>
    obtain ⟨digit, others⟩ := List.forall_mem_cons.mp decimal
    obtain ⟨small, single⟩ := toDigits_of_isDigit digit
    rw [Nat.ofDigitChars_cons, ih others (by omega),
      ← Nat.toDigits_append_toDigits (by decide) positive small, single, List.append_assoc,
      List.singleton_append]

/-- A number that is not zero is written without the zeros that its digits began with. -/
theorem toDigits_ofDigitChars (decimal : ∀ c ∈ digits, c.isDigit = true)
    (positive : 0 < Nat.ofDigitChars 10 digits 0) :
    Nat.toDigits 10 (Nat.ofDigitChars 10 digits 0) = digits.dropWhile (· == '0') := by
  induction digits with
  | nil => simp at positive
  | cons c digits ih =>
    obtain ⟨digit, others⟩ := List.forall_mem_cons.mp decimal
    rw [Nat.ofDigitChars_cons] at positive ⊢
    by_cases zero : c = '0'
    · subst zero
      rw [List.dropWhile_cons_of_pos (by rfl)]
      exact ih others positive
    · -- From the first digit that counts, all digits are written.
      obtain ⟨small, single⟩ := toDigits_of_isDigit digit
      have first : 0 < c.toNat - '0'.toNat := by
        have range : 48 ≤ c.toNat ∧ c.toNat ≤ 57 := Char.isDigit_iff_toNat.mp digit
        have other : c.toNat ≠ 48 := fun same => zero (Char.toNat_inj.mp same)
        change 0 < c.toNat - 48
        omega
      rw [Nat.mul_zero, Nat.zero_add, toDigits_ofDigitChars_of_pos others first, single,
        List.dropWhile_cons_of_neg (by simpa using zero), List.singleton_append]

end Text

namespace CellRef

variable {cell other : CellRef}

/-- The name of what is read is what was read, without the zeros before the number of the row. -/
theorem IsA1.toList_name {text : String} {letter : Char} {digits : List Char}
    (written : IsA1 text letter digits) (reads : ofName? text = some cell) :
    cell.name.toList = letter :: digits.dropWhile (· == '0') := by
  obtain ⟨letter', digits', writtenToo, here⟩ := ofName?_eq_some_iff.mp reads
  obtain ⟨rfl, rfl⟩ := List.cons_eq_cons.mp (written.toList.symm.trans writtenToo.toList)
  have range : 65 ≤ letter.toNat ∧ letter.toNat ≤ 90 := of_decide_eq_true written.upper
  have column : 65 + cell.column = letter.toNat := by
    rw [here]
    change 65 + (letter.toNat - 65) = letter.toNat
    omega
  have row : cell.row + 1 = Nat.ofDigitChars 10 digits 0 := by
    have positive := written.positive
    rw [here]
    change Nat.ofDigitChars 10 digits 0 - 1 + 1 = _
    omega
  rw [CellRef.toList_name (named_of_ofName? reads), column, row, Char.ofNat_toNat,
    Text.toDigits_ofDigitChars written.decimal written.positive]

/-! ### No two cells have one name -/

theorem toDigits_injective : Function.Injective (Nat.toDigits 10) := by
  intro number other same
  rw [← Nat.ofDigitChars_ten_toDigits (n := number), same, Nat.ofDigitChars_ten_toDigits]

theorem colon_not_mem_toDigits (number : Nat) : ':' ∉ Nat.toDigits 10 number := by
  intro member
  have digit := Nat.isDigit_of_mem_toDigits (by decide) (by decide) member
  simp at digit

theorem toList_name_of_beyond (beyond : ¬ cell.column < maxColumns)
    (fits : cell.row + 1 < wordSize) : cell.name.toList =
      '#' :: (Nat.toDigits 10 cell.column ++ ':' :: Nat.toDigits 10 (cell.row + 1)) := by
  unfold name letter? rowNumber
  rw [if_neg beyond, Nat.mod_eq_of_lt fits]
  simp [Nat.toList_repr]

/-- Only the name of a cell past the last letter starts with the sign for columns. -/
theorem head?_name_iff (fits : cell.row + 1 < wordSize) :
    cell.name.toList.head? = some '#' ↔ ¬ cell.column < maxColumns := by
  by_cases near : cell.column < maxColumns
  · refine iff_of_false (fun first => ?_) (not_not_intro near)
    rw [toList_name ⟨near, fits⟩, List.head?_cons, Option.some.injEq] at first
    have upper := (letter_of_lt near).1
    rw [first] at upper
    cases upper
  · rw [toList_name_of_beyond near fits]
    exact iff_of_true rfl near

theorem eq_of_name_eq (fits : cell.row + 1 < wordSize) (otherFits : other.row + 1 < wordSize)
    (same : cell.name = other.name) : cell = other := by
  have beyond : ¬ cell.column < maxColumns ↔ ¬ other.column < maxColumns := by
    rw [← head?_name_iff fits, ← head?_name_iff otherFits, same]
  by_cases near : cell.column < maxColumns
  · -- Names in A1 notation are told apart by reading them.
    have otherNear := not_iff_not.mp beyond |>.mp near
    have reads : ofName? cell.name = some cell := ofName?_name ⟨near, fits⟩
    rw [same, ofName?_name ⟨otherNear, otherFits⟩] at reads
    exact (Option.some.inj reads).symm
  · have characters := congrArg String.toList same
    rw [toList_name_of_beyond near fits, toList_name_of_beyond (beyond.mp near) otherFits,
      List.cons_inj_right, List.append_cons_inj_of_notMem (colon_not_mem_toDigits _)
        (colon_not_mem_toDigits _)] at characters
    obtain ⟨columns, -, rows⟩ := characters
    have column := toDigits_injective columns
    have row := Nat.succ.inj (toDigits_injective rows)
    cases cell
    cases other
    exact congrArg₂ CellRef.mk row column

/-- **Names as a codec.** A text is read as a cell if and only if it is a capital letter and then
decimal digits, with any number of zeros in front, whose number fits in a word and is not zero; the
name of the cell is the text without these zeros. Every cell with a letter for its column is read
from its name, and no two cells have the same name, with a letter or not. In a grid the same texts
are read, as far as their cells lie inside. -/
theorem name_codec :
    (∀ text cell, ofName? text = some cell ↔ ∃ letter digits, IsA1 text letter digits ∧
      cell = ⟨Nat.ofDigitChars 10 digits 0 - 1, letter.toNat - 'A'.toNat⟩) ∧
    (∀ text letter digits cell, IsA1 text letter digits → ofName? text = some cell →
      cell.name = String.ofList (letter :: digits.dropWhile (· == '0'))) ∧
    (∀ cell : CellRef, cell.column < 26 → cell.row < 2 ^ 64 - 1 →
      ofName? cell.name = some cell) ∧
    Set.InjOn name {cell | cell.row < 2 ^ 64 - 1} ∧
    ∀ text rows columns cell, resolve? text rows columns = some cell ↔
      ofName? text = some cell ∧ cell.Inside rows columns := by
  refine ⟨fun text cell => ofName?_eq_some_iff, fun text letter digits cell written reads => ?_,
    fun cell column row => ofName?_name (named_iff.mpr ⟨column, row⟩), ?_,
    fun text rows columns cell => ?_⟩
  · rw [← written.toList_name reads, String.ofList_toList]
  · have word {row : Nat} (small : row < 2 ^ 64 - 1) : row + 1 < wordSize := by
      change row + 1 < 2 ^ 64
      omega
    exact fun cell small other otherSmall => eq_of_name_eq (word small) (word otherSmall)
  · rw [resolve?, Option.filter_eq_some_iff, decide_eq_true_iff]

example : ofName? "C007" = some ⟨6, 2⟩ ∧ name ⟨6, 2⟩ = "C7" ∧ ofName? "C0" = none ∧
    ofName? "C18446744073709551616" = none := by
  decide

end CellRef

end Worksheet
