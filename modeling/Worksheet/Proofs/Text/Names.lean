import Mathlib.Algebra.Group.Nat.Defs
import Mathlib.Data.List.Basic
import Worksheet.CellRef
import Worksheet.Color

/-!
# Names of cells and texts of colors

Names and colors are written without blanks, quotes and ampersands, so the blanks around them are no
matter and nothing in them has to be escaped. The text of a color is read back as the same color,
and a name as the same cell if it is in A1 notation. No other name is read as a cell at all.
-/

namespace Worksheet

namespace Text

/-- Letters and digits lie between `'0'` and `'z'`, where no blank is. -/
theorem toNat_of_isAlphanum {c : Char} (plain : c.isAlphanum = true) :
    48 ≤ c.toNat ∧ c.toNat ≤ 122 := by
  rcases (Bool.or_eq_true _ _).mp plain with letter | digit
  · rcases (Bool.or_eq_true _ _).mp letter with upper | lower
    · have range : 65 ≤ c.toNat ∧ c.toNat ≤ 90 := of_decide_eq_true upper
      omega
    · have range := (Bool.and_eq_true _ _).mp lower
      have low : 97 ≤ c.toNat := of_decide_eq_true range.1
      have high : c.toNat ≤ 122 := of_decide_eq_true range.2
      omega
  · have range := Char.isDigit_iff_toNat.mp digit
    have low : 48 ≤ c.toNat := range.1
    have high : c.toNat ≤ 57 := range.2
    omega

/-- The characters between the space and the end of the alphabet are printed. -/
theorem isBlank_of_printed {c : Char} (low : 32 < c.toNat) (high : c.toNat < 127) :
    isBlank c = false := by
  simp only [isBlank, Bool.or_eq_false_iff, Bool.and_eq_false_iff, decide_eq_false_iff_not,
    beq_eq_false_iff_ne, ne_eq, ← UInt32.toNat_inj, UInt32.le_iff_toNat_le, Char.toNat_val,
    UInt32.toNat_ofNat]
  omega

theorem isBlank_of_isAlphanum {c : Char} (plain : c.isAlphanum = true) : isBlank c = false := by
  obtain ⟨low, high⟩ := toNat_of_isAlphanum plain
  exact isBlank_of_printed (by omega) (by omega)

theorem trim_of_not_isBlank {text : String} (solid : ∀ c ∈ text.toList, isBlank c = false) :
    trim text = text := by
  have kept (characters : List Char) (solid : ∀ c ∈ characters, isBlank c = false) :
      characters.dropWhile isBlank = characters := by
    cases characters with
    | nil => rfl
    | cons c characters =>
      rw [List.dropWhile_cons_of_neg]
      simp [solid c List.mem_cons_self]
  have keptReversed := kept _ fun c member => solid c (List.mem_reverse.mp member)
  rw [trim, kept _ solid, keptReversed, List.reverse_reverse, String.ofList_toList]

theorem digitValue?_of_isDigit {c : Char} (digit : c.isDigit = true) :
    digitValue? 10 c = some (c.toNat - '0'.toNat) := by
  have range := Char.isDigit_iff_toNat.mp digit
  have bound : c.toNat ≤ 57 := range.2
  have within : '0' ≤ c ∧ c ≤ '9' := range
  simp only [digitValue?, within, and_self, if_true]
  rw [if_pos (by omega)]
  rfl

/-- Decimal digits, however many zeros they begin with, are read as their number. -/
theorem number?_of_isDigit {digits : List Char} (all : ∀ c ∈ digits, c.isDigit = true) :
    number? 10 digits = some (Nat.ofDigitChars 10 digits 0) := by
  suffices fold : ∀ value : Nat,
      digits.foldlM (fun value c => (digitValue? 10 c).map (10 * value + ·)) value =
        some (Nat.ofDigitChars 10 digits value) from fold 0
  induction digits with
  | nil => simp
  | cons c digits ih =>
    intro value
    rw [List.foldlM_cons, digitValue?_of_isDigit (all c List.mem_cons_self),
      Nat.ofDigitChars_cons]
    exact ih (fun other member => all other (List.mem_cons_of_mem _ member)) _

/-- The decimal digits of a number are read as the number. -/
theorem number?_toDigits (number : Nat) : number? 10 (Nat.toDigits 10 number) = some number := by
  rw [number?_of_isDigit fun c => Nat.isDigit_of_mem_toDigits (by decide) (by decide),
    Nat.ofDigitChars_ten_toDigits]

section Digits

variable {base value number : Nat} {c : Char} {digits : List Char}

/-- A number with one more digit. -/
def takeDigit (base value : Nat) (c : Char) : Option Nat :=
  (Text.digitValue? base c).map (base * value + ·)

/-- Nothing but digits makes a number. -/
theorem not_mem_of_digitValue? (read : digits.foldlM (takeDigit base) value = some number)
    (strange : Text.digitValue? base c = none) : c ∉ digits := by
  induction digits generalizing value with
  | nil => simp
  | cons d digits ih =>
    rw [List.foldlM_cons] at read
    obtain ⟨further, one, others⟩ := Option.bind_eq_some_iff.mp read
    obtain ⟨digit, known, -⟩ := Option.map_eq_some_iff.mp one
    rw [List.mem_cons, not_or]
    refine ⟨?_, ih others⟩
    rintro rfl
    simp [strange] at known

theorem le_of_takeDigit (positive : 0 < base) (one : takeDigit base value c = some number) :
    value ≤ number := by
  obtain ⟨digit, -, rfl⟩ := Option.map_eq_some_iff.mp one
  have more : value ≤ base * value := Nat.le_mul_of_pos_left value positive
  omega

/-- More digits make no number less. -/
theorem le_of_foldlM_takeDigit (positive : 0 < base)
    (read : digits.foldlM (takeDigit base) value = some number) : value ≤ number := by
  induction digits generalizing value with
  | nil => exact Nat.le_of_eq (Option.some.inj read)
  | cons c digits ih =>
    rw [List.foldlM_cons] at read
    obtain ⟨further, one, others⟩ := Option.bind_eq_some_iff.mp read
    exact Nat.le_trans (le_of_takeDigit positive one) (ih others)

/-- The letters begin at ten, so base ten has none of them. -/
theorem isDigit_of_digitValue? (digit : digitValue? 10 c ≠ none) : c.isDigit = true := by
  apply Char.isDigit_iff_toNat.mpr
  refine Decidable.not_not.mp fun outside => digit ?_
  have decimal : ¬ ('0' ≤ c ∧ c ≤ '9') := outside
  simp only [digitValue?, if_neg decimal]
  apply if_neg
  split
  next upper =>
    have low : 65 ≤ c.toNat := upper.1
    omega
  next =>
    split
    next lower =>
      have low : 97 ≤ c.toNat := lower.1
      omega
    next => omega

/-- Decimal digits and nothing else are read as a number, and as their own. -/
theorem number?_eq_some_iff : number? 10 digits = some number ↔
    (∀ c ∈ digits, c.isDigit = true) ∧ number = Nat.ofDigitChars 10 digits 0 := by
  constructor
  · intro read
    have all : ∀ c ∈ digits, c.isDigit = true := fun c member =>
      isDigit_of_digitValue? fun strange => not_mem_of_digitValue? read strange member
    exact ⟨all, Option.some.inj (read.symm.trans (number?_of_isDigit all))⟩
  · rintro ⟨all, rfl⟩
    exact number?_of_isDigit all

end Digits

end Text

namespace CellRef

variable {cell : CellRef}

/-- A cell that has a name in A1 notation. -/
def Named (cell : CellRef) : Prop :=
  cell.column < maxColumns ∧ cell.row + 1 < wordSize

theorem named_iff : cell.Named ↔ cell.column < 26 ∧ cell.row < 2 ^ 64 - 1 := by
  change cell.column < 26 ∧ cell.row + 1 < 2 ^ 64 ↔ _
  omega

theorem toList_name (named : cell.Named) :
    cell.name.toList = Char.ofNat (65 + cell.column) :: Nat.toDigits 10 (cell.row + 1) := by
  unfold name letter? rowNumber
  rw [if_pos named.1, Nat.mod_eq_of_lt named.2]
  simp [Nat.toList_repr]

theorem letter_of_lt {column : Nat} (small : column < maxColumns) :
    (Char.ofNat (65 + column)).isUpper = true ∧ (Char.ofNat (65 + column)).toNat - 65 = column := by
  have all : ∀ column < 26, (Char.ofNat (65 + column)).isUpper = true ∧
      (Char.ofNat (65 + column)).toNat - 65 = column := by
    decide
  exact all column small

/-- The characters of the decimal digits of a number. -/
theorem isAlphanum_of_mem_repr {number : Nat} {c : Char} (digit : c ∈ (Nat.repr number).toList) :
    c.isAlphanum = true := by
  rw [Nat.toList_repr] at digit
  exact (Bool.or_eq_true _ _).mpr (.inr (Nat.isDigit_of_mem_toDigits (by decide) (by decide) digit))

/-- Letters, digits and the two signs of a column past the last letter. -/
theorem cases_of_mem_name (cell : CellRef) {c : Char} (member : c ∈ cell.name.toList) :
    c.isAlphanum = true ∨ c = '#' ∨ c = ':' := by
  unfold name letter? at member
  by_cases small : cell.column < maxColumns
  · simp only [small, if_true, String.toList_append, List.mem_append] at member
    rcases member with letter | digit
    · obtain rfl : c = Char.ofNat (65 + cell.column) := by simpa using letter
      have upper := (letter_of_lt small).1
      exact .inl ((Bool.or_eq_true _ _).mpr (.inl ((Bool.or_eq_true _ _).mpr (.inl upper))))
    · exact .inl (isAlphanum_of_mem_repr digit)
  · simp only [small, if_false, String.toList_append, List.mem_append] at member
    rcases member with ((sign | digit) | sign) | digit
    · exact .inr (.inl (by simpa using sign))
    · exact .inl (isAlphanum_of_mem_repr digit)
    · exact .inr (.inr (by simpa using sign))
    · exact .inl (isAlphanum_of_mem_repr digit)

theorem not_mem_name (cell : CellRef) {c : Char}
    (strange : (c.isAlphanum || c == '#' || c == ':') = false) : c ∉ cell.name.toList := by
  intro member
  rcases cases_of_mem_name cell member with plain | rfl | rfl
  · simp [plain] at strange
  · simp at strange
  · simp at strange

theorem trim_name (cell : CellRef) : Text.trim cell.name = cell.name := by
  refine Text.trim_of_not_isBlank fun c member => ?_
  rcases cases_of_mem_name cell member with plain | rfl | rfl
  · exact Text.isBlank_of_isAlphanum plain
  · rfl
  · rfl

/-- A name is read as the cell that it names. -/
theorem ofName?_name (named : cell.Named) : ofName? cell.name = some cell := by
  obtain ⟨upper, column⟩ := letter_of_lt named.1
  have digits : Nat.toDigits 10 (cell.row + 1) ≠ [] := Nat.toDigits_ne_nil
  rw [ofName?, toList_name named]
  simp only [Text.number?_toDigits, upper, digits, named.2, column, ne_eq, not_false_eq_true,
    Nat.zero_lt_succ, and_self, if_true, Nat.add_sub_cancel]

/-- A text in A1 notation: a capital letter and the decimal digits of a row, which is counted from
one and fits in a word, after any number of zeros. -/
structure IsA1 (text : String) (letter : Char) (digits : List Char) : Prop where
  toList : text.toList = letter :: digits
  upper : letter.isUpper = true
  nonempty : digits ≠ []
  decimal : ∀ c ∈ digits, c.isDigit = true
  positive : 1 ≤ Nat.ofDigitChars 10 digits 0
  fits : Nat.ofDigitChars 10 digits 0 ≤ 2 ^ 64 - 1

/-- Texts in A1 notation are read as cells, and no others are. -/
theorem ofName?_eq_some_iff {text : String} : ofName? text = some cell ↔ ∃ letter digits,
    IsA1 text letter digits ∧
      cell = ⟨Nat.ofDigitChars 10 digits 0 - 1, letter.toNat - 'A'.toNat⟩ := by
  have word (number : Nat) : number < wordSize ↔ number ≤ 2 ^ 64 - 1 := by
    change number < 2 ^ 64 ↔ _
    omega
  constructor
  · intro reads
    unfold ofName? at reads
    split at reads
    next letter digits characters =>
      split at reads
      next number read =>
        obtain ⟨decimal, rfl⟩ := Text.number?_eq_some_iff.mp read
        obtain ⟨⟨upper, nonempty, positive, small⟩, here⟩ :=
          Option.ite_none_right_eq_some.mp reads
        exact ⟨letter, digits, ⟨characters, upper, nonempty, decimal, positive, (word _).mp small⟩,
          (Option.some.inj here).symm⟩
      next => cases reads
    next => cases reads
  · rintro ⟨letter, digits, written, rfl⟩
    have legal : letter.isUpper = true ∧ digits ≠ [] ∧ 0 < Nat.ofDigitChars 10 digits 0 ∧
        Nat.ofDigitChars 10 digits 0 < wordSize :=
      ⟨written.upper, written.nonempty, written.positive, (word _).mpr written.fits⟩
    simp only [ofName?, written.toList, Text.number?_of_isDigit written.decimal]
    exact if_pos legal

/-- Whatever is read is the name of a cell in A1 notation. -/
theorem named_of_ofName? {name : String} (reads : ofName? name = some cell) : cell.Named := by
  obtain ⟨letter, digits, written, rfl⟩ := ofName?_eq_some_iff.mp reads
  have range : 65 ≤ letter.toNat ∧ letter.toNat ≤ 90 := of_decide_eq_true written.upper
  have positive := written.positive
  have fits := written.fits
  rw [named_iff]
  change letter.toNat - 65 < 26 ∧ Nat.ofDigitChars 10 digits 0 - 1 < 2 ^ 64 - 1
  omega

/-- What is read as a cell is written with letters and digits. -/
theorem isAlphanum_of_ofName? {name : String} (reads : ofName? name = some cell) :
    ∀ c ∈ name.toList, c.isAlphanum = true := by
  obtain ⟨letter, digits, written, -⟩ := ofName?_eq_some_iff.mp reads
  rw [written.toList, List.forall_mem_cons]
  constructor
  · exact (Bool.or_eq_true _ _).mpr (.inl ((Bool.or_eq_true _ _).mpr (.inl written.upper)))
  · exact fun c member => (Bool.or_eq_true _ _).mpr (.inr (written.decimal c member))

theorem not_mem_of_ofName? {name : String} (reads : ofName? name = some cell) {c : Char}
    (strange : c.isAlphanum = false) : c ∉ name.toList := by
  intro member
  simp [isAlphanum_of_ofName? reads c member] at strange

end CellRef

namespace Color

theorem digitValue?_digit {value : Nat} (small : value < 16) :
    Text.digitValue? 16 (digit value) = some value ∧ (digit value).isAlphanum = true := by
  have all : ∀ value < 16,
      Text.digitValue? 16 (digit value) = some value ∧ (digit value).isAlphanum = true := by
    decide
  exact all value small

theorem isAlphanum_of_mem_text (color : Color) : ∀ c ∈ (text color).toList,
    c.isAlphanum = true := by
  intro c member
  rw [text, String.toList_ofList] at member
  obtain ⟨shift, -, rfl⟩ := List.mem_map.mp member
  exact (digitValue?_digit (Nat.mod_lt _ (by decide))).2

/-- One more digit: what stands above four bits, times sixteen, and those four bits. -/
theorem mul_shiftRight_add (value shift : Nat) :
    16 * (value >>> (shift + 4)) + value >>> shift % 16 = value >>> shift := by
  rw [Nat.shiftRight_add, Nat.shiftRight_eq_div_pow (value >>> shift) 4]
  exact Nat.div_add_mod (value >>> shift) 16

/-- The eight digits of a color are read as its word: each digit takes in four bits more. -/
theorem number?_digits (color : Color) : Text.number? 16 (digits color) = some color.toNat := by
  have value (shift : Nat) : Text.digitValue? 16 (digit (color.toNat >>> shift % 16)) =
      some (color.toNat >>> shift % 16) :=
    (digitValue?_digit (Nat.mod_lt _ (by decide))).1
  have first : 16 * 0 + color.toNat >>> 28 % 16 = color.toNat >>> 28 := by
    have bound := color.toNat_lt
    rw [Nat.shiftRight_eq_div_pow]
    omega
  have next := mul_shiftRight_add color.toNat
  simp only [digits, Text.number?, List.map_cons, List.map_nil, List.foldlM_cons, value,
    Option.map_some, Option.bind_eq_bind, Option.bind_some, List.foldlM_nil, Option.pure_def]
  rw [first, next 24, next 20, next 16, next 12, next 8, next 4, next 0, Nat.shiftRight_zero]

/-- The text of a color is read as the color. -/
theorem ofText?_text (color : Color) : ofText? (text color) = some color := by
  have length : (digits color).length = 8 := rfl
  have solid : Text.trim (text color) = text color := Text.trim_of_not_isBlank fun c member =>
    Text.isBlank_of_isAlphanum (isAlphanum_of_mem_text color c member)
  simp only [ofText?, solid]
  rw [text, String.toList_ofList, if_pos length, number?_digits, Option.map_some,
    UInt32.ofNat_toNat]

end Color

end Worksheet
