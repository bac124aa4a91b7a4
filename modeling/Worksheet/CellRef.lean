import Worksheet.Text.Digits

/-!
# Cell references

A cell is addressed by a row and a column, both counted from zero, and named in A1 notation: one
capital letter for the column and the row counted from one. Cells are ordered row by row.

Rows and columns are counted in words of 64 bits. A column past the last letter has no A1 name; it
is shown as `#column:row`, which no name in A1 notation looks like.
-/

namespace Worksheet

/-- The address of a cell, with its row and its column counted from zero. -/
structure CellRef where
  row : Nat
  column : Nat
deriving DecidableEq, Repr, Inhabited, Hashable

namespace CellRef

/-- Letters name the columns, so a sheet has at most this many. -/
def maxColumns : Nat := 26

/-- How many values a word that counts rows or columns has. -/
def wordSize : Nat := Nat.pow 2 64

/-- Row-major order: by row, and by column within a row. -/
instance : Ord CellRef where
  compare := compareLex (compareOn row) (compareOn column)

instance : Std.TransOrd CellRef :=
  inferInstanceAs (Std.TransCmp (compareLex (compareOn row) (compareOn column)))

instance : Std.LawfulEqOrd CellRef where
  eq_of_compare {a b} equal := by
    have both : compareLex (compareOn row) (compareOn column) a b = .eq := equal
    simp only [compareLex_eq_eq, compareOn, Std.LawfulEqOrd.compare_eq_iff_eq] at both
    cases a
    cases b
    simp_all

/-- Row-major order as a test, for sorting. -/
def precedes (a b : CellRef) : Bool :=
  (compare a b).isLE

/-- A cell lies inside a grid of the given size. -/
def Inside (cell : CellRef) (rows columns : Nat) : Prop :=
  cell.row < rows ∧ cell.column < columns

instance (cell : CellRef) (rows columns : Nat) : Decidable (cell.Inside rows columns) :=
  inferInstanceAs (Decidable (_ ∧ _))

/-- The letter of a column. -/
def letter? (column : Nat) : Option Char :=
  if column < maxColumns then some (Char.ofNat (65 + column)) else none

/-- The row as it is shown, counted from one in a word of 64 bits. -/
def rowNumber (cell : CellRef) : Nat :=
  (cell.row + 1) % wordSize

/-- The name of a cell: A1 notation, or `#column:row` past the last letter. -/
def name (cell : CellRef) : String :=
  match letter? cell.column with
  | some letter => letter.toString ++ Nat.repr cell.rowNumber
  | none => "#" ++ Nat.repr cell.column ++ ":" ++ Nat.repr cell.rowNumber

instance : ToString CellRef := ⟨name⟩

/-- Reads a name in A1 notation: one capital letter, then digits whose number is a row counted from
one that fits in a word. -/
def ofName? (name : String) : Option CellRef :=
  match name.toList with
  | letter :: digits =>
    match Text.number? 10 digits with
    | some number =>
      if letter.isUpper ∧ digits ≠ [] ∧ 0 < number ∧ number < wordSize then
        some ⟨number - 1, letter.toNat - 65⟩
      else
        none
    | none => none
  | [] => none

/-- Reads a name in A1 notation of a cell inside a grid. -/
def resolve? (name : String) (rows columns : Nat) : Option CellRef :=
  (ofName? name).filter fun cell => cell.Inside rows columns

end CellRef

end Worksheet
