import Worksheet.Sheet.Error

/-!
# The size of a sheet

A sheet has at least one cell, no more columns than there are letters and no more than a million
rows or so.
-/

namespace Worksheet

/-- The size of a sheet. -/
structure Dimensions where
  rows : Nat
  columns : Nat
deriving DecidableEq, Repr

namespace Dimensions

/-- The most rows that a sheet may have. -/
def maxRows : Nat := 1048576

/-- The size of a sheet for which no other one is asked. -/
def default : Dimensions := ⟨50, CellRef.maxColumns⟩

instance : Inhabited Dimensions := ⟨default⟩

/-- A sheet may have this size. -/
def Valid (size : Dimensions) : Prop :=
  0 < size.rows ∧ size.rows ≤ maxRows ∧ 0 < size.columns ∧ size.columns ≤ CellRef.maxColumns

instance (size : Dimensions) : Decidable size.Valid :=
  inferInstanceAs (Decidable (_ ∧ _))

/-- Refuses a size that no sheet may have. -/
def check (size : Dimensions) : Except SheetError Unit :=
  if size.Valid then pure () else throw (.invalidDimensions size.rows size.columns)

end Dimensions

end Worksheet
