import Worksheet.Sheet.History
import Worksheet.Sheet.Records

/-!
# The contents of a sheet

What a file keeps of a sheet are the records of its populated cells. Loading records replaces all
cells: the colors first, then the texts, through the same operations that edit single cells, so that
the order of the records has no effect on the values.
-/

namespace Worksheet.Sheet

/-- The records of the populated cells, row by row. -/
def records (sheet : Sheet) : List CellRecord :=
  sheet.populated.map fun cell => ⟨cell.position, cell.bgColor, cell.text⟩

/-- Replaces all cells by those of some records, and forgets the history. Nothing is touched if one
of the records lies outside the sheet. -/
def loadRecords (records : List CellRecord) : SheetM Unit := do
  records.forM fun record => discard (getCell record.cell)
  clear
  records.forM fun record => setBgColor record.cell record.bgColor
  records.forM fun record => setText record.cell record.text
  clearHistory

end Worksheet.Sheet
