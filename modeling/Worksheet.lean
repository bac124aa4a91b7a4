import Worksheet.Main
import Worksheet.Proofs.Graph.Circularity
import Worksheet.Proofs.Formula.Bindings
import Worksheet.Proofs.Sheet.Grid
import Worksheet.Proofs.Sheet.Reading
import Worksheet.Proofs.Sheet.Consistency
import Worksheet.Proofs.Sheet.Cascade
import Worksheet.Proofs.Sheet.Rounds
import Worksheet.Proofs.Sheet.Editing
import Worksheet.Proofs.Sheet.Operations
import Worksheet.Proofs.Sheet.Loading
import Worksheet.Proofs.Sheet.Reachable
import Worksheet.Proofs.Sheet.Failure
import Worksheet.Proofs.Sheet.Timeline
import Worksheet.Proofs.Markup.Escape
import Worksheet.Proofs.Markup.Event
import Worksheet.Proofs.Text.Names
import Worksheet.Proofs.Sheet.Saving
import Worksheet.Proofs.Sheet.RoundTrip
import Worksheet.Proofs.Formula.Tokens
import Worksheet.Proofs.Formula.Variables
import Worksheet.Proofs.Formula.Infix
import Worksheet.Proofs.Formula.Postfix
import Worksheet.Proofs.Formula.Tree
import Worksheet.Proofs.Formula.Compilation
import Worksheet.Proofs.Formula.Acceptance
import Worksheet.Proofs.Formula.Agreement
import Worksheet.Proofs.Graph.EdgeSet
import Worksheet.Proofs.Graph.CyclePath
import Worksheet.Proofs.Sheet.Propagation
import Worksheet.Proofs.Files.Writing
import Worksheet.Proofs.Sheet.Unmodified
import Worksheet.Proofs.Sheet.Announcements
import Worksheet.Proofs.Sheet.Locality
import Worksheet.Proofs.Formula.Readability
import Worksheet.Proofs.Formula.Regrouping
import Worksheet.Proofs.Sheet.Truncation
import Worksheet.Proofs.Markup.Spelling
import Worksheet.Proofs.Sheet.Spelling
import Worksheet.Proofs.Formula.Conservation
import Worksheet.Proofs.Number.Bits
import Worksheet.Proofs.Number.Magnitude
import Worksheet.Proofs.Number.Numerals
import Worksheet.Proofs.Number.ReadBack
import Worksheet.Proofs.Sheet.Copies
import Worksheet.Proofs.Markup.EmptyElements
import Worksheet.Proofs.Sheet.Continuation
import Worksheet.Proofs.Sheet.EmptyElements
import Worksheet.Proofs.CommandLine.Arguments
import Worksheet.Proofs.CommandLine.Running
import Worksheet.Proofs.CommandLine.AllOrNothing
import Worksheet.Proofs.Formula.Factorization
import Worksheet.Proofs.Text.CellNames
import Worksheet.Proofs.Sheet.Layout
