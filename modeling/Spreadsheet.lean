import Spreadsheet.Calculation.Calculator
import Spreadsheet.Choices
import Spreadsheet.Evaluation.WrittenRange
import Spreadsheet.Proofs.Aggregate.Cells
import Spreadsheet.Proofs.Calculation.Fixpoint
import Spreadsheet.Proofs.Calculation.Frame
import Spreadsheet.Proofs.Calculation.Incremental
import Spreadsheet.Proofs.Calculation.StoredText
import Spreadsheet.Proofs.Calculation.Twins
import Spreadsheet.Proofs.Calendar.Offsets
import Spreadsheet.Proofs.Calendar.RollOver
import Spreadsheet.Proofs.Calendar.Weekdays
import Spreadsheet.Proofs.Choices.Writing
import Spreadsheet.Proofs.Dependency.Edges
import Spreadsheet.Proofs.Dependency.Expansion
import Spreadsheet.Proofs.Dependency.History
import Spreadsheet.Proofs.Dependency.Spread
import Spreadsheet.Proofs.Evaluation.DefinedNames
import Spreadsheet.Proofs.Evaluation.FirstError
import Spreadsheet.Proofs.Evaluation.InPlace
import Spreadsheet.Proofs.Formula.ErrorLiterals
import Spreadsheet.Proofs.Formula.QualifiedEnds
import Spreadsheet.Proofs.Formula.Recognition
import Spreadsheet.Proofs.Lookup.Exchange
import Spreadsheet.Proofs.Lookup.Hits
import Spreadsheet.Proofs.Lookup.Selection
import Spreadsheet.Proofs.Lookup.Wildcards
import Spreadsheet.Proofs.Machine.Evaluation
import Spreadsheet.Proofs.Machine.Walks
import Spreadsheet.Proofs.Text.LengthLimit
import Spreadsheet.Proofs.Text.Spacing
import Spreadsheet.Proofs.Workbook.Listings
import Spreadsheet.Proofs.Workbook.NameHistory
import Spreadsheet.Proofs.Workbook.NewSheets
