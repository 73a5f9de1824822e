import Abacus.Arithmetic
import Abacus.CommandLine.Answer
import Abacus.CommandLine.Request
import Abacus.CommandLine.Usage
import Abacus.Cursor
import Abacus.Decimal
import Abacus.Decimal.Display
import Abacus.Decimal.Double
import Abacus.Decimal.Shortest
import Abacus.Display.Color
import Abacus.Display.Fit
import Abacus.Display.Line
import Abacus.Display.Markup
import Abacus.Display.Nesting
import Abacus.Display.Style
import Abacus.Display.Table
import Abacus.Failure
import Abacus.Json.Basic
import Abacus.Json.Display
import Abacus.Json.Reader
import Abacus.Json.Writer
import Abacus.Limits
import Abacus.Limits.Environment
import Abacus.Literal
import Abacus.Literal.Complaint
import Abacus.Literal.Lexeme
import Abacus.Literal.Misplaced
import Abacus.Machine
import Abacus.Machine.Walk
import Abacus.Main
import Abacus.Numeral
import Abacus.Outcome
import Abacus.Phrase
import Abacus.Proofs.Evaluation
import Abacus.Proofs.Move
import Abacus.Report.Caret
import Abacus.Report.Diagnosis
import Abacus.Report.Misfit
import Abacus.Report.Summary
import Abacus.Report.Wording
import Abacus.Session
import Abacus.Text.Blank
import Abacus.Text.Cased
import Abacus.Text.CellWidth
import Abacus.Text.CodeRange
import Abacus.Text.Digit
import Abacus.Text.Hex
import Abacus.Text.LetterCase
import Abacus.Text.Lines
import Abacus.Text.Printable
import Abacus.Text.Quoted
import Abacus.Text.Utf8
import Abacus.Proofs.Reading
import Abacus.Proofs.Spelling
import Abacus.Proofs.Language
import Abacus.Proofs.ZeroDivision
import Abacus.Proofs.Faults
import Abacus.Proofs.Locality
import Abacus.Proofs.ViablePrefix
import Abacus.Proofs.Depth
import Abacus.Proofs.Reports
import Abacus.Proofs.Permissive
import Abacus.Proofs.Simulation
import Abacus.Proofs.TokenSequence
import Abacus.Proofs.Markup
import Abacus.Proofs.Caret
import Abacus.Proofs.Escaping
import Abacus.Proofs.Message
import Abacus.Proofs.Diagnosis
import Abacus.Proofs.Frame
import Abacus.Proofs.Substitution
import Abacus.Proofs.Addition
import Abacus.Proofs.Trace
import Abacus.Proofs.Positions
import Abacus.Proofs.JsonQuotation
import Abacus.Proofs.JsonNumbers
import Abacus.Proofs.JsonRoundTrip
import Abacus.Proofs.JsonCharacters
import Abacus.Proofs.Records
import Abacus.Proofs.Verbatim
import Abacus.Proofs.OptionWords
import Abacus.Proofs.InputLines
import Abacus.Proofs.Dialogue
import Abacus.Proofs.FileBytes
import Abacus.Proofs.Batch
import Abacus.Proofs.Rules
import Abacus.Proofs.Operands
import Abacus.Proofs.Magnitude
import Abacus.Proofs.ExpressionLines
import Abacus.Proofs.Division
import Abacus.Proofs.Quotation
import Abacus.Proofs.Numerals
import Abacus.Proofs.EnvironmentLimits
import Abacus.Proofs.LimitSources
import Abacus.Proofs.LosslessCursor
import Abacus.Proofs.SourceLine
import Abacus.Proofs.Fitting
import Abacus.Proofs.TableLayout
import Abacus.Proofs.SummaryTexts
import Abacus.Proofs.SummaryTable
