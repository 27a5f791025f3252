import SheetFormula.Text.Case
import SheetFormula.Text.Blank
import SheetFormula.Text.Quoted
import SheetFormula.Decimal.Style
import SheetFormula.Rect
import SheetFormula.ErrorCode
import SheetFormula.Value
import SheetFormula.Token.Lexer
import SheetFormula.Expr.Parser
import SheetFormula.Formula
import SheetFormula.Expr.Eval
import SheetFormula.Builtin
import SheetFormula.Engine
import SheetFormula.Proofs.Grammar
import SheetFormula.Proofs.Grammar.Outcome
import SheetFormula.Proofs.Grammar.Soundness
import SheetFormula.Proofs.Grammar.Completeness
import SheetFormula.Proofs.Grammar.Acceptance
import SheetFormula.Proofs.Nesting
import SheetFormula.Proofs.Spelling
import SheetFormula.Proofs.Nesting.Highest
import SheetFormula.Proofs.Runs
import SheetFormula.Proofs.Order
import SheetFormula.Proofs.Mentions
import SheetFormula.Proofs.Watch
import SheetFormula.Proofs.Grammar.Threshold
import SheetFormula.Proofs.Computed
import SheetFormula.Proofs.Origin
import SheetFormula.Proofs.Finite
import SheetFormula.Proofs.Boundary
import SheetFormula.Proofs.Partition
import SheetFormula.Proofs.Spacing
import SheetFormula.Proofs.CellLabel
import SheetFormula.Proofs.CellLabel.Words
import SheetFormula.Proofs.Clipping
import SheetFormula.Proofs.Sharing
import SheetFormula.Proofs.Sharing.Session
import SheetFormula.Proofs.Dependence
import SheetFormula.Proofs.WellFormed
import SheetFormula.Proofs.Layers
import SheetFormula.Proofs.CellLabel.Normal
import SheetFormula.Proofs.Quotation
import SheetFormula.Proofs.Rectangle
import SheetFormula.Proofs.Block
import SheetFormula.Proofs.Comparison
import SheetFormula.Proofs.Power
import SheetFormula.Proofs.Aggregation
import SheetFormula.Proofs.Occupancy
import SheetFormula.Proofs.Intersection
import SheetFormula.Proofs.Trimming
import SheetFormula.Proofs.Messages
import SheetFormula.Proofs.Truncation
import SheetFormula.Proofs.Splitting
import SheetFormula.Proofs.Machine
import SheetFormula.Proofs.Machine.Bookkeeping
import SheetFormula.Proofs.Faults
