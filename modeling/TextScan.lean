import TextScan.Literal.Integer
import TextScan.Literal.Decimal
import TextScan.Literal.Bounded
import TextScan.Literal.Counted
import TextScan.Floating.Shortest
import TextScan.Delimiter
import TextScan.Text
import TextScan.Splitting
import TextScan.Stream.Setup
import TextScan.Stream.Storage
import TextScan.Main
import TextScan.Proofs.Stream.Fill
import TextScan.Proofs.Stream.Settle
import TextScan.Proofs.ByteWalk
import TextScan.Proofs.Delimiter.Settling
import TextScan.Proofs.Stream.Chunking
import TextScan.Proofs.CharAligned
import TextScan.Proofs.Delimiter.Alignment
import TextScan.Proofs.Stream.Simulation
import TextScan.Proofs.Stream.Text
import TextScan.Proofs.Stream.Conservation
import TextScan.Proofs.Stream.InPlace
import TextScan.Proofs.Stream.History
import TextScan.Proofs.ColumnSums.Reference
import TextScan.Proofs.Split
import TextScan.Proofs.ColumnSums.Lines
import TextScan.Proofs.ColumnSums.Agreement
import TextScan.Proofs.Floating.Nearest
import TextScan.Proofs.Floating.Amounts
import TextScan.Proofs.Literal.Grammar
import TextScan.Proofs.Literal.IntegerRange
import TextScan.Proofs.Literal.Integer
import TextScan.Proofs.Literal.DigitRun
import TextScan.Proofs.Literal.Scan
import TextScan.Proofs.Literal.Decimal
import TextScan.Proofs.Exhaustion
import TextScan.Proofs.Reassembly
import TextScan.Proofs.Stream.Reads
import TextScan.Proofs.Stream.Searches
import TextScan.Proofs.Stream.Growth
import TextScan.Proofs.Splitting
import TextScan.Proofs.Joining
import TextScan.Proofs.Utf8.Characters
import TextScan.Proofs.ByteClasses
import TextScan.Proofs.LineBreaks
import TextScan.Guarded
import TextScan.Proofs.Guarded
import TextScan.Proofs.Widening
import TextScan.Proofs.Literal.Accumulation
import TextScan.Proofs.Literal.NormalForm
import TextScan.Proofs.Literal.DigitPush
import TextScan.Proofs.Literal.Nearness
import TextScan.Proofs.Literal.NotANumber
import TextScan.Proofs.Literal.Mantissa
import TextScan.Proofs.Literal.Collapse
import TextScan.Proofs.Literal.Counters
