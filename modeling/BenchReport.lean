import BenchReport.Main
import BenchReport.Proofs.ReportKept
import BenchReport.Proofs.ReportRoundTrip
import BenchReport.Proofs.Transcript
import BenchReport.World
import BenchReport.Proofs.Dates
import BenchReport.Proofs.Delivery
import BenchReport.Proofs.InstantText
import BenchReport.Proofs.OutputsInjective
import BenchReport.Proofs.Nearest
import BenchReport.Proofs.Rounding
import BenchReport.Proofs.ShortestDecimal
import BenchReport.Proofs.DecimalNumeral
import BenchReport.Proofs.DecimalTies
import BenchReport.Proofs.DerivedTimes
import BenchReport.Proofs.Findings
import BenchReport.Proofs.SharedLine
import BenchReport.Proofs.LineEndings
import BenchReport.Proofs.Interchange
import BenchReport.Proofs.Renumbering
import BenchReport.Proofs.SilentOutputs
import BenchReport.Proofs.Rerun
import BenchReport.Proofs.LimitedSinks
import BenchReport.Proofs.TableCells
import BenchReport.Proofs.TimeOrder
import BenchReport.Proofs.EnsuredParent
import BenchReport.Proofs.Arguments
import BenchReport.Proofs.ShownLog
import BenchReport.Proofs.ExactNumeral
