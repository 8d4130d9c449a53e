import BenchLog.Main
import BenchLog.Proofs.Independence
import BenchLog.Proofs.Workers
import BenchLog.Settings.Record
import BenchLog.Proofs.Decomposition
import BenchLog.Proofs.Session
import BenchLog.Proofs.WindowRefinement
import BenchLog.Proofs.FileTree
import BenchLog.Proofs.Delivery
import BenchLog.Proofs.Correspondence
import BenchLog.Proofs.Lines
import BenchLog.Proofs.Concatenation
import BenchLog.Proofs.Noise
import BenchLog.Proofs.Scan
import BenchLog.Proofs.FirstMalformed
import BenchLog.Proofs.Nearest
import BenchLog.Proofs.FloatRounding
import BenchLog.Proofs.FloatPacking
import BenchLog.Proofs.FloatArithmetic
import BenchLog.Proofs.FloatMeans
import BenchLog.Proofs.Cells
import BenchLog.Proofs.FiniteReport
import BenchLog.Proofs.OrderStatistics
import BenchLog.Proofs.Percentiles
import BenchLog.Proofs.Replication
import BenchLog.Proofs.Layering
import BenchLog.Proofs.IntegerLiteral
import BenchLog.Proofs.FloatDecimal
import BenchLog.Proofs.FloatLiteral
import BenchLog.Proofs.Words
import BenchLog.Proofs.EntryGrammar
import BenchLog.Proofs.SummaryGrammar
import BenchLog.Proofs.Clients
import BenchLog.Proofs.Encoding
import BenchLog.Proofs.FaultyLine
import BenchLog.Proofs.PartSizes
import BenchLog.Proofs.Merging
import BenchLog.Proofs.FirstPass
import BenchLog.Proofs.LiteralText
import BenchLog.Proofs.Trimming
import BenchLog.Proofs.LowerCase
import BenchLog.Proofs.DurationGrammar
import BenchLog.Proofs.Stopping
import BenchLog.Proofs.NonInterference
import BenchLog.Proofs.Numerals
import BenchLog.Proofs.JsonReading
import BenchLog.Proofs.CsvReading
import BenchLog.Proofs.MatchingDocuments
