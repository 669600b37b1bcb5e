import DramSweep.Report.Dump
import DramSweep.Workload.Load
import DramSweep.Workload.Order
import DramSweep.Workload.Table
import DramSweep.Analysis
import DramSweep.Simulation.Launcher
import DramSweep.Simulation.Pool
import DramSweep.Plan.Load
import DramSweep.Program
import DramSweep.Program.Footprint
import DramSweep.Main
import DramSweep.Proofs.Report.AcceptedLines
import DramSweep.Proofs.Report.IndexedTables
import DramSweep.Proofs.Report.ScalarTables
import DramSweep.Proofs.Report.DerivedMetrics
import DramSweep.Proofs.Workload.Loading
import DramSweep.Proofs.Report.WeightedSpeedup
import DramSweep.Proofs.Workload.Normalization
import DramSweep.Proofs.Workload.References
import DramSweep.Proofs.Workload.Availability
import DramSweep.Proofs.CsvReader
import DramSweep.Proofs.Workload.TableReading
import DramSweep.Proofs.Analysis.Gathering
import DramSweep.Proofs.FileTree.Changes
import DramSweep.Proofs.SheetFolder
import DramSweep.Proofs.Analysis.Publishing
import DramSweep.Proofs.Report.Independence
import DramSweep.Proofs.Workload.Isolation
import DramSweep.Proofs.Report.CoreOrder
import DramSweep.Proofs.Report.SharedReference
import DramSweep.Proofs.Report.OpenedReferences
import DramSweep.Proofs.SheetRequests
import DramSweep.Proofs.Workload.Holding
import DramSweep.Proofs.Report.Latency
import DramSweep.Proofs.Workload.LatencyTable
import DramSweep.Proofs.FileTree.Query
import DramSweep.Proofs.Analysis.Opening
import DramSweep.Proofs.Simulation.Enumeration
import DramSweep.Proofs.FileTree.Components
import DramSweep.Proofs.FileTree.Grounded
import DramSweep.Proofs.Simulation.SavedLists
import DramSweep.Proofs.Simulation.Pool
import DramSweep.Proofs.Simulation.Outcomes
import DramSweep.Proofs.Simulation.Outputs
import DramSweep.Proofs.Report.Matching
import DramSweep.Proofs.Workload.Quotients
import DramSweep.Proofs.Report.DumpReading
import DramSweep.Proofs.Plan.Layering
import DramSweep.Proofs.Report.DerivedValues
import DramSweep.Proofs.Workload.NormalizedReports
import DramSweep.Proofs.Workload.LoadOrder
import DramSweep.Proofs.Workload.CallOrder
import DramSweep.Proofs.Analysis.LeftOut
import DramSweep.Proofs.FileTree.Renaming
import DramSweep.Proofs.FileTree.Additions
import DramSweep.Proofs.Simulation.ListNames
import DramSweep.Proofs.Number.Tokens
import DramSweep.Proofs.Report.IndexEncoding
