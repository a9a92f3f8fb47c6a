import ChartBinding.Chart.Tour
import ChartBinding.Json.Numbered
import ChartBinding.Json.Printer
import ChartBinding.PlainCompiler
import ChartBinding.Registrar
import ChartBinding.Script
import ChartBinding.Json.Parser
import ChartBinding.Proofs.Account
import ChartBinding.Proofs.Book
import ChartBinding.Proofs.Course
import ChartBinding.Proofs.SingleBatch
import ChartBinding.Proofs.Session
import ChartBinding.Proofs.Replay
import ChartBinding.Proofs.Pipeline
import ChartBinding.Proofs.Registration
import ChartBinding.Proofs.Stations
import ChartBinding.Proofs.Walk
import ChartBinding.Proofs.Record
import ChartBinding.Proofs.Readings
import ChartBinding.Proofs.ScaleForms
import ChartBinding.Proofs.Settling
import ChartBinding.Proofs.Rereading
import ChartBinding.Proofs.PassThrough
import ChartBinding.Proofs.Inferences
import ChartBinding.Proofs.Independence
import ChartBinding.Proofs.Handover
import ChartBinding.Proofs.Levels
import ChartBinding.Proofs.Inventory
import ChartBinding.Proofs.Nesting
import ChartBinding.Proofs.Scopes
import ChartBinding.Proofs.Documents
import ChartBinding.Proofs.DerivedNames
import ChartBinding.Proofs.ColumnTypes
import ChartBinding.Proofs.RowFields
import ChartBinding.Proofs.LoadingOrder
import ChartBinding.Proofs.Brackets
import ChartBinding.Proofs.Openings
import ChartBinding.Proofs.Unmapped
import ChartBinding.Proofs.Copies
import ChartBinding.Proofs.CellSized
import ChartBinding.Proofs.Contexts
