import StageGate.Clarity.Dimension
import StageGate.Clarity.Score
import StageGate.Clarity.ScoreList
import StageGate.Clarity.Word
import StageGate.Command.Basic
import StageGate.Command.Report
import StageGate.Command.Run
import StageGate.CommandLine.Mark
import StageGate.CommandLine.Request
import StageGate.CommandLine.Run
import StageGate.Decimal.Binary64
import StageGate.Decimal.Shortest
import StageGate.Decimal.Whole
import StageGate.Disk.Basic
import StageGate.Disk.Lemmas
import StageGate.Disk.Path
import StageGate.Disk.Reach
import StageGate.Failure
import StageGate.Journal
import StageGate.Json.Basic
import StageGate.Json.Number
import StageGate.Json.Printer
import StageGate.Json.Reader
import StageGate.Layout
import StageGate.Main
import StageGate.Mode
import StageGate.Pipeline
import StageGate.Project.Basic
import StageGate.Project.Document
import StageGate.Project.Entry
import StageGate.Project.Fault
import StageGate.Project.Guidance
import StageGate.Project.Refusal
import StageGate.Project.Transition
import StageGate.Proofs.Artifacts
import StageGate.Proofs.Clarity.Average
import StageGate.Proofs.Clarity.Bound
import StageGate.Proofs.Clarity.Segment
import StageGate.Proofs.Clarity.Word
import StageGate.Proofs.Command.Change
import StageGate.Proofs.Command.Run
import StageGate.Proofs.Command.Step
import StageGate.Proofs.Disk.Folder
import StageGate.Proofs.Disk.Making
import StageGate.Proofs.Gate
import StageGate.Proofs.History
import StageGate.Proofs.Json.Numeral
import StageGate.Proofs.Json.RoundTrip
import StageGate.Proofs.Milestones
import StageGate.Proofs.Project.RoundTrip
import StageGate.Proofs.Session
import StageGate.Proofs.Shape
import StageGate.Proofs.Store.Basic
import StageGate.Proofs.Store.RoundTrip
import StageGate.Proofs.Text.Digits
import StageGate.Proofs.Text.Segments
import StageGate.Proofs.Time.Timestamp
import StageGate.Screen
import StageGate.Session
import StageGate.Settings.Basic
import StageGate.Settings.Fault
import StageGate.Settings.Load
import StageGate.Stage
import StageGate.Status
import StageGate.Store
import StageGate.Text.Blank
import StageGate.Text.CaseTable
import StageGate.Text.Front
import StageGate.Text.LowerCase
import StageGate.Text.Quoted
import StageGate.Text.Range
import StageGate.Text.ShownTable
import StageGate.Text.Split
import StageGate.Time.Date
import StageGate.Time.Instant
import StageGate.Time.Timestamp
import StageGate.Toml.Basic
import StageGate.Toml.Document
import StageGate.Toml.Reader
import StageGate.Toml.Scalar
import StageGate.Toml.Text
import StageGate.Proofs.Json.Cut
import StageGate.Proofs.Json.Fields
import StageGate.Proofs.Json.Written
import StageGate.Proofs.Store.Torn
import StageGate.Proofs.Command.Perform
import StageGate.Proofs.Disk.Growth
import StageGate.Proofs.Refused
import StageGate.Proofs.Results
import StageGate.Proofs.Memory
import StageGate.Proofs.Clients
import StageGate.Proofs.Enabled
import StageGate.Proofs.Monotone
import StageGate.Proofs.Rounds
import StageGate.Proofs.Chronology
import StageGate.Proofs.Project.Reading
import StageGate.Proofs.Project.Schema
import StageGate.Proofs.Judgement
import StageGate.Proofs.Twins
import StageGate.Proofs.Clarity.Mean
import StageGate.Proofs.Clarity.Joined
import StageGate.Proofs.Clarity.Account
import StageGate.Proofs.Project.Frame
import StageGate.Proofs.Project.InPlace
import StageGate.Proofs.Validation
import StageGate.Proofs.Store.UnknownStage
import StageGate.Proofs.Ceiling
import StageGate.Proofs.Disk.Tree
import StageGate.Proofs.Creation
import StageGate.Proofs.Toml.Keys
import StageGate.Proofs.Settings
import StageGate.Clarity.Bytes
import StageGate.Proofs.Clarity.Bytes
