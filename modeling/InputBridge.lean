import InputBridge.Bus.Stuck
import InputBridge.Main
import InputBridge.Proofs.Bus.Alike
import InputBridge.Proofs.Bus.Calm
import InputBridge.Proofs.Bus.Frame
import InputBridge.Proofs.Bus.Plans
import InputBridge.Proofs.Bus.Quiet
import InputBridge.Proofs.Bus.ReadAccounts
import InputBridge.Proofs.Bus.Sayings
import InputBridge.Proofs.Bus.Tandem
import InputBridge.Proofs.Bus.Traced
import InputBridge.Proofs.Bus.View
import InputBridge.Proofs.Bus.WriteAccounts
import InputBridge.Proofs.CommandLine.Overrides
import InputBridge.Proofs.Config.MemberNames
import InputBridge.Proofs.Config.Readers
import InputBridge.Proofs.Config.RoundTrip
import InputBridge.Proofs.Config.Truncation
import InputBridge.Proofs.Config.Validity
import InputBridge.Proofs.Config.Violations
import InputBridge.Proofs.Device.Answers
import InputBridge.Proofs.Device.AtRest
import InputBridge.Proofs.Device.BoundedMotion
import InputBridge.Proofs.Device.ButtonBits
import InputBridge.Proofs.Device.CalmPolls
import InputBridge.Proofs.Device.KeyEdges
import InputBridge.Proofs.Device.MatrixScan
import InputBridge.Proofs.Device.MouseHalves
import InputBridge.Proofs.Device.MouseMotion
import InputBridge.Proofs.Device.MouseRuns
import InputBridge.Proofs.Device.Notes
import InputBridge.Proofs.Device.OnCalmBus
import InputBridge.Proofs.Device.OnPlainBus
import InputBridge.Proofs.Device.PenRange
import InputBridge.Proofs.Device.PenStates
import InputBridge.Proofs.Device.Pointers
import InputBridge.Proofs.Device.Polls
import InputBridge.Proofs.Device.PortVisits
import InputBridge.Proofs.Device.Reach
import InputBridge.Proofs.Device.Reports
import InputBridge.Proofs.Device.TandemPolls
import InputBridge.Proofs.Diagnostics.Agreement
import InputBridge.Proofs.Diagnostics.Checks
import InputBridge.Proofs.Diagnostics.Counts
import InputBridge.Proofs.Diagnostics.Courses
import InputBridge.Proofs.Diagnostics.Findings
import InputBridge.Proofs.Event.BoundedLines
import InputBridge.Proofs.Event.BoundedWriter
import InputBridge.Proofs.Event.Delivery
import InputBridge.Proofs.Event.Edges
import InputBridge.Proofs.Event.Groups
import InputBridge.Proofs.Event.JsonLines
import InputBridge.Proofs.Event.Verdicts
import InputBridge.Proofs.Json.Cuts
import InputBridge.Proofs.Json.Strings
import InputBridge.Proofs.Matrix.Cells
import InputBridge.Proofs.Matrix.Entities
import InputBridge.Proofs.Matrix.Geometry
import InputBridge.Proofs.Matrix.Lookup
import InputBridge.Proofs.Matrix.Markup
import InputBridge.Proofs.Matrix.Positions
import InputBridge.Proofs.Matrix.Views
import InputBridge.Proofs.Poller.Breakdown
import InputBridge.Proofs.Poller.Refinement
import InputBridge.Proofs.Session.Accounts
import InputBridge.Proofs.Session.BringUp
import InputBridge.Proofs.Session.ButtonEdges
import InputBridge.Proofs.Session.CalmTick
import InputBridge.Proofs.Session.IdleMachine
import InputBridge.Proofs.Session.Makeup
import InputBridge.Proofs.Session.Notes
import InputBridge.Proofs.Session.Records
import InputBridge.Proofs.Session.Scan
import InputBridge.Proofs.Session.Separation
import InputBridge.Proofs.Session.SetUp
import InputBridge.Proofs.Session.Settling
import InputBridge.Proofs.Session.Sinks
import InputBridge.Proofs.Session.Strobe
import InputBridge.Proofs.Session.Tick
import InputBridge.Proofs.Session.TipAndMotion
import InputBridge.Proofs.Session.Wiring
import InputBridge.Proofs.Text.Printable
