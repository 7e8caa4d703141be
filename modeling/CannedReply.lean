import CannedReply.CommandLine.Effective
import CannedReply.CommandLine.Flag
import CannedReply.CommandLine.Parser
import CannedReply.CommandLine.PortValue
import CannedReply.CommandLine.Usage
import CannedReply.Config.Basic
import CannedReply.Config.Decode
import CannedReply.Config.Draft
import CannedReply.Config.HostProblem
import CannedReply.Config.Load
import CannedReply.Config.Places
import CannedReply.Http.Answer
import CannedReply.Http.Body
import CannedReply.Http.Exchange
import CannedReply.Http.Grammar
import CannedReply.Http.Head
import CannedReply.Http.Intake
import CannedReply.Http.Reply
import CannedReply.Http.Request
import CannedReply.Http.Response
import CannedReply.Http.Scanner
import CannedReply.Http.Target
import CannedReply.Log.Directive
import CannedReply.Log.Event
import CannedReply.Log.Filter
import CannedReply.Log.Level
import CannedReply.Machine.Failure
import CannedReply.Machine.Files
import CannedReply.Machine.Network
import CannedReply.Main
import CannedReply.Net.Address
import CannedReply.Net.AddressReader
import CannedReply.Net.HostName
import CannedReply.Net.Listener
import CannedReply.Number.Binary64
import CannedReply.Number.Reading
import CannedReply.Number.Shortest
import CannedReply.Program.Launch
import CannedReply.Program.Plan
import CannedReply.Program.Process
import CannedReply.Program.Run
import CannedReply.Proofs.CommandLine.Layers
import CannedReply.Proofs.Config.Draft
import CannedReply.Proofs.Config.Loading
import CannedReply.Proofs.Config.Settings
import CannedReply.Proofs.Http.OneAnswer
import CannedReply.Proofs.Http.Reading
import CannedReply.Proofs.Http.SameAnswer
import CannedReply.Proofs.Http.Scanning
import CannedReply.Proofs.Http.Wire
import CannedReply.Proofs.Log.Filter
import CannedReply.Proofs.Program.Turns
import CannedReply.Proofs.Program.BrokenStart
import CannedReply.Proofs.Server.EveryClient
import CannedReply.Proofs.Server.Feeds
import CannedReply.Proofs.Server.Handlers
import CannedReply.Proofs.Server.Happens
import CannedReply.Proofs.Server.Independence
import CannedReply.Proofs.Server.OnlyClient
import CannedReply.Proofs.Server.Order
import CannedReply.Proofs.Server.Result
import CannedReply.Proofs.Server.WellFormed
import CannedReply.Proofs.Text.Reader
import CannedReply.Proofs.Toml.Distinct
import CannedReply.Proofs.Toml.Keys
import CannedReply.Proofs.Toml.Literals
import CannedReply.Proofs.Toml.Statements
import CannedReply.Proofs.Toml.Tables
import CannedReply.Proofs.Toml.Written
import CannedReply.Server.AcceptLoop
import CannedReply.Server.Connection
import CannedReply.Server.ConnectionId
import CannedReply.Server.History
import CannedReply.Server.Journal
import CannedReply.Server.Readiness
import CannedReply.Server.Script
import CannedReply.Server.State
import CannedReply.Server.Step
import CannedReply.Text.Blank
import CannedReply.Text.Bytes
import CannedReply.Text.Extending
import CannedReply.Text.Instant
import CannedReply.Text.Numeral
import CannedReply.Text.Places
import CannedReply.Text.Quoted
import CannedReply.Text.Ranges
import CannedReply.Text.Reader
import CannedReply.Text.Unprintable
import CannedReply.Text.Visible
import CannedReply.Text.Word
import CannedReply.Toml.DateTime
import CannedReply.Toml.Diagnostic
import CannedReply.Toml.Document
import CannedReply.Toml.Number
import CannedReply.Toml.Parser
import CannedReply.Toml.Reader
import CannedReply.Toml.Text
import CannedReply.Toml.Writer
import CannedReply.Proofs.Program.Course
import CannedReply.Proofs.Program.ExitStatus
import CannedReply.Proofs.Program.LogSetting
import CannedReply.Proofs.Net.Binding
import CannedReply.Proofs.Server.PortHeld
import CannedReply.Proofs.CommandLine.Attached
import CannedReply.Proofs.Program.Endpoint
import CannedReply.Proofs.Program.Visits
import CannedReply.Proofs.Http.Taking
import CannedReply.Proofs.Http.Pieces
import CannedReply.Proofs.Http.EarlyEnd
import CannedReply.Proofs.Config.Kept
import CannedReply.Proofs.Server.Ending
import CannedReply.Proofs.Text.Numeral
import CannedReply.Proofs.Net.AddressText
import CannedReply.CommandLine.Mention
import CannedReply.Proofs.CommandLine.Spelling
import CannedReply.Proofs.CommandLine.Ports
import CannedReply.Config.Report
import CannedReply.Proofs.Text.Quoted
import CannedReply.Proofs.Config.Report
import CannedReply.Text.Utf8
import CannedReply.Proofs.Text.Utf8
import CannedReply.Proofs.Config.Files
import CannedReply.Server.Numbering
import CannedReply.Proofs.Server.Numbering
import CannedReply.Net.Stages
import CannedReply.Proofs.Program.Listening
import CannedReply.Text.Lines
import CannedReply.Proofs.Text.Lines
import CannedReply.Proofs.Http.Shown
import CannedReply.Proofs.Server.Lines
import CannedReply.Proofs.Program.Lines
import CannedReply.Proofs.Server.AcceptLoop
import CannedReply.Proofs.Server.Attempts
