import TimedRelease.Address
import TimedRelease.Call
import TimedRelease.Command.Action
import TimedRelease.Command.Basic
import TimedRelease.Command.Context
import TimedRelease.Command.Flags
import TimedRelease.Command.Line
import TimedRelease.Command.Query
import TimedRelease.Condition
import TimedRelease.Config.Basic
import TimedRelease.Config.Reader
import TimedRelease.Config.Reference
import TimedRelease.Dialogue
import TimedRelease.Digest.Keccak
import TimedRelease.Draft.Basic
import TimedRelease.Draft.GasPrice
import TimedRelease.Editor.Basic
import TimedRelease.Editor.Release
import TimedRelease.Http
import TimedRelease.Http.Message
import TimedRelease.Json.Printer
import TimedRelease.Json.Reader
import TimedRelease.Json.Value
import TimedRelease.Main
import TimedRelease.Number.Binary64
import TimedRelease.Number.Word256
import TimedRelease.Payload
import TimedRelease.Poller.Basic
import TimedRelease.Poller.Snapshot
import TimedRelease.Poller.Timeline
import TimedRelease.Poller.Timer
import TimedRelease.Quantity.Basic
import TimedRelease.Quantity.Denomination
import TimedRelease.Rpc
import TimedRelease.Schema
import TimedRelease.Service.HttpScheduler
import TimedRelease.Service.Implementation
import TimedRelease.Service.NodeAccount
import TimedRelease.Session
import TimedRelease.Text.Blank
import TimedRelease.Text.CaseTable
import TimedRelease.Text.LowerCase
import TimedRelease.Text.Numeral
import TimedRelease.Toml.Datetime
import TimedRelease.Toml.Quoted
import TimedRelease.Toml.Reader
import TimedRelease.Toml.Scalar
import TimedRelease.Toml.Tree
import TimedRelease.Toml.Value
import TimedRelease.Tracker
import TimedRelease.Url
import TimedRelease.Wire.Codec
import TimedRelease.Wire.Record
import TimedRelease.Proofs.Editor.Change
import TimedRelease.Proofs.Editor.Announcement
import TimedRelease.Proofs.Editor.Publication
import TimedRelease.Proofs.Text.Words
import TimedRelease.Proofs.Poller.Run
import TimedRelease.Proofs.Quantity.Grammar
import TimedRelease.Proofs.Poller.Changes
import TimedRelease.Proofs.Poller.Script
import TimedRelease.Proofs.Poller.Numbering
import TimedRelease.Proofs.Poller.Deliveries
import TimedRelease.Proofs.Poller.IssueOrder
import TimedRelease.Proofs.Poller.Cancellation
import TimedRelease.Proofs.Poller.Dates
import TimedRelease.Proofs.Tracker.Kinds
import TimedRelease.Proofs.Tracker.Interleaving
import TimedRelease.Proofs.Tracker.Stopping
import TimedRelease.Proofs.Dialogue.Yields
import TimedRelease.Proofs.Payload.RawText
import TimedRelease.Proofs.Session.Calls
import TimedRelease.Proofs.Session.Stages
import TimedRelease.Proofs.Session.Scheduling
import TimedRelease.Proofs.Session.Pasting
import TimedRelease.Proofs.Session.Composing
import TimedRelease.Proofs.Text.Numerals
import TimedRelease.Proofs.Json.Strings
import TimedRelease.Proofs.Json.Values
import TimedRelease.Proofs.Wire.Values
import TimedRelease.Proofs.Wire.Messages
import TimedRelease.Proofs.Json.Texts
import TimedRelease.Proofs.Shell.Words
import TimedRelease.Proofs.Draft.Fields
import TimedRelease.Proofs.Draft.Request
import TimedRelease.Proofs.Command.SignRequest
import TimedRelease.Proofs.Editor.Gate
import TimedRelease.Proofs.Quantity.Units
import TimedRelease.Proofs.Draft.GasPrices
import TimedRelease.Proofs.Session.Updates
import TimedRelease.Proofs.Wire.Records
import TimedRelease.Proofs.Service.Answers
import TimedRelease.Proofs.Command.Condition
import TimedRelease.Proofs.Command.Network
import TimedRelease.Proofs.Dialogue.Serving
import TimedRelease.Proofs.Command.Told
import TimedRelease.Proofs.Command.Schedule
import TimedRelease.Proofs.Command.Compose
import TimedRelease.Proofs.Poller.Incomparable
import TimedRelease.Proofs.Text.Letters
import TimedRelease.Proofs.Address.Checksum
import TimedRelease.Proofs.Poller.Ticks
import TimedRelease.Proofs.Poller.Arrivals
import TimedRelease.Proofs.Tracker.Texts
import TimedRelease.Proofs.Tracker.Answers
import TimedRelease.Proofs.Config.Consistent
import TimedRelease.Proofs.Config.Sections
import TimedRelease.Proofs.Config.Accepted
import TimedRelease.Proofs.Editor.Modes
import TimedRelease.Proofs.Wire.Conditions
import TimedRelease.Proofs.Service.Posts
import TimedRelease.Proofs.Draft.PriceSteps
import TimedRelease.Proofs.Draft.Selection
import TimedRelease.Proofs.Config.References
import TimedRelease.Proofs.Config.Resolution
import TimedRelease.Proofs.Quantity.Shorthand
import TimedRelease.Proofs.Quantity.Literals
import TimedRelease.Proofs.Editor.Reentry
import TimedRelease.Proofs.Editor.Echo
import TimedRelease.Proofs.Draft.Validation
import TimedRelease.Proofs.Draft.Accounts
import TimedRelease.Proofs.Schema.Faults
import TimedRelease.Proofs.Service.SchedulerTables
import TimedRelease.Proofs.Quantity.Renderings
import TimedRelease.Proofs.Editor.TypedBack
import TimedRelease.Proofs.Text.Blanks
import TimedRelease.Proofs.Quantity.Surroundings
import TimedRelease.Proofs.Poller.Timetable
import TimedRelease.Proofs.Text.Fields
import TimedRelease.Proofs.Calendar.Days
import TimedRelease.Proofs.Calendar.Texts
