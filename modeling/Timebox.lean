import Timebox.Alarm.Bank
import Timebox.Alarm.Vigil
import Timebox.Alarm.Watch
import Timebox.Arguments.Basic
import Timebox.Arguments.Program
import Timebox.Bindings
import Timebox.Calendar
import Timebox.Catalogue.Basic
import Timebox.Catalogue.BuiltIn
import Timebox.Catalogue.Kind
import Timebox.Catalogue.Kinds.Annotation
import Timebox.Catalogue.Kinds.Core
import Timebox.Catalogue.Kinds.Model
import Timebox.Catalogue.Kinds.Plain
import Timebox.Catalogue.Kinds.Runner
import Timebox.Catalogue.Kinds.Service
import Timebox.Catalogue.Outside
import Timebox.CommandLine.Flag
import Timebox.CommandLine.Manual
import Timebox.CommandLine.Options
import Timebox.CommandLine.Report
import Timebox.CommandLine.Request
import Timebox.CommandLine.Setting
import Timebox.CommandLine.Usage
import Timebox.Deadline
import Timebox.Diary.Basic
import Timebox.Diary.Filling
import Timebox.Diary.Narrative
import Timebox.Diary.Template
import Timebox.Duration
import Timebox.Exclusion
import Timebox.Expansion
import Timebox.Fault.Basic
import Timebox.Fault.Reason
import Timebox.Journey.Basic
import Timebox.Journey.Body
import Timebox.Journey.Step
import Timebox.Json.Basic
import Timebox.Json.Decode
import Timebox.Json.Encode
import Timebox.Json.Value
import Timebox.Loading
import Timebox.Main
import Timebox.Markup.Block
import Timebox.Markup.Cursor
import Timebox.Markup.Date
import Timebox.Markup.Document
import Timebox.Markup.Lexer
import Timebox.Markup.Node
import Timebox.Markup.Plain
import Timebox.Markup.Quoted
import Timebox.Markup.Token
import Timebox.Markup.Typing
import Timebox.Notice.Basic
import Timebox.Notice.Panel
import Timebox.Number.Binary64
import Timebox.Number.Rounded
import Timebox.Number.Shortest
import Timebox.Profile
import Timebox.Proofs.Account
import Timebox.Proofs.Course
import Timebox.Proofs.Deeds
import Timebox.Proofs.Isolation
import Timebox.Proofs.Observation
import Timebox.Proofs.Outline
import Timebox.Proofs.Progress
import Timebox.Proofs.Release
import Timebox.Proofs.Reports
import Timebox.Proofs.Restoration
import Timebox.Proofs.Return
import Timebox.Proofs.Teardown
import Timebox.Proofs.Undisturbed
import Timebox.Proofs.Waiting
import Timebox.Run.Execute
import Timebox.Run.Plan
import Timebox.Run.Session
import Timebox.Run.Stage
import Timebox.Scenario
import Timebox.Telemetry.Event
import Timebox.Telemetry.Outlet
import Timebox.Telemetry.Tally
import Timebox.Text.Blank
import Timebox.Text.Case
import Timebox.Text.Cut
import Timebox.Text.Digit
import Timebox.Text.Integer
import Timebox.Text.Lines
import Timebox.Text.Printable
import Timebox.Text.Quoted
import Timebox.Timeline
import Timebox.Validation.Integer
import Timebox.Validation.Issue
import Timebox.Validation.Record
import Timebox.Value.Basic
import Timebox.Value.Key
import Timebox.Value.Number
import Timebox.Value.Text
import Timebox.Waiter
import Timebox.Proofs.Itinerary
import Timebox.Proofs.Idling
import Timebox.Proofs.Audience
import Timebox.Proofs.Announcements
import Timebox.Proofs.Blocks
import Timebox.Proofs.Signal
import Timebox.Proofs.Tokens
import Timebox.Proofs.Watchdog
import Timebox.Proofs.Ascii
import Timebox.Proofs.EventLine
import Timebox.Proofs.Printout
import Timebox.Proofs.Watching
import Timebox.Proofs.Vigil
import Timebox.Proofs.Awakening
import Timebox.Proofs.Timeouts
import Timebox.Proofs.Overrides
import Timebox.Proofs.Spellings
import Timebox.Proofs.Templates
import Timebox.Proofs.Resolution
import Timebox.Proofs.Shape
import Timebox.Proofs.Cooperation
import Timebox.Proofs.Budgets
import Timebox.Proofs.Seams
import Timebox.Proofs.Exclusions
import Timebox.Proofs.Settings
import Timebox.Proofs.Decimals
import Timebox.Proofs.Layers
import Timebox.Proofs.Numerals
import Timebox.Proofs.IntegerArguments
import Timebox.Proofs.ReasonCodes
import Timebox.Proofs.Tallies
import Timebox.Proofs.Console
import Timebox.Proofs.Containment
