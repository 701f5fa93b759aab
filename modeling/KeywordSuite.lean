import KeywordSuite.Browser.Automation
import KeywordSuite.Browser.Flavor
import KeywordSuite.Case.Duration
import KeywordSuite.Case.Result
import KeywordSuite.CommandLine.Help
import KeywordSuite.CommandLine.Options
import KeywordSuite.CommandLine.Overrides
import KeywordSuite.CommandLine.Run
import KeywordSuite.CommandLine.Screen
import KeywordSuite.Definition.Document
import KeywordSuite.Definition.Workbook
import KeywordSuite.Entries
import KeywordSuite.Fault.Basic
import KeywordSuite.Fault.Checked
import KeywordSuite.Fields
import KeywordSuite.Host.Basic
import KeywordSuite.Host.Files
import KeywordSuite.Host.Path
import KeywordSuite.Json.Reader
import KeywordSuite.Json.Writer
import KeywordSuite.Keyword.Browser
import KeywordSuite.Keyword.Context
import KeywordSuite.Keyword.Dispatch
import KeywordSuite.Keyword.Procedure
import KeywordSuite.Keyword.Registry
import KeywordSuite.Log.Event
import KeywordSuite.Log.Format
import KeywordSuite.Log.Journal
import KeywordSuite.Log.Level
import KeywordSuite.Log.Lines
import KeywordSuite.Log.Record
import KeywordSuite.Log.Setup
import KeywordSuite.Log.Template
import KeywordSuite.Mail.Attachments
import KeywordSuite.Mail.Delivery
import KeywordSuite.Mail.Summary
import KeywordSuite.Main
import KeywordSuite.Number.Decimal
import KeywordSuite.Number.Layout
import KeywordSuite.Number.Reading
import KeywordSuite.Number.Rounded
import KeywordSuite.Program
import KeywordSuite.Proofs.Number.Milliseconds
import KeywordSuite.Proofs.Procedures
import KeywordSuite.Proofs.Actions
import KeywordSuite.Proofs.Session.Registry
import KeywordSuite.Proofs.Protocol
import KeywordSuite.Proofs.Surroundings
import KeywordSuite.Rehearsal.Basic
import KeywordSuite.Rehearsal.Description
import KeywordSuite.Rehearsal.Run
import KeywordSuite.Rehearsal.Script
import KeywordSuite.Rehearsal.Tagged
import KeywordSuite.Report.Call
import KeywordSuite.Report.Html
import KeywordSuite.Report.HtmlCase
import KeywordSuite.Report.HtmlPage
import KeywordSuite.Report.Markup
import KeywordSuite.Report.Screenshots
import KeywordSuite.Report.StyleSheet
import KeywordSuite.Sanitizer.Basic
import KeywordSuite.Sanitizer.Pattern
import KeywordSuite.Session.Call
import KeywordSuite.Session.Config
import KeywordSuite.Session.Registry
import KeywordSuite.Session.Table
import KeywordSuite.Settings.Basic
import KeywordSuite.Settings.EnvironmentFile
import KeywordSuite.Settings.Sources
import KeywordSuite.Suite.Case
import KeywordSuite.Suite.Operation
import KeywordSuite.Suite.Run
import KeywordSuite.Suite.Surroundings
import KeywordSuite.Text.Blank
import KeywordSuite.Text.Lines
import KeywordSuite.Text.Lower
import KeywordSuite.Text.Printable
import KeywordSuite.Text.Quoted
import KeywordSuite.Text.Range
import KeywordSuite.Text.Search
import KeywordSuite.Text.Upper
import KeywordSuite.Text.Utf8
import KeywordSuite.Text.Word
import KeywordSuite.Time.Timestamp
import KeywordSuite.Value
import KeywordSuite.Proofs.Keyword.Dispatch
import KeywordSuite.Proofs.Case.Stages
import KeywordSuite.Proofs.Case.Result
import KeywordSuite.Proofs.Case.Completion
import KeywordSuite.Proofs.Case.Sequence
import KeywordSuite.Proofs.Case.Story
import KeywordSuite.Proofs.Session.Journal
import KeywordSuite.Proofs.Session.Refinement
import KeywordSuite.Proofs.Keyword.Manners
import KeywordSuite.Proofs.Case.Conduct
import KeywordSuite.Proofs.Suite.History
import KeywordSuite.Proofs.Suite.Scene
import KeywordSuite.Proofs.Suite.Steps
import KeywordSuite.Proofs.Suite.Recording
import KeywordSuite.Proofs.Suite.Sessions
import KeywordSuite.Proofs.Json.Reader
import KeywordSuite.Proofs.Fault.Checked
import KeywordSuite.Proofs.Definition.Document
import KeywordSuite.Proofs.Suite.Agreement
import KeywordSuite.Proofs.Suite.Overheard
import KeywordSuite.Proofs.Case.Silence
import KeywordSuite.Proofs.Case.Telling
import KeywordSuite.Proofs.Suite.Telling
import KeywordSuite.Proofs.Sanitizer.Pieces
import KeywordSuite.Proofs.Sanitizer.Trace
import KeywordSuite.Proofs.Sanitizer.Shapes
import KeywordSuite.Proofs.Sanitizer.Hiding
import KeywordSuite.Proofs.Sanitizer.Keys
import KeywordSuite.Proofs.Alike
import KeywordSuite.Proofs.Coupling
import KeywordSuite.Proofs.Case.Tandem
import KeywordSuite.Proofs.Keyword.Isolation
import KeywordSuite.Proofs.Case.Isolation
import KeywordSuite.Proofs.Suite.Seclusion
import KeywordSuite.Proofs.Suite.Isolation
import KeywordSuite.Proofs.Report.Masking
import KeywordSuite.Proofs.Log.Records
import KeywordSuite.Proofs.Keyword.Heedless
import KeywordSuite.Proofs.Case.Heedless
import KeywordSuite.Proofs.Suite.Following
import KeywordSuite.Proofs.Suite.Kinships
import KeywordSuite.Proofs.Suite.Reporting
import KeywordSuite.Proofs.Sanitizer.Again
import KeywordSuite.Proofs.CommandLine.Startup
import KeywordSuite.Proofs.Case.Watch
import KeywordSuite.Proofs.Suite.Interruption
import KeywordSuite.Proofs.Course
import KeywordSuite.Proofs.CommandLine.Equipment
import KeywordSuite.Proofs.CommandLine.ExitStatus
import KeywordSuite.Proofs.Keyword.Discretion
import KeywordSuite.Proofs.Case.Discretion
import KeywordSuite.Proofs.Report.Marks
import KeywordSuite.Proofs.Suite.Counting
import KeywordSuite.Proofs.Report.Apart
import KeywordSuite.Proofs.Report.Escaping
import KeywordSuite.Proofs.Sanitizer.SensitiveKeys
import KeywordSuite.Proofs.Keyword.Lookups
import KeywordSuite.Proofs.Case.Lookups
import KeywordSuite.Proofs.Suite.Rearranged
import KeywordSuite.Proofs.Text.Blank
import KeywordSuite.Proofs.Definition.Workbook
import KeywordSuite.Proofs.Definition.Written
import KeywordSuite.Proofs.Suite.Sources
import KeywordSuite.Proofs.Sanitizer.Frame
import KeywordSuite.Proofs.Keyword.Account
import KeywordSuite.Proofs.Keyword.Marking
import KeywordSuite.Proofs.Case.Loop
import KeywordSuite.Proofs.Case.Marking
import KeywordSuite.Proofs.Case.Vacancy
import KeywordSuite.Proofs.Mail.Delivery
import KeywordSuite.Proofs.Definition.Loading
import KeywordSuite.Proofs.CommandLine.Overrides
import KeywordSuite.Proofs.Case.Learning
import KeywordSuite.Proofs.Suite.Learning
import KeywordSuite.Proofs.Mail.Rows
import KeywordSuite.Proofs.Browser.Trace
import KeywordSuite.Proofs.Browser.Handles
import KeywordSuite.Proofs.Keyword.Registry
import KeywordSuite.Proofs.Number.Order
import KeywordSuite.Proofs.Keyword.Wait
import KeywordSuite.Proofs.Keyword.Release
import KeywordSuite.Proofs.Sanitizer.Mappings
import KeywordSuite.Proofs.Report.Screenshots
import KeywordSuite.Proofs.Definition.Columns
import KeywordSuite.Proofs.Json.Writer
import KeywordSuite.Proofs.Log.Lines
import KeywordSuite.Proofs.Log.Filing
import KeywordSuite.Proofs.Host.Way
import KeywordSuite.Proofs.Report.Links
import KeywordSuite.Proofs.Mail.Tickets
import KeywordSuite.Proofs.Settings.Sources
import KeywordSuite.Proofs.Settings.Lists
import KeywordSuite.Proofs.Sanitizer.Backtracking
import KeywordSuite.Proofs.Sanitizer.Alone
import KeywordSuite.Proofs.Keyword.Names
import KeywordSuite.Proofs.Keyword.Dossier
