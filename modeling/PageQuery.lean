import PageQuery.Agent.Client
import PageQuery.Agent.Request
import PageQuery.Calendar
import PageQuery.Capture.Message
import PageQuery.Capture.Pages
import PageQuery.Capture.Snapshot
import PageQuery.World
import PageQuery.CommandLine.Arguments
import PageQuery.CommandLine.Query
import PageQuery.CommandLine.Run
import PageQuery.CommandLine.Job
import PageQuery.CommandLine.Syntax
import PageQuery.Config.Basic
import PageQuery.Console.Input
import PageQuery.Console.State
import PageQuery.Console.View
import PageQuery.Disk.Basic
import PageQuery.Fault
import PageQuery.Html.Body
import PageQuery.Html.Builder
import PageQuery.Html.Document
import PageQuery.Html.Foreign
import PageQuery.Html.Lexer
import PageQuery.Html.Reference
import PageQuery.Html.References
import PageQuery.Html.Table
import PageQuery.Json.Draft
import PageQuery.Json.Value
import PageQuery.Main
import PageQuery.Net.Address
import PageQuery.Net.Domain
import PageQuery.Net.Exchange
import PageQuery.Net.Punycode
import PageQuery.Net.Url
import PageQuery.Number.Double
import PageQuery.Number.Shortest
import PageQuery.Page.Extract
import PageQuery.Page.Node
import PageQuery.Proofs.Capture.Dispatch
import PageQuery.Proofs.Page.Heaviest
import PageQuery.Proofs.Query.Buffer
import PageQuery.Proofs.Query.Edits
import PageQuery.Proofs.Query.MarkupReader
import PageQuery.Proofs.Query.Reading
import PageQuery.Proofs.Result.CsvReader
import PageQuery.Proofs.Text.Basic
import PageQuery.Proofs.Workbench.CachedSnapshot
import PageQuery.Proofs.Workbench.Capture
import PageQuery.Proofs.Workbench.ClearedToken
import PageQuery.Proofs.Workbench.Task
import PageQuery.Proofs.Workbench.Operations
import PageQuery.Proofs.Workbench.QueryRun
import PageQuery.Proofs.Workbench.Scripted
import PageQuery.Proofs.Workbench.Settings
import PageQuery.Proofs.Workbench.SharedSession
import PageQuery.Proofs.Workbench.Token
import PageQuery.Query.Style
import PageQuery.Query.Editor
import PageQuery.Query.Tokenize
import PageQuery.Result.Table
import PageQuery.Result.Export
import PageQuery.Screen.Canvas
import PageQuery.Screen.Drawing
import PageQuery.Screen.Split
import PageQuery.Store.Basic
import PageQuery.Text.Basic
import PageQuery.Text.Width
import PageQuery.Toml.Document
import PageQuery.Toml.Scalar
import PageQuery.Toml.Value
import PageQuery.Workbench.Actions
import PageQuery.Workbench.Desk
import PageQuery.Workbench.Station
import PageQuery.Proofs.Result.RecordFields
import PageQuery.Proofs.Workbench.Endings
import PageQuery.Proofs.Workbench.Failure
import PageQuery.Proofs.Workbench.Status
import PageQuery.Proofs.Workbench.Exclusion
import PageQuery.Proofs.Store.Quota
import PageQuery.Proofs.Workbench.Restoring
import PageQuery.Proofs.Workbench.FallibleSettings
import PageQuery.Proofs.Console.TokenField
import PageQuery.Proofs.Json.Lexing
import PageQuery.Proofs.Store.SettingsFile
import PageQuery.Proofs.Disk.Files
import PageQuery.Proofs.CommandLine.Relay
import PageQuery.Proofs.Workbench.HandOver
import PageQuery.Proofs.Workbench.Exports
import PageQuery.Proofs.Workbench.TokenSecrecy
import PageQuery.Proofs.Capture.History
import PageQuery.Proofs.Console.Typing
import PageQuery.Proofs.Json.Records
import PageQuery.Proofs.Result.Decoding
import PageQuery.Proofs.Disk.Sparing
import PageQuery.Proofs.CommandLine.Publishing
import PageQuery.Proofs.CommandLine.QueryOutput
import PageQuery.Proofs.Page.DocumentOrder
import PageQuery.Proofs.Page.Nesting
import PageQuery.Proofs.Query.LookAhead
import PageQuery.Proofs.Query.LocalEdits
import PageQuery.Proofs.Query.Lines
import PageQuery.Proofs.Capture.Wire
import PageQuery.Proofs.Agent.Answers
import PageQuery.Proofs.Workbench.QueryOptions
import PageQuery.Proofs.Config.Layers
import PageQuery.Proofs.Query.Terminal
import PageQuery.Proofs.Calendar.Dates
import PageQuery.Proofs.Calendar.Stamps
import PageQuery.Proofs.Result.ExportNames
import PageQuery.Proofs.Console.Cursor
import PageQuery.Proofs.Query.CaretPlaces
import PageQuery.Proofs.Screen.Splits
