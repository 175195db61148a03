import AccessTrail.CommandLine
import AccessTrail.Exchange
import AccessTrail.Fault
import AccessTrail.Files.Tree
import AccessTrail.Filter
import AccessTrail.Filter.Directive
import AccessTrail.Handler.Demo
import AccessTrail.Handler.Program
import AccessTrail.Handler.Run
import AccessTrail.Http.Headers
import AccessTrail.Http.Request
import AccessTrail.Http.Response
import AccessTrail.Http.Token
import AccessTrail.Http.Uri
import AccessTrail.Http.Wire
import AccessTrail.Log.Basic
import AccessTrail.Log.Memory
import AccessTrail.Log.Target
import AccessTrail.Log.Writer
import AccessTrail.Net.Address
import AccessTrail.Net.Endpoint
import AccessTrail.Net.Host
import AccessTrail.Net.Loose
import AccessTrail.Notice
import AccessTrail.Number.Decimal
import AccessTrail.Number.Rounding
import AccessTrail.Observer
import AccessTrail.Proofs.Exchange
import AccessTrail.Proofs.Files
import AccessTrail.Proofs.Files.Place
import AccessTrail.Proofs.Handler.Account
import AccessTrail.Proofs.Handler.Counting
import AccessTrail.Proofs.Handler.Course
import AccessTrail.Proofs.Handler.Delay
import AccessTrail.Proofs.Handler.Demo
import AccessTrail.Proofs.Handler.Failure
import AccessTrail.Proofs.Handler.Fields
import AccessTrail.Proofs.Handler.Handover
import AccessTrail.Proofs.Handler.History
import AccessTrail.Proofs.Handler.Image
import AccessTrail.Proofs.Handler.Move
import AccessTrail.Proofs.Handler.Nested
import AccessTrail.Proofs.Handler.Noting
import AccessTrail.Proofs.Handler.Outcome
import AccessTrail.Proofs.Handler.Report
import AccessTrail.Proofs.Handler.Run
import AccessTrail.Proofs.Handler.Statuses
import AccessTrail.Proofs.Handler.Twin
import AccessTrail.Proofs.Handler.Wire
import AccessTrail.Proofs.Log.Memory
import AccessTrail.Proofs.Log.Shelf
import AccessTrail.Proofs.Log.Truncated
import AccessTrail.Proofs.Log.Writer
import AccessTrail.Proofs.Net.Address
import AccessTrail.Proofs.Net.Decimal
import AccessTrail.Proofs.Net.Host
import AccessTrail.Proofs.Net.Numeral
import AccessTrail.Proofs.Net.Reading
import AccessTrail.Proofs.Number.Rounding
import AccessTrail.Proofs.Ratio
import AccessTrail.Proofs.Record
import AccessTrail.Proofs.Serving
import AccessTrail.Proofs.Session.Agreement
import AccessTrail.Proofs.Session.Answer
import AccessTrail.Proofs.Session.Crash
import AccessTrail.Proofs.Session.Event
import AccessTrail.Proofs.Session.Noted
import AccessTrail.Proofs.Session.Precedence
import AccessTrail.Proofs.Session.Race
import AccessTrail.Proofs.Session.Record
import AccessTrail.Proofs.Session.Stream
import AccessTrail.Proofs.Session.Tracking
import AccessTrail.Proofs.Session.Truth
import AccessTrail.Proofs.Session.Twin
import AccessTrail.Proofs.Settings.Layout
import AccessTrail.Proofs.Settings.Rules
import AccessTrail.Proofs.StopSignal
import AccessTrail.Proofs.Text.Boundary
import AccessTrail.Proofs.Text.Control
import AccessTrail.Proofs.Text.Delimited
import AccessTrail.Proofs.Text.Expansion
import AccessTrail.Proofs.Text.Quoted
import AccessTrail.Proofs.Text.Utf8
import AccessTrail.Proofs.Toml.Distinct
import AccessTrail.Proofs.Transport.Agreement
import AccessTrail.Proofs.Transport.Crashed
import AccessTrail.Proofs.Transport.Delay
import AccessTrail.Proofs.Transport.Granted
import AccessTrail.Proofs.Transport.Head
import AccessTrail.Proofs.Transport.Layers
import AccessTrail.Proofs.Transport.Operation
import AccessTrail.Proofs.Transport.Shared
import AccessTrail.Proofs.Transport.Streamed
import AccessTrail.Proofs.Transport.Turns
import AccessTrail.Proofs.Visible
import AccessTrail.Ratio
import AccessTrail.Record
import AccessTrail.Server.Answer
import AccessTrail.Server.Startup
import AccessTrail.Serving
import AccessTrail.Session
import AccessTrail.Settings.Basic
import AccessTrail.Settings.Flaw
import AccessTrail.Settings.Loading
import AccessTrail.Settings.Mismatch
import AccessTrail.Settings.Reading
import AccessTrail.StopSignal
import AccessTrail.Text.Alphanumeric
import AccessTrail.Text.Extender
import AccessTrail.Text.Graphic
import AccessTrail.Text.Hex
import AccessTrail.Text.Lines
import AccessTrail.Text.Literal
import AccessTrail.Text.Pattern
import AccessTrail.Text.Pieces
import AccessTrail.Text.Printable
import AccessTrail.Text.Quoted
import AccessTrail.Text.Space
import AccessTrail.Text.Utf8
import AccessTrail.Toml.Document
import AccessTrail.Toml.Line
import AccessTrail.Toml.Numeral
import AccessTrail.Toml.Scan
import AccessTrail.Toml.Table
import AccessTrail.Toml.Text
import AccessTrail.Toml.Value
import AccessTrail.Transport.Basic
import AccessTrail.Transport.Buffered
import AccessTrail.Transport.Planned
import AccessTrail.Transport.Streamed
import AccessTrail.Main
