import SessionRecorder.Binary64
import SessionRecorder.Binary64.Decimal
import SessionRecorder.Blob
import SessionRecorder.Command.Words
import SessionRecorder.CommandLine
import SessionRecorder.CommandLine.Arguments
import SessionRecorder.CommandLine.Grammar
import SessionRecorder.CommandLine.Help
import SessionRecorder.Disk
import SessionRecorder.Entry
import SessionRecorder.Event
import SessionRecorder.Fault
import SessionRecorder.Ini
import SessionRecorder.Ini.Interpolation
import SessionRecorder.Journal
import SessionRecorder.Json.Printer
import SessionRecorder.Json.Reader
import SessionRecorder.KeyLabel
import SessionRecorder.Main
import SessionRecorder.Numeral
import SessionRecorder.Page
import SessionRecorder.Page.Listener
import SessionRecorder.Path
import SessionRecorder.Picture
import SessionRecorder.Picture.Checksum
import SessionRecorder.Picture.Comparison
import SessionRecorder.Picture.File
import SessionRecorder.Picture.Header
import SessionRecorder.Picture.Header.Bitmap
import SessionRecorder.Picture.Header.Gif
import SessionRecorder.Picture.Header.Jpeg
import SessionRecorder.Picture.Header.Netpbm
import SessionRecorder.Picture.Header.Png
import SessionRecorder.Picture.Header.Targa
import SessionRecorder.Picture.Scan
import SessionRecorder.Proofs.BareLog
import SessionRecorder.Proofs.Binary64.Monotone
import SessionRecorder.Proofs.Binary64.Rounding
import SessionRecorder.Proofs.Binary64.Shortest
import SessionRecorder.Proofs.Disk
import SessionRecorder.Proofs.Entry
import SessionRecorder.Proofs.Event
import SessionRecorder.Proofs.Files
import SessionRecorder.Proofs.Ini
import SessionRecorder.Proofs.Json.Number
import SessionRecorder.Proofs.Json.RoundTrip
import SessionRecorder.Proofs.Json.Text
import SessionRecorder.Proofs.Json.Writable
import SessionRecorder.Proofs.KeyLabel
import SessionRecorder.Proofs.KeyLabel.Typed
import SessionRecorder.Proofs.LogText
import SessionRecorder.Proofs.Page.Actions
import SessionRecorder.Proofs.Page.Capture
import SessionRecorder.Proofs.Page.Inert
import SessionRecorder.Proofs.Picture.Comparison
import SessionRecorder.Proofs.Picture.Difference
import SessionRecorder.Proofs.Picture.Share
import SessionRecorder.Proofs.Procedure
import SessionRecorder.Proofs.Recorder.Confined
import SessionRecorder.Proofs.Recorder.Course
import SessionRecorder.Proofs.Recorder.Ending
import SessionRecorder.Proofs.Recorder.Intact
import SessionRecorder.Proofs.Recorder.Naming
import SessionRecorder.Proofs.Recorder.Payload
import SessionRecorder.Proofs.Recorder.Reached
import SessionRecorder.Proofs.Recorder.Saved
import SessionRecorder.Proofs.Recorder.Standing
import SessionRecorder.Proofs.Recorder.Step
import SessionRecorder.Proofs.Rendering
import SessionRecorder.Proofs.Report
import SessionRecorder.Proofs.SavedLog
import SessionRecorder.Proofs.Script.Blocks
import SessionRecorder.Proofs.Script.Ending
import SessionRecorder.Proofs.Script.Forest
import SessionRecorder.Proofs.Script.Layout
import SessionRecorder.Proofs.Script.Literal
import SessionRecorder.Proofs.Script.OnePass
import SessionRecorder.Proofs.Script.Prefix
import SessionRecorder.Proofs.Script.Statement
import SessionRecorder.Proofs.Session.Handler
import SessionRecorder.Proofs.Session.Lookback
import SessionRecorder.Proofs.Session.NormalForm
import SessionRecorder.Proofs.Session.OpenSteps
import SessionRecorder.Proofs.Session.Press
import SessionRecorder.Proofs.Session.Reached
import SessionRecorder.Proofs.Session.Segmentation
import SessionRecorder.Proofs.Session.Step
import SessionRecorder.Proofs.Session.Typing
import SessionRecorder.Proofs.Settings.Kept
import SessionRecorder.Proofs.Settings.Loading
import SessionRecorder.Proofs.Settings.Precedence
import SessionRecorder.Proofs.Settings.RoundTrip
import SessionRecorder.Proofs.Snapshot.Artifacts
import SessionRecorder.Proofs.Snapshot.Baseline
import SessionRecorder.Proofs.Snapshot.Decision
import SessionRecorder.Proofs.Snapshot.Name
import SessionRecorder.Proofs.Snapshot.Projection
import SessionRecorder.Proofs.Snapshot.Store
import SessionRecorder.Proofs.Snapshot.Tolerance
import SessionRecorder.Proofs.Text.Lines
import SessionRecorder.Proofs.Text.Plain
import SessionRecorder.Proofs.Value
import SessionRecorder.Proofs.Value.Addition
import SessionRecorder.Proofs.Visit
import SessionRecorder.Proofs.WellTyped
import SessionRecorder.Proofs.Writer
import SessionRecorder.Proofs.Writer.Formatter
import SessionRecorder.Proofs.Writer.Frame
import SessionRecorder.Proofs.Writer.Scope
import SessionRecorder.Proofs.Writer.Timers
import SessionRecorder.Recorder
import SessionRecorder.Recorder.Call
import SessionRecorder.Report
import SessionRecorder.Script
import SessionRecorder.Session
import SessionRecorder.Session.Handler
import SessionRecorder.Settings
import SessionRecorder.Settings.Locations
import SessionRecorder.Settings.Overrides
import SessionRecorder.Signature
import SessionRecorder.Snapshot.Assertion
import SessionRecorder.Snapshot.Store
import SessionRecorder.Text.Blank
import SessionRecorder.Text.Cased
import SessionRecorder.Text.Digit
import SessionRecorder.Text.Lines
import SessionRecorder.Text.Lower
import SessionRecorder.Text.Printable
import SessionRecorder.Text.Quoted
import SessionRecorder.Text.Range
import SessionRecorder.Text.Utf8
import SessionRecorder.Value
import SessionRecorder.Value.Arithmetic
import SessionRecorder.Value.Display
import SessionRecorder.Value.Items
import SessionRecorder.Visit
import SessionRecorder.Workspace
import SessionRecorder.Writer
