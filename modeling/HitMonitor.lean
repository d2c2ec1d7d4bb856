import HitMonitor.Capture.File
import HitMonitor.Capture.Frame
import HitMonitor.Capture.Replay
import HitMonitor.Capture.Totals
import HitMonitor.Command.Failure
import HitMonitor.Command.Mapped
import HitMonitor.Command.Options
import HitMonitor.Command.Outcome
import HitMonitor.Command.Request
import HitMonitor.Command.Run
import HitMonitor.Decimal.Dyadic
import HitMonitor.Decimal.Fixed
import HitMonitor.Decimal.Read
import HitMonitor.Decimal.Shortest
import HitMonitor.Document.Forms
import HitMonitor.Document.SettingsFile
import HitMonitor.Grid
import HitMonitor.Json.Error
import HitMonitor.Json.Lexeme
import HitMonitor.Json.Record
import HitMonitor.Json.Value
import HitMonitor.Main
import HitMonitor.Monitor.Counters
import HitMonitor.Monitor.Cycle
import HitMonitor.Monitor.Notice
import HitMonitor.Monitor.Run
import HitMonitor.Monitor.Settings
import HitMonitor.Monitor.Sink
import HitMonitor.Monitor.Snapshot
import HitMonitor.Monitor.Source
import HitMonitor.Monitor.StopSignal
import HitMonitor.Picture.Colormap
import HitMonitor.Picture.Drawing
import HitMonitor.Picture.Png
import HitMonitor.Picture.Raster
import HitMonitor.Projection.Accumulator
import HitMonitor.Projection.Histograms
import HitMonitor.Projection.Plane
import HitMonitor.Proofs.Binary.Located
import HitMonitor.Proofs.Binary.Operations
import HitMonitor.Proofs.Binary.Rounding
import HitMonitor.Proofs.Binary.Single
import HitMonitor.Proofs.Capture.Agreement
import HitMonitor.Proofs.Capture.Balance
import HitMonitor.Proofs.Capture.Cutting
import HitMonitor.Proofs.Capture.DueTimes
import HitMonitor.Proofs.Capture.Framing
import HitMonitor.Proofs.Capture.Grouping
import HitMonitor.Proofs.Capture.Pacing
import HitMonitor.Proofs.Capture.Recording
import HitMonitor.Proofs.Capture.Replays
import HitMonitor.Proofs.Capture.Sources
import HitMonitor.Proofs.Capture.Totals
import HitMonitor.Proofs.Command.Endings
import HitMonitor.Proofs.Command.Mapped
import HitMonitor.Proofs.Command.Record
import HitMonitor.Proofs.Command.Replay
import HitMonitor.Proofs.Decimal.Digits
import HitMonitor.Proofs.Document.Overlay
import HitMonitor.Proofs.Document.RoundTrip
import HitMonitor.Proofs.Document.Settings
import HitMonitor.Proofs.Except
import HitMonitor.Proofs.Grid.Addressing
import HitMonitor.Proofs.Grid.Order
import HitMonitor.Proofs.Json.Alike
import HitMonitor.Proofs.Json.Grammar
import HitMonitor.Proofs.Json.Meaning
import HitMonitor.Proofs.Json.Overlay
import HitMonitor.Proofs.Json.Record
import HitMonitor.Proofs.Json.RecordMeaning
import HitMonitor.Proofs.Json.RoundTrip
import HitMonitor.Proofs.Json.Skipping
import HitMonitor.Proofs.Json.Written
import HitMonitor.Proofs.Machine.Arithmetic
import HitMonitor.Proofs.Machine.Cycle
import HitMonitor.Proofs.Machine.Grids
import HitMonitor.Proofs.Machine.Message
import HitMonitor.Proofs.Machine.Painting
import HitMonitor.Proofs.Machine.Synthesis
import HitMonitor.Proofs.Monitor.Conservation
import HitMonitor.Proofs.Monitor.Counters
import HitMonitor.Proofs.Monitor.Journal
import HitMonitor.Proofs.Monitor.OneSink
import HitMonitor.Proofs.Monitor.Payloads
import HitMonitor.Proofs.Monitor.Pieces
import HitMonitor.Proofs.Monitor.Polls
import HitMonitor.Proofs.Monitor.Runs
import HitMonitor.Proofs.Monitor.Session
import HitMonitor.Proofs.Monitor.Settings
import HitMonitor.Proofs.Monitor.SinkIndependence
import HitMonitor.Proofs.Monitor.Windows
import HitMonitor.Proofs.Picture.Panels
import HitMonitor.Proofs.Picture.Shades
import HitMonitor.Proofs.Picture.Sizes
import HitMonitor.Proofs.Projection.Accumulation
import HitMonitor.Proofs.Projection.Highest
import HitMonitor.Proofs.Projection.Hits
import HitMonitor.Proofs.Projection.Marginals
import HitMonitor.Proofs.Projection.Sums
import HitMonitor.Proofs.Record.Indices
import HitMonitor.Proofs.Record.Lengths
import HitMonitor.Proofs.Record.Pieces
import HitMonitor.Proofs.Record.Reading
import HitMonitor.Proofs.Snapshot.Files
import HitMonitor.Proofs.Snapshot.Planes
import HitMonitor.Proofs.Snapshot.Table
import HitMonitor.Proofs.Storage.Directory
import HitMonitor.Proofs.Storage.FileTree
import HitMonitor.Proofs.Synthetic.Draws
import HitMonitor.Proofs.Synthetic.Messages
import HitMonitor.Proofs.Synthetic.Shares
import HitMonitor.Record.Layout
import HitMonitor.Record.Reader
import HitMonitor.Snapshot.Files
import HitMonitor.Snapshot.Table
import HitMonitor.Storage.Error
import HitMonitor.Storage.FileTree
import HitMonitor.Synthetic.ChaCha
import HitMonitor.Synthetic.Generator
import HitMonitor.Synthetic.Message
import HitMonitor.Synthetic.RandomSource
import HitMonitor.Text.Plain
import HitMonitor.Text.Printable
import HitMonitor.Text.Quoted
import HitMonitor.Word
