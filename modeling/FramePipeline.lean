import FramePipeline.Binary64.Basic
import FramePipeline.Binary64.Decimal
import FramePipeline.Binary64.Shortest
import FramePipeline.Capture.Driver
import FramePipeline.Capture.Error
import FramePipeline.Capture.Script
import FramePipeline.Capture.TestPattern
import FramePipeline.Config.Basic
import FramePipeline.Config.Environment
import FramePipeline.Config.Fault
import FramePipeline.Config.File
import FramePipeline.Config.Kind
import FramePipeline.Config.Load
import FramePipeline.Config.Path
import FramePipeline.Config.Record
import FramePipeline.Config.Refusal
import FramePipeline.Config.Schema
import FramePipeline.Config.Value
import FramePipeline.Duration
import FramePipeline.Entries
import FramePipeline.Frame.Basic
import FramePipeline.Frame.Error
import FramePipeline.Frame.Format
import FramePipeline.Frame.Padded
import FramePipeline.Frame.StreamFormat
import FramePipeline.Frame.Unpadded
import FramePipeline.Handoff.Basic
import FramePipeline.Handoff.Calls
import FramePipeline.Handoff.FrameHandoff
import FramePipeline.Handoff.Plain
import FramePipeline.Handoff.Pool
import FramePipeline.Handoff.Relay
import FramePipeline.Handoff.Session
import FramePipeline.Json.Basic
import FramePipeline.Json.Number
import FramePipeline.Json.Printer
import FramePipeline.Json.Reader
import FramePipeline.Latency.Ring
import FramePipeline.Latency.Window
import FramePipeline.Main
import FramePipeline.Memory
import FramePipeline.Metrics
import FramePipeline.Pipeline
import FramePipeline.Program.Basic
import FramePipeline.Program.Transcript
import FramePipeline.Proofs.Calls.Alone
import FramePipeline.Proofs.Calls.Buffers
import FramePipeline.Proofs.Calls.Effects
import FramePipeline.Proofs.Calls.Linearization
import FramePipeline.Proofs.Calls.Sections
import FramePipeline.Proofs.Calls.StopCompletion
import FramePipeline.Proofs.Calls.StoppedCalls
import FramePipeline.Proofs.Capture.Accounts
import FramePipeline.Proofs.Capture.SourceErrors
import FramePipeline.Proofs.Capture.TestPatternFrames
import FramePipeline.Proofs.Capture.Turns
import FramePipeline.Proofs.Config.IntegerNumerals
import FramePipeline.Proofs.Config.KeptValues
import FramePipeline.Proofs.Config.Layers
import FramePipeline.Proofs.Config.Leaves
import FramePipeline.Proofs.Config.Loading
import FramePipeline.Proofs.Config.RecordSettings
import FramePipeline.Proofs.Config.VariableNames
import FramePipeline.Proofs.Frame.Memory
import FramePipeline.Proofs.Frame.PaddedCopies
import FramePipeline.Proofs.Frame.RowPositions
import FramePipeline.Proofs.Frame.Sizes
import FramePipeline.Proofs.Handoff.BufferReuse
import FramePipeline.Proofs.Handoff.ClosedSessions
import FramePipeline.Proofs.Handoff.LatestPublication
import FramePipeline.Proofs.Handoff.ManySessions
import FramePipeline.Proofs.Handoff.Ownership
import FramePipeline.Proofs.Handoff.ProducerView
import FramePipeline.Proofs.Handoff.Reallocations
import FramePipeline.Proofs.Handoff.Refinement
import FramePipeline.Proofs.Handoff.RefusedPublications
import FramePipeline.Proofs.Handoff.SessionChanges
import FramePipeline.Proofs.Handoff.SessionCounters
import FramePipeline.Proofs.Handoff.SessionRefinement
import FramePipeline.Proofs.Handoff.SlotEvents
import FramePipeline.Proofs.Handoff.SlotHistory
import FramePipeline.Proofs.Latency.History
import FramePipeline.Proofs.Latency.Summaries
import FramePipeline.Proofs.Pipeline.Accounts
import FramePipeline.Proofs.Render.Control
import FramePipeline.Proofs.Render.Counters
import FramePipeline.Proofs.Render.EndOfRendering
import FramePipeline.Proofs.Render.FrameTakings
import FramePipeline.Proofs.Render.FrozenOutput
import FramePipeline.Proofs.Render.History
import FramePipeline.Proofs.Render.Outputs
import FramePipeline.Proofs.Render.RefusedTransforms
import FramePipeline.Proofs.Render.Rendering
import FramePipeline.Proofs.Render.Rest
import FramePipeline.Proofs.Render.SavedFrames
import FramePipeline.Proofs.Render.ScheduleIndependence
import FramePipeline.Proofs.Render.Settling
import FramePipeline.Proofs.Render.SnapshotRequests
import FramePipeline.Proofs.Render.Steps
import FramePipeline.Render.CartoonModes
import FramePipeline.Render.Error
import FramePipeline.Render.Loop
import FramePipeline.Render.Schedule
import FramePipeline.Render.Script
import FramePipeline.Render.Settings
import FramePipeline.Render.Sink
import FramePipeline.Render.Transform
import FramePipeline.Text.CaseIgnorable
import FramePipeline.Text.Cased
import FramePipeline.Text.CodePoints
import FramePipeline.Text.Extending
import FramePipeline.Text.Hex
import FramePipeline.Text.Lowercase
import FramePipeline.Text.Quoted
import FramePipeline.Text.Scanner
import FramePipeline.Text.Unprintable
import FramePipeline.Toml.Basic
import FramePipeline.Toml.DateTime
import FramePipeline.Toml.Draft
import FramePipeline.Toml.Moment
import FramePipeline.Toml.Number
import FramePipeline.Toml.Reader
import FramePipeline.Toml.Text
import FramePipeline.Word
