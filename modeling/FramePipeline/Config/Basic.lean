import FramePipeline.Frame.StreamFormat
import FramePipeline.Render.CartoonModes

/-!
# Configuration

The settings of a run in four sections, with the values they have when nobody sets them.

Main definitions: `Config` and its sections `CaptureConfig`, `PipelineConfig`, `CartoonModes` and
`RunConfig`; `CaptureConfig.stream`.
-/

namespace FramePipeline

/-- Model of `SourceKind`: where frames come from. -/
inductive SourceKind where
  | testPattern
  | v4l2
  deriving DecidableEq, Repr

/-- Model of `CaptureConfig`, with its defaults: settings of the capture side. -/
structure CaptureConfig where
  source : SourceKind := .testPattern
  /-- The device to open; empty for the first one found. -/
  device : String := ""
  width : UInt32 := 640
  height : UInt32 := 480
  fps : UInt32 := 30
  format : PixelFormat := .nv21
  bufferCount : UInt32 := 4
  /-- After this many source errors in a row capture gives up. -/
  maxConsecutiveErrors : UInt32 := 10
  deriving DecidableEq, Repr

/-- Model of `CaptureConfig::stream`: the stream that capture is asked for. -/
def CaptureConfig.stream (c : CaptureConfig) : StreamFormat :=
  ⟨c.width, c.height, c.format⟩

/-- Model of `PipelineConfig`, with its defaults: settings of the render side. -/
structure PipelineConfig where
  /-- The pause between two looks for a new frame. -/
  pollIntervalMs : UInt64 := 2
  /-- How long a saved frame stays on the screen. -/
  freezeOutputMs : UInt64 := 3000
  /-- The processor core that renders, if it matters. -/
  pinRenderCore : Option UInt64 := none
  /-- How many latencies are kept. -/
  latencyWindow : UInt64 := 256
  deriving DecidableEq, Repr

/-- Model of `RunConfig`, with its defaults: settings of the whole run. -/
structure RunConfig where
  /-- The run ends after this time; without it, when it is interrupted. -/
  durationSecs : Option UInt64 := none
  /-- A snapshot is requested this often. -/
  snapshotEveryMs : Option UInt64 := none
  statsIntervalMs : UInt64 := 5000
  deriving DecidableEq, Repr

/-- Model of `Config`: the settings of a run. -/
structure Config where
  capture : CaptureConfig := {}
  pipeline : PipelineConfig := {}
  cartoon : CartoonModes := {}
  run : RunConfig := {}
  deriving DecidableEq, Repr

end FramePipeline
