import FramePipeline.Config.Basic
import FramePipeline.Config.Record

/-!
# The schema of the configuration

The names, kinds and order of all settings.

Main definitions: `Schema.config` and its sections, `Schema.stream`.
-/

namespace FramePipeline.Schema

/-! ## Choices -/

/-- Pixel formats by name. -/
def pixelFormat : Kind PixelFormat :=
  Kind.choice "PixelFormat" (PixelFormat.all.map fun f => (f.key, f)) PixelFormat.key

/-- The name of a `SourceKind` in configurations. -/
def sourceKey : SourceKind → String
  | .testPattern => "test_pattern"
  | .v4l2 => "v4l2"

/-- Sources by name. -/
def sourceKind : Kind SourceKind :=
  Kind.choice "SourceKind" ([.testPattern, .v4l2].map fun s => (sourceKey s, s)) sourceKey

/-! ## Sections -/

/-- The fields of `CaptureConfig`. -/
def capture : Record CaptureConfig where
  name := "CaptureConfig"
  default := {}
  fields := [
    Field.of "source" sourceKind (·.source) fun x s => { s with source := x },
    Field.of "device" Kind.text (·.device) fun x s => { s with device := x },
    Field.of "width" Kind.word32 (·.width) fun x s => { s with width := x },
    Field.of "height" Kind.word32 (·.height) fun x s => { s with height := x },
    Field.of "fps" Kind.word32 (·.fps) fun x s => { s with fps := x },
    Field.of "format" pixelFormat (·.format) fun x s => { s with format := x },
    Field.of "buffer_count" Kind.word32 (·.bufferCount) fun x s => { s with bufferCount := x },
    Field.of "max_consecutive_errors" Kind.word32 (·.maxConsecutiveErrors)
      fun x s => { s with maxConsecutiveErrors := x }]

/-- The fields of `PipelineConfig`. -/
def pipeline : Record PipelineConfig where
  name := "PipelineConfig"
  default := {}
  fields := [
    Field.of "poll_interval_ms" Kind.word64 (·.pollIntervalMs)
      fun x s => { s with pollIntervalMs := x },
    Field.of "freeze_output_ms" Kind.word64 (·.freezeOutputMs)
      fun x s => { s with freezeOutputMs := x },
    Field.of "pin_render_core" (Kind.optional Kind.size) (·.pinRenderCore)
      fun x s => { s with pinRenderCore := x },
    Field.of "latency_window" Kind.size (·.latencyWindow) fun x s => { s with latencyWindow := x }]

/-- The fields of `CartoonModes`. -/
def cartoon : Record CartoonModes where
  name := "CartoonModes"
  default := {}
  fields := [
    Field.of "sketch" Kind.switch (·.sketch) fun x s => { s with sketch := x },
    Field.of "alien" Kind.switch (·.alien) fun x s => { s with alien := x },
    Field.of "evil" Kind.switch (·.evil) fun x s => { s with evil := x },
    Field.of "debug" Kind.switch (·.debug) fun x s => { s with debug := x }]

/-- The fields of `RunConfig`. -/
def run : Record RunConfig where
  name := "RunConfig"
  default := {}
  fields := [
    Field.of "duration_secs" (Kind.optional Kind.word64) (·.durationSecs)
      fun x s => { s with durationSecs := x },
    Field.of "snapshot_every_ms" (Kind.optional Kind.word64) (·.snapshotEveryMs) fun x s =>
      { s with snapshotEveryMs := x },
    Field.of "stats_interval_ms" Kind.word64 (·.statsIntervalMs)
      fun x s => { s with statsIntervalMs := x }]

/-- The fields of `Config`, its sections. -/
def config : Record Config where
  name := "Config"
  default := {}
  fields := [
    Field.of "capture" capture.kind (·.capture) fun x s => { s with capture := x },
    Field.of "pipeline" pipeline.kind (·.pipeline) fun x s => { s with pipeline := x },
    Field.of "cartoon" cartoon.kind (·.cartoon) fun x s => { s with cartoon := x },
    Field.of "run" run.kind (·.run) fun x s => { s with run := x }]

/-- The fields of `StreamFormat`, of which every one must be given. -/
def stream : Record StreamFormat where
  name := "StreamFormat"
  default := ⟨0, 0, .gray8⟩
  fields := [
    Field.of "width" Kind.word32 (·.width) fun x s => { s with width := x },
    Field.of "height" Kind.word32 (·.height) fun x s => { s with height := x },
    Field.of "format" pixelFormat (·.format) fun x s => { s with format := x }]
  required := true

end FramePipeline.Schema
