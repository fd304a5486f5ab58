import FramePipeline.Config.Basic
import FramePipeline.Duration

/-!
# Render settings

Main definitions: `RenderSettings`, `RenderSettings.ofConfig`; `RenderSettings.ofConfig_default` says
that the defaults of the two agree.
-/

namespace FramePipeline

/-- Model of `RenderSettings`, with its defaults: how the render loop works. -/
structure RenderSettings where
  /-- The pause between two looks for a new frame. -/
  pollInterval : Duration := .ofMillis 2
  /-- How long a saved frame stays on the screen. -/
  freezeAfterSave : Duration := .ofMillis 3000
  /-- The processor core that renders, if it matters. -/
  pinCore : Option UInt64 := none
  modes : CartoonModes := {}
  /-- How many latencies are kept. -/
  latencyWindow : Nat := 256
  deriving DecidableEq, Repr

namespace RenderSettings

/-- Model of `RenderSettings::from_config`: the settings that a configuration asks for. -/
def ofConfig (c : Config) : RenderSettings where
  pollInterval := .ofMillis c.pipeline.pollIntervalMs.toNat
  freezeAfterSave := .ofMillis c.pipeline.freezeOutputMs.toNat
  pinCore := c.pipeline.pinRenderCore
  modes := c.cartoon
  latencyWindow := c.pipeline.latencyWindow.toNat

theorem ofConfig_default : ofConfig {} = {} := by
  decide

end RenderSettings

end FramePipeline
