import FramePipeline.Capture.Driver
import FramePipeline.Render.Loop

/-!
# The pipeline

A capture driver and a render loop on the two sides of one session. The driver is the only one who
publishes and the loop the only one who takes.

Main definitions: `Pipeline`, `Pipeline.deliver`, `Pipeline.render`, `PipelineAction`, `Pipeline.run`
(what a schedule of driver, loop and control leaves).
-/

namespace FramePipeline

/-- A `CaptureDriver` and a `RenderLoop` that share the session of the loop. -/
structure Pipeline (σ ρ : Type) where
  driver : CaptureDriver
  loop : RenderLoop σ ρ

namespace Pipeline

variable {σ ρ : Type}

/-- One round of `run_capture`: the driver receives what a call of its source came to. A driver that has ended
calls no more. -/
def deliver (p : Pipeline σ ρ) (d : Delivery) : Pipeline σ ρ :=
  if p.driver.ended.isSome then p
  else
    let (driver, handoff) := p.driver.receive p.loop.handoff d
    { driver, loop := { p.loop with handoff } }

/-- One step of `RenderLoop::run`. -/
def render (t : FrameTransform σ) (k : FrameSink ρ) (clock : Reading) (p : Pipeline σ ρ) : Pipeline σ ρ :=
  { p with loop := p.loop.step t k clock }

/-- Sends the loop a command. -/
def send (p : Pipeline σ ρ) (c : Command) : Pipeline σ ρ :=
  { p with loop := p.loop.send c }

/-- `RenderHandle::set_modes`: sets the modes for the frames to come. -/
def setModes (p : Pipeline σ ρ) (modes : CartoonModes) : Pipeline σ ρ :=
  { p with loop := p.loop.setModes modes }

/-- `FrameHandoff::stop` by another holder of the session. -/
def close (p : Pipeline σ ρ) : Pipeline σ ρ :=
  { p with loop := { p.loop with handoff := p.loop.handoff.stop } }

end Pipeline

/-! ## Schedules -/

/-- What happens next. -/
inductive PipelineAction where
  /-- A call of the source comes to its end. -/
  | deliver (d : Delivery)
  /-- The loop takes a step. -/
  | render (clock : Reading)
  | send (c : Command)
  | setModes (modes : CartoonModes)
  /-- Someone stops the session. -/
  | close
  deriving DecidableEq, Repr

namespace Pipeline

variable {σ ρ : Type}

/-- What an action leaves. -/
def act (t : FrameTransform σ) (k : FrameSink ρ) (p : Pipeline σ ρ) : PipelineAction → Pipeline σ ρ
  | .deliver d => p.deliver d
  | .render clock => p.render t k clock
  | .send c => p.send c
  | .setModes modes => p.setModes modes
  | .close => p.close

/-- What a schedule leaves. -/
def run (t : FrameTransform σ) (k : FrameSink ρ) (p : Pipeline σ ρ) (schedule : List PipelineAction) :
    Pipeline σ ρ :=
  schedule.foldl (act t k) p

end Pipeline

end FramePipeline
