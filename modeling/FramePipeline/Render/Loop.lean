import FramePipeline.Handoff.FrameHandoff
import FramePipeline.Latency.Window
import FramePipeline.Render.Settings
import FramePipeline.Render.Sink
import FramePipeline.Render.Transform

/-!
# The render loop

The loop takes frames from a session, transforms them, shows them, and saves one of them when a
snapshot was requested. Each round it reads its commands, waits while the output is frozen, takes a
frame, reads its commands once more, so that a request that was sent before the frame was published
applies to it, and renders the frame.

The loop is given by its steps (`RenderLoop.step`): one command read, one look at the clock, one frame
taken, one call of the transform or the sink. Between two steps the session and the commands may be
changed by others. What the loop did is in its trace.

Main definitions: `RenderPhase`, `RenderEvent`, `RenderLoop`, `RenderLoop.step`,
`RenderLoop.finalReport`.
-/

namespace FramePipeline

/-- Model of `Command`: what the loop is told through its queue. -/
inductive Command where
  /-- Save the next frame. -/
  | snapshot
  | shutdown
  deriving DecidableEq, Repr

/-- Why `RenderLoop::run` returns, or panics. -/
inductive RenderEnd where
  | shutdown
  | sessionClosed
  /-- The transform panicked. -/
  | panicked
  /-- The output was to be frozen until a time that the clock cannot show. -/
  | overloaded (o : Overload)
  deriving DecidableEq, Repr

/-- What the loop does next: where `RenderLoop::run` and `RenderLoop::render` are. -/
inductive RenderPhase where
  /-- It reads a command at the beginning of a round. -/
  | drain
  /-- It looks at the clock, if the output is frozen. -/
  | thaw
  /-- It looks for a frame. -/
  | take
  /-- It reads a command, with a frame at hand. -/
  | drainWith (id : CellId)
  | apply (id : CellId)
  | present (id : CellId)
  /-- It saves the frame at hand, if that was requested. -/
  | save (id : CellId)
  | ended (why : RenderEnd)
  deriving DecidableEq, Repr

/-- The buffer of the frame at hand. -/
def RenderPhase.atHand? : RenderPhase → Option CellId
  | drainWith id | apply id | present id | save id => some id
  | drain | thaw | take | ended _ => none

/-- What the loop did. -/
inductive RenderEvent where
  /-- The transform was given a frame, modes and what the buffer held. -/
  | applied (input : Frame) (modes : CartoonModes) (buffer : Bytes) (result : Applied)
  /-- The sink was given a frame to show, and whether it did. -/
  | presented (output : Frame) (ok : Bool)
  /-- The sink was given a frame to save, and whether it did. -/
  | saved (output : Frame) (ok : Bool)
  deriving DecidableEq, Repr

/-- What the loop counts. -/
structure RenderCounts where
  framesRendered : Nat := 0
  snapshots : Nat := 0
  errors : Nat := 0
  deriving DecidableEq, Repr

/-- Model of `RenderReport`: what the loop reports in the end. -/
structure RenderReport where
  counts : RenderCounts
  latency : LatencySummary
  deriving DecidableEq, Repr

/-- What the clock shows: the time, and how long ago the frame at hand was published. -/
structure Reading where
  now : Duration
  latency : Duration
  deriving DecidableEq, Repr

/-- Model of `RenderLoop`, with the session that it shares, the receiving end of its queue and its place in
`RenderLoop::run`. -/
structure RenderLoop (σ ρ : Type) where
  handoff : FrameHandoff
  settings : RenderSettings
  /-- The modes for the next frame. -/
  modes : CartoonModes
  /-- The commands that were sent and not read yet. -/
  queue : List Command := []
  phase : RenderPhase := .drain
  /-- A snapshot was requested and not saved yet. -/
  pendingSave : Bool := false
  /-- The output is frozen until this time. -/
  frozenUntil : Option Duration := none
  /-- The buffer that transforms write into. -/
  scratch : Bytes := []
  window : LatencyWindow
  counts : RenderCounts := {}
  transform : σ
  sink : ρ
  trace : List RenderEvent := []

namespace RenderLoop

variable {σ ρ : Type}

/-- The loop that `RenderLoop::spawn` builds, before its first round. -/
def start (handoff : FrameHandoff) (settings : RenderSettings) (transform : σ) (sink : ρ) :
    RenderLoop σ ρ :=
  { handoff
    settings
    modes := settings.modes
    window := .empty settings.latencyWindow
    transform
    sink }

/-- Model of `RenderLoop::spawn`: starts the loop with memory for the outputs and for the latencies, if there
is enough. -/
def spawn (handoff : FrameHandoff) (settings : RenderSettings) (transform : σ) (sink : ρ) :
    Except Overload (RenderLoop σ ρ) := do
  Memory.reserve handoff.session.frameLen 1
  let window ← LatencyWindow.new settings.latencyWindow
  return { start handoff settings transform sink with window }

/-- A loop that has its memory is the loop before its first round. -/
theorem eq_start_of_spawn {handoff : FrameHandoff} {settings : RenderSettings} {transform : σ} {sink : ρ}
    {r : RenderLoop σ ρ} (spawned : spawn handoff settings transform sink = .ok r) :
    r = start handoff settings transform sink := by
  simp only [spawn, bind, Except.bind, pure, Except.pure] at spawned
  split at spawned
  · cases spawned
  · split at spawned
    · cases spawned
    · next window opened =>
      obtain rfl := LatencyWindow.eq_empty_of_new opened
      exact (Except.ok.inj spawned).symm

/-! ## Control -/

/-- Sends a command, as `RenderHandle::request_snapshot` and `RenderHandle::shutdown` do. -/
def send (r : RenderLoop σ ρ) (c : Command) : RenderLoop σ ρ :=
  { r with queue := r.queue ++ [c] }

/-- Model of `RenderHandle::set_modes`: sets the modes for the frames to come. -/
def setModes (r : RenderLoop σ ρ) (modes : CartoonModes) : RenderLoop σ ρ :=
  { r with modes }

/-- Model of `RenderHandle::is_finished`. -/
def hasEnded (r : RenderLoop σ ρ) : Bool :=
  match r.phase with
  | .ended _ => true
  | _ => false

/-- Whether the loop broke down because of a time that the clock cannot show. -/
def isOverloaded (r : RenderLoop σ ρ) : Bool :=
  match r.phase with
  | .ended (.overloaded _) => true
  | _ => false

/-! ## Parts of a round -/

/-- Adds to the trace. -/
def note (r : RenderLoop σ ρ) (e : RenderEvent) : RenderLoop σ ρ :=
  { r with trace := r.trace ++ [e] }

/-- Goes on with another phase; a frame that is no longer at hand is given up. -/
def goTo (r : RenderLoop σ ρ) (phase : RenderPhase) : RenderLoop σ ρ :=
  match r.phase.atHand?, phase.atHand? with
  | some id, none => { r with phase, handoff := r.handoff.release id }
  | _, _ => { r with phase }

/-- Counts a transform or a presentation that failed in `RenderLoop::render`. -/
def countFailure (r : RenderLoop σ ρ) : RenderLoop σ ρ :=
  { r with
    counts.errors := r.counts.errors + 1
    handoff.metrics := r.handoff.metrics.count .renderErrors }

/-- Model of one round of `RenderLoop::drain_commands`: reads one command; without any goes on with `next`.
The queue stays open as long as the handle is there, which shuts the loop down when it goes. -/
def drainCommands (r : RenderLoop σ ρ) (next : RenderPhase) : RenderLoop σ ρ :=
  match r.queue with
  | [] => r.goTo next
  | .snapshot :: queue => { r with queue, pendingSave := true }
  | .shutdown :: queue => { r with queue }.goTo (.ended .shutdown)

/-- The look of `RenderLoop::run` at `frozen_until`: goes on if the output is not frozen, or no longer;
otherwise another round begins. -/
def checkFrozenUntil (r : RenderLoop σ ρ) (now : Duration) : RenderLoop σ ρ :=
  match r.frozenUntil with
  | none => r.goTo .take
  | some until' =>
    if now.nanos < until'.nanos then r.goTo .drain
    else { r with frozenUntil := none }.goTo .take

/-- The call of `FrameHandoff::try_take` in `RenderLoop::run`. Without a frame another round begins; a closed
session ends the loop, and there are no other errors. -/
def takeFrame (r : RenderLoop σ ρ) : RenderLoop σ ρ :=
  match r.handoff.tryTake with
  | (.ok (some id), handoff) => { r with handoff }.goTo (.drainWith id)
  | (.ok none, handoff) => { r with handoff }.goTo .drain
  | (.error _, handoff) => { r with handoff }.goTo (.ended .sessionClosed)

/-- The call of `FrameTransform::apply` in `RenderLoop::render`: transforms a frame into the empty buffer. The
output must be as long as the frame. -/
def applyTransform (r : RenderLoop σ ρ) (t : FrameTransform σ) (id : CellId) (frame : Frame) :
    RenderLoop σ ρ :=
  let r := { r with scratch := [] }
  let (result, transform) := t.apply frame r.modes r.scratch r.transform
  let r := { r with transform }.note (.applied frame r.modes r.scratch result)
  match result with
  | .panicked => r.goTo (.ended .panicked)
  | .failed _ out => { r with scratch := out }.countFailure.goTo .drain
  | .done out =>
    if out.length = frame.data.length then { r with scratch := out }.goTo (.present id)
    else { r with scratch := out }.countFailure.goTo .drain

/-- The call of `FrameSink::present` in `RenderLoop::render`: shows the output. -/
def presentOutput (r : RenderLoop σ ρ) (k : FrameSink ρ) (latency : Duration) (id : CellId)
    (output : Frame) : RenderLoop σ ρ :=
  match k.present output r.sink with
  | (.error _, sink) =>
    { r with sink }.countFailure.note (.presented output false) |>.goTo (.save id)
  | (.ok (), sink) =>
    { r with
      sink
      counts.framesRendered := r.counts.framesRendered + 1
      window := r.window.record latency
      handoff.metrics := (r.handoff.metrics.count .renderFrames).count .latencies }.note
        (.presented output true) |>.goTo (.save id)

/-- The assignment of `frozen_until` in `RenderLoop::render`: freezes the output for the time that the
settings ask for, if there is one, and another round begins. Where the clock cannot show the end of this time,
adding `freeze_after_save` to the time panics, and the loop breaks down. -/
def freezeOutput (r : RenderLoop σ ρ) (now : Duration) : RenderLoop σ ρ :=
  if r.settings.freezeAfterSave.nanos = 0 then r.goTo .drain
  else
    match Clock.after now r.settings.freezeAfterSave with
    | .ok thaw => { r with frozenUntil := some thaw }.goTo .drain
    | .error o => r.goTo (.ended (.overloaded o))

/-- The call of `FrameSink::save` in `RenderLoop::render`: saves the output, if that was requested, and
freezes what was saved. -/
def saveOutput (r : RenderLoop σ ρ) (k : FrameSink ρ) (now : Duration) (output : Frame) :
    RenderLoop σ ρ :=
  if r.pendingSave then
    match k.save output r.sink with
    | (.error _, sink) =>
      { r with sink, pendingSave := false, counts.errors := r.counts.errors + 1 }.note
        (.saved output false) |>.goTo .drain
    | (.ok (), sink) =>
      { r with sink, pendingSave := false, counts.snapshots := r.counts.snapshots + 1 }.note
        (.saved output true) |>.freezeOutput now
  else r.goTo .drain

/-! ## Steps -/

/-- The `FrameView` of the output for the frame at hand: its number and stream with the bytes of the
buffer. -/
def output (r : RenderLoop σ ρ) (frame : Frame) : Frame :=
  ⟨frame.metadata, r.scratch⟩

/-- The next step of `RenderLoop::run`, with what the clock shows. -/
def step (t : FrameTransform σ) (k : FrameSink ρ) (clock : Reading) (r : RenderLoop σ ρ) : RenderLoop σ ρ :=
  match r.phase with
  | .drain => r.drainCommands .thaw
  | .thaw => r.checkFrozenUntil clock.now
  | .take => r.takeFrame
  | .drainWith id => r.drainCommands (.apply id)
  | .apply id =>
    match r.handoff.frame? id with
    | some frame => r.applyTransform t id frame
    | none => r.goTo .drain
  | .present id =>
    match r.handoff.frame? id with
    | some frame => r.presentOutput k clock.latency id (r.output frame)
    | none => r.goTo .drain
  | .save id =>
    match r.handoff.frame? id with
    | some frame => r.saveOutput k clock.now (r.output frame)
    | none => r.goTo .drain
  | .ended _ => r

/-! ## The trace and the end -/

/-- How many times the transform was called. -/
def calls (r : RenderLoop σ ρ) : Nat :=
  r.trace.countP fun
    | .applied .. => true
    | _ => false

/-- The result of `RenderHandle::stop`: what the loop reports once it has ended. After a panic or an overload
the report is lost. -/
def finalReport (r : RenderLoop σ ρ) : Except RenderError RenderReport :=
  match r.phase with
  | .ended .panicked | .ended (.overloaded _) => .error .panicked
  | _ => .ok ⟨r.counts, r.window.summary⟩

end RenderLoop

end FramePipeline
