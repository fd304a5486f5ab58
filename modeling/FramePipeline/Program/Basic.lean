import FramePipeline.Pipeline
import FramePipeline.Program.Transcript

/-!
# The program at work

The whole program as one state that time drives: at every tick the source delivers the frames that are
due, a snapshot and a report are made if it is time for them, and the render loop goes round once.

Main definitions: `Program`, `Program.ofConfig`, `Program.tick`, `Program.isOver`, `Program.shutDown`.
-/

namespace FramePipeline

/-- Something that happens again and again. -/
structure Interval where
  period : Duration
  /-- When it happens next. -/
  due : Duration
  deriving DecidableEq, Repr

namespace Interval

/-- Happens every so many milliseconds, for the first time at the given one. There is a millisecond at
least between two times. -/
def ofMillis (period first : Nat) : Interval :=
  ⟨.ofMillis (max period 1), .ofMillis first⟩

/-- Whether it is time, and when it happens next then: a full period after the time that was due, or,
if that has passed too, from now on. -/
def check (i : Interval) (now : Duration) : Bool × Interval :=
  if now.nanos < i.due.nanos then (false, i)
  else (true, { i with due := ⟨max now.nanos (i.due.nanos + i.period.nanos)⟩ })

end Interval

/-- The description of the counters of a session. -/
def HandoffStats.structureText (s : HandoffStats) : String :=
  "HandoffStats \x7b published: " ++ toString s.published ++ ", taken: " ++ toString s.taken ++
    ", dropped: " ++ toString s.dropped ++ ", size_mismatches: " ++ toString s.sizeMismatches ++
    ", reallocations: " ++ toString s.reallocations ++ " \x7d"

/-- The program between two rounds of the loop of `main`. -/
structure Program where
  config : Config
  source : TestPattern
  pipeline : Pipeline Unit LogSink
  /-- When the next frame is due; without it a frame is due at every tick. -/
  frames : Option Interval
  snapshots : Option Interval
  reports : Interval

namespace Program

/-- The counters of the session. -/
def stats (p : Program) : HandoffStats :=
  p.pipeline.loop.handoff.session.stats

/-- The program at the beginning of a run of a source and a loop. -/
def start (config : Config) (source : TestPattern) (loop : RenderLoop Unit LogSink) : Program :=
  let driver : DriverSettings := { maxConsecutiveErrors := config.capture.maxConsecutiveErrors }
  { config
    source
    pipeline := ⟨{ settings := driver }, loop⟩
    frames :=
      if config.capture.fps = 0 then none
      else some ⟨⟨1000000000 / config.capture.fps.toNat⟩, ⟨0⟩⟩
    snapshots := config.run.snapshotEveryMs.map fun ms => .ofMillis ms.toNat (max ms.toNat 1)
    reports := .ofMillis config.run.statsIntervalMs.toNat 0 }

/-- What `main` does up to its loop: the program at the beginning of a run with a configuration. -/
def ofConfig (m : Machine) (config : Config) : Except ProgramError Program := do
  let source ← openSource config.capture
  let handoff ← (FrameHandoff.start source.stream).mapError .ofStart
  let loop ← (RenderLoop.spawn handoff (.ofConfig config) () {}).mapError .overload
  (m.checkEnd config.run).mapError .overload
  return start config source loop

/-! ## Ticks -/

/-- The source delivers a frame. -/
def capture (p : Program) : Program :=
  let (bytes, source) := p.source.next
  { p with source, pipeline := p.pipeline.deliver (.frame bytes) }

/-- The source delivers a frame if one is due. -/
def captureDue (now : Duration) (p : Program) : Program :=
  match p.frames with
  | none => p.capture
  | some i =>
    let (isDue, i) := i.check now
    if isDue then { p with frames := some i }.capture else p

/-- Requests a snapshot if one is due. -/
def requestDue (now : Duration) (p : Program) : Program :=
  match p.snapshots with
  | none => p
  | some i =>
    let (isDue, i) := i.check now
    if isDue then { p with snapshots := some i, pipeline := p.pipeline.send .snapshot } else p

/-- Reports on the session if that is due. -/
def reportDue (now : Duration) (p : Program) : List String × Program :=
  let (isDue, i) := p.reports.check now
  (if isDue then ["Handoff stats: " ++ p.stats.structureText] else [], { p with reports := i })

/-- The loop takes so many steps. -/
def renderSteps (now : Duration) : (steps : Nat) → Program → Program
  | 0, p => p
  | steps + 1, p =>
    renderSteps now steps
      { p with pipeline := p.pipeline.render .passthrough FrameSink.log ⟨now, ⟨0⟩⟩ }

/-- The loop goes round once: it reads all its commands and renders a frame, if there is one. -/
def render (now : Duration) (p : Program) : Program :=
  p.renderSteps now (p.pipeline.loop.queue.length + 8)

/-- The messages about frames that were saved. What was reported is forgotten. -/
def reportSaved (p : Program) : List String × Program :=
  let messages := p.pipeline.loop.sink.events.filterMap fun
    | .saved f => some (LogEvent.saved f).message
    | .presented _ _ => none
  (messages, { p with pipeline.loop.sink.events := [], pipeline.loop.trace := [] })

/-- What one round of the loop of `main`, and the two workers meanwhile, say and do at a time. -/
def tick (now : Duration) (p : Program) : List String × Program :=
  let p := (p.captureDue now).requestDue now
  let (reports, p) := p.reportDue now
  let (saved, p) := (p.render now).reportSaved
  (reports ++ saved, p)

/-! ## The end -/

/-- Whether `main` leaves its loop: the time of the run is over, or the driver has ended. -/
def isOver (now : Duration) (p : Program) : Bool :=
  p.pipeline.driver.ended.isSome ||
    p.config.run.durationSecs.any fun secs => (Duration.ofSeconds secs.toNat 0).nanos ≤ now.nanos

/-- What `main` does after its loop: stops the session, which ends both workers. -/
def shutDown (now : Duration) (p : Program) : Program :=
  { p with pipeline := p.pipeline.close.send .shutdown }.render now

end Program

end FramePipeline
