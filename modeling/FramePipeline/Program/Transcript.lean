import FramePipeline.Capture.Error
import FramePipeline.Capture.TestPattern
import FramePipeline.Config.File
import FramePipeline.Handoff.Session
import FramePipeline.Latency.Window
import FramePipeline.Render.Settings

/-!
# Runs of the program

What the program says about a run of the pipeline: the messages of its main thread and of its two
workers, and how it ends. The program opens the source that the configuration names, starts a session
and the two workers, and goes on until its time is over or it is interrupted. It fails where one of
these is refused, and breaks down at an overload.

Main definitions: `ProgramError`, `openSource`, `Machine`, `Interruption`, `RunEnd`, `Transcript`,
`Transcript.opening` (a run up to where the workers are at work), `Transcript.ofRun`.
-/

namespace FramePipeline

/-! ## Failure -/

/-- Why the program fails. -/
inductive ProgramError where
  | load (e : LoadError)
  | capture (e : CaptureError)
  /-- The program was built without access to cameras. -/
  | noCameras
  /-- The program breaks down. -/
  | overload (o : Overload)
  deriving DecidableEq, Repr

namespace ProgramError

/-- The text shown to people. -/
def message : ProgramError → String
  | load e => e.message
  | capture e => e.message
  | noCameras => "V4L2 capture requested but built without the `v4l2` feature"
  | overload o => o.message

/-- No configuration is loaded. -/
def ofLoad : LoadError → ProgramError
  | .overload o => overload o
  | e => load e

/-- No session starts. -/
def ofStart : StartError → ProgramError
  | .refused e => capture (.frame e)
  | .overload o => overload o

/-- The exit code: 1 of a failure that is reported, 101 of a breakdown. -/
def exitCode : ProgramError → Nat
  | overload _ => 101
  | _ => 1

/-- The messages of the error report, of which a breakdown has none. -/
def report : ProgramError → List String
  | overload _ => []
  | e => [e.message]

end ProgramError

/-- Model of `open_source`: the source that a configuration asks for. -/
def openSource (c : CaptureConfig) : Except ProgramError TestPattern :=
  match c.source with
  | .testPattern => (TestPattern.start c.stream).mapError (.capture ∘ .frame)
  | .v4l2 => .error .noCameras

/-! ## The machine -/

/-- What a run depends on besides its configuration. -/
structure Machine where
  /-- The cores are numbered from zero. -/
  cores : Nat
  /-- The seconds that the clock shows when the run begins. -/
  uptime : Nat
  deriving DecidableEq, Repr

/-- Whether the clock will ever show the end of a run, which `main` computes from `duration_secs`. -/
def Machine.checkEnd (m : Machine) (run : RunConfig) : Except Overload Unit :=
  match run.durationSecs with
  | none => .ok ()
  | some secs =>
    (Clock.after (.ofSeconds m.uptime 0) (.ofSeconds secs.toNat 0)).map fun _ => ()

/-! ## The end of a run -/

/-- Why a run ends. -/
inductive RunEnd where
  | elapsed
  | interrupted
  deriving DecidableEq, Repr

/-- The message that says so. -/
def RunEnd.message : RunEnd → String
  | elapsed => "Run duration elapsed"
  | interrupted => "Ctrl-C received"

/-- An interruption by someone who first waits for reports of the session, and perhaps for a
snapshot. -/
structure Interruption where
  reports : Nat := 6
  awaitsSnapshot : Bool := false
  deriving DecidableEq, Repr

/-- The earliest time of an interruption. The first report comes at once, the first snapshot after a
full interval, and no interval is shorter than a millisecond. -/
def Interruption.time (i : Interruption) (run : RunConfig) : Duration :=
  let reports := (i.reports - 1) * max run.statsIntervalMs.toNat 1
  let snapshot := match run.snapshotEveryMs with
    | some ms => if i.awaitsSnapshot then max ms.toNat 1 else 0
    | none => 0
  .ofMillis (max reports snapshot)

/-- What ends a run. -/
def RunConfig.endOf (run : RunConfig) (interruption : Option Interruption) : RunEnd :=
  match run.durationSecs, interruption with
  | some secs, some i =>
    if (Duration.ofSeconds secs.toNat 0).nanos ≤ (i.time run).nanos then .elapsed else .interrupted
  | some _, none => .elapsed
  | none, _ => .interrupted

/-! ## Transcripts -/

/-- What a run says. -/
structure Transcript where
  /-- The messages of the main thread, in order. -/
  main : List String
  /-- The messages with which the workers begin, sorted. -/
  threads : List String := []
  failure : Option ProgramError := none
  /-- The frames that are saved, as their summaries, without repetition. -/
  saved : List String := []

namespace Transcript

/-- The exit code of the program. -/
def exitCode (t : Transcript) : Nat :=
  (t.failure.map (·.exitCode)).getD 0

/-- The messages of the error report. -/
def report (t : Transcript) : List String :=
  (t.failure.map (·.report)).getD []

/-- The first message of a run. -/
def launching : String :=
  "Cartoonifier launching..."

/-- The last message of a run. -/
def shuttingDown : String :=
  "Cartoonifier shutting down"

/-- The message that names the source. -/
def usingSource (g : TestPattern) : String :=
  "Using capture source " ++ TestPattern.name ++ ": " ++ g.stream.text

/-- The message that a session was started. -/
def sessionStarted (g : TestPattern) : String :=
  "Handoff session started: " ++ g.stream.text ++ " (" ++ toString g.frameLen ++ " bytes/frame)"

/-- The first message of the capture worker. -/
def captureStarted (g : TestPattern) : String :=
  "Capture thread started: " ++ g.stream.text

/-- The first message of the render worker. -/
def renderStarted (g : TestPattern) (settings : RenderSettings) : String :=
  "Render loop started: " ++ g.stream.text ++ " every " ++ settings.pollInterval.text

/-- The message that the render worker does not get the core it asks for. -/
def notPinned? (m : Machine) (settings : RenderSettings) : Option String :=
  match settings.pinCore with
  | some core =>
    if core.toNat < m.cores then none
    else some ("Failed to pin render thread to core " ++ toString core.toNat)
  | none => none

/-- The transcript of a run that fails. -/
def ofFailure (e : ProgramError) : Transcript :=
  { main := [launching], failure := some e }

/-- The transcript that goes no further for an overload. -/
def breakingDown (t : Transcript) (o : Overload) : Transcript :=
  { t with failure := some (.overload o) }

/-- The transcript of a run with a source, up to where both workers are at work. The capture worker
begins before the latencies get their memory, and the render worker before the end of the run is
looked up. -/
def openingWith (m : Machine) (c : Config) (g : TestPattern) : Transcript :=
  let settings := RenderSettings.ofConfig c
  let opened : Transcript := { main := [launching, usingSource g] }
  match g.stream.bufferLen with
  | .error e => { opened with failure := some (.ofStart e) }
  | .ok _ =>
    let started := { opened with
      main := opened.main ++ [sessionStarted g]
      threads := [captureStarted g] }
    match LatencyWindow.new settings.latencyWindow with
    | .error o => started.breakingDown o
    | .ok _ =>
      let atWork := { started with
        threads :=
          ([captureStarted g, renderStarted g settings] ++ (notPinned? m settings).toList).mergeSort
            fun a b => a ≤ b }
      match m.checkEnd c.run with
      | .error o => atWork.breakingDown o
      | .ok () => atWork

/-- The transcript of a run up to where both workers are at work. -/
def opening (m : Machine) (c : Config) : Transcript :=
  match openSource c.capture with
  | .error e => ofFailure e
  | .ok g => openingWith m c g

/-- The end of a transcript. Whoever interrupts a run with snapshots sees one. -/
def closing (interruption : Option Interruption) (c : Config) (t : Transcript) : Transcript :=
  let ending := c.run.endOf interruption
  { t with
    main := t.main ++ [ending.message, shuttingDown]
    saved :=
      if c.run.snapshotEveryMs.isSome ∧ ending = .interrupted then
        match c.capture.stream.frameLen with
        | .ok n => [c.capture.stream.summary n]
        | .error _ => []
      else [] }

/-- The transcript of a run. -/
def ofRun (m : Machine) (interruption : Option Interruption) (loaded : Except LoadError Config) :
    Transcript :=
  match loaded with
  | .error e => ofFailure (.ofLoad e)
  | .ok c =>
    let t := opening m c
    if t.failure.isSome then t else t.closing interruption c

end Transcript

end FramePipeline
