import FramePipeline.Frame.Basic
import FramePipeline.Render.Error

/-!
# Sinks

A sink is where rendered frames go: it shows every one of them, and saves those it is asked to. It has
a state of its own, and both may fail.

Main definitions: `FrameSink`; `Recorded` and `FrameSink.memorySink`, which keeps what it is given;
`FrameSink.log` and `LogEvent`, which reports it; `MemorySinks`, which may share what they record.
-/

namespace FramePipeline

/-- Model of `FrameSink`: a sink with states `ρ`. -/
structure FrameSink (ρ : Type) where
  present : Frame → ρ → Except RenderError Unit × ρ
  save : Frame → ρ → Except RenderError Unit × ρ

/-! ## Memory sinks -/

/-- Model of `Recorded`: what a memory sink was given. -/
structure Recorded where
  /-- How many frames were shown. -/
  presented : Nat := 0
  lastPresented : Option Frame := none
  /-- The frames that were saved, in order. -/
  saved : List Frame := []
  deriving DecidableEq, Repr

namespace Recorded

/-- What `MemorySink` does in `FrameSink::present`: records a frame that was shown. -/
def present (r : Recorded) (f : Frame) : Recorded :=
  { r with presented := r.presented + 1, lastPresented := some f }

/-- What `MemorySink` does in `FrameSink::save`: records a frame that was saved. -/
def save (r : Recorded) (f : Frame) : Recorded :=
  { r with saved := r.saved ++ [f] }

end Recorded

/-- Model of `MemorySink`: a sink that keeps what it is given. -/
def FrameSink.memorySink : FrameSink Recorded where
  present f r := (.ok (), r.present f)
  save f r := (.ok (), r.save f)

/-- The sink that fails at frames given by their numbers, and does nothing with them. -/
def FrameSink.failingAt {ρ : Type} (sink : FrameSink ρ) (present save : List Nat) : FrameSink ρ where
  present f r :=
    if f.sequence ∈ present then (.error (.sink "scripted"), r) else sink.present f r
  save f r :=
    if f.sequence ∈ save then (.error (.sink "scripted"), r) else sink.save f r

/-- Values of `MemorySink`, several of which may share what they record. -/
structure MemorySinks where
  recordings : List Recorded
  /-- The record of each memory sink. -/
  sinks : List Nat
  deriving DecidableEq, Repr

namespace MemorySinks

/-- One memory sink with a record of its own. -/
def single : MemorySinks :=
  ⟨[{}], [0]⟩

/-- The record of a memory sink. -/
def recording? (r : MemorySinks) (i : Nat) : Option Recorded := do
  r.recordings[← r.sinks[i]?]?

/-- Changes the record of a memory sink. -/
def modify (r : MemorySinks) (i : Nat) (f : Recorded → Recorded) : MemorySinks :=
  match r.sinks[i]? with
  | some k => { r with recordings := r.recordings.modify k f }
  | none => r

/-- Adds a clone, which shares the record of another one. -/
def clone (r : MemorySinks) (i : Nat) : MemorySinks :=
  match r.sinks[i]? with
  | some k => { r with sinks := r.sinks ++ [k] }
  | none => r

/-- Model of `MemorySink::new`: adds a memory sink with a record of its own. -/
def add (r : MemorySinks) : MemorySinks :=
  ⟨r.recordings ++ [({} : Recorded)], r.sinks ++ [r.recordings.length]⟩

end MemorySinks

/-! ## The log -/

/-- What the log sink reports. -/
inductive LogEvent where
  /-- A frame was shown, the given one in order. -/
  | presented (count : Nat) (frame : Frame)
  | saved (frame : Frame)
  deriving DecidableEq, Repr

/-- The text of a report. -/
def LogEvent.message : LogEvent → String
  | presented _ frame => "present " ++ frame.metadata.stream.text
  | saved frame => "Snapshot of frame " ++ toString frame.sequence ++ " (" ++ frame.summary ++ ")"

/-- Model of `LogSink`: how many frames it was shown, and its reports, in order. -/
structure LogSink where
  presented : Nat := 0
  events : List LogEvent := []
  deriving DecidableEq, Repr

/-- What `LogSink` does as a `FrameSink`: reports what it is given. -/
def FrameSink.log : FrameSink LogSink where
  present f l :=
    let n := l.presented + 1
    (.ok (), { presented := n, events := l.events ++ [.presented n f] })
  save f l := (.ok (), { l with events := l.events ++ [.saved f] })

end FramePipeline
