import FramePipeline.Capture.Driver

/-!
# Scripted capture

A capture driver at work for a source that follows a script. Between the calls of the source others
use the session: they take frames, hold them, give them up, or stop the session. Once the driver has
ended nothing of the script happens any more.

Main definitions: `CaptureTurn`, `CaptureRun`, `CaptureRun.perform`, `CaptureRun.finish`.
-/

namespace FramePipeline

/-- What happens next. -/
inductive CaptureTurn where
  /-- The driver calls its source. -/
  | call (d : Delivery)
  /-- Someone takes a frame and gives it up at once. -/
  | take
  /-- Someone takes a frame and holds it. -/
  | hold
  /-- All frames that are held are given up. -/
  | release
  /-- One frame that is held is given up; the one that was taken last is number 0. -/
  | giveUp (i : Nat)
  /-- Someone stops the session. -/
  | stop
  deriving DecidableEq, Repr

/-- How a script ends. -/
inductive CaptureFinish where
  /-- The source stops the session and delivers a frame. -/
  | close
  /-- The source delivers nothing more, and the driver is told to stop. -/
  | idle
  deriving DecidableEq, Repr

/-- A driver at work. -/
structure CaptureRun where
  driver : CaptureDriver
  handoff : FrameHandoff
  /-- The buffers that are held. -/
  held : List CellId := []
  /-- How many calls of the script there were. -/
  calls : Nat := 0
  deriving DecidableEq, Repr

namespace CaptureRun

/-- Gives up all buffers that are held. -/
def releaseAll (r : CaptureRun) : CaptureRun :=
  { r with held := [], handoff := r.held.foldl FrameHandoff.release r.handoff }

/-- Gives up one of the buffers that are held. -/
def giveUp (r : CaptureRun) (i : Nat) : CaptureRun :=
  match r.held[i]? with
  | some id => { r with held := r.held.eraseIdx i, handoff := r.handoff.release id }
  | none => r

/-- Takes a frame; gives its buffer, to which there is a new reference. -/
def take (r : CaptureRun) : Option CellId × CaptureRun :=
  match r.handoff.tryTake with
  | (.ok id, c) => (id, { r with handoff := c })
  | (.error _, c) => (none, { r with handoff := c })

/-- Hands the driver a delivery. -/
def deliver (r : CaptureRun) (d : Delivery) : CaptureRun :=
  let (driver, handoff) := r.driver.receive r.handoff d
  { r with driver, handoff }

/-- One turn of a driver that has not ended. -/
def turn (r : CaptureRun) : CaptureTurn → CaptureRun
  | .call d => { r.deliver d with calls := r.calls + 1 }
  | .take =>
    match r.take with
    | (some id, r) => { r with handoff := r.handoff.release id }
    | (none, r) => r
  | .hold =>
    match r.take with
    | (some id, r) => { r with held := id :: r.held }
    | (none, r) => r
  | .release => r.releaseAll
  | .giveUp i => r.giveUp i
  | .stop => { r with handoff := r.handoff.stop }

/-- Follows a script as long as the driver has not ended. -/
def perform (r : CaptureRun) (script : List CaptureTurn) : CaptureRun :=
  script.foldl (fun r t => if r.driver.ended.isSome then r else r.turn t) r

/-- The end of a script. With the driver the source ends too, and with it all that it holds. -/
def finish (r : CaptureRun) (how : CaptureFinish) : CaptureRun :=
  let r :=
    if r.driver.ended.isSome then r
    else
      match how with
      | .close => { r with handoff := r.handoff.stop }.deliver (.frame [])
      | .idle => r
  r.releaseAll

end CaptureRun

end FramePipeline
