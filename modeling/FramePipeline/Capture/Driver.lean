import FramePipeline.Capture.Error
import FramePipeline.Capture.TestPattern
import FramePipeline.Duration
import FramePipeline.Frame.Unpadded
import FramePipeline.Handoff.FrameHandoff

/-!
# The capture driver

The driver asks a source for one frame after the other and publishes them. A frame of a wrong length is
dropped, whether the source itself or the session finds it out; other errors of the source are
counted, and after too many of them in a row the driver gives up. A closed session ends it too.

Main definitions: `Delivery`, `CaptureDriver`, `CaptureDriver.receive` (what becomes of one delivery),
`CaptureDriver.finalReport`.
-/

namespace FramePipeline

/-- What a call of `CaptureSource::next_frame` comes to. -/
inductive Delivery where
  | frame (bytes : Bytes)
  | error (e : CaptureError)
  | panic
  deriving DecidableEq, Repr

/-- The delivery of a source of a stream whose device hands out padded buffers. -/
def Delivery.ofPadded (stream : StreamFormat) (src : Bytes) (stride : Nat) : Delivery :=
  match stream.copyUnpadded src stride [] with
  | (.ok (), bytes) => .frame bytes
  | (.error e, _) => .error (.frame e)

/-- The delivery of `TestPattern` as a `CaptureSource`. A frame for which there is no memory breaks the source
down. -/
def Delivery.ofTestPattern (g : TestPattern) : Delivery × TestPattern :=
  match g.nextFrame [] with
  | .ok (bytes, g) => (.frame bytes, g)
  | .error _ => (.panic, g)

/-- Model of `DriverSettings`, with its defaults: how the driver deals with errors. -/
structure DriverSettings where
  /-- After this many source errors in a row it gives up. -/
  maxConsecutiveErrors : UInt32 := 10
  /-- The pause after a source error. -/
  errorBackoff : Duration := .ofMillis 10
  deriving DecidableEq, Repr

/-- Model of `CaptureReport`: what the driver did. -/
structure CaptureReport where
  framesPublished : Nat := 0
  framesRejected : Nat := 0
  sourceErrors : Nat := 0
  /-- The error at which it gave up. -/
  failure : Option CaptureError := none
  deriving DecidableEq, Repr

/-- Why the loop of `run_capture` ends: the driver asks its source no more. -/
inductive CaptureEnd where
  | gaveUp
  | sessionClosed
  | panicked
  deriving DecidableEq, Repr

/-- The variables of `run_capture` between two calls of its source. -/
structure CaptureDriver where
  settings : DriverSettings := {}
  /-- How many source errors there were since the last frame. -/
  consecutiveErrors : Nat := 0
  report : CaptureReport := {}
  ended : Option CaptureEnd := none
  deriving DecidableEq, Repr

namespace CaptureDriver

/-- What `run_capture` does about an error of the source: counts it, and gives up at the last one of too many
in a row. -/
def countError (d : CaptureDriver) (e : CaptureError) : CaptureDriver :=
  let n := d.consecutiveErrors + 1
  let d := { d with
    consecutiveErrors := n
    report.sourceErrors := d.report.sourceErrors + 1 }
  if d.settings.maxConsecutiveErrors.toNat ≤ n then
    { d with report.failure := some e, ended := some .gaveUp }
  else d

/-- Counts a frame of a wrong length, be it the source or the session that refuses it. -/
def countRejected (d : CaptureDriver) : CaptureDriver :=
  { d with report.framesRejected := d.report.framesRejected + 1 }

/-- Counts a frame that was published. -/
def countPublished (d : CaptureDriver) : CaptureDriver :=
  { d with report.framesPublished := d.report.framesPublished + 1 }

/-- What `run_capture` makes of the result of `FrameHandoff::publish`. -/
def afterPublish (d : CaptureDriver) : Except HandoffError Nat → CaptureDriver
  | .ok _ => d.countPublished
  | .error .sessionClosed => { d with ended := some .sessionClosed }
  | .error _ => d.countRejected

/-- One round of `run_capture`: what becomes of a delivery. -/
def receive (d : CaptureDriver) (c : FrameHandoff) : Delivery → CaptureDriver × FrameHandoff
  | .frame bytes =>
    let (result, c) := c.publish bytes
    ({ d with consecutiveErrors := 0 }.afterPublish result, c)
  | .error (.frame (.sizeMismatch _ _)) =>
    ({ d with consecutiveErrors := 0 }.countRejected,
      { c with metrics := c.metrics.count .captureRejected })
  | .error e => (d.countError e, { c with metrics := c.metrics.count .captureErrors })
  | .panic => ({ d with ended := some .panicked }, c)

/-- The result of `CaptureHandle::stop`: what the driver reports in the end. After a panic the report is
lost. -/
def finalReport (d : CaptureDriver) : CaptureReport :=
  if d.ended = some .panicked then {} else d.report

end CaptureDriver

end FramePipeline
