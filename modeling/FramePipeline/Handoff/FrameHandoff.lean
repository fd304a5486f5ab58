import FramePipeline.Handoff.Session
import FramePipeline.Metrics

/-!
# The frame handoff

A handoff is a session together with the pool that its buffers are in and the metrics that it counts on. Its
operations are `FrameHandoff.publish`, `FrameHandoff.tryTake` and `FrameHandoff.stop`. Each is put together
from *sections*, the steps that nothing else can come between: the look at the closed flag and the length, the
copy under the producer's lock, the swap and the take under the consumer's lock, and the counters.

A frame is copied in place only where the session holds the one reference to its spare buffer;
otherwise the session takes a new buffer and leaves the old one to those who hold it. So a frame that
was taken never changes while it is held.
-/

namespace FramePipeline

/-- Model of `FrameHandoff`: a session with its pool and metrics. -/
structure FrameHandoff where
  session : Session
  pool : Pool := {}
  metrics : Metrics := []
  deriving DecidableEq, Repr

namespace FrameHandoff

/-- Model of `FrameHandoff::with_format`: a session of a stream in a pool of its own. -/
def start (stream : StreamFormat) : Except StartError FrameHandoff :=
  match Session.start stream {} with
  | .ok (session, pool) => .ok { session, pool }
  | .error e => .error e

/-! ## Counters -/

/-- Counts a publication of a wrong length. -/
def countMismatch (c : FrameHandoff) : FrameHandoff :=
  { c with
    session.stats.sizeMismatches := c.session.stats.sizeMismatches + 1
    metrics := c.metrics.count .sizeMismatches }

/-- Counts a publication that found the spare buffer in use. -/
def countReallocation (c : FrameHandoff) : FrameHandoff :=
  { c with
    session.stats.reallocations := c.session.stats.reallocations + 1
    metrics := c.metrics.count .reallocations }

/-- Counts a publication. -/
def countPublished (c : FrameHandoff) : FrameHandoff :=
  { c with
    session.stats.published := c.session.stats.published + 1
    metrics := c.metrics.count .published }

/-- Counts a frame that was replaced before anyone took it. -/
def countDropped (c : FrameHandoff) : FrameHandoff :=
  { c with
    session.stats.dropped := c.session.stats.dropped + 1
    metrics := c.metrics.count .dropped }

/-- Counts a frame that was taken. -/
def countTaken (c : FrameHandoff) : FrameHandoff :=
  { c with session.stats.taken := c.session.stats.taken + 1 }

/-! ## The producer's side -/

/-- The closed flag and the length, at which `FrameHandoff::publish` looks before it takes a lock. -/
def check (c : FrameHandoff) (length : Nat) : Except HandoffError Unit :=
  if c.session.closed then .error .sessionClosed
  else if length = c.session.frameLen then .ok ()
  else .error (.sizeMismatch c.session.frameLen length)

/-- The copy of `FrameHandoff::publish`: into `spare` itself, if nobody else refers to it, and into a new
buffer otherwise, under the number `n`. Only the session refers to the buffer that comes of it. -/
def copy (c : FrameHandoff) (spare : CellId) (bytes : Bytes) (n : Nat) : CellId × FrameHandoff :=
  if c.pool.refs spare = 1 then (spare, { c with pool := c.pool.overwrite spare bytes n })
  else
    let blank := Frame.blank c.session.stream c.session.frameLen
    let (fresh, pool) := (c.pool.release spare).alloc (blank.overwrite bytes n)
    (fresh, { c.countReallocation with pool })

/-- What `FrameHandoff::publish` does under the producer's lock before it takes the consumer's: takes the
spare buffer and copies bytes; gives the buffer that holds them and the number of the frame. Without a spare
buffer the session is closed. -/
def fill (c : FrameHandoff) (bytes : Bytes) : Except HandoffError (CellId × Nat) × FrameHandoff :=
  match c.session.spare with
  | none => (.error .sessionClosed, c)
  | some spare =>
    let n := c.session.sequence + 1
    let (fresh, c) := { c with session.spare := none, session.sequence := n }.copy spare bytes n
    (.ok (fresh, n), c)

/-- What `FrameHandoff::publish` does under the consumer's lock: shows a copied frame to the consumer; gives
what the consumer saw before. When the session was stopped in the meantime, the frame is given up. -/
def install (c : FrameHandoff) (fresh : CellId) : Except HandoffError Session.Front × FrameHandoff :=
  match c.session.front with
  | none => (.error .sessionClosed, { c with pool := c.pool.release fresh })
  | some previous => (.ok previous, { c with session.front := some ⟨fresh, true⟩ })

/-- Makes a buffer the spare one, the last thing that `FrameHandoff::publish` does under the producer's
lock. -/
def returnSpare (c : FrameHandoff) (id : CellId) : FrameHandoff :=
  { c with session.spare := some id }

/-- Model of `FrameHandoff::publish`: publishes a frame; gives its number. A frame that nobody took is dropped
for it. -/
def publish (c : FrameHandoff) (bytes : Bytes) : Except HandoffError Nat × FrameHandoff :=
  match c.check bytes.length with
  | .error .sessionClosed => (.error .sessionClosed, c)
  | .error e => (.error e, c.countMismatch)
  | .ok () =>
    match c.fill bytes with
    | (.error e, c) => (.error e, c)
    | (.ok (fresh, n), c) =>
      match c.install fresh with
      | (.error e, c) => (.error e, c)
      | (.ok previous, c) =>
        let c := (c.returnSpare previous.current).countPublished
        (.ok n, if previous.ready then c.countDropped else c)

/-! ## The consumer's side -/

/-- What `FrameHandoff::try_take` does under the consumer's lock: takes the frame that the consumer sees, if
it is ready, and adds a reference to it. -/
def takeFront (c : FrameHandoff) : Except HandoffError (Option CellId) × FrameHandoff :=
  match c.session.front with
  | none => (.error .sessionClosed, c)
  | some front =>
    if front.ready then
      (.ok (some front.current),
        { c with
          session.front := some { front with ready := false }
          pool := c.pool.retain front.current })
    else (.ok none, c)

/-- Model of `FrameHandoff::try_take`: takes the latest frame, if one was published since the last one was
taken. The consumer holds a reference to it from then on. -/
def tryTake (c : FrameHandoff) : Except HandoffError (Option CellId) × FrameHandoff :=
  match c.takeFront with
  | (.ok (some id), c) => (.ok (some id), c.countTaken)
  | (result, c) => (result, c)

/-- Gives up a reference. -/
def release (c : FrameHandoff) (id : CellId) : FrameHandoff :=
  { c with pool := c.pool.release id }

/-- The frame in a buffer. -/
def frame? (c : FrameHandoff) (id : CellId) : Option Frame :=
  c.pool.frame? id

/-! ## The end -/

/-- The swap of the closed flag in `FrameHandoff::stop`; says whether it was set already. -/
def close (c : FrameHandoff) : Bool × FrameHandoff :=
  (c.session.closed, { c with session.closed := true })

/-- What `FrameHandoff::stop` does under the consumer's lock: takes the front buffer away from the
consumer. -/
def emptyFront (c : FrameHandoff) : FrameHandoff :=
  match c.session.front with
  | none => c
  | some front => { c with session.front := none, pool := c.pool.release front.current }

/-- What `FrameHandoff::stop` does under the producer's lock: takes the spare buffer away from the
producer. -/
def emptySpare (c : FrameHandoff) : FrameHandoff :=
  match c.session.spare with
  | none => c
  | some spare => { c with session.spare := none, pool := c.pool.release spare }

/-- Model of `FrameHandoff::stop`. Only the first stop empties the two sides. -/
def stop (c : FrameHandoff) : FrameHandoff :=
  match c.close with
  | (true, c) => c
  | (false, c) => c.emptyFront.emptySpare

end FrameHandoff

end FramePipeline
