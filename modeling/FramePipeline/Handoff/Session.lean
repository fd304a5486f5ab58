import FramePipeline.Frame.StreamFormat
import FramePipeline.Handoff.Pool
import FramePipeline.Memory

/-!
# Sessions

A session passes the frames of one stream from a producer to a consumer through a single slot, of
which only the latest frame counts. It owns two buffers: the *front* one, which the consumer sees, and
the *spare* one, into which the producer copies the next frame before the two change places.

Main definitions: `Session`, `Session.Front`, `HandoffStats`, `StartError`, `Session.start`,
`Session.View`.
-/

namespace FramePipeline

/-- Model of `HandoffStats`: what a session counts. -/
structure HandoffStats where
  published : Nat := 0
  taken : Nat := 0
  /-- Published frames that were replaced before anyone took them. -/
  dropped : Nat := 0
  /-- Publications of a wrong length. -/
  sizeMismatches : Nat := 0
  /-- Publications that found the spare buffer in use. -/
  reallocations : Nat := 0
  deriving DecidableEq, Repr

namespace Session

/-- Model of `Front`: the buffer that the consumer sees. -/
structure Front where
  current : CellId
  /-- The frame was published and not taken yet. -/
  ready : Bool
  deriving DecidableEq, Repr

end Session

/-- Model of `Shared` and `Back`: the slot through which frames pass. -/
structure Session where
  stream : StreamFormat
  /-- The bytes of every frame. -/
  frameLen : Nat
  closed : Bool := false
  /-- The consumer's side; none once the session is stopped. -/
  front : Option Session.Front
  /-- The producer's side; none while a frame is copied, and once the session is stopped. -/
  spare : Option CellId
  /-- The number of the last frame that was copied. -/
  sequence : Nat := 0
  stats : HandoffStats := {}
  deriving DecidableEq, Repr

/-! ## Starting -/

/-- Why a session does not start. -/
inductive StartError where
  /-- The stream has no frames. -/
  | refused (e : HandoffError)
  /-- No memory holds a frame of the stream. -/
  | overload (o : Overload)
  deriving DecidableEq, Repr

/-- The bytes of a buffer for the frames of a stream, as `FrameHandoff::with_format` asks for them:
`frame_len` first, and then the memory that `Frame::blank` needs. -/
def StreamFormat.bufferLen (s : StreamFormat) : Except StartError Nat :=
  match s.frameLen with
  | .error e => .error (.refused e)
  | .ok n =>
    match Memory.reserve n 1 with
    | .error o => .error (.overload o)
    | .ok () => .ok n

theorem StreamFormat.frameLen_of_bufferLen {s : StreamFormat} {n : Nat} (h : s.bufferLen = .ok n) :
    s.frameLen = .ok n := by
  unfold bufferLen at h
  split at h
  · cases h
  · next len =>
    split at h
    · cases h
    · obtain rfl := Except.ok.inj h
      exact len

namespace Session

/-- Model of `FrameHandoff::with_format` in a pool that is there: a session of a stream, with both its buffers
blank. -/
def start (stream : StreamFormat) (pool : Pool) : Except StartError (Session × Pool) :=
  match stream.bufferLen with
  | .error e => .error e
  | .ok frameLen =>
    let (spare, pool) := pool.alloc (Frame.blank stream frameLen)
    let (current, pool) := pool.alloc (Frame.blank stream frameLen)
    .ok ({ stream, frameLen, front := some ⟨current, false⟩, spare := some spare }, pool)

/-- What `FrameHandoff::format`, `FrameHandoff::frame_len` and `FrameHandoff::is_closed` give. -/
structure View where
  stream : StreamFormat
  frameLen : Nat
  closed : Bool
  deriving DecidableEq, Repr

/-- What the session tells about itself. -/
def view (s : Session) : View :=
  ⟨s.stream, s.frameLen, s.closed⟩

/-- The text of `FrameHandoff` as a structure. -/
def View.structureText (v : View) : String :=
  "FrameHandoff \x7b stream: " ++ v.stream.structureText ++ ", frame_len: " ++
    toString v.frameLen ++ ", closed: " ++ (if v.closed then "true" else "false") ++ " \x7d"

end Session

end FramePipeline
