import FramePipeline.Entries
import FramePipeline.Frame.Unpadded
import FramePipeline.Handoff.FrameHandoff

/-!
# Many sessions

A table holds any number of sessions, the handles through which callers reach them, and the frames
that callers hold by name. Handles of one session are equal in all they show; buffers of all sessions
are in one pool, and all sessions count on the same metrics.

Main definitions: `HandoffTable`, `HandoffTable.Request`, `HandoffTable.Answer`, `HandoffTable.Failure`,
`HandoffTable.step`.
-/

namespace FramePipeline

/-- Sessions, handles to them, and frames that are held. -/
structure HandoffTable where
  pool : Pool := {}
  metrics : Metrics := []
  sessions : List Session := []
  /-- The session that each handle leads to. -/
  handles : List Nat := []
  /-- The buffer that is held under each name. -/
  held : Entries CellId := []
  deriving DecidableEq, Repr

namespace HandoffTable

/-- What callers ask for: the operations of `FrameHandoff`, and what they do with the frames that they took. A
handle is given by its number. -/
inductive Request where
  | publish (handle : Nat) (bytes : Bytes)
  /-- Publishes the rows of a padded buffer. -/
  | publishPadded (handle : Nat) (src : Bytes) (stride : Nat)
  /-- Takes a frame, and holds it if a name is given. -/
  | tryTake (handle : Nat) (name : Option String)
  /-- Reads a frame that is held. -/
  | read (name : String)
  /-- Holds a frame under a second name. -/
  | share (name second : String)
  | release (name : String)
  | stop (handle : Nat)
  /-- Makes another handle to the same session. -/
  | clone (handle : Nat)
  /-- Starts a session, to which a new handle leads. -/
  | start (stream : StreamFormat)
  /-- Asks what the session tells about itself. -/
  | inspect (handle : Nat)
  deriving DecidableEq, Repr

/-- What callers are answered. -/
inductive Answer where
  /-- The number of a frame, or of a handle. -/
  | number (result : Except HandoffError Nat)
  | frame (result : Except HandoffError (Option Frame))
  /-- Whether a frame was held under the name. -/
  | wasHeld (yes : Bool)
  | session (v : Session.View)
  | done

/-- Why a request is not answered. -/
inductive Failure where
  /-- There is no such handle. -/
  | noHandle (handle : Nat)
  | overload (o : Overload)
  deriving DecidableEq, Repr

/-! ## Handles -/

/-- The session that a handle leads to. -/
def session? (e : HandoffTable) (handle : Nat) : Option Session := do
  e.sessions[← e.handles[handle]?]?

/-- The session that a handle leads to, with the pool and the metrics. -/
def handoff? (e : HandoffTable) (handle : Nat) : Option FrameHandoff := do
  some { session := ← e.session? handle, pool := e.pool, metrics := e.metrics }

/-- Puts back a handoff that was changed through a handle. -/
def putHandoff (e : HandoffTable) (handle : Nat) (c : FrameHandoff) : HandoffTable :=
  match e.handles[handle]? with
  | none => e
  | some i =>
    { e with sessions := e.sessions.set i c.session, pool := c.pool, metrics := c.metrics }

/-- Does something to the session that a handle leads to. -/
def withHandoff {α : Type} (e : HandoffTable) (handle : Nat) (f : FrameHandoff → α × FrameHandoff) :
    Except Failure (α × HandoffTable) :=
  match e.handoff? handle with
  | none => .error (.noHandle handle)
  | some c =>
    let (a, c) := f c
    .ok (a, e.putHandoff handle c)

/-! ## Held frames -/

/-- Gives up what is held under a name. -/
def releaseName (e : HandoffTable) (name : String) : HandoffTable :=
  match e.held.lookup name with
  | none => e
  | some id => { e with held := e.held.erase name, pool := e.pool.release id }

/-- Holds a buffer, to which the caller has a reference already, under a name; what was held under
it is given up. -/
def hold (e : HandoffTable) (name : String) (id : CellId) : HandoffTable :=
  let e := e.releaseName name
  { e with held := e.held.put name id }

/-- The frame that is held under a name. -/
def heldFrame? (e : HandoffTable) (name : String) : Option Frame := do
  e.pool.frame? (← e.held.lookup name)

/-! ## Requests -/

/-- A taken frame is held under the given name; without a name it is given up at once. -/
def keep (e : HandoffTable) (name : Option String) (id : CellId) : HandoffTable :=
  match name with
  | some name => e.hold name id
  | none => { e with pool := e.pool.release id }

/-- `StreamFormat::copy_unpadded` into an empty buffer and then `FrameHandoff::publish`: publishes what a
padded buffer of the session's stream holds. -/
def publishPadded (src : Bytes) (stride : Nat) (c : FrameHandoff) : Except HandoffError Nat × FrameHandoff :=
  match c.session.stream.copyUnpadded src stride [] with
  | (.error e, _) => (.error e, c)
  | (.ok (), bytes) => c.publish bytes

/-- Answers a request: the call of `FrameHandoff` that it names, on the session that the handle leads to. -/
def step (e : HandoffTable) : Request → Except Failure (Answer × HandoffTable)
  | .publish handle bytes => do
    let (result, e) ← e.withHandoff handle (·.publish bytes)
    .ok (.number result, e)
  | .publishPadded handle src stride => do
    let (result, e) ← e.withHandoff handle (publishPadded src stride)
    .ok (.number result, e)
  | .tryTake handle name => do
    let (result, e) ← e.withHandoff handle (·.tryTake)
    match result with
    | .error r => .ok (.frame (.error r), e)
    | .ok none => .ok (.frame (.ok none), e)
    | .ok (some id) => .ok (.frame (.ok (e.pool.frame? id)), e.keep name id)
  | .read name => .ok (.frame (.ok (e.heldFrame? name)), e)
  | .share name second =>
    match e.held.lookup name with
    | none => .ok (.wasHeld false, e)
    | some id => .ok (.wasHeld true, { e with pool := e.pool.retain id }.hold second id)
  | .release name => .ok (.wasHeld (e.held.lookup name).isSome, e.releaseName name)
  | .stop handle => do
    let (_, e) ← e.withHandoff handle fun c => ((), c.stop)
    .ok (.done, e)
  | .clone handle =>
    match e.handles[handle]? with
    | none => .error (.noHandle handle)
    | some i => .ok (.number (.ok e.handles.length), { e with handles := e.handles ++ [i] })
  | .start stream =>
    match Session.start stream e.pool with
    | .error (.refused r) => .ok (.number (.error r), e)
    | .error (.overload o) => .error (.overload o)
    | .ok (s, pool) =>
      .ok (.number (.ok e.handles.length),
        { e with
          pool
          sessions := e.sessions ++ [s]
          handles := e.handles ++ [e.sessions.length] })
  | .inspect handle =>
    match e.session? handle with
    | none => .error (.noHandle handle)
    | some s => .ok (.session s.view, e)

/-- The answers to requests, one after the other, and what they leave. -/
def run (e : HandoffTable) : List Request → Except Failure (List Answer × HandoffTable)
  | [] => .ok ([], e)
  | r :: rest => do
    let (a, e) ← e.step r
    let (as, e) ← e.run rest
    .ok (a :: as, e)

end HandoffTable

end FramePipeline
