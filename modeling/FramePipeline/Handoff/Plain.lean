import FramePipeline.Handoff.Basic

/-!
# Plain sessions

A table as its callers may think of it: every publication makes a frame of its own, which never
changes, and a session is no more than its last frame, if that is still waiting to be taken. There are
no buffers, so nothing is ever copied, reused or reallocated.

Main definitions: `PlainSession`, its operations `publish`, `tryTake` and `stop`, `PlainTable`,
`PlainTable.step` and `PlainTable.run`.
-/

namespace FramePipeline

/-- A session without buffers. -/
structure PlainSession where
  stream : StreamFormat
  frameLen : Nat
  closed : Bool := false
  /-- The number of the last publication. -/
  sequence : Nat := 0
  /-- The last publication, until it is taken. -/
  waiting : Option Frame := none
  /-- The counters; the one for reallocations stays at zero. -/
  stats : HandoffStats := {}
  deriving DecidableEq, Repr

namespace PlainSession

/-- A session of a stream. -/
def start (stream : StreamFormat) : Except StartError PlainSession :=
  match stream.bufferLen with
  | .error e => .error e
  | .ok frameLen => .ok { stream, frameLen }

/-- Publishes a frame in place of the waiting one. -/
def publish (s : PlainSession) (bytes : Bytes) : Except HandoffError Nat × PlainSession :=
  if s.closed then (.error .sessionClosed, s)
  else if bytes.length = s.frameLen then
    let n := s.sequence + 1
    (.ok n,
      { s with
        sequence := n
        waiting := some ⟨⟨n, s.stream⟩, bytes⟩
        stats.published := s.stats.published + 1
        stats.dropped := s.stats.dropped + s.waiting.isSome.toNat })
  else
    (.error (.sizeMismatch s.frameLen bytes.length),
      { s with stats.sizeMismatches := s.stats.sizeMismatches + 1 })

/-- Takes the waiting frame. -/
def tryTake (s : PlainSession) : Except HandoffError (Option Frame) × PlainSession :=
  if s.closed then (.error .sessionClosed, s)
  else
    match s.waiting with
    | none => (.ok none, s)
    | some f =>
      (.ok (some f), { s with waiting := none, stats.taken := s.stats.taken + 1 })

/-- Stops the session. A waiting frame is never taken then. -/
def stop (s : PlainSession) : PlainSession :=
  { s with closed := true, waiting := none }

/-- What the session tells about itself. -/
def view (s : PlainSession) : Session.View :=
  ⟨s.stream, s.frameLen, s.closed⟩

theorem publish_of_closed {s : PlainSession} (closed : s.closed = true) (bytes : Bytes) :
    s.publish bytes = (.error .sessionClosed, s) := by
  simp [publish, closed]

theorem publish_of_mismatch {s : PlainSession} (isOpen : s.closed = false) {bytes : Bytes}
    (differs : bytes.length ≠ s.frameLen) :
    s.publish bytes = (.error (.sizeMismatch s.frameLen bytes.length),
      { s with stats.sizeMismatches := s.stats.sizeMismatches + 1 }) := by
  simp [publish, isOpen, differs]

theorem publish_of_fits {s : PlainSession} (isOpen : s.closed = false) {bytes : Bytes}
    (fits : bytes.length = s.frameLen) :
    s.publish bytes = (.ok (s.sequence + 1),
      { s with
        sequence := s.sequence + 1
        waiting := some ⟨⟨s.sequence + 1, s.stream⟩, bytes⟩
        stats.published := s.stats.published + 1
        stats.dropped := s.stats.dropped + s.waiting.isSome.toNat }) := by
  simp [publish, isOpen, fits]

theorem tryTake_of_closed {s : PlainSession} (closed : s.closed = true) :
    s.tryTake = (.error .sessionClosed, s) := by
  simp [tryTake, closed]

theorem tryTake_of_none {s : PlainSession} (isOpen : s.closed = false) (nothing : s.waiting = none) :
    s.tryTake = (.ok none, s) := by
  simp [tryTake, isOpen, nothing]

theorem tryTake_of_some {s : PlainSession} (isOpen : s.closed = false) {f : Frame}
    (waiting : s.waiting = some f) :
    s.tryTake = (.ok (some f), { s with waiting := none, stats.taken := s.stats.taken + 1 }) := by
  simp [tryTake, isOpen, waiting]

@[simp] theorem stream_publish (s : PlainSession) (bytes : Bytes) :
    (s.publish bytes).2.stream = s.stream := by
  unfold publish
  split
  · rfl
  · split <;> rfl

theorem waiting_of_start {stream : StreamFormat} {s : PlainSession} (started : start stream = .ok s) :
    s.waiting = none := by
  unfold start at started
  split at started
  · cases started
  · obtain rfl := Except.ok.inj started
    rfl

theorem stream_of_start {stream : StreamFormat} {s : PlainSession} (started : start stream = .ok s) :
    s.stream = stream := by
  unfold start at started
  split at started
  · cases started
  · obtain rfl := Except.ok.inj started
    rfl

@[simp] theorem closed_publish (s : PlainSession) (bytes : Bytes) :
    (s.publish bytes).2.closed = s.closed := by
  unfold publish
  split
  · rfl
  · split <;> rfl

@[simp] theorem frameLen_publish (s : PlainSession) (bytes : Bytes) :
    (s.publish bytes).2.frameLen = s.frameLen := by
  unfold publish
  split
  · rfl
  · split <;> rfl

/-- A refused publication leaves the waiting frame. -/
theorem waiting_publish_of_error {s : PlainSession} {bytes : Bytes} {e : HandoffError}
    (refused : (s.publish bytes).1 = .error e) : (s.publish bytes).2.waiting = s.waiting := by
  unfold publish at refused ⊢
  split
  · rfl
  · next isOpen =>
    rw [if_neg isOpen] at refused
    split
    · next fits =>
      rw [if_pos fits] at refused
      cases refused
    · rfl

/-- A publication that is not refused gets the next number and is waiting from then on. -/
theorem publish_ok {s : PlainSession} {bytes : Bytes} {n : Nat} (accepted : (s.publish bytes).1 = .ok n) :
    s.closed = false ∧ n = s.sequence + 1 ∧
      (s.publish bytes).2.waiting = some ⟨⟨n, s.stream⟩, bytes⟩ := by
  unfold publish at accepted ⊢
  split at accepted
  · cases accepted
  · next isOpen =>
    split at accepted
    · next fits =>
      obtain rfl := Except.ok.inj accepted
      rw [if_neg isOpen, if_pos fits]
      exact ⟨by simpa using isOpen, rfl, rfl⟩
    · cases accepted

@[simp] theorem stream_take (s : PlainSession) : s.tryTake.2.stream = s.stream := by
  unfold tryTake
  split
  · rfl
  · split <;> rfl

/-- A take changes the waiting frame and what was taken, and nothing else. -/
theorem exists_tryTake_eq (s : PlainSession) :
    ∃ waiting taken, s.tryTake.2 = { s with waiting, stats.taken := taken } := by
  unfold tryTake
  split
  · exact ⟨s.waiting, s.stats.taken, rfl⟩
  · split
    · exact ⟨s.waiting, s.stats.taken, rfl⟩
    · exact ⟨none, s.stats.taken + 1, rfl⟩

theorem tryTake_of_open {s : PlainSession} (isOpen : s.closed = false) : s.tryTake.1 = .ok s.waiting := by
  unfold tryTake
  rw [if_neg (by simp [isOpen])]
  split
  · next absent => rw [absent]
  · next f waiting => rw [waiting]

/-- A frame that is taken was waiting, and is waiting no longer. -/
theorem waiting_of_tryTake {s s' : PlainSession} {f : Frame} (taken : s.tryTake = (.ok (some f), s')) :
    s.waiting = some f ∧ s'.waiting = none := by
  unfold tryTake at taken
  split at taken
  · cases taken
  · split at taken
    · cases taken
    · next f' waiting =>
      cases taken
      exact ⟨waiting, rfl⟩

theorem open_of_tryTake_none {s s' : PlainSession} (taken : s.tryTake = (.ok none, s')) :
    s.closed = false ∧ s.waiting = none := by
  unfold tryTake at taken
  split at taken
  · cases taken
  · next isOpen =>
    split at taken
    · next waiting => exact ⟨by simpa using isOpen, waiting⟩
    · cases taken

end PlainSession

/-- Plain sessions, handles to them, and frames that are held. -/
structure PlainTable where
  sessions : List PlainSession := []
  handles : List Nat := []
  held : Entries Frame := []
  deriving DecidableEq, Repr

namespace PlainTable

open HandoffTable (Request Answer Failure)

/-- The session that a handle leads to. -/
def session? (e : PlainTable) (handle : Nat) : Option PlainSession := do
  e.sessions[← e.handles[handle]?]?

/-- Does something to the session that a handle leads to. -/
def withSession {α : Type} (e : PlainTable) (handle : Nat)
    (f : PlainSession → α × PlainSession) : Except Failure (α × PlainTable) :=
  match e.handles[handle]?, e.session? handle with
  | some i, some s =>
    let (a, s) := f s
    .ok (a, { e with sessions := e.sessions.set i s })
  | _, _ => .error (.noHandle handle)

/-- Publishes what a padded buffer of the session's stream holds. -/
def publishPadded (src : Bytes) (stride : Nat) (s : PlainSession) :
    Except HandoffError Nat × PlainSession :=
  match s.stream.copyUnpadded src stride [] with
  | (.error e, _) => (.error e, s)
  | (.ok (), bytes) => s.publish bytes

@[simp] theorem stream_publishPadded (src : Bytes) (stride : Nat) (s : PlainSession) :
    (publishPadded src stride s).2.stream = s.stream := by
  unfold publishPadded
  split
  · rfl
  · exact s.stream_publish _

/-- Holds a frame under a name, if one is given. -/
def keep (e : PlainTable) (name : Option String) (f : Frame) : PlainTable :=
  match name with
  | some name => { e with held := e.held.put name f }
  | none => e

/-- Answers a request. -/
def step (e : PlainTable) : Request → Except Failure (Answer × PlainTable)
  | .publish handle bytes => do
    let (result, e) ← e.withSession handle (·.publish bytes)
    .ok (.number result, e)
  | .publishPadded handle src stride => do
    let (result, e) ← e.withSession handle (publishPadded src stride)
    .ok (.number result, e)
  | .tryTake handle name => do
    let (result, e) ← e.withSession handle (·.tryTake)
    match result with
    | .ok (some f) => .ok (.frame (.ok (some f)), e.keep name f)
    | result => .ok (.frame result, e)
  | .read name => .ok (.frame (.ok (e.held.lookup name)), e)
  | .share name second =>
    match e.held.lookup name with
    | none => .ok (.wasHeld false, e)
    | some f => .ok (.wasHeld true, e.keep (some second) f)
  | .release name =>
    .ok (.wasHeld (e.held.lookup name).isSome, { e with held := e.held.erase name })
  | .stop handle => do
    let (_, e) ← e.withSession handle fun s => ((), s.stop)
    .ok (.done, e)
  | .clone handle =>
    match e.handles[handle]? with
    | none => .error (.noHandle handle)
    | some i => .ok (.number (.ok e.handles.length), { e with handles := e.handles ++ [i] })
  | .start stream =>
    match PlainSession.start stream with
    | .error (.refused r) => .ok (.number (.error r), e)
    | .error (.overload o) => .error (.overload o)
    | .ok s =>
      .ok (.number (.ok e.handles.length),
        { e with sessions := e.sessions ++ [s], handles := e.handles ++ [e.sessions.length] })
  | .inspect handle =>
    match e.session? handle with
    | none => .error (.noHandle handle)
    | some s => .ok (.session s.view, e)

/-- The answers to requests, one after the other, and what they leave. -/
def run (e : PlainTable) : List Request → Except Failure (List Answer × PlainTable)
  | [] => .ok ([], e)
  | r :: rest => do
    let (a, e) ← e.step r
    let (as, e) ← e.run rest
    .ok (a :: as, e)

end PlainTable

end FramePipeline
