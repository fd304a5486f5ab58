import FramePipeline.Proofs.Calls.Alone
import FramePipeline.Proofs.Calls.Buffers

/-!
# What a section does to the session that calls see

Behind the calls to an open session stands a plain session that has done those that took effect: a
publication does when it shows its frame to the consumer, or when its length is found to be wrong, and a
take when it looks at the front buffer. The plain session is told from the handoff by the call that holds
the producer's lock, which may be one number ahead. Each section keeps the two together, and answers what
the plain session answers.

Main definitions: `CallStage.commits`, `CallStage.owed` (what a call still has to count),
`CallStage.StageInv` (what a stage knows of its call), `FrameHandoff.Agreement`. Main statements:
`CallStage.StageRel.agreement`, `CallStage.StageRel.reply`, `CallStage.StageRel.tally`.
-/

namespace FramePipeline

/-! ## Stages and what they stand for -/

/-- The sum of two counts. -/
def HandoffStats.plus (a b : HandoffStats) : HandoffStats where
  published := a.published + b.published
  taken := a.taken + b.taken
  dropped := a.dropped + b.dropped
  sizeMismatches := a.sizeMismatches + b.sizeMismatches
  reallocations := a.reallocations + b.reallocations

theorem HandoffStats.plus_left_comm (a b c : HandoffStats) : a.plus (b.plus c) = b.plus (a.plus c) := by
  simp only [plus, mk.injEq]
  omega

/-- How far the call that holds the producer's lock has come. -/
inductive Turn where
  /-- The spare buffer is in its place. -/
  | idle
  /-- A frame was copied that is not shown yet. -/
  | ahead
  /-- The frame was shown, and the spare buffer is still out. -/
  | behind
  deriving DecidableEq, Repr

namespace CallStage

/-- The next section of the call is the one by which it takes effect. -/
def commits (c : FrameHandoff) : CallStage → Bool
  | checking bytes =>
    match c.check bytes.length with
    | .ok () => false
    | .error _ => true
  | installing .. | taking => true
  | _ => false

/-- What the caller is going to learn, once the call has taken effect. -/
def reply? : CallStage → Option Reply
  | countingMismatch e => some (.refused e)
  | returningSpare _ n | countingPublished _ n | countingDropped n => some (.published n)
  | countingTaken _ f => some (.took (some f))
  | returned r => some r.reply
  | _ => none

/-- What the call still has to count. -/
def owed : CallStage → HandoffStats
  | countingMismatch _ => { sizeMismatches := 1 }
  | returningSpare previous _ => { published := 1, dropped := previous.ready.toNat }
  | countingPublished superseded _ => { published := 1, dropped := superseded.toNat }
  | countingDropped _ => { dropped := 1 }
  | countingTaken .. => { taken := 1 }
  | _ => {}

def turn : CallStage → Turn
  | lockingConsumer .. | installing .. => .ahead
  | returningSpare .. => .behind
  | _ => .idle

theorem turn_eq_idle {stage : CallStage} (free : stage.locksProducer = false) : stage.turn = .idle := by
  cases stage <;> first | rfl | cases free

/-- What the stage knows of its call before it takes effect. -/
def StageInv (c : FrameHandoff) (call : Call) : CallStage → Prop
  | checking bytes => call = .publish bytes
  | lockingProducer bytes | filling bytes =>
    call = .publish bytes ∧ bytes.length = c.session.frameLen
  | lockingConsumer fresh n | installing fresh n =>
    n = c.session.sequence ∧ ∃ bytes, call = .publish bytes ∧ bytes.length = c.session.frameLen ∧
      c.frame? fresh = some ⟨⟨n, c.session.stream⟩, bytes⟩
  | lockingToTake | taking => call = .tryTake
  | closing | lockingToEmptyFront | emptyingFront | lockingToEmptySpare | emptyingSpare => False
  | _ => True

end CallStage

/-- The handoff stands for the plain session, apart from what is counted; `turn` tells how far the call
that holds the producer's lock has come. -/
structure FrameHandoff.Agreement (c : FrameHandoff) (p : PlainSession) (turn : Turn) : Prop where
  stream : p.stream = c.session.stream
  frameLen : p.frameLen = c.session.frameLen
  isOpen : c.session.closed = false
  isOpen' : p.closed = false
  slot : ∃ id ready, c.session.front = some ⟨id, ready⟩ ∧ p.waiting.isSome = ready ∧
    (ready = true → p.waiting = c.frame? id)
  spare : turn = .idle → c.session.spare ≠ none
  sequence : c.session.sequence = p.sequence + if turn = .ahead then 1 else 0

namespace FrameHandoff.Agreement

variable {c c' : FrameHandoff} {p : PlainSession} {turn : Turn}

/-- Where no frame changes, and nothing of the session but its counters, the handoff stands for the same
session. -/
theorem congr (h : c.Agreement p turn) {stats : HandoffStats} (frames : ∀ id, c'.frame? id = c.frame? id)
    (session : c'.session = { c.session with stats }) : c'.Agreement p turn := by
  obtain ⟨id, ready, front, isSome, waiting⟩ := h.slot
  obtain ⟨_, pool, metrics⟩ := c'
  subst session
  refine ⟨h.stream, h.frameLen, h.isOpen, h.isOpen', ⟨id, ready, front, isSome, ?_⟩, h.spare, h.sequence⟩
  rw [frames]
  exact waiting

/-- The counters of the plain session are beside this. -/
theorem with_stats (h : c.Agreement p turn) (stats : HandoffStats) : c.Agreement { p with stats } turn :=
  ⟨h.stream, h.frameLen, h.isOpen, h.isOpen', h.slot, h.spare, h.sequence⟩

theorem call_misfit (h : c.Agreement p turn) {bytes : Bytes} (differs : bytes.length ≠ c.session.frameLen) :
    p.call (.publish bytes) = (.refused (.sizeMismatch c.session.frameLen bytes.length),
      { p with stats.sizeMismatches := p.stats.sizeMismatches + 1 }) := by
  rw [PlainSession.call, PlainSession.publish_of_mismatch h.isOpen' (by rwa [h.frameLen]), h.frameLen]
  rfl

theorem call_fits (h : c.Agreement p turn) {bytes : Bytes} (fits : bytes.length = c.session.frameLen) :
    p.call (.publish bytes) = (.published (p.sequence + 1),
      { p with
        sequence := p.sequence + 1
        waiting := some ⟨⟨p.sequence + 1, p.stream⟩, bytes⟩
        stats.published := p.stats.published + 1
        stats.dropped := p.stats.dropped + p.waiting.isSome.toNat }) := by
  rw [PlainSession.call, PlainSession.publish_of_fits h.isOpen' (by rwa [h.frameLen])]
  rfl

theorem call_tryTake_nothing (h : c.Agreement p turn) {id : CellId}
    (there : c.session.front = some ⟨id, false⟩) : p.call .tryTake = (.took none, p) := by
  obtain ⟨id', ready, front, isSome, -⟩ := h.slot
  obtain ⟨rfl, rfl⟩ := Session.Front.mk.inj (Option.some.inj (front.symm.trans there))
  rw [PlainSession.call, PlainSession.tryTake_of_none h.isOpen' (by simpa using isSome)]
  rfl

theorem call_tryTake (h : c.Agreement p turn) {id : CellId} {f : Frame}
    (there : c.session.front = some ⟨id, true⟩) (frame : c.frame? id = some f) :
    p.call .tryTake =
      (.took (some f), { p with waiting := none, stats.taken := p.stats.taken + 1 }) := by
  obtain ⟨id', ready, front, -, waiting⟩ := h.slot
  obtain ⟨rfl, rfl⟩ := Session.Front.mk.inj (Option.some.inj (front.symm.trans there))
  rw [PlainSession.call, PlainSession.tryTake_of_some h.isOpen' ((waiting rfl).trans frame)]
  rfl

end FrameHandoff.Agreement

/-! ## Sections -/

namespace CallStage

variable {c c' : FrameHandoff} {p : PlainSession} {turn : Turn} {stage stage' : CallStage} {call : Call}
  {others : List CellId}

/-- What the call makes of the plain session if the next section commits it. -/
def after (c : FrameHandoff) (p : PlainSession) (call : Call) (stage : CallStage) : PlainSession :=
  if stage.commits c then (p.call call).2 else p

theorem after_of_commits (commits : stage.commits c = true) : stage.after c p call = (p.call call).2 :=
  if_pos commits

theorem after_of_quiet (quiet : stage.commits c = false) : stage.after c p call = p :=
  if_neg (by simp [quiet])

/-- How far the holder of the producer's lock has come after a section. -/
def turnAfter (turn : Turn) (stage stage' : CallStage) : Turn :=
  if stage.locksProducer || stage'.locksProducer then stage'.turn else turn

/-- In an open session no call finds what a stop would have left. -/
theorem StopStageRel.not_agreement (l : stage.StopStageRel c stage' c') (agrees : c.Agreement p turn)
    (mine : stage.locksProducer = true → turn = stage.turn) (serves : stage.StageInv c call)
    (owned : c.pool.IsOwnedBy (c.session.buffers ++ others)) : False := by
  have isOpen := agrees.isOpen
  obtain ⟨id, ready, front, -⟩ := agrees.slot
  cases l with
  | foundClosed closed =>
    rw [isOpen] at closed
    cases closed
  | spareGone gone => exact agrees.spare (mine rfl) gone
  | frontGone gone => cases gone.symm.trans front
  | nothingToTake gone => cases gone.symm.trans front
  | @noFrame id there blank =>
    have mem : id ∈ c.session.buffers := by simp [Session.buffers, there]
    obtain ⟨f, frame⟩ := owned.exists_frame (List.mem_append_left _ mem)
    cases blank.symm.trans frame
  | _ => exact serves

theorem commits_of_misfit {bytes : Bytes} (isOpen : c.session.closed = false)
    (differs : bytes.length ≠ c.session.frameLen) : (checking bytes).commits c = true := by
  simp [commits, FrameHandoff.check, isOpen, differs]

theorem commits_of_fits {bytes : Bytes} (isOpen : c.session.closed = false)
    (fits : bytes.length = c.session.frameLen) : (checking bytes).commits c = false := by
  simp [commits, FrameHandoff.check, isOpen, fits]

/-- A section changes the plain session that the handoff stands for if it commits its call, and does what
the call does. -/
theorem StageRel.agreement (l : stage.StageRel c stage' c') (h : c.Agreement p turn)
    (mine : stage.locksProducer = true → turn = stage.turn)
    (free : stage.locksProducer = false → stage'.locksProducer = true → turn = .idle)
    (serves : stage.StageInv c call) (ofStream : c.OfStream)
    (owned : c.pool.IsOwnedBy (c.session.buffers ++ (stage.inHand ++ others))) :
    c'.Agreement (stage.after c p call) (turnAfter turn stage stage') := by
  obtain ⟨id, ready, front, isSome, waiting⟩ := h.slot
  cases l with
  | misfits isOpen differs =>
    obtain rfl := serves
    rw [after_of_commits (commits_of_misfit isOpen differs), h.call_misfit differs]
    exact h.with_stats _
  | fits isOpen eq =>
    rw [after_of_quiet (commits_of_fits isOpen eq)]
    exact h
  | lockedProducer =>
    obtain rfl := free rfl rfl
    exact h
  | @filled bytes spare fresh c' there copied =>
    obtain rfl := mine rfl
    obtain ⟨-, -, kept, n, session⟩ := filled_spec there copied ofStream owned
    have front' : c'.session.front = some ⟨id, ready⟩ := by rw [session]; exact front
    have same : c'.frame? id = c.frame? id := kept id (by simp [Session.buffers, front'])
    refine ⟨?_, ?_, ?_, h.isOpen', ⟨id, ready, front', isSome, ?_⟩, (fun idle => by cases idle),
      ?_⟩
    · rw [session]
      exact h.stream
    · rw [session]
      exact h.frameLen
    · rw [session]
      exact h.isOpen
    · rw [same]
      exact waiting
    · rw [session]
      exact congrArg (· + 1) h.sequence
  | lockedConsumer =>
    obtain rfl := mine rfl
    exact h
  | @installed fresh n previous there =>
    obtain rfl := mine rfl
    obtain ⟨rfl, bytes, rfl, fits, frame⟩ := serves
    have sequence : c.session.sequence = p.sequence + 1 := h.sequence
    rw [after_of_commits rfl, h.call_fits fits]
    refine ⟨h.stream, h.frameLen, h.isOpen, h.isOpen', ⟨fresh, true, rfl, rfl, fun _ => ?_⟩,
      (fun idle => by cases idle), sequence⟩
    show some _ = c.frame? fresh
    rw [frame, sequence, h.stream]
  | returnedSpare =>
    obtain rfl := mine rfl
    exact ⟨h.stream, h.frameLen, h.isOpen, h.isOpen', ⟨id, ready, front, isSome, waiting⟩,
      (fun _ gone => by cases gone), h.sequence⟩
  | tookNothing there =>
    obtain rfl := serves
    rw [after_of_commits rfl, h.call_tryTake_nothing there]
    exact h
  | took there frame =>
    obtain rfl := serves
    rw [after_of_commits rfl, h.call_tryTake there frame]
    exact ⟨h.stream, h.frameLen, h.isOpen, h.isOpen', ⟨_, false, rfl, rfl, (fun ready => by cases ready)⟩,
      h.spare, h.sequence⟩
  | countedMismatch | countedPublished | countedReplacing | countedDropped | countedTaken =>
    exact h.congr (fun _ => rfl) rfl
  | lockedToTake => exact h

/-- The call that a section commits is going to be answered what the plain session answers it. -/
theorem StageRel.reply (l : stage.StageRel c stage' c') (h : c.Agreement p turn)
    (mine : stage.locksProducer = true → turn = stage.turn) (serves : stage.StageInv c call)
    (commits : stage.commits c = true) :
    stage.reply? = none ∧ stage'.reply? = some (p.call call).1 := by
  cases l with
  | misfits isOpen differs =>
    obtain rfl := serves
    rw [h.call_misfit differs]
    exact ⟨rfl, rfl⟩
  | fits isOpen eq => simp [commits_of_fits isOpen eq] at commits
  | @installed fresh n previous there =>
    obtain rfl := mine rfl
    obtain ⟨rfl, bytes, rfl, fits, -⟩ := serves
    have sequence : c.session.sequence = p.sequence + 1 := h.sequence
    rw [h.call_fits fits, ← sequence]
    exact ⟨rfl, rfl⟩
  | tookNothing there =>
    obtain rfl := serves
    rw [h.call_tryTake_nothing there]
    exact ⟨rfl, rfl⟩
  | took there frame =>
    obtain rfl := serves
    rw [h.call_tryTake there frame]
    exact ⟨rfl, rfl⟩
  | _ => cases commits

/-- Other sections do not change what the caller is going to learn. -/
theorem StageRel.reply_eq (l : stage.StageRel c stage' c') (quiet : stage.commits c = false) :
    stage'.reply? = stage.reply? := by
  cases l with
  | misfits isOpen differs => simp [commits_of_misfit isOpen differs] at quiet
  | installed | tookNothing | took => cases quiet
  | _ => rfl

/-- What a section counts is owed no longer. -/
theorem StageRel.tally (l : stage.StageRel c stage' c') (h : c.Agreement p turn)
    (serves : stage.StageInv c call)
    {rest : HandoffStats} (stats : p.stats = c.session.stats.visible.plus (stage.owed.plus rest)) :
    (stage.after c p call).stats = c'.session.stats.visible.plus (stage'.owed.plus rest) := by
  cases l with
  | misfits isOpen differs =>
    obtain rfl := serves
    rw [after_of_commits (commits_of_misfit isOpen differs), h.call_misfit differs]
    simp [stats, owed, HandoffStats.plus, HandoffStats.visible]
    omega
  | fits isOpen eq =>
    rw [after_of_quiet (commits_of_fits isOpen eq)]
    exact stats
  | @filled bytes spare fresh c' there copied =>
    have same : c'.session.stats.visible = c.session.stats.visible := by
      obtain ⟨k, session⟩ := FrameHandoff.session_of_copy copied
      rw [session]
      rfl
    rw [same]
    exact stats
  | @installed fresh n previous there =>
    obtain ⟨rfl, bytes, rfl, fits, frame⟩ := serves
    rw [after_of_commits rfl, h.call_fits fits]
    obtain ⟨id, ready, front, isSome, -⟩ := h.slot
    obtain rfl := Option.some.inj (front.symm.trans there)
    simp [stats, owed, isSome, HandoffStats.plus, HandoffStats.visible]
    omega
  | tookNothing there =>
    obtain rfl := serves
    rw [after_of_commits rfl, h.call_tryTake_nothing there]
    exact stats
  | took there frame =>
    obtain rfl := serves
    rw [after_of_commits rfl, h.call_tryTake there frame]
    simp [stats, owed, HandoffStats.plus, HandoffStats.visible]
    omega
  | countedMismatch | countedPublished | countedReplacing | countedDropped | countedTaken =>
    refine stats.trans ?_
    simp [owed, FrameHandoff.countMismatch, FrameHandoff.countPublished, FrameHandoff.countDropped,
      FrameHandoff.countTaken, HandoffStats.plus, HandoffStats.visible]
    omega
  | _ => exact stats

/-- What a stage knows of its call depends on the call's own buffer, and on the last number while that is
its own. -/
theorem StageInv.congr (h : stage.StageInv c call) (stream : c'.session.stream = c.session.stream)
    (frameLen : c'.session.frameLen = c.session.frameLen)
    (sequence : stage.hasSpare = true → c'.session.sequence = c.session.sequence)
    (frames : stage.hasSpare = true → ∀ id ∈ stage.inHand, c'.frame? id = c.frame? id) :
    stage.StageInv c' call := by
  cases stage with
  | lockingProducer | filling =>
    rw [StageInv, frameLen]
    exact h
  | lockingConsumer fresh n | installing fresh n =>
    rw [StageInv, frameLen, stream, sequence rfl, frames rfl fresh (List.mem_singleton_self _)]
    exact h
  | _ => exact h

theorem StageRel.frameLen_eq (l : stage.StageRel c stage' c') : c'.session.frameLen = c.session.frameLen := by
  cases l with
  | @filled bytes spare fresh c' there copied =>
    obtain ⟨k, session⟩ := FrameHandoff.session_of_copy copied
    rw [session]
    rfl
  | _ => rfl

/-- Numbers are given under the producer's lock. -/
theorem StageRel.sequence_eq (l : stage.StageRel c stage' c') (other : stage.locksProducer = false) :
    c'.session.sequence = c.session.sequence := by
  cases l with
  | filled => cases other
  | _ => rfl

/-- A call comes to know what its section did. -/
theorem StageRel.stageInv (l : stage.StageRel c stage' c') (serves : stage.StageInv c call)
    (ofStream : c.OfStream) (owned : c.pool.IsOwnedBy (c.session.buffers ++ (stage.inHand ++ others))) :
    stage'.StageInv c' call := by
  cases l with
  | fits isOpen eq => exact ⟨serves, eq⟩
  | @filled bytes spare fresh c' there copied =>
    obtain ⟨rfl, fits⟩ := serves
    obtain ⟨-, frame, -, n, session⟩ := filled_spec there copied ofStream owned
    refine ⟨?_, bytes, rfl, ?_, ?_⟩
    · rw [session]
      rfl
    · rw [session]
      exact fits
    · rw [frame, session]
      rfl
  | lockedProducer => exact serves
  | lockedConsumer => exact serves
  | lockedToTake => exact serves
  | _ => trivial

end CallStage

end FramePipeline
