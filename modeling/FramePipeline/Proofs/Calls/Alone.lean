import FramePipeline.Handoff.Calls
import FramePipeline.Proofs.Handoff.SessionRefinement

/-!
# Calls one at a time

What calls come to when each is made after the one before it has returned, for a handoff and for the plain
session that it stands for. The two give the same replies.

Main definitions: `Reply` (what a caller learns), `FrameHandoff.callAll`, `PlainSession.callAll`. Main
statement: `FrameHandoff.callAll_refines`.
-/

namespace FramePipeline

/-- What a caller learns from a call: all but the number of the buffer that it got. -/
inductive Reply where
  | published (n : Nat)
  | took (frame : Option Frame)
  | stopped
  | refused (e : HandoffError)
  deriving DecidableEq, Repr

namespace Reply

/-- The reply to a publication. -/
def ofNumber : Except HandoffError Nat → Reply
  | .ok n => published n
  | .error e => refused e

/-- The reply to a take. -/
def ofFrame : Except HandoffError (Option Frame) → Reply
  | .ok frame => took frame
  | .error e => refused e

end Reply

/-- What the caller learns. -/
def CallResult.reply : CallResult → Reply
  | published n => .published n
  | took taken => .took (taken.map (·.2))
  | stopped => .stopped
  | refused e => .refused e

namespace PlainSession

/-- A call from its beginning to its end. -/
def call (s : PlainSession) : Call → Reply × PlainSession
  | .publish bytes => (.ofNumber (s.publish bytes).1, (s.publish bytes).2)
  | .tryTake => (.ofFrame s.tryTake.1, s.tryTake.2)
  | .stop => (.stopped, s.stop)

/-- Calls, one after the other. -/
def callAll (s : PlainSession) : List Call → List Reply × PlainSession
  | [] => ([], s)
  | call :: rest =>
    let after := (s.call call).2.callAll rest
    ((s.call call).1 :: after.1, after.2)

theorem callAll_concat (s : PlainSession) (calls : List Call) (call : Call) :
    s.callAll (calls ++ [call]) =
      ((s.callAll calls).1 ++ [((s.callAll calls).2.call call).1], ((s.callAll calls).2.call call).2) := by
  induction calls generalizing s with
  | nil => rfl
  | cons first rest ih =>
    rw [List.cons_append, callAll, ih]
    rfl

end PlainSession

namespace FrameHandoff

variable {c : FrameHandoff} {others : List CellId}

/-- A call from its beginning to its end. Who takes a frame keeps its buffer. -/
def call (c : FrameHandoff) : Call → Reply × FrameHandoff
  | .publish bytes => (.ofNumber (c.publish bytes).1, (c.publish bytes).2)
  | .tryTake => (.ofFrame (c.tryTake.1.map (·.bind c.tryTake.2.frame?)), c.tryTake.2)
  | .stop => (.stopped, c.stop)

/-- Calls, one after the other. -/
def callAll (c : FrameHandoff) : List Call → List Reply × FrameHandoff
  | [] => ([], c)
  | call :: rest =>
    let after := (c.call call).2.callAll rest
    ((c.call call).1 :: after.1, after.2)

theorem call_refines (sound : c.Sound others) (call : Call) :
    (c.call call).1 = (c.plain.call call).1 ∧ (c.call call).2.plain = (c.plain.call call).2 ∧
      ∃ others', (c.call call).2.Sound others' := by
  cases call with
  | publish bytes =>
    obtain ⟨c', result, plain, sound', -⟩ := publish_refines bytes sound
    have result : c.publish bytes = ((c.plain.publish bytes).1, c') := result
    rw [FrameHandoff.call, result]
    exact ⟨rfl, plain, others, sound'⟩
  | tryTake =>
    rw [FrameHandoff.call, PlainSession.call]
    obtain ⟨-, taken, plain⟩ | ⟨taken, plain⟩ | ⟨id, f, c', taken, plain, frame, sound', -⟩ :=
      tryTake_cases sound
    · rw [taken, plain]
      exact ⟨rfl, rfl, others, sound⟩
    · rw [taken, plain]
      exact ⟨rfl, rfl, others, sound⟩
    · rw [taken, plain]
      refine ⟨?_, rfl, _, sound'⟩
      exact congrArg Reply.took frame
  | stop =>
    obtain ⟨plain, sound', -⟩ := stop_refines sound
    exact ⟨rfl, plain, others, sound'⟩

/-- The plain session gives the same replies and counts the same. -/
theorem callAll_refines (sound : c.Sound others) (calls : List Call) :
    (c.callAll calls).1 = (c.plain.callAll calls).1 ∧
      (c.callAll calls).2.plain = (c.plain.callAll calls).2 := by
  induction calls generalizing c others with
  | nil => exact ⟨rfl, rfl⟩
  | cons call rest ih =>
    obtain ⟨reply, plain, others', sound'⟩ := call_refines sound call
    obtain ⟨replies, plains⟩ := ih sound'
    rw [plain] at replies plains
    exact ⟨by rw [callAll, PlainSession.callAll, reply, replies], plains⟩

end FrameHandoff

end FramePipeline
