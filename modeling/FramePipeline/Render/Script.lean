import FramePipeline.Render.Loop

/-!
# Scripted rendering

A render loop under the control of a script. After each step of the script the loop runs until it is
at rest: it has ended, or it waits for a frame, or its output is frozen for longer than the script is
ready to wait. A shorter freeze passes while the loop runs.

Main definitions: `ControlStep`, `ControlAnswer`, `Patience`, `RenderRun`, `RenderRun.settle`,
`RenderRun.perform`.
-/

namespace FramePipeline

/-- A step of a script. -/
inductive ControlStep where
  /-- Publishes a frame and, if asked to, waits until the transform was called once more. -/
  | publish (bytes : Bytes) (waits : Bool)
  /-- Waits until the transform was called that many times. -/
  | await (calls : Nat)
  | requestSnapshot
  | setModes (modes : CartoonModes)
  /-- Asks for the modes in force. -/
  | askModes
  /-- Stops the session. -/
  | close
  /-- Waits for the loop to end. -/
  | awaitEnd
  deriving DecidableEq, Repr

/-- What ended a wait. -/
inductive Awaited where
  | applied
  | exited
  deriving DecidableEq, Repr

/-- What a step of a script is answered. -/
inductive ControlAnswer where
  | refused (e : HandoffError)
  | published (sequence : Nat) (awaited : Option Awaited)
  | awaited (a : Awaited)
  | modes (s : CartoonModes)
  | ended (yes : Bool)
  | done
  deriving DecidableEq, Repr

/-- How long a script is ready to wait for a frozen output; none if it waits as long as it takes. -/
abbrev Patience := Option Duration

/-- The patience of a script that does not say otherwise. -/
def Patience.usual : Patience :=
  some (.ofMillis 3000)

/-- A loop under control, and the time. -/
structure RenderRun (σ ρ : Type) where
  loop : RenderLoop σ ρ
  now : Duration := ⟨0⟩

namespace RenderRun

variable {σ ρ : Type}

/-! ## Rest -/

/-- What keeps the loop from going on. -/
inductive Obstacle where
  /-- Nothing: there is a next step to take. -/
  | none
  /-- A freeze that ends at the given time. -/
  | frozen (thaw : Duration)
  /-- The loop has ended or has nothing to do. -/
  | rest

/-- Whether the script waits until the given time. -/
def awaits (patience : Patience) (r : RenderRun σ ρ) (thaw : Duration) : Bool :=
  match patience with
  | none => true
  | some limit => thaw.nanos < r.now.nanos + limit.nanos

/-- What keeps the loop from going on now. -/
def obstacle (patience : Patience) (r : RenderRun σ ρ) : Obstacle :=
  match r.loop.phase, r.loop.queue with
  | .ended _, _ => .rest
  | .drain, [] =>
    match r.loop.frozenUntil, r.loop.handoff.session.front with
    | some thaw, _ =>
      if !r.awaits patience thaw then .rest
      else if r.now.nanos < thaw.nanos then .frozen thaw
      else .none
    | none, some ⟨_, false⟩ => .rest
    | none, _ => .none
  | _, _ => .none

/-- Runs the loop until it is at rest, for so many steps at most. -/
def settleFor (t : FrameTransform σ) (k : FrameSink ρ) (patience : Patience) :
    (steps : Nat) → RenderRun σ ρ → RenderRun σ ρ
  | 0, r => r
  | steps + 1, r =>
    match r.obstacle patience with
    | .rest => r
    | .frozen thaw => settleFor t k patience steps { r with now := thaw }
    | .none => settleFor t k patience steps { r with loop := r.loop.step t k ⟨r.now, ⟨0⟩⟩ }

/-- Runs the loop until it is at rest. It reads every command once and renders one frame at most: at
rest no frame is ready unless the output is frozen, and then the loop rests again right after it took
the frame that was published last. -/
def settle (t : FrameTransform σ) (k : FrameSink ρ) (r : RenderRun σ ρ) (patience : Patience := .usual) :
    RenderRun σ ρ :=
  settleFor t k patience (r.loop.queue.length + 24) r

/-! ## Steps -/

/-- What ends the wait for a number of calls. -/
def awaitCalls (r : RenderRun σ ρ) (n : Nat) : Awaited :=
  if n ≤ r.loop.calls then .applied else .exited

/-- Changes the session. -/
def onHandoff (r : RenderRun σ ρ) (handoff : FrameHandoff) : RenderRun σ ρ :=
  { r with loop := { r.loop with handoff } }

/-- Does one step of a script. -/
def perform (t : FrameTransform σ) (k : FrameSink ρ) (r : RenderRun σ ρ) (step : ControlStep)
    (patience : Patience := .usual) : ControlAnswer × RenderRun σ ρ :=
  match step with
  | .publish bytes waits =>
    match r.loop.handoff.publish bytes with
    | (.error e, handoff) => (.refused e, (r.onHandoff handoff).settle t k patience)
    | (.ok n, handoff) =>
      let before := r.loop.calls
      let r := (r.onHandoff handoff).settle t k patience
      (.published n (if waits then some (r.awaitCalls (before + 1)) else none), r)
  | .await n =>
    let r := r.settle t k patience
    (.awaited (r.awaitCalls n), r)
  | .requestSnapshot => (.done, { r with loop := r.loop.send .snapshot }.settle t k patience)
  | .setModes modes =>
    (.modes modes, { r with loop := r.loop.setModes modes }.settle t k patience)
  | .askModes => (.modes r.loop.modes, r.settle t k patience)
  | .close => (.done, (r.onHandoff r.loop.handoff.stop).settle t k patience)
  | .awaitEnd =>
    let r := r.settle t k patience
    (.ended r.loop.hasEnded, r)

/-- Does the steps of a script, one after the other. -/
def performAll (t : FrameTransform σ) (k : FrameSink ρ) (r : RenderRun σ ρ) (script : List ControlStep)
    (patience : Patience := .usual) : List ControlAnswer × RenderRun σ ρ :=
  match script with
  | [] => ([], r)
  | s :: rest =>
    let (answer, r) := r.perform t k s patience
    let (answers, r) := r.performAll t k rest patience
    (answer :: answers, r)

/-- Model of `RenderHandle::stop`: tells the loop to end and waits for it. -/
def stop (t : FrameTransform σ) (k : FrameSink ρ) (r : RenderRun σ ρ) (patience : Patience := .usual) :
    RenderRun σ ρ :=
  { r with loop := r.loop.send .shutdown }.settle t k patience

end RenderRun

end FramePipeline
