import FramePipeline.Render.Script

/-!
# Schedules

A render loop shares its session and its commands with others, who act between any two of its steps. A
*schedule* says in which order things happen. `RenderLoop.run` follows one in which the others do as
they please; `ScriptedLoop.run?` follows one in which they keep to a script, which goes on whenever it
does not wait for the loop.

Main definitions: `RenderAction`, `RenderLoop.act`, `RenderLoop.run`, `ScriptedLoop`, `ScriptedLoop.Move`,
`ScriptedLoop.move?`, `ScriptedLoop.run?`.
-/

namespace FramePipeline

/-! ## Free schedules -/

/-- What happens next: a step of the loop, a call of its handle, or a call of another holder of the
session. -/
inductive RenderAction where
  /-- The loop takes a step. -/
  | step (clock : Reading)
  | send (c : Command)
  | setModes (modes : CartoonModes)
  | publish (bytes : Bytes)
  /-- Someone stops the session. -/
  | close
  deriving DecidableEq, Repr

namespace RenderLoop

variable {σ ρ : Type}

/-- What an action leaves. -/
def act (t : FrameTransform σ) (k : FrameSink ρ) (r : RenderLoop σ ρ) : RenderAction → RenderLoop σ ρ
  | .step clock => r.step t k clock
  | .send c => r.send c
  | .setModes modes => r.setModes modes
  | .publish bytes => { r with handoff := (r.handoff.publish bytes).2 }
  | .close => { r with handoff := r.handoff.stop }

/-- What a schedule leaves. -/
def run (t : FrameTransform σ) (k : FrameSink ρ) (r : RenderLoop σ ρ) (schedule : List RenderAction) :
    RenderLoop σ ρ :=
  schedule.foldl (act t k) r

end RenderLoop

/-! ## Schedules of a script -/

/-- A loop under the control of a script. -/
structure ScriptedLoop (σ ρ : Type) where
  loop : RenderLoop σ ρ
  /-- The steps that are still to be done. -/
  script : List ControlStep
  /-- The number of calls of the transform that the script waits for. -/
  awaiting : Option Nat := none
  /-- The script is done and the loop was told to end. -/
  told : Bool := false

namespace ScriptedLoop

variable {σ ρ : Type}

/-- What happens next. -/
inductive Move where
  /-- The loop takes a step. -/
  | loop (clock : Reading)
  /-- The script goes on. -/
  | script
  deriving DecidableEq, Repr

/-- Does a step of a script, without waiting. -/
def perform (s : ScriptedLoop σ ρ) : ControlStep → ScriptedLoop σ ρ
  | .publish bytes waits =>
    match s.loop.handoff.publish bytes with
    | (.error _, handoff) => { s with loop := { s.loop with handoff } }
    | (.ok _, handoff) =>
      { s with
        loop := { s.loop with handoff }
        awaiting := if waits then some (s.loop.calls + 1) else none }
  | .await n => { s with awaiting := some n }
  | .requestSnapshot => { s with loop := s.loop.send .snapshot }
  | .setModes modes => { s with loop := s.loop.setModes modes }
  | .close => { s with loop := { s.loop with handoff := s.loop.handoff.stop } }
  | .askModes | .awaitEnd => s

/-- The script goes on, unless it waits for more calls of a loop that has not ended. After its last
step it tells the loop to end, and then there is nothing more to do. -/
def goOn? (s : ScriptedLoop σ ρ) : Option (ScriptedLoop σ ρ) :=
  match s.awaiting, s.script with
  | some n, _ =>
    if n ≤ s.loop.calls ∨ s.loop.hasEnded then some { s with awaiting := none } else none
  | none, step :: rest => some ({ s with script := rest }.perform step)
  | none, [] =>
    if s.told then none else some { s with told := true, loop := s.loop.send .shutdown }

/-- What a move leaves, if it is possible. -/
def move? (t : FrameTransform σ) (k : FrameSink ρ) (s : ScriptedLoop σ ρ) :
    Move → Option (ScriptedLoop σ ρ)
  | .loop clock => some { s with loop := s.loop.step t k clock }
  | .script => s.goOn?

/-- What a schedule leaves, if it is possible. -/
def run? (t : FrameTransform σ) (k : FrameSink ρ) (s : ScriptedLoop σ ρ) (schedule : List Move) :
    Option (ScriptedLoop σ ρ) :=
  schedule.foldlM (move? t k) s

/-- Nothing more can happen: the script is done and the loop has ended. -/
def isComplete (s : ScriptedLoop σ ρ) : Bool :=
  s.told && s.loop.hasEnded

end ScriptedLoop

end FramePipeline
