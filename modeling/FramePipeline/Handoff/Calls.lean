import FramePipeline.Handoff.FrameHandoff

/-!
# Calls at the same time

Any number of calls to one session under way at once. A call goes through *stages*; between two stages
of a call any other call may take one of its own. What a stage does is a section of the session's
operations, and two locks keep sections apart: the producer's lock, which a publication holds from the
time it takes the spare buffer until it has put one back, and the consumer's lock, which guards the
front buffer. Nobody holds the consumer's lock while waiting for the producer's.

Main definitions: `Call`, `CallStage`, `Calls`, `Calls.invoke`, `Calls.step?` (the next stage of a call;
none while it waits for a lock), `Calls.act?`, `Calls.run?`.
-/

namespace FramePipeline

/-- A call of `FrameHandoff::publish`, `FrameHandoff::try_take` or `FrameHandoff::stop`. -/
inductive Call where
  | publish (bytes : Bytes)
  | tryTake
  | stop
  deriving DecidableEq, Repr

/-- What a call comes to. -/
inductive CallResult where
  | published (n : Nat)
  /-- The frame that was taken, and the buffer that the caller holds from then on. -/
  | took (frame : Option (CellId × Frame))
  | stopped
  | refused (e : HandoffError)
  deriving DecidableEq, Repr

/-- What a call does next: an access to the closed flag, the taking of a lock, what is done under it, or a
counter, as they follow each other in the body of its function. -/
inductive CallStage where
  /-- A publication looks at the closed flag and the length. -/
  | checking (bytes : Bytes)
  | countingMismatch (e : HandoffError)
  | lockingProducer (bytes : Bytes)
  /-- It takes the spare buffer and copies, under the producer's lock. -/
  | filling (bytes : Bytes)
  | lockingConsumer (fresh : CellId) (n : Nat)
  /-- It shows the frame to the consumer, under both locks. -/
  | installing (fresh : CellId) (n : Nat)
  /-- It puts the buffer that the consumer saw before where the spare one was. -/
  | returningSpare (previous : Session.Front) (n : Nat)
  | countingPublished (superseded : Bool) (n : Nat)
  | countingDropped (n : Nat)
  | lockingToTake
  /-- The consumer takes the front buffer, under its lock. -/
  | taking
  | countingTaken (id : CellId) (frame : Frame)
  /-- A stop sets the closed flag. -/
  | closing
  | lockingToEmptyFront
  | emptyingFront
  | lockingToEmptySpare
  | emptyingSpare
  | returned (r : CallResult)
  deriving DecidableEq, Repr

/-- The first stage of a call. -/
def Call.firstStage : Call → CallStage
  | publish bytes => .checking bytes
  | tryTake => .lockingToTake
  | stop => .closing

/-- What can be seen of calls from outside. -/
inductive CallEvent where
  | invoked (i : Nat) (call : Call)
  | returned (i : Nat) (r : CallResult)
  deriving DecidableEq, Repr

/-- A session and the calls to it, which are numbered as they are made. Each runs the body of its function,
stage by stage. -/
structure Calls where
  handoff : FrameHandoff
  /-- The call that holds the producer's lock. -/
  producer : Option Nat := none
  /-- The call that holds the consumer's lock. -/
  consumer : Option Nat := none
  stages : List CallStage := []
  /-- The calls whose frames were given up. -/
  released : List Nat := []
  history : List CallEvent := []
  deriving DecidableEq, Repr

namespace Calls

/-! ## Changes -/

/-- A new call. -/
def invoke (s : Calls) (call : Call) : Calls :=
  { s with
    stages := s.stages ++ [call.firstStage]
    history := s.history ++ [.invoked s.stages.length call] }

/-- Moves a call to another stage. -/
def goTo (s : Calls) (i : Nat) (stage : CallStage) : Calls :=
  { s with stages := s.stages.set i stage }

/-- Ends a call. -/
def finish (s : Calls) (i : Nat) (r : CallResult) : Calls :=
  { s.goTo i (.returned r) with history := s.history ++ [.returned i r] }

/-- Takes the producer's lock, that of `back`, if it is free. -/
def lockProducer? (s : Calls) (i : Nat) (next : CallStage) : Option Calls :=
  if s.producer = none then some ({ s with producer := some i }.goTo i next) else none

/-- Takes the consumer's lock, that of `front`, if it is free. -/
def lockConsumer? (s : Calls) (i : Nat) (next : CallStage) : Option Calls :=
  if s.consumer = none then some ({ s with consumer := some i }.goTo i next) else none

/-! ## Stages -/

/-- `FrameHandoff::publish` looks at the closed flag and the length. -/
def check (s : Calls) (i : Nat) (bytes : Bytes) : Calls :=
  match s.handoff.check bytes.length with
  | .ok () => s.goTo i (.lockingProducer bytes)
  | .error .sessionClosed => s.finish i (.refused .sessionClosed)
  | .error e => s.goTo i (.countingMismatch e)

/-- `FrameHandoff::publish` takes the spare buffer and copies. -/
def fill (s : Calls) (i : Nat) (bytes : Bytes) : Calls :=
  match s.handoff.fill bytes with
  | (.error e, handoff) => { s with handoff, producer := none }.finish i (.refused e)
  | (.ok (fresh, n), handoff) => { s with handoff }.goTo i (.lockingConsumer fresh n)

/-- `FrameHandoff::publish` shows its frame to the consumer. -/
def install (s : Calls) (i : Nat) (fresh : CellId) (n : Nat) : Calls :=
  match s.handoff.install fresh with
  | (.error e, handoff) =>
    { s with handoff, producer := none, consumer := none }.finish i (.refused e)
  | (.ok previous, handoff) =>
    { s with handoff, consumer := none }.goTo i (.returningSpare previous n)

/-- `FrameHandoff::try_take` takes the front buffer. -/
def takeFront (s : Calls) (i : Nat) : Calls :=
  match s.handoff.takeFront with
  | (.error e, handoff) => { s with handoff, consumer := none }.finish i (.refused e)
  | (.ok none, handoff) => { s with handoff, consumer := none }.finish i (.took none)
  | (.ok (some id), handoff) =>
    match handoff.frame? id with
    | some frame => { s with handoff, consumer := none }.goTo i (.countingTaken id frame)
    | none => { s with handoff, consumer := none }.finish i (.took none)

/-- `FrameHandoff::stop` swaps the closed flag. Where it was set already there is nothing more to do. -/
def close (s : Calls) (i : Nat) : Calls :=
  match s.handoff.close with
  | (true, handoff) => { s with handoff }.finish i .stopped
  | (false, handoff) => { s with handoff }.goTo i .lockingToEmptyFront

/-- The next stage of a call, in the order of the body of its function; none if there is no such call, if it
has returned, and while it waits for a lock. -/
def step? (s : Calls) (i : Nat) : Option Calls :=
  match s.stages[i]? with
  | none => none
  | some stage =>
    match stage with
    | .checking bytes => some (s.check i bytes)
    | .countingMismatch e =>
      some ({ s with handoff := s.handoff.countMismatch }.finish i (.refused e))
    | .lockingProducer bytes => s.lockProducer? i (.filling bytes)
    | .filling bytes => some (s.fill i bytes)
    | .lockingConsumer fresh n => s.lockConsumer? i (.installing fresh n)
    | .installing fresh n => some (s.install i fresh n)
    | .returningSpare previous n =>
      some ({ s with
        handoff := s.handoff.returnSpare previous.current
        producer := none }.goTo i (.countingPublished previous.ready n))
    | .countingPublished superseded n =>
      let s := { s with handoff := s.handoff.countPublished }
      some (if superseded then s.goTo i (.countingDropped n) else s.finish i (.published n))
    | .countingDropped n =>
      some ({ s with handoff := s.handoff.countDropped }.finish i (.published n))
    | .lockingToTake => s.lockConsumer? i .taking
    | .taking => some (s.takeFront i)
    | .countingTaken id frame =>
      some ({ s with handoff := s.handoff.countTaken }.finish i (.took (some (id, frame))))
    | .closing => some (s.close i)
    | .lockingToEmptyFront => s.lockConsumer? i .emptyingFront
    | .emptyingFront =>
      some ({ s with handoff := s.handoff.emptyFront, consumer := none }.goTo i .lockingToEmptySpare)
    | .lockingToEmptySpare => s.lockProducer? i .emptyingSpare
    | .emptyingSpare =>
      some ({ s with handoff := s.handoff.emptySpare, producer := none }.finish i .stopped)
    | .returned _ => none

/-! ## Runs -/

/-- The caller of a take gives up the frame that it got. -/
def release? (s : Calls) (i : Nat) : Option Calls :=
  match s.stages[i]? with
  | some (.returned (.took (some (id, _)))) =>
    if i ∈ s.released then none
    else some { s with handoff := s.handoff.release id, released := i :: s.released }
  | _ => none

/-- What happens next. -/
inductive Action where
  | invoke (call : Call)
  | step (i : Nat)
  | release (i : Nat)
  deriving DecidableEq, Repr

/-- What an action leaves, if it is possible. -/
def act? (s : Calls) : Action → Option Calls
  | .invoke call => some (s.invoke call)
  | .step i => s.step? i
  | .release i => s.release? i

/-- What actions leave, if all of them are possible. -/
def run? (s : Calls) (actions : List Action) : Option Calls :=
  actions.foldlM act? s

/-- Whether a call has returned. -/
def hasReturned (s : Calls) (i : Nat) : Bool :=
  match s.stages[i]? with
  | some (.returned _) => true
  | _ => false

end Calls

end FramePipeline
