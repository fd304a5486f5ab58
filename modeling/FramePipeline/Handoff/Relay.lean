import FramePipeline.Handoff.FrameHandoff

/-!
# Relays

A producer publishes numbered frames, each filled with its number modulo 256, while a consumer takes
what it finds. The consumer may hold a frame until it takes the next one.

Main definitions: `Relay`, `Relay.run`, `Relay.isUniform`, `Relay.isRising`.
-/

namespace FramePipeline

/-- A session under way between a producer and a consumer. -/
structure Relay where
  handoff : FrameHandoff
  /-- The numbers that the producer was given, last first. -/
  published : List Nat := []
  /-- The frames that the consumer took, last first. -/
  taken : List Frame := []
  /-- The buffer that the consumer holds. -/
  held : Option CellId := none

namespace Relay

/-- The bytes of the `n`-th frame. -/
def content (length n : Nat) : Bytes :=
  List.replicate length (UInt8.ofNat n)

/-- The producer publishes its `n`-th frame. -/
def produce (r : Relay) (n : Nat) : Relay :=
  match r.handoff.publish (content r.handoff.session.frameLen n) with
  | (.ok k, handoff) => { r with handoff, published := k :: r.published }
  | (.error _, handoff) => { r with handoff }

/-- The consumer gives up what it holds. -/
def giveUp (r : Relay) : Relay :=
  match r.held with
  | some id => { r with handoff := r.handoff.release id, held := none }
  | none => r

/-- The consumer takes a frame, if there is one, and gives up the one before it. -/
def consume (holds : Bool) (r : Relay) : Relay :=
  match r.handoff.tryTake with
  | (.ok (some id), handoff) =>
    let r := { r with handoff, taken := (handoff.frame? id).toList ++ r.taken }.giveUp
    let r := { r with held := some id }
    if holds then r else r.giveUp
  | (_, handoff) => { r with handoff }

/-- Producer and consumer take turns for a number of frames. -/
def run (holds : Bool) (frames : Nat) (r : Relay) : Relay :=
  (List.range frames).foldl (fun r i => (r.produce (i + 1)).consume holds) r

/-- Whether all bytes of a frame say the same number as its sequence number. -/
def isUniform (f : Frame) : Bool :=
  f.data.all (· = UInt8.ofNat f.sequence)

/-- Whether numbers, last first, rose strictly. -/
def isRising : List Nat → Bool
  | a :: b :: rest => b < a && isRising (b :: rest)
  | _ => true

end Relay

end FramePipeline
