import FramePipeline.Frame.Basic
import FramePipeline.Render.CartoonModes
import FramePipeline.Render.Error

/-!
# Transforms

A transform makes the bytes of a frame into the bytes that are shown. It has a state of its own and
writes into a buffer that it is given; it may fail, having written or not, and it may panic.

Main definitions: `FrameTransform`, `FrameTransform.ofBytes`, `FrameTransform.passthrough` and other
transforms of single frames, `FrameTransform.withMishaps` (a transform that goes wrong at given frames).
-/

namespace FramePipeline

/-- What a call of `FrameTransform::apply` comes to, and what the buffer holds then. -/
inductive Applied where
  | done (out : Bytes)
  | failed (e : RenderError) (out : Bytes)
  | panicked
  deriving DecidableEq, Repr

/-- Model of `FrameTransform`: a transform with states `σ`. -/
structure FrameTransform (σ : Type) where
  name : String := "transform"
  /-- Makes something of a frame under modes, given what the buffer holds. -/
  apply : Frame → CartoonModes → Bytes → σ → Applied × σ

namespace FrameTransform

/-! ## Transforms without a state -/

/-- The transform that appends what `f` makes of the bytes. -/
def ofBytes (name : String) (f : CartoonModes → Bytes → Bytes) : FrameTransform Unit where
  name
  apply frame modes out _ := (.done (out ++ f modes frame.data), ())

/-- Model of `Passthrough`: frames as they are. -/
def passthrough : FrameTransform Unit :=
  ofBytes "passthrough" fun _ bytes => bytes

/-- The negative image: all bits of all bytes inverted. -/
def negative : FrameTransform Unit :=
  ofBytes "closure" fun _ bytes => bytes.map fun b => 255 - b

/-- Every byte combined with the bits of the modes, one by one. -/
def tint : FrameTransform Unit :=
  ofBytes "closure" fun modes bytes => bytes.map fun b => b ^^^ UInt8.ofNat modes.mask

/-- The bytes in reverse order. -/
def reversed : FrameTransform Unit :=
  ofBytes "transform" fun _ bytes => bytes.reverse

/-! ## Mishaps -/

/-- What goes wrong at a frame. -/
inductive Mishap where
  /-- It fails before it writes anything. -/
  | fails
  /-- It fails after a single byte. -/
  | failsLate
  /-- It writes nothing. -/
  | writesNothing
  /-- It leaves out the last byte. -/
  | writesLess
  /-- It writes a zero byte too many. -/
  | writesMore
  | panics
  deriving DecidableEq, Repr

/-- The transform with mishaps at frames given by their numbers. -/
def withMishaps {σ : Type} (t : FrameTransform σ) (mishaps : List (Nat × Mishap)) : FrameTransform σ where
  name := t.name
  apply frame modes out s :=
    match mishaps.lookup frame.sequence with
    | none => t.apply frame modes out s
    | some .fails => (.failed (.transform "scripted") out, s)
    | some .failsLate => (.failed (.transform "scripted") (out ++ [0]), s)
    | some .writesNothing => (.done out, s)
    | some .panics => (.panicked, s)
    | some .writesLess => afterwards List.dropLast (t.apply frame modes out s)
    | some .writesMore => afterwards (· ++ [0]) (t.apply frame modes out s)
where
  /-- Changes what was written. -/
  afterwards (f : Bytes → Bytes) : Applied × σ → Applied × σ
    | (.done out, s) => (.done (f out), s)
    | other => other

end FrameTransform

end FramePipeline
