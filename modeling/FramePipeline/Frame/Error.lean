/-!
# Refusals of a frame

Why a stream, a buffer or a publication is refused, and the text that says so.

Main definitions: `HandoffError`, `HandoffError.message`, `HandoffError.structureText`.
-/

namespace FramePipeline

/-- Model of `HandoffError`: why frames are refused. -/
inductive HandoffError where
  /-- A side is zero, or a frame of this size has no length. -/
  | invalidDimensions (width height : UInt32)
  /-- A buffer has another length than it must have. -/
  | sizeMismatch (expected actual : Nat)
  /-- The session no longer passes frames on. -/
  | sessionClosed
  deriving DecidableEq, Repr

namespace HandoffError

/-- The text shown to people, as `HandoffError` writes itself. -/
def message : HandoffError → String
  | invalidDimensions width height =>
    "invalid frame dimensions " ++ toString width.toNat ++ "x" ++ toString height.toNat
  | sizeMismatch expected actual =>
    "frame size mismatch: expected " ++ toString expected ++ " bytes, got " ++ toString actual
  | sessionClosed => "handoff session is closed"

/-- The text of `HandoffError` as a structure. -/
def structureText : HandoffError → String
  | invalidDimensions width height =>
    "InvalidDimensions \x7b width: " ++ toString width.toNat ++ ", height: " ++
      toString height.toNat ++ " \x7d"
  | sizeMismatch expected actual =>
    "SizeMismatch \x7b expected: " ++ toString expected ++ ", actual: " ++ toString actual ++ " \x7d"
  | sessionClosed => "SessionClosed"

end HandoffError

end FramePipeline
