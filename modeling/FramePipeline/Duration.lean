import FramePipeline.Memory

/-!
# Durations

Lengths of time, in whole nanoseconds. A point of time is the time since the clock showed zero.

Main definitions: `Duration`, `Duration.ofMillis`, `Duration.ofParts`, `Duration.micros`,
`Duration.text`; `Clock.after`, the time a while ahead, which by `Clock.after_eq_ok_iff` there is exactly
if the clock can show it.
-/

namespace FramePipeline

/-- A length of time. -/
structure Duration where
  nanos : Nat
  deriving DecidableEq, Repr

namespace Duration

/-! ## Units -/

/-- Seconds and nanoseconds. -/
def ofSeconds (seconds nanos : Nat) : Duration :=
  ⟨seconds * 1000000000 + nanos⟩

/-- Seconds and nanoseconds, whose whole seconds must fit into a word. -/
def ofParts (seconds nanos : Nat) : Except Overload Duration :=
  if seconds + nanos / 1000000000 < Word.limit then .ok (ofSeconds seconds nanos)
  else .error (.time (seconds + nanos / 1000000000))

/-- Milliseconds. -/
def ofMillis (ms : Nat) : Duration :=
  ⟨ms * 1000000⟩

/-- Microseconds. -/
def ofMicros (us : Nat) : Duration :=
  ⟨us * 1000⟩

/-- The whole microseconds of a duration. -/
def micros (d : Duration) : Nat :=
  d.nanos / 1000

/-- The whole milliseconds of a duration. -/
def millis (d : Duration) : Nat :=
  d.nanos / 1000000

theorem micros_ofMicros (us : Nat) : (ofMicros us).micros = us := by
  simp [micros, ofMicros]

theorem millis_ofMillis (ms : Nat) : (ofMillis ms).millis = ms := by
  simp [millis, ofMillis]

/-! ## Text -/

/-- The first `places` decimals of `rest / unit`, where `unit` is a power of ten. -/
def decimals : (places : Nat) → (rest unit : Nat) → List Nat
  | 0, _, _ => []
  | places + 1, rest, unit =>
    let unit := unit / 10
    rest / unit % 10 :: decimals places rest unit

/-- A count of units with as many decimals as are needed, and the name of the unit. -/
def inUnit (nanos unit places : Nat) (name : String) : String :=
  let digits := ((decimals places (nanos % unit) unit).reverse.dropWhile (· = 0)).reverse
  toString (nanos / unit) ++
    (if digits = [] then "" else "." ++ String.join (digits.map toString)) ++ name

/-- The text shown to people: in seconds, or in the largest smaller unit of which there is one. -/
def text (d : Duration) : String :=
  if 1000000000 ≤ d.nanos then inUnit d.nanos 1000000000 9 "s"
  else if 1000000 ≤ d.nanos then inUnit d.nanos 1000000 6 "ms"
  else if 1000 ≤ d.nanos then inUnit d.nanos 1000 3 "µs"
  else inUnit d.nanos 1 0 "ns"

end Duration

/-! ## Points of time -/

namespace Clock

/-- The first time that no clock shows, in nanoseconds: that of 2^63 seconds. -/
def limit : Nat :=
  Word.signedLimit * 1000000000

/-- The time a while after another one. A time that the clock does not show is an overload. -/
def after (now period : Duration) : Except Overload Duration :=
  if now.nanos + period.nanos < limit then .ok ⟨now.nanos + period.nanos⟩
  else .error (.time (period.nanos / 1000000000))

variable {now period thaw : Duration}

theorem after_eq_ok_iff :
    after now period = .ok thaw ↔ now.nanos + period.nanos < limit ∧ thaw = ⟨now.nanos + period.nanos⟩ := by
  by_cases h : now.nanos + period.nanos < limit <;> simp [after, h, eq_comm]

theorem after_eq_error_iff {o : Overload} :
    after now period = .error o ↔
      limit ≤ now.nanos + period.nanos ∧ o = .time (period.nanos / 1000000000) := by
  by_cases h : now.nanos + period.nanos < limit
  · simp [after, h, Nat.not_le.mpr h]
  · simp [after, h, Nat.le_of_not_lt h, eq_comm]

end Clock

end FramePipeline
