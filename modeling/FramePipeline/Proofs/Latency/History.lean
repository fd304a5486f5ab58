import Mathlib.Data.List.DropRight
import FramePipeline.Latency.Window

/-!
# Windows as the end of a history

A window keeps its samples in a ring, in which a new sample takes the place of the oldest one as soon as all
slots are taken. Seen from outside, this is a history that only grows, of which the end counts: after every
sequence of latencies the window holds the latest samples, oldest first, as many as it has room for.

Main definitions: `LatencyWindow.Use` and `LatencyWindow.run` (latencies and readings in any order),
`Samples.readings` (the same on a history without bound), `LatencyWindow.WindowInv` (a window holds the end of
a history). Main statements: `Ring.toList_push_eq_rtake`, `LatencyWindow.WindowInv.run`,
`LatencyWindow.run_latest_samples`.
-/

namespace FramePipeline

/-! ## The end of a list -/

/-- What comes before the last `n` items of a list does not matter for the last `n` items of a longer one. -/
theorem rtake_rtake_append {α : Type} (n : Nat) (xs ys : List α) :
    (xs.rtake n ++ ys).rtake n = (xs ++ ys).rtake n := by
  simp only [List.rtake_eq_reverse_take_reverse, List.reverse_append, List.reverse_reverse, List.take_append,
    List.take_take]
  have fewer : min (n - ys.reverse.length) n = n - ys.reverse.length := by omega
  rw [fewer]

theorem length_rtake {α : Type} (n : Nat) (xs : List α) : (xs.rtake n).length = min xs.length n := by
  rw [List.rtake, List.length_drop]
  omega

namespace Ring

variable {α : Type} {r : Ring α}

theorem Valid.length_le (h : r.Valid) : r.length ≤ r.capacity :=
  h.size_le

/-- A push leaves the latest of all values, whether it wraps around or not. -/
theorem toList_push_eq_rtake (h : r.Valid) (a : α) :
    (r.push a).toList = (r.toList ++ [a]).rtake r.capacity := by
  have bound := h.length_le
  have length_eq := r.length_toList
  rw [toList_push h, List.rtake, List.length_append, List.length_singleton, length_eq]
  split
  · next free =>
    have all : r.length + 1 - r.capacity = 0 := by omega
    rw [all, List.drop_zero]
  · next full =>
    have pos := h.head_lt
    have one : r.length + 1 - r.capacity = 1 := by omega
    have oldest : 1 ≤ r.toList.length := by omega
    rw [one, List.drop_append_of_le_length oldest]

end Ring

namespace LatencyWindow

/-! ## Uses -/

/-- What is done to a window. -/
inductive Use where
  | record (latency : Duration)
  | read
  deriving DecidableEq, Repr

/-- What a window shows. -/
structure Reading where
  length : Nat
  isEmpty : Bool
  summary : LatencySummary
  deriving DecidableEq, Repr

/-- What the window shows. -/
def reading (w : LatencyWindow) : Reading :=
  ⟨w.length, w.isEmpty, w.summary⟩

/-- What is shown for samples in a list. -/
def Reading.ofSamples (samples : Samples) : Reading :=
  ⟨samples.length, samples.isEmpty, .ofSamples samples⟩

/-- The readings of a window that is used, and what the uses leave. -/
def run (w : LatencyWindow) : List Use → List Reading × LatencyWindow
  | [] => ([], w)
  | .record latency :: rest => (w.record latency).run rest
  | .read :: rest => (w.reading :: (w.run rest).1, (w.run rest).2)

/-- The latencies among uses. -/
def recorded (uses : List Use) : List Duration :=
  uses.filterMap fun
    | .record latency => some latency
    | .read => none

end LatencyWindow

open LatencyWindow (Use Reading)

/-- The readings if a history keeps everything, and the latest samples are shown, as many as there is room
for. -/
def Samples.readings (room : Nat) (history : Samples) : List Use → List Reading
  | [] => []
  | .record latency :: rest => readings room (history ++ [sampleOf latency]) rest
  | .read :: rest => .ofSamples (history.rtake room) :: readings room history rest

/-- Only the latest samples of the history matter. -/
theorem Samples.readings_rtake (room : Nat) (history : Samples) (uses : List Use) :
    Samples.readings room (history.rtake room) uses = Samples.readings room history uses := by
  suffices general : ∀ more : Samples, Samples.readings room (history.rtake room ++ more) uses =
      Samples.readings room (history ++ more) uses by simpa using general []
  induction uses with
  | nil => intro more; rfl
  | cons use rest ih =>
    intro more
    cases use with
    | record latency =>
      simp only [readings, List.append_assoc]
      exact ih (more ++ [sampleOf latency])
    | read =>
      simp only [readings, rtake_rtake_append]
      rw [ih more]

namespace LatencyWindow

variable {w w' : LatencyWindow} {history history' : Samples}

@[simp] theorem recorded_record (latency : Duration) (rest : List Use) :
    recorded (.record latency :: rest) = latency :: recorded rest := rfl

@[simp] theorem recorded_read (rest : List Use) : recorded (.read :: rest) = recorded rest := rfl

/-- A reading is that of the samples. -/
theorem reading_eq (w : LatencyWindow) : w.reading = .ofSamples w.samples := by
  have empty_iff : w.isEmpty = w.samples.isEmpty := by
    rw [isEmpty, ← length_samples, Bool.eq_iff_iff, List.isEmpty_iff_length_eq_zero, decide_eq_true_eq]
  rw [reading, Reading.ofSamples, length_samples, empty_iff, summary]

/-! ## What a window holds -/

/-- The window holds the latest samples of a history, as many as it has room for. -/
structure WindowInv (w : LatencyWindow) (history : Samples) : Prop where
  valid : w.ring.Valid
  samples_eq : w.samples = history.rtake w.ring.capacity

theorem windowInv_empty (capacity : Nat) : (empty capacity).WindowInv [] where
  valid := Ring.valid_empty (by omega)
  samples_eq := by simp

namespace WindowInv

/-- One latency. -/
theorem record (h : w.WindowInv history) (latency : Duration) :
    (w.record latency).WindowInv (history ++ [sampleOf latency]) where
  valid := h.valid.push _
  samples_eq := by
    have pushed : (w.record latency).samples = (w.samples ++ [sampleOf latency]).rtake w.ring.capacity :=
      Ring.toList_push_eq_rtake h.valid _
    have same_room : (w.record latency).ring.capacity = w.ring.capacity := Ring.capacity_push ..
    rw [pushed, h.samples_eq, rtake_rtake_append, same_room]

/-- **A run.** What is read on the way is read off the history, and in the end the window holds the latest
samples of the longer history. -/
theorem run (h : w.WindowInv history) (uses : List Use) :
    (w.run uses).1 = history.readings w.ring.capacity uses ∧
      (w.run uses).2.ring.capacity = w.ring.capacity ∧
      (w.run uses).2.WindowInv (history ++ (recorded uses).map sampleOf) := by
  induction uses generalizing w history with
  | nil =>
    refine ⟨rfl, rfl, ?_⟩
    show w.WindowInv (history ++ [])
    rwa [List.append_nil]
  | cons use rest ih =>
    cases use with
    | record latency =>
      have same_room : (w.record latency).ring.capacity = w.ring.capacity := Ring.capacity_push ..
      obtain ⟨readings, room, holds⟩ := ih (h.record latency)
      rw [same_room] at readings room
      refine ⟨readings, room, ?_⟩
      rw [List.append_assoc] at holds
      exact holds
    | read =>
      obtain ⟨readings, room, holds⟩ := ih h
      refine ⟨?_, room, holds⟩
      simp only [LatencyWindow.run, Samples.readings, readings, reading_eq, h.samples_eq]

/-- Two windows that hold the same samples show the same from then on, wherever their rings begin. -/
theorem run_congr (h : w.WindowInv history) (h' : w'.WindowInv history')
    (same_room : w'.ring.capacity = w.ring.capacity)
    (alike : history'.rtake w.ring.capacity = history.rtake w.ring.capacity) (uses : List Use) :
    (w'.run uses).1 = (w.run uses).1 := by
  rw [(h.run uses).1, (h'.run uses).1, same_room, ← Samples.readings_rtake _ history', alike,
    Samples.readings_rtake]

end WindowInv

/-- Reading a window does not change it. -/
theorem run_eq_foldl (w : LatencyWindow) (uses : List Use) :
    (w.run uses).2 = (recorded uses).foldl LatencyWindow.record w := by
  induction uses generalizing w with
  | nil => rfl
  | cons use rest ih =>
    cases use with
    | record latency => exact ih (w.record latency)
    | read => exact ih w

/-! ## Main statement -/

/-- **A window keeps the latest samples.** Let latencies be recorded and readings be taken in any order. The
window holds the end of the history of samples, oldest first: all of them, or as many as it has room for,
which is one if it was asked for none. A sample is the whole microseconds of a latency, as far as a word of 32
bits goes. Length and summary are those of this end, also in the readings on the way, and no reading changes
anything. Another window of this size whose history has the same end shows the same, whatever is recorded and
read from then on. -/
theorem run_latest_samples (capacity : Nat) (uses : List Use) :
    let room := max capacity 1
    let history := (recorded uses).map sampleOf
    let w := ((empty capacity).run uses).2
    (w.samples = history.rtake room ∧ w.samples.length = min (recorded uses).length room ∧
      history.map UInt32.toNat = (recorded uses).map fun d => min (d.nanos / 1000) (UInt32.size - 1)) ∧
    (w.length = min (recorded uses).length room ∧ (w.isEmpty = true ↔ recorded uses = []) ∧
      w.summary = .ofSamples (history.rtake room)) ∧
    ((empty capacity).run uses).1 = Samples.readings room [] uses ∧
    w = (recorded uses).foldl record (empty capacity) ∧
    ∀ uses', ((recorded uses').map sampleOf).rtake room = history.rtake room →
      ∀ more, (((empty capacity).run uses').2.run more).1 = (w.run more).1 := by
  intro room history w
  obtain ⟨readings, room_eq, holds⟩ := (windowInv_empty capacity).run uses
  have room_eq : w.ring.capacity = room := room_eq
  have holds : w.WindowInv history := holds
  have samples_eq : w.samples = history.rtake room := room_eq ▸ holds.samples_eq
  have length_eq : w.samples.length = min (recorded uses).length room := by
    rw [samples_eq, length_rtake, List.length_map]
  refine ⟨⟨samples_eq, length_eq, ?_⟩, ⟨?_, ?_, ?_⟩, readings, run_eq_foldl _ uses, ?_⟩
  · rw [List.map_map]
    exact List.map_congr_left fun d _ => toNat_sampleOf d
  · rw [← length_samples, length_eq]
  · rw [isEmpty, decide_eq_true_eq, ← length_samples, length_eq, ← List.length_eq_zero_iff]
    omega
  · rw [summary, samples_eq]
  · intro uses' same more
    obtain ⟨-, room_eq', holds'⟩ := (windowInv_empty capacity).run uses'
    refine holds.run_congr holds' (room_eq'.trans room_eq.symm) ?_ more
    rw [room_eq]
    exact same

/-- A window of two, used in two ways: the first has dropped a sample, so that its ring begins in the middle,
and the second has not. Both hold a short latency and one that is too long for a sample, and from then on they
show the same. -/
theorem run_latest_samples_same_end :
    let uses : List Use := [.record (.ofMicros 7), .record (.ofMicros 1), .record (.ofMicros 0x100000000)]
    let uses' : List Use := [.record (.ofMicros 1), .read, .record (.ofMicros 0x200000000)]
    let w := ((empty 2).run uses).2
    let w' := ((empty 2).run uses').2
    w.ring.head = 1 ∧ w'.ring.head = 0 ∧ w.samples = [1, 0xFFFFFFFF] ∧
      ((recorded uses').map sampleOf).rtake 2 = ((recorded uses).map sampleOf).rtake 2 ∧
      ∀ more, (w'.run more).1 = (w.run more).1 := by
  intro uses uses' w w'
  obtain ⟨⟨samples_eq, -⟩, -, -, -, alike⟩ := run_latest_samples 2 uses
  have same : ((recorded uses').map sampleOf).rtake 2 = ((recorded uses).map sampleOf).rtake 2 := by
    decide +kernel
  refine ⟨by decide +kernel, by decide +kernel, ?_, same, alike uses' same⟩
  rw [show w.samples = _ from samples_eq]
  decide +kernel

end LatencyWindow

end FramePipeline
