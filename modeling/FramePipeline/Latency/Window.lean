import FramePipeline.Binary64.Basic
import FramePipeline.Duration
import FramePipeline.Latency.Ring
import FramePipeline.Memory

/-!
# Latency windows

The latest latencies of the render loop, in whole microseconds, and their summary: average, 99th
percentile and maximum. The percentile is the sample of nearest rank: the least sample that at least
99 of 100 samples do not exceed.

Main definitions: `Samples` and its figures, `LatencySummary`, `LatencyWindow`,
`LatencyWindow.record`, `LatencyWindow.summary`.
-/

namespace FramePipeline

/-! ## Samples -/

/-- The largest sample. -/
def largestSample : Nat := UInt32.size - 1

/-- What `LatencyWindow::record` keeps of a latency: its whole microseconds, or the largest sample if they
exceed it. -/
def sampleOf (latency : Duration) : UInt32 :=
  UInt32.ofNat (min latency.micros largestSample)

theorem toNat_sampleOf (latency : Duration) :
    (sampleOf latency).toNat = min latency.micros largestSample := by
  have small : min latency.micros largestSample < UInt32.size := by
    simp only [largestSample, UInt32.size]
    omega
  exact UInt32.toNat_ofNat_of_lt small

/-- Samples in the order in which they came. -/
abbrev Samples := List UInt32

namespace Samples

/-- The samples in rising order. -/
def sorted (samples : Samples) : Samples :=
  samples.mergeSort fun a b => a ≤ b

/-- The sum of the samples in `LatencyWindow::summary`, in words of 64 bits. -/
def total (samples : Samples) : UInt64 :=
  samples.foldl (fun sum s => sum + s.toUInt64) 0

/-- The nearest rank of the 99th percentile among `n` samples in `LatencyWindow::summary`, counted from
one. -/
def rank (n : Nat) : Nat :=
  max ((n * 99 + 99) / 100) 1

/-- The 99th percentile; of no samples, zero. -/
def percentile (samples : Samples) : UInt32 :=
  samples.sorted.getD (rank samples.length - 1) 0

/-- The largest sample; of no samples, zero. -/
def maximum (samples : Samples) : UInt32 :=
  samples.sorted.getLastD 0

end Samples

/-! ## Summaries -/

/-- Model of `LatencySummary`: what the latest latencies come to. -/
structure LatencySummary where
  samples : Nat
  averageMs : Binary64
  percentileMs : Binary64
  maximumMs : Binary64
  deriving DecidableEq, Repr

/-- Microseconds as a number of milliseconds. -/
def toMillis (micros : Nat) : Binary64 :=
  (Binary64.ofNat micros).div (Binary64.ofNat 1000)

/-- What `LatencyWindow::summary` makes of a list of samples. All figures of the empty list are zero. -/
def LatencySummary.ofSamples (samples : Samples) : LatencySummary :=
  if samples = [] then ⟨0, Binary64.ofNat 0, Binary64.ofNat 0, Binary64.ofNat 0⟩
  else
    { samples := samples.length
      averageMs := (toMillis samples.total.toNat).div (Binary64.ofNat samples.length)
      percentileMs := toMillis samples.percentile.toNat
      maximumMs := toMillis samples.maximum.toNat }

/-! ## Windows -/

/-- Model of `LatencyWindow`: the latest latencies. -/
structure LatencyWindow where
  ring : Ring UInt32

namespace LatencyWindow

/-- A window without samples. It has room for one even if asked for none. -/
def empty (capacity : Nat) : LatencyWindow :=
  ⟨.empty (max capacity 1)⟩

/-- Model of `LatencyWindow::new`: a window with the memory that it needs, in which a sample takes four
bytes. -/
def new (capacity : Nat) : Except Overload LatencyWindow := do
  Memory.reserve (max capacity 1) 4
  return empty capacity

/-- Model of `LatencyWindow::record`: takes in a latency. -/
def record (w : LatencyWindow) (latency : Duration) : LatencyWindow :=
  ⟨w.ring.push (sampleOf latency)⟩

/-- The samples, oldest first. -/
def samples (w : LatencyWindow) : Samples :=
  w.ring.toList

/-- Model of `LatencyWindow::len`: how many samples the window holds. -/
def length (w : LatencyWindow) : Nat :=
  w.ring.length

/-- Model of `LatencyWindow::is_empty`. -/
def isEmpty (w : LatencyWindow) : Bool :=
  w.length = 0

/-- Model of `LatencyWindow::summary`. -/
def summary (w : LatencyWindow) : LatencySummary :=
  .ofSamples w.samples

theorem eq_empty_of_new {capacity : Nat} {w : LatencyWindow} (opened : new capacity = .ok w) :
    w = empty capacity := by
  unfold new at opened
  cases room : Memory.reserve (max capacity 1) 4 with
  | error o => simp [room, bind, Except.bind] at opened
  | ok => simpa [room, bind, Except.bind, pure, Except.pure, eq_comm] using opened

@[simp] theorem samples_empty (capacity : Nat) : (empty capacity).samples = [] := by
  simp [samples, empty]

@[simp] theorem length_samples (w : LatencyWindow) : w.samples.length = w.length := by
  simp [samples, length]

@[simp] theorem samples_summary (w : LatencyWindow) : w.summary.samples = w.length := by
  unfold summary LatencySummary.ofSamples
  rw [← length_samples]
  split
  · next none_kept => rw [none_kept, List.length_nil]
  · rfl

end LatencyWindow

end FramePipeline
