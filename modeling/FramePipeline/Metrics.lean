/-!
# Metrics

Counters that a process shares. A counter appears when it is first counted; before that it is absent.

Main definitions: `Metric`, `Metrics`, `Metrics.count` (count one more), `Metrics.get?`,
`Metrics.value`. Main statement: `Metrics.get?_count`, counting changes one counter by one and no other.
-/

namespace FramePipeline

/-- The metrics that the program counts. -/
inductive Metric where
  /-- Publications of a wrong length. -/
  | sizeMismatches
  /-- Publications that found the spare buffer in use. -/
  | reallocations
  | published
  /-- Frames that were replaced before anyone took them. -/
  | dropped
  /-- Frames that a source itself found to have a wrong length. -/
  | captureRejected
  | captureErrors
  /-- Failed transforms and presentations. -/
  | renderErrors
  | renderFrames
  /-- Latencies that were measured. -/
  | latencies
  deriving DecidableEq, Repr

/-- The name under which a metric is counted. -/
def Metric.name : Metric → String
  | sizeMismatches => "handoff_size_mismatches"
  | reallocations => "handoff_reallocations"
  | published => "handoff_frames_published"
  | dropped => "handoff_frames_dropped"
  | captureRejected => "capture_frames_rejected"
  | captureErrors => "capture_errors"
  | renderErrors => "render_errors"
  | renderFrames => "render_frames"
  | latencies => "frame_latency_ms"

/-- The counters there are. -/
abbrev Metrics := List (Metric × Nat)

namespace Metrics

/-- The value of a counter, if it is there. -/
def get? (m : Metric) (counters : Metrics) : Option Nat :=
  counters.lookup m

/-- Counts one more. -/
def count (m : Metric) : Metrics → Metrics
  | [] => [(m, 1)]
  | (k, n) :: rest => if k = m then (k, n + 1) :: rest else (k, n) :: count m rest

theorem get?_count (m k : Metric) (counters : Metrics) :
    get? k (count m counters) =
      if k = m then some ((get? k counters).getD 0 + 1) else get? k counters := by
  induction counters with
  | nil =>
    by_cases h : k = m
    · simp [get?, count, h]
    · simp [get?, count, h, List.lookup_cons, beq_eq_false_iff_ne.mpr h]
  | cons e rest ih =>
    obtain ⟨j, n⟩ := e
    simp only [get?, count] at ih ⊢
    by_cases hj : j = m
    · subst hj
      by_cases hk : k = j
      · simp [hk]
      · simp [hk, List.lookup_cons, beq_eq_false_iff_ne.mpr hk]
    · by_cases hk : k = j
      · subst hk
        simp [hj]
      · simp [hj, List.lookup_cons, beq_eq_false_iff_ne.mpr hk, ih]

/-- How often was counted. -/
def value (m : Metric) (counters : Metrics) : Nat :=
  (get? m counters).getD 0

@[simp] theorem value_count_self (m : Metric) (counters : Metrics) :
    value m (count m counters) = value m counters + 1 := by
  rw [value, get?_count, if_pos rfl]
  rfl

theorem value_count_of_ne {m k : Metric} (other : k ≠ m) (counters : Metrics) :
    value k (count m counters) = value k counters := by
  rw [value, get?_count, if_neg other]
  rfl

end Metrics

end FramePipeline
