import Mathlib
import FramePipeline.Latency.Window

/-!
# Summaries of latencies

The figures of a window do not depend on the order of its samples. The 99th percentile is found by its place
in the sorted list; in terms of the samples it is the least one that at least 99 of 100 samples do not exceed,
for every number of samples and however many of them are equal. The sum is exact.

Main statements: `Samples.percentile_le_iff`, `LatencyWindow.summary_percentiles`.
-/

namespace FramePipeline

namespace Samples

variable {samples samples' : Samples} {k : Nat} {v : UInt32}

/-! ## Sorted lists -/

/-- In a sorted list as many samples are at most `v` as stand in front of the first larger one. -/
theorem lt_countP_le_iff (rising : samples.Pairwise (· ≤ ·)) (bound : k < samples.length) :
    k < samples.countP (· ≤ v) ↔ samples[k] ≤ v := by
  induction samples generalizing k with
  | nil => cases bound
  | cons s rest ih =>
    obtain ⟨least, rising⟩ := List.pairwise_cons.mp rising
    by_cases le : s ≤ v
    · have counted : (s :: rest).countP (· ≤ v) = rest.countP (· ≤ v) + 1 :=
        List.countP_cons_of_pos (decide_eq_true le)
      rw [counted]
      cases k with
      | zero => exact iff_of_true (Nat.succ_pos _) le
      | succ k => exact Nat.succ_lt_succ_iff.trans (ih rising (Nat.lt_of_succ_lt_succ bound))
    · have larger : ∀ t ∈ s :: rest, ¬t ≤ v := by
        intro t mem
        obtain rfl | mem := List.mem_cons.mp mem
        · exact le
        · exact fun small => le (UInt32.le_trans (least t mem) small)
      have none : (s :: rest).countP (· ≤ v) = 0 :=
        List.countP_eq_zero.mpr fun t mem => by simpa using larger t mem
      rw [none]
      exact iff_of_false (Nat.not_lt_zero k) (larger _ (List.getElem_mem bound))

theorem perm_sorted (samples : Samples) : samples.sorted.Perm samples :=
  List.mergeSort_perm ..

@[simp] theorem length_sorted (samples : Samples) : samples.sorted.length = samples.length :=
  samples.perm_sorted.length_eq

theorem sorted_ne_nil (nonempty : samples ≠ []) : samples.sorted ≠ [] :=
  fun empty => nonempty (List.nil_perm.mp (empty ▸ samples.perm_sorted))

theorem pairwise_sorted (samples : Samples) : samples.sorted.Pairwise (· ≤ ·) := by
  have rising : samples.sorted.Pairwise fun a b => decide (a ≤ b) = true :=
    List.pairwise_mergeSort (fun a b c => by simpa using UInt32.le_trans)
      (fun a b => by simpa using UInt32.le_total a b) samples
  exact rising.imp of_decide_eq_true

/-- What is sorted does not depend on the order that it had. -/
theorem sorted_eq_of_perm (perm : samples'.Perm samples) : samples'.sorted = samples.sorted :=
  (samples'.perm_sorted.trans (perm.trans samples.perm_sorted.symm)).eq_of_pairwise
    (fun _ _ _ _ => UInt32.le_antisymm) samples'.pairwise_sorted samples.pairwise_sorted

/-! ## The percentile -/

/-- The rank of the percentile is the least number that is at least 99 of 100 samples. -/
theorem rank_le_iff {n : Nat} (pos : 0 < n) {c : Nat} : rank n ≤ c ↔ 99 * n ≤ 100 * c := by
  unfold rank
  omega

theorem rank_bounds {n : Nat} (pos : 0 < n) : 0 < rank n ∧ rank n ≤ n := by
  unfold rank
  omega

/-- The percentile stands at its rank. -/
theorem getElem?_rank (nonempty : samples ≠ []) :
    samples.sorted[rank samples.length - 1]? = some samples.percentile := by
  have bounds := rank_bounds (List.length_pos_iff.mpr nonempty)
  have inside : rank samples.length - 1 < samples.sorted.length := by
    rw [length_sorted]
    omega
  rw [percentile, List.getD_eq_getElem?_getD, List.getElem?_eq_getElem inside, Option.getD_some]

theorem percentile_mem (nonempty : samples ≠ []) : samples.percentile ∈ samples :=
  samples.perm_sorted.mem_iff.mp (List.mem_of_getElem? (getElem?_rank nonempty))

/-- The samples that are not below the percentile are those that at least 99 of 100 samples do not exceed. -/
theorem percentile_le_iff (nonempty : samples ≠ []) :
    samples.percentile ≤ v ↔ 99 * samples.length ≤ 100 * samples.countP (· ≤ v) := by
  have pos := List.length_pos_iff.mpr nonempty
  obtain ⟨inside, stands⟩ := List.getElem?_eq_some_iff.mp (getElem?_rank nonempty)
  have counted := lt_countP_le_iff (v := v) samples.pairwise_sorted inside
  rw [stands, samples.perm_sorted.countP_eq] at counted
  rw [← counted, ← rank_le_iff pos]
  have bounds := rank_bounds pos
  omega

/-! ## The maximum -/

theorem getLast_sorted (nonempty : samples ≠ []) :
    samples.sorted.getLast (sorted_ne_nil nonempty) = samples.maximum := by
  rw [maximum, List.getLastD_eq_getLast?, List.getLast?_eq_some_getLast (sorted_ne_nil nonempty),
    Option.getD_some]

theorem maximum_mem (nonempty : samples ≠ []) : samples.maximum ∈ samples := by
  rw [← getLast_sorted nonempty]
  exact samples.perm_sorted.mem_iff.mp (List.getLast_mem _)

theorem le_maximum (mem : v ∈ samples) : v ≤ samples.maximum := by
  have nonempty := List.ne_nil_of_mem mem
  have refl : Std.Refl (α := UInt32) (· ≤ ·) := ⟨UInt32.le_refl⟩
  rw [← getLast_sorted nonempty]
  exact samples.pairwise_sorted.rel_getLast (samples.perm_sorted.mem_iff.mpr mem)

theorem percentile_eq_of_perm (perm : samples'.Perm samples) : samples'.percentile = samples.percentile := by
  rw [percentile, percentile, sorted_eq_of_perm perm, perm.length_eq]

theorem maximum_eq_of_perm (perm : samples'.Perm samples) : samples'.maximum = samples.maximum := by
  rw [maximum, maximum, sorted_eq_of_perm perm]

/-! ## The sum -/

/-- The exact sum of the samples. -/
def sum (samples : Samples) : Nat :=
  (samples.map UInt32.toNat).sum

theorem sum_cons (s : UInt32) (samples : Samples) : sum (s :: samples) = s.toNat + samples.sum := by
  simp [sum]

theorem sum_le (samples : Samples) : samples.sum ≤ samples.length * largestSample := by
  induction samples with
  | nil => exact Nat.le_refl 0
  | cons s rest ih =>
    have largest : s.toNat ≤ largestSample := Nat.le_sub_one_of_lt s.toNat_lt
    rw [sum_cons, List.length_cons, Nat.succ_mul]
    omega

theorem sum_take_le (samples : Samples) (k : Nat) : Samples.sum (samples.take k) ≤ samples.sum := by
  induction samples generalizing k with
  | nil => simp [sum]
  | cons s rest ih =>
    cases k with
    | zero => exact Nat.zero_le _
    | succ k =>
      rw [List.take_succ_cons, sum_cons, sum_cons]
      exact Nat.add_le_add_left (ih k) _

theorem sum_eq_of_perm (perm : samples'.Perm samples) : samples'.sum = samples.sum :=
  (perm.map _).sum_nat

/-- As many samples as there are 32-bit words have a sum that is a word of 64 bits. -/
theorem sum_lt_size (bound : samples.length ≤ UInt32.size) : samples.sum < UInt64.size := by
  calc samples.sum ≤ samples.length * largestSample := samples.sum_le
    _ ≤ UInt32.size * largestSample := Nat.mul_le_mul_right _ bound
    _ < UInt64.size := by decide

/-- Adding up words is exact as long as the sum is a word. -/
theorem toNat_foldl_add (samples : Samples) (acc : UInt64) (fits : acc.toNat + samples.sum < UInt64.size) :
    (samples.foldl (fun sum s => sum + s.toUInt64) acc).toNat = acc.toNat + samples.sum := by
  induction samples generalizing acc with
  | nil => rfl
  | cons s rest ih =>
    rw [sum_cons] at fits ⊢
    have exact_step : (acc + s.toUInt64).toNat = acc.toNat + s.toNat := by
      rw [UInt64.toNat_add, UInt32.toNat_toUInt64]
      have step_fits : acc.toNat + s.toNat < UInt64.size := by omega
      exact Nat.mod_eq_of_lt step_fits
    rw [List.foldl_cons, ih _ (by rw [exact_step]; omega), exact_step, Nat.add_assoc]

theorem toNat_total (fits : samples.sum < UInt64.size) : samples.total.toNat = samples.sum := by
  have added := toNat_foldl_add samples 0 (by simpa using fits)
  simpa [total] using added

end Samples

namespace LatencyWindow

/-! ## Main statement -/

/-- **A window is summed up exactly.** Let a window hold samples, as many as there are 32-bit words at most.
The percentile has a rank among them, and is the least sample that at least 99 of 100 samples do not exceed.
The maximum is the largest sample, and not below the percentile. The sum is exact, and
no order of the samples makes a sum on the way larger than a word. These are the figures in the summary, and
another window with the same samples in any order has the same ones. -/
theorem summary_percentiles (w : LatencyWindow) (some_kept : w.length ≠ 0)
    (bound : w.length ≤ UInt32.size) :
    let n := w.length
    let p := w.samples.percentile
    let m := w.samples.maximum
    let total := w.samples.sum
    (n * 99 < UInt64.size ∧ Samples.rank n - 1 < n ∧ w.samples.sorted[Samples.rank n - 1]? = some p) ∧
      (p ∈ w.samples ∧ 99 * n ≤ 100 * w.samples.countP (· ≤ p) ∧
        ∀ v, 99 * n ≤ 100 * w.samples.countP (· ≤ v) → p ≤ v) ∧
      (m ∈ w.samples ∧ (∀ v ∈ w.samples, v ≤ m) ∧ p ≤ m) ∧
      (w.samples.total.toNat = total ∧
        ∀ samples' : Samples, samples'.Perm w.samples → ∀ k, Samples.sum (samples'.take k) < UInt64.size) ∧
      w.summary = ⟨n, (toMillis total).div (Binary64.ofNat n), toMillis p.toNat, toMillis m.toNat⟩ ∧
      ∀ w' : LatencyWindow, w'.samples.Perm w.samples →
        w'.samples.percentile = p ∧ w'.samples.maximum = m ∧ w'.samples.total = w.samples.total ∧
          w'.summary = w.summary := by
  intro n p m total
  have length_eq : w.samples.length = n := w.length_samples
  have nonempty : w.samples ≠ [] := by
    rw [← List.length_pos_iff, length_eq]
    exact Nat.pos_of_ne_zero some_kept
  have fits : total < UInt64.size := Samples.sum_lt_size (length_eq ▸ bound)
  have total_eq : w.samples.total.toNat = total := Samples.toNat_total fits
  have ranked := Samples.getElem?_rank nonempty
  have least (v : UInt32) := Samples.percentile_le_iff (v := v) nonempty
  rw [length_eq] at ranked least
  have mem : p ∈ w.samples := Samples.percentile_mem nonempty
  refine ⟨⟨?_, ?_, ranked⟩, ⟨mem, (least p).mp UInt32.le_rfl, fun v => (least v).mpr⟩,
    ⟨Samples.maximum_mem nonempty, fun v => Samples.le_maximum, Samples.le_maximum mem⟩,
    ⟨total_eq, fun samples' perm k => ?_⟩, ?_, fun w' perm => ?_⟩
  · calc n * 99 ≤ UInt32.size * 99 := Nat.mul_le_mul_right 99 bound
      _ < UInt64.size := by decide
  · have pos : 0 < n := Nat.pos_of_ne_zero some_kept
    have bounds := Samples.rank_bounds pos
    omega
  · exact Nat.lt_of_le_of_lt (Samples.sum_take_le samples' k) (Samples.sum_eq_of_perm perm ▸ fits)
  · rw [summary, LatencySummary.ofSamples, if_neg nonempty, total_eq, length_eq]
  · have percentile_eq : w'.samples.percentile = p := Samples.percentile_eq_of_perm perm
    have maximum_eq : w'.samples.maximum = m := Samples.maximum_eq_of_perm perm
    have fits' : w'.samples.sum < UInt64.size := Samples.sum_eq_of_perm perm ▸ fits
    have added : w'.samples.total = w.samples.total := by
      rw [← UInt64.toNat_inj, Samples.toNat_total fits', Samples.sum_eq_of_perm perm, total_eq]
    refine ⟨percentile_eq, maximum_eq, added, ?_⟩
    have nonempty' : w'.samples ≠ [] := fun empty => nonempty (List.nil_perm.mp (empty ▸ perm))
    rw [summary, summary, LatencySummary.ofSamples, LatencySummary.ofSamples, if_neg nonempty,
      if_neg nonempty', percentile_eq, maximum_eq, added, perm.length_eq]

/-- One of a hundred latencies is long. It is the maximum, and the percentile does not see it, whether it
comes first or last. -/
theorem summary_percentiles_hundred :
    let short := Duration.ofMillis 1
    let long := Duration.ofMillis 50
    let w := ((List.replicate 99 short) ++ [long]).foldl record (empty 100)
    let w' := (long :: List.replicate 99 short).foldl record (empty 100)
    w.length ≠ 0 ∧ w.length ≤ UInt32.size ∧
      w.samples.percentile = 1000 ∧ w.samples.maximum = 50000 ∧ w.samples.total.toNat = 149000 ∧
      w'.summary = w.summary := by
  intro short long w w'
  have samples_eq : w.samples = List.replicate 99 1000 ++ [50000] := by decide +kernel
  have samples_eq' : w'.samples = 50000 :: List.replicate 99 1000 := by decide +kernel
  have length_eq : w.length = 100 := by
    rw [← w.length_samples, samples_eq]
    rfl
  have some_kept : w.length ≠ 0 := by omega
  have bound : w.length ≤ UInt32.size := by
    rw [length_eq]
    decide
  obtain ⟨-, ⟨mem, -, least⟩, ⟨mem', most, -⟩, ⟨total_eq, -⟩, -, alike⟩ :=
    summary_percentiles w some_kept bound
  have values : ∀ v ∈ w.samples, v = 1000 ∨ v = 50000 := by simp [samples_eq]
  have enough : 99 * w.length ≤ 100 * w.samples.countP (· ≤ 1000) := by
    rw [length_eq, samples_eq, List.countP_append, List.countP_replicate]
    decide
  have longest : 50000 ≤ w.samples.maximum := most 50000 (by simp [samples_eq])
  have perm : w'.samples.Perm w.samples := by
    rw [samples_eq, samples_eq']
    exact List.perm_append_singleton 50000 (List.replicate 99 1000) |>.symm
  refine ⟨some_kept, bound, ?_, ?_, ?_, (alike w' perm).2.2.2⟩
  · refine (values _ mem).resolve_right fun long => ?_
    rw [long] at least
    exact absurd (least 1000 enough) (by decide)
  · refine (values _ mem').resolve_left fun short => ?_
    rw [short] at longest
    exact absurd longest (by decide)
  · rw [total_eq, samples_eq]
    decide

end LatencyWindow

end FramePipeline
