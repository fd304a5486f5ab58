import FramePipeline.Handoff.FrameHandoff

/-!
# What sessions count

A session keeps counters of its own, and counts most of what it counts on the metrics of the process as
well. The two are changed in separate places; here it is shown, section by section, that they stay
together. Takes are counted by the session alone, and stops by neither.

Main definitions: `Metric.isOfSession`, `HandoffStats.counted`, `FrameHandoff.TallyRel` (from one handoff to
the other, metrics grow as the counters of the session do). Main statements: `FrameHandoff.tallyRel_publish`,
`FrameHandoff.tallyRel_tryTake`, `FrameHandoff.tallyRel_stop`.
-/

namespace FramePipeline

/-- Sessions count on this metric. -/
def Metric.isOfSession : Metric → Bool
  | sizeMismatches | reallocations | published | dropped => true
  | _ => false

/-- What a session counted of a metric. -/
def HandoffStats.counted (st : HandoffStats) : Metric → Nat
  | .sizeMismatches => st.sizeMismatches
  | .reallocations => st.reallocations
  | .published => st.published
  | .dropped => st.dropped
  | _ => 0

theorem HandoffStats.counted_of_other {m : Metric} (other : m.isOfSession = false) (st : HandoffStats) :
    st.counted m = 0 := by
  cases m with
  | sizeMismatches | reallocations | published | dropped => cases other
  | captureRejected | captureErrors | renderErrors | renderFrames | latencies => rfl

namespace FrameHandoff

/-! ## Counting -/

/-- From one handoff to the other, the metrics grow as the counters of the session do. -/
structure TallyRel (c c' : FrameHandoff) : Prop where
  value_eq : ∀ m, c'.metrics.value m + c.session.stats.counted m =
    c.metrics.value m + c'.session.stats.counted m
  /-- A counter that appears has counted something. -/
  of_zero : ∀ m, c'.metrics.get? m = some 0 → c.metrics.get? m = some 0

variable {c c' c'' : FrameHandoff} {m : Metric}

namespace TallyRel

theorem of_eq (metrics : c'.metrics = c.metrics)
    (stats : ∀ m, c'.session.stats.counted m = c.session.stats.counted m) : c.TallyRel c' where
  value_eq m := by rw [metrics, stats]
  of_zero m := by
    rw [metrics]
    exact id

theorem refl (c : FrameHandoff) : c.TallyRel c :=
  of_eq rfl fun _ => rfl

theorem trans (h : c.TallyRel c') (h' : c'.TallyRel c'') : c.TallyRel c'' where
  value_eq m := by
    have first := h.value_eq m
    have second := h'.value_eq m
    omega
  of_zero m zero := h.of_zero m (h'.of_zero m zero)

/-- Session and metrics count one more of the same. -/
theorem count (k : Metric) (metrics : c'.metrics = c.metrics.count k)
    (stats : ∀ m, c'.session.stats.counted m = c.session.stats.counted m + if m = k then 1 else 0) :
    c.TallyRel c' where
  value_eq m := by
    rw [metrics, stats]
    by_cases same : m = k
    · rw [if_pos same, same, Metrics.value_count_self]
      omega
    · rw [if_neg same, Metrics.value_count_of_ne same]
      omega
  of_zero m zero := by
    rw [metrics, Metrics.get?_count] at zero
    split at zero
    · cases zero
    · exact zero

end TallyRel

/-! ## New sessions -/

/-- A new session is open and counted nothing yet. -/
theorem session_fresh_of_start {stream : StreamFormat} {pool pool' : Pool} {s : Session}
    (started : Session.start stream pool = .ok (s, pool')) : s.closed = false ∧ s.stats = {} := by
  unfold Session.start at started
  split at started
  · cases started
  · obtain ⟨rfl, rfl⟩ := Prod.mk.inj (Except.ok.inj started)
    exact ⟨rfl, rfl⟩

/-- A new session is open, and nothing was counted yet. -/
theorem fresh_of_start {stream : StreamFormat} (started : start stream = .ok c) :
    c.session.closed = false ∧ c.session.stats = {} ∧ c.metrics = [] := by
  unfold start at started
  split at started
  · next session pool eq =>
    obtain rfl := Except.ok.inj started
    obtain ⟨isOpen, stats⟩ := session_fresh_of_start eq
    exact ⟨isOpen, stats, rfl⟩
  · cases started

/-! ## Publications -/

theorem tallyRel_countMismatch (c : FrameHandoff) : c.TallyRel c.countMismatch :=
  .count .sizeMismatches rfl fun m => by cases m <;> rfl

theorem tallyRel_countReallocation (c : FrameHandoff) : c.TallyRel c.countReallocation :=
  .count .reallocations rfl fun m => by cases m <;> rfl

theorem tallyRel_countPublished (c : FrameHandoff) : c.TallyRel c.countPublished :=
  .count .published rfl fun m => by cases m <;> rfl

theorem tallyRel_countDropped (c : FrameHandoff) : c.TallyRel c.countDropped :=
  .count .dropped rfl fun m => by cases m <;> rfl

theorem tallyRel_copy (c : FrameHandoff) (spare : CellId) (bytes : Bytes) (n : Nat) :
    c.TallyRel (c.copy spare bytes n).2 := by
  unfold copy
  split
  · exact .of_eq rfl fun _ => rfl
  · exact c.tallyRel_countReallocation.trans (.of_eq rfl fun _ => rfl)

theorem tallyRel_fill (c : FrameHandoff) (bytes : Bytes) : c.TallyRel (c.fill bytes).2 := by
  unfold fill
  split
  · exact .refl c
  · have begun : c.TallyRel { c with session.spare := none, session.sequence := c.session.sequence + 1 } :=
      .of_eq rfl fun _ => rfl
    exact begun.trans (tallyRel_copy ..)

theorem tallyRel_install (c : FrameHandoff) (fresh : CellId) : c.TallyRel (c.install fresh).2 := by
  unfold install
  split <;> exact .of_eq rfl fun _ => rfl

theorem tallyRel_publish (c : FrameHandoff) (bytes : Bytes) : c.TallyRel (c.publish bytes).2 := by
  unfold publish
  split
  · exact .refl c
  · exact c.tallyRel_countMismatch
  · have filled := c.tallyRel_fill bytes
    split
    · next eq =>
      rw [eq] at filled
      exact filled
    · next fresh n c₁ eq =>
      rw [eq] at filled
      have installed := filled.trans (c₁.tallyRel_install fresh)
      split
      · next eq₁ =>
        rw [eq₁] at installed
        exact installed
      · next previous c₂ eq₁ =>
        rw [eq₁] at installed
        have returned : c₂.TallyRel (c₂.returnSpare previous.current) := .of_eq rfl fun _ => rfl
        have published := (installed.trans returned).trans (tallyRel_countPublished _)
        split
        · exact published.trans (tallyRel_countDropped _)
        · exact published

/-- Publications are counted on metrics of sessions only. -/
theorem value_publish (other : m.isOfSession = false) (c : FrameHandoff) (bytes : Bytes) :
    (c.publish bytes).2.metrics.value m = c.metrics.value m := by
  have grown := (c.tallyRel_publish bytes).value_eq m
  rw [HandoffStats.counted_of_other other, HandoffStats.counted_of_other other] at grown
  exact grown

/-- A session counts on its own metrics only. -/
theorem value_count_of_session {k : Metric} (other : m.isOfSession = false)
    (own : k.isOfSession = true) (metrics : Metrics) :
    (metrics.count k).value m = metrics.value m := by
  refine Metrics.value_count_of_ne ?_ metrics
  rintro rfl
  rw [own] at other
  cases other

/-! ## Takes -/

theorem metrics_takeFront (c : FrameHandoff) : c.takeFront.2.metrics = c.metrics := by
  unfold takeFront
  split
  · rfl
  · split <;> rfl

theorem metrics_tryTake (c : FrameHandoff) : c.tryTake.2.metrics = c.metrics := by
  have looked := metrics_takeFront c
  unfold tryTake
  split
  · next eq =>
    rw [eq] at looked
    exact looked
  · next eq =>
    rw [eq] at looked
    exact looked

theorem counted_takeFront (c : FrameHandoff) (m : Metric) :
    c.takeFront.2.session.stats.counted m = c.session.stats.counted m := by
  unfold takeFront
  split
  · rfl
  · split <;> rfl

/-- Takes are counted by the session alone. -/
theorem tallyRel_tryTake (c : FrameHandoff) : c.TallyRel c.tryTake.2 := by
  refine .of_eq c.metrics_tryTake fun m => ?_
  have looked := c.counted_takeFront m
  unfold tryTake
  split
  · next id c₁ eq =>
    rw [eq] at looked
    cases m <;> exact looked
  · next eq =>
    rw [eq] at looked
    exact looked

/-! ## Stops -/

theorem metrics_emptyFront (c : FrameHandoff) : c.emptyFront.metrics = c.metrics := by
  unfold emptyFront
  split <;> rfl

theorem metrics_emptySpare (c : FrameHandoff) : c.emptySpare.metrics = c.metrics := by
  unfold emptySpare
  split <;> rfl

theorem metrics_stop (c : FrameHandoff) : c.stop.metrics = c.metrics := by
  cases closed : c.session.closed with
  | true => simp [stop, close, closed]
  | false => simp [stop, close, closed, metrics_emptySpare, metrics_emptyFront]

theorem stop_of_closed (closed : c.session.closed = true) : c.stop = c := by
  obtain ⟨⟨⟩, pool, metrics⟩ := c
  simp_all [stop, close]

/-- A stop counts nothing. -/
theorem stats_stop (c : FrameHandoff) : c.stop.session.stats = c.session.stats := by
  cases closed : c.session.closed with
  | true => rw [stop_of_closed closed]
  | false =>
    simp only [stop, close, closed, emptySpare, emptyFront]
    split <;> split <;> rfl

theorem tallyRel_stop (c : FrameHandoff) : c.TallyRel c.stop :=
  .of_eq c.metrics_stop fun m => by rw [stats_stop]

end FrameHandoff

end FramePipeline
