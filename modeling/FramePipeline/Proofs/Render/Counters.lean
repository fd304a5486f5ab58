import FramePipeline.Proofs.Handoff.SessionCounters
import FramePipeline.Proofs.Render.SnapshotRequests

/-!
# What a render loop counts

A frame may be lost at three points: its transform may fail, its output may not be shown, and it may not be
saved. A failure at any of them is an error of the report; only the first two count on the metric of errors,
and only an output that is shown counts as a rendered frame. So the counters, the metrics and the number of
latencies that are kept are numbers of events of the trace.

Main definitions: `RenderLoop.failedCalls`, `RenderLoop.failedPresents`, `RenderLoop.failedSaves`,
`RenderLoop.Increment` (what a step counts), `RenderLoop.BalanceInv` (the invariant). Main statement:
`RenderLoop.report_balance`.
-/

namespace FramePipeline

namespace RenderEvent

/-- The transform failed, or its output had another length than the frame. -/
def isFailedCall : RenderEvent → Bool
  | applied _ _ _ (.failed _ _) => true
  | applied f _ _ (.done out) => decide (out.length ≠ f.data.length)
  | _ => false

/-- The output was not shown. -/
def isFailedPresent : RenderEvent → Bool
  | presented _ ok => !ok
  | _ => false

/-- The output was shown. -/
def isShown : RenderEvent → Bool
  | presented _ ok => ok
  | _ => false

/-- The output was not saved. -/
def isFailedSave : RenderEvent → Bool
  | saved _ ok => !ok
  | _ => false

/-- The output was saved. -/
def isSaved : RenderEvent → Bool
  | saved _ ok => ok
  | _ => false

end RenderEvent

/-- The transform was called for the frame at hand, and nothing came of it yet. After a panic nothing ever
does. -/
def RenderPhase.awaitsShow : RenderPhase → Bool
  | present _ | ended .panicked => true
  | _ => false

namespace RenderLoop

variable {σ ρ : Type} {t : FrameTransform σ} {k : FrameSink ρ} {clock : Reading} {r r' : RenderLoop σ ρ}
  {events : List RenderEvent} {room : Nat}

/-- The number of calls of the transform that failed or made an output of a wrong length. -/
def failedCalls (r : RenderLoop σ ρ) : Nat :=
  r.trace.countP RenderEvent.isFailedCall

/-- The number of outputs that were not shown. -/
def failedPresents (r : RenderLoop σ ρ) : Nat :=
  r.trace.countP RenderEvent.isFailedPresent

/-- The number of attempts to save that failed. -/
def failedSaves (r : RenderLoop σ ρ) : Nat :=
  r.trace.countP RenderEvent.isFailedSave

/-! ## What a step counts -/

/-- The events are added to the trace, and counted in the report, in the window and on the metrics. -/
structure Increment (r r' : RenderLoop σ ρ) (events : List RenderEvent) : Prop where
  trace : r'.trace = r.trace ++ events
  framesRendered : r'.counts.framesRendered = r.counts.framesRendered + events.countP (·.isShown)
  snapshots : r'.counts.snapshots = r.counts.snapshots + events.countP (·.isSaved)
  errors : r'.counts.errors = r.counts.errors + (events.countP (·.isFailedCall) +
    events.countP (·.isFailedPresent) + events.countP (·.isFailedSave))
  attempts : (events.filterMap (·.saved?)).length =
    events.countP (·.isSaved) + events.countP (·.isFailedSave)
  /-- A call either fails, or is followed by an attempt to show its output. -/
  calls : (events.filterMap (·.input?)).length + r.phase.awaitsShow.toNat = events.countP (·.isShown) +
    events.countP (·.isFailedCall) + events.countP (·.isFailedPresent) + r'.phase.awaitsShow.toNat
  window : r'.window = r.window ∧ events.countP (·.isShown) = 0 ∨
    (∃ latency, r'.window = r.window.record latency) ∧ events.countP (·.isShown) = 1
  renderErrors : r'.handoff.metrics.value .renderErrors = r.handoff.metrics.value .renderErrors +
    (events.countP (·.isFailedCall) + events.countP (·.isFailedPresent))
  renderFrames : r'.handoff.metrics.value .renderFrames =
    r.handoff.metrics.value .renderFrames + events.countP (·.isShown)
  latencies : r'.handoff.metrics.value .latencies =
    r.handoff.metrics.value .latencies + events.countP (·.isShown)

/-- Nothing is counted where the trace, the counters and the metrics of the loop stay as they are. -/
theorem increment_nothing (trace : r'.trace = r.trace) (counts : r'.counts = r.counts)
    (window : r'.window = r.window) (phase : r'.phase.awaitsShow = r.phase.awaitsShow)
    (metrics : ∀ m : Metric, m.isOfSession = false →
      r'.handoff.metrics.value m = r.handoff.metrics.value m) : r.Increment r' [] where
  trace := by rw [trace, List.append_nil]
  framesRendered := congrArg RenderCounts.framesRendered counts
  snapshots := congrArg RenderCounts.snapshots counts
  errors := congrArg RenderCounts.errors counts
  attempts := rfl
  calls := by rw [phase]; rfl
  window := .inl ⟨window, rfl⟩
  renderErrors := metrics .renderErrors rfl
  renderFrames := metrics .renderFrames rfl
  latencies := metrics .latencies rfl

theorem StepRel.increment (s : StepRel t k clock r r') : ∃ events, r.Increment r' events := by
  have others (m : Metric) (other : m ≠ .renderErrors) :
      (r.handoff.metrics.count .renderErrors).value m = r.handoff.metrics.value m :=
    Metrics.value_count_of_ne other _
  cases s with
  | @panicked _ f _ phase =>
    exact ⟨[.applied f r.modes [] .panicked], rfl, rfl, rfl, rfl, rfl, by rw [phase]; rfl, .inl ⟨rfl, rfl⟩,
      rfl, rfl, rfl⟩
  | @failed _ f result out _ phase frame applied fault =>
    have fails : (RenderEvent.applied f r.modes [] result).isFailedCall = true := by
      obtain ⟨e, rfl⟩ | ⟨rfl, differs⟩ := fault
      · rfl
      · exact decide_eq_true differs
    have one : [RenderEvent.applied f r.modes [] result].countP (·.isFailedCall) = 1 :=
      List.countP_cons_of_pos fails
    refine ⟨[.applied f r.modes [] result], rfl, rfl, rfl, ?_, rfl, ?_, .inl ⟨rfl, rfl⟩, ?_,
      others .renderFrames nofun, others .latencies nofun⟩
    · rw [one]
      rfl
    · rw [one, phase]
      rfl
    · rw [one]
      exact Metrics.value_count_self ..
  | @transformed _ f out _ phase frame applied fits =>
    have fine : (RenderEvent.applied f r.modes [] (.done out)).isFailedCall = false :=
      decide_eq_false fun differs => differs fits
    have none_failed : [RenderEvent.applied f r.modes [] (.done out)].countP (·.isFailedCall) = 0 := by
      simp [fine]
    refine ⟨[.applied f r.modes [] (.done out)], rfl, rfl, rfl, ?_, rfl, ?_, .inl ⟨rfl, rfl⟩, ?_, rfl, rfl⟩
    · rw [none_failed]
      rfl
    · rw [none_failed, phase]
      rfl
    · rw [none_failed]
      rfl
  | @presentFailed _ f _ _ phase =>
    exact ⟨[.presented (r.output f) false], rfl, rfl, rfl, rfl, rfl, by rw [phase]; rfl, .inl ⟨rfl, rfl⟩,
      Metrics.value_count_self .., others .renderFrames nofun, others .latencies nofun⟩
  | @presented _ f _ phase =>
    have shown (m : Metric) (other : m ≠ .renderFrames) :
        (r.handoff.metrics.count .renderFrames).value m = r.handoff.metrics.value m :=
      Metrics.value_count_of_ne other _
    have timed (m : Metric) (other : m ≠ .latencies) :
        ((r.handoff.metrics.count .renderFrames).count .latencies).value m =
          (r.handoff.metrics.count .renderFrames).value m :=
      Metrics.value_count_of_ne other _
    refine ⟨[.presented (r.output f) true], rfl, rfl, rfl, rfl, rfl, by rw [phase]; rfl,
      .inr ⟨⟨_, rfl⟩, rfl⟩, ?_, ?_, ?_⟩
    · exact (timed .renderErrors nofun).trans (shown .renderErrors nofun)
    · exact (timed .renderFrames nofun).trans (Metrics.value_count_self ..)
    · exact (Metrics.value_count_self ..).trans (congrArg (· + 1) (shown .latencies nofun))
  | @saveFailed _ f _ _ phase =>
    exact ⟨[.saved (r.output f) false], rfl, rfl, rfl, rfl, rfl, by rw [phase]; rfl, .inl ⟨rfl, rfl⟩, rfl,
      rfl, rfl⟩
  | @saved _ f _ _ phase =>
    exact ⟨[.saved (r.output f) true], rfl, rfl, rfl, rfl, rfl, by rw [phase]; rfl, .inl ⟨rfl, rfl⟩, rfl,
      rfl, rfl⟩
  | @overloaded _ f _ _ phase =>
    exact ⟨[.saved (r.output f) true], rfl, rfl, rfl, rfl, rfl, by rw [phase]; rfl, .inl ⟨rfl, rfl⟩, rfl,
      rfl, rfl⟩
  | readSnapshot | ended => exact ⟨[], increment_nothing rfl rfl rfl rfl fun _ _ => rfl⟩
  | took phase taken frame sound same metrics =>
    exact ⟨[], increment_nothing rfl rfl rfl (by rw [phase]; rfl)
      fun m _ => congrArg (Metrics.value m) metrics⟩
  | readNothing phase | readNothingWith phase | readShutdown phase | readShutdownWith phase
  | notFrozen phase | frozen phase | thawed phase | tookNothing phase | foundClosed phase
  | notSaved phase =>
    exact ⟨[], increment_nothing rfl rfl rfl (by rw [phase]; rfl) fun _ _ => rfl⟩

/-- What others count is counted on other metrics. -/
theorem increment_act (sound : r.Sound) (t : FrameTransform σ) (k : FrameSink ρ) (action : RenderAction) :
    ∃ events, r.Increment (r.act t k action) events := by
  cases action with
  | step clock => exact (stepRel_step sound).increment
  | send | setModes => exact ⟨[], increment_nothing rfl rfl rfl rfl fun _ _ => rfl⟩
  | publish bytes =>
    exact ⟨[],
      increment_nothing rfl rfl rfl rfl fun m other => FrameHandoff.value_publish other r.handoff bytes⟩
  | close =>
    exact ⟨[], increment_nothing rfl rfl rfl rfl fun m _ =>
      congrArg (Metrics.value m) (FrameHandoff.metrics_stop r.handoff)⟩

/-! ## The invariant -/

/-- The counters are what the trace says; there is room for so many latencies. -/
structure BalanceInv (r : RenderLoop σ ρ) (room : Nat) : Prop where
  calls_eq : r.calls =
    r.counts.framesRendered + r.failedCalls + r.failedPresents + r.phase.awaitsShow.toNat
  errors_eq : r.counts.errors = r.failedCalls + r.failedPresents + r.failedSaves
  attempts_eq : r.attempts.length = r.counts.snapshots + r.failedSaves
  room_eq : r.window.ring.capacity = room
  samples_eq : r.window.length = min r.counts.framesRendered room
  renderErrors_eq : r.handoff.metrics.value .renderErrors = r.failedCalls + r.failedPresents
  renderFrames_eq : r.handoff.metrics.value .renderFrames = r.counts.framesRendered
  latencies_eq : r.handoff.metrics.value .latencies = r.counts.framesRendered

theorem balanceInv_start {stream : StreamFormat} {c : FrameHandoff}
    (started : FrameHandoff.start stream = .ok c) (settings : RenderSettings) (transform : σ) (sink : ρ) :
    (start c settings transform sink).BalanceInv (max 1 settings.latencyWindow) := by
  obtain ⟨-, -, metrics⟩ := FrameHandoff.fresh_of_start started
  have nothing (m : Metric) : c.metrics.value m = 0 := by
    rw [metrics]
    rfl
  exact {
    calls_eq := rfl
    errors_eq := rfl
    attempts_eq := rfl
    room_eq := Nat.max_comm ..
    samples_eq := (Nat.zero_min _).symm
    renderErrors_eq := nothing .renderErrors
    renderFrames_eq := nothing .renderFrames
    latencies_eq := nothing .latencies }

theorem Increment.balanceInv (adds : r.Increment r' events) (h : r.BalanceInv room) : r'.BalanceInv room := by
  have calls : r'.calls = r.calls + (events.filterMap (·.input?)).length := by
    rw [calls_eq_length, calls_eq_length, inputs, inputs, adds.trace, List.filterMap_append,
      List.length_append]
  have attempts : r'.attempts.length = r.attempts.length + (events.filterMap (·.saved?)).length := by
    rw [RenderLoop.attempts, RenderLoop.attempts, adds.trace, List.filterMap_append, List.length_append]
  have numbers (p : RenderEvent → Bool) : r'.trace.countP p = r.trace.countP p + events.countP p := by
    rw [adds.trace, List.countP_append]
  have failedCalls : r'.failedCalls = r.failedCalls + events.countP (·.isFailedCall) := numbers _
  have failedPresents : r'.failedPresents = r.failedPresents + events.countP (·.isFailedPresent) := numbers _
  have failedSaves : r'.failedSaves = r.failedSaves + events.countP (·.isFailedSave) := numbers _
  obtain ⟨calls_eq, errors_eq, attempts_eq, room_eq, samples_eq, renderErrors_eq, renderFrames_eq,
    latencies_eq⟩ := h
  obtain ⟨-, frames, snapshots, errors, saves, shows, window, renderErrors, renderFrames, latencies⟩ := adds
  refine ⟨?calls, ?errors, ?attempts, ?room, ?samples, ?renderErrors, ?renderFrames, ?latencies⟩
  case calls => omega
  case errors => omega
  case attempts => omega
  case renderErrors => omega
  case renderFrames => omega
  case latencies => omega
  case room =>
    obtain ⟨same, -⟩ | ⟨⟨latency, eq⟩, -⟩ := window
    · rw [same, room_eq]
    · rw [eq, ← room_eq]
      exact Ring.capacity_push ..
  case samples =>
    obtain ⟨same, zero⟩ | ⟨⟨latency, eq⟩, one⟩ := window
    · rw [same, samples_eq, frames, zero, Nat.add_zero]
    · have pushed : r'.window.length =
          if r.window.length < r.window.ring.capacity then r.window.length + 1 else r.window.length := by
        rw [eq]
        exact Ring.length_push ..
      rw [pushed, frames, one, room_eq]
      split <;> omega

/-- The counters are kept by whatever happens to the loop in which order. -/
theorem BalanceInv.run {slotEvents : List SlotEvent} {lost : List Frame} (h : r.BalanceInv room)
    (history : r.HistoryInv slotEvents lost) (t : FrameTransform σ) (k : FrameSink ρ)
      (schedule : List RenderAction) :
    (r.run t k schedule).BalanceInv room := by
  induction schedule generalizing r slotEvents lost with
  | nil => exact h
  | cons action rest ih =>
    obtain ⟨events, adds⟩ := increment_act history.sound t k action
    obtain ⟨slotEvents', lost', history'⟩ := history.act t k action
    exact ih (adds.balanceInv h) history'

/-! ## Main statement -/

/-- **The report counts what happened.** Whatever happens to a loop in which order: unless an output still
waits to be shown or the transform panicked, and so at the end of every round and of every run that ends
without a panic, the frames that the loop counts as rendered are those for which the transform was called,
but for the calls that failed or made an output of a wrong length and the outputs that were not shown. Its
errors are these and the attempts to save that failed, its snapshots the other attempts, and it keeps as many
latencies as there are frames and room for. The metric of errors counts failed calls and outputs that were not
shown, and those of frames and of latencies the rendered frames. This is what the loop reports, unless it was
overloaded, when the counts are right but are not reported. -/
theorem report_balance {stream : StreamFormat} {c : FrameHandoff}
    (started : FrameHandoff.start stream = .ok c)
    (settings : RenderSettings) (t : FrameTransform σ) (k : FrameSink ρ) (transform : σ) (sink : ρ)
    (schedule : List RenderAction) :
    let e := (start c settings transform sink).run t k schedule
    let metrics := e.handoff.metrics
    let report : RenderReport := ⟨e.counts, e.window.summary⟩
    (∀ id, e.phase ≠ .present id) → e.phase ≠ .ended .panicked →
      (e.isOverloaded = false → e.finalReport = .ok report) ∧
        e.calls = report.counts.framesRendered + e.failedCalls + e.failedPresents ∧
        report.counts.errors = e.failedCalls + e.failedPresents + e.failedSaves ∧
        e.attempts.length = report.counts.snapshots + e.failedSaves ∧
        report.latency.samples = min report.counts.framesRendered (max 1 settings.latencyWindow) ∧
        metrics.value .renderErrors = e.failedCalls + e.failedPresents ∧
        metrics.value .renderFrames = report.counts.framesRendered ∧
        metrics.value .latencies = report.counts.framesRendered := by
  intro e metrics report unshown sane
  have balances : e.BalanceInv (max 1 settings.latencyWindow) :=
    (balanceInv_start started settings transform sink).run (historyInv_start started settings transform sink)
      t k schedule
  have reported (calm : e.isOverloaded = false) : e.finalReport = .ok report := by
    unfold finalReport
    split
    · next panicked => exact absurd panicked sane
    · next o overloaded => simp [isOverloaded, overloaded] at calm
    · rfl
  have settled : e.phase.awaitsShow = false := by
    unfold RenderPhase.awaitsShow
    split
    · next id phase => exact absurd phase (unshown id)
    · next phase => exact absurd phase sane
    · rfl
  have calls_eq := balances.calls_eq
  rw [settled] at calls_eq
  exact ⟨reported, calls_eq, balances.errors_eq, balances.attempts_eq,
    (LatencyWindow.samples_summary _).trans balances.samples_eq, balances.renderErrors_eq,
    balances.renderFrames_eq, balances.latencies_eq⟩

/-- Five frames, with a request for each of them: two calls fail, one output is not shown, and one is not
saved. -/
theorem report_balance_five_frames :
    ∃ c e report, FrameHandoff.start ⟨1, 1, .gray8⟩ = .ok c ∧
      run (FrameTransform.negative.withMishaps [(1, .fails), (2, .writesMore)])
        (FrameSink.memorySink.failingAt [3] [4])
        (start c { freezeAfterSave := ⟨0⟩, latencyWindow := 0 } () {})
        ((List.replicate 5 (.publish [7] :: .send .snapshot :: List.replicate 9 (.step ⟨⟨0⟩, ⟨3⟩⟩))).flatten ++
          .send .shutdown :: List.replicate 9 (.step ⟨⟨0⟩, ⟨3⟩⟩)) = e ∧
      e.phase = .ended .shutdown ∧ e.finalReport = .ok report ∧
      e.calls = 5 ∧ e.failedCalls = 2 ∧ e.failedPresents = 1 ∧ e.attempts.length = 3 ∧ e.failedSaves = 1 ∧
      report.counts = ⟨2, 2, 4⟩ ∧ report.latency.samples = 1 ∧
      e.handoff.metrics.value .renderErrors = 3 := by
  obtain ⟨reported, calls, errors, attempts, samples, renderErrors, -, -⟩ :=
    report_balance (rfl : FrameHandoff.start ⟨1, 1, .gray8⟩ = .ok _)
      { freezeAfterSave := ⟨0⟩, latencyWindow := 0 }
      (FrameTransform.negative.withMishaps [(1, .fails), (2, .writesMore)])
      (FrameSink.memorySink.failingAt [3] [4]) () {}
      ((List.replicate 5 (.publish [7] :: .send .snapshot :: List.replicate 9 (.step ⟨⟨0⟩, ⟨3⟩⟩))).flatten ++
        .send .shutdown :: List.replicate 9 (.step ⟨⟨0⟩, ⟨3⟩⟩)) nofun nofun
  exact ⟨_, _, _, rfl, rfl, rfl, reported rfl, rfl, rfl, rfl, rfl, rfl, rfl, samples, renderErrors⟩

end RenderLoop

end FramePipeline
