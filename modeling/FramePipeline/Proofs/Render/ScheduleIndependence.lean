import FramePipeline.Proofs.Render.Rest
import FramePipeline.Proofs.Render.ScriptedRuns

/-!
# What a script comes to, whatever the schedule

A render loop under the control of a script that waits, after each publication, until the transform was
called for it or the loop has ended. However the steps of the loop come between those of the script, and
whatever the clock shows at each of them, a run that is complete did the same and reports the same: what
the loop does when it comes to rest after each step of the script.

The steps of the loop do not change what it comes to, and a step of the script finds a loop that owes
nothing; so what the loop comes to with the steps of the script that are still to be done, the *outcome*,
is the same all along.

Main definitions: `ControlStep.isPaced`, `RenderReport.tally`, `ScriptedLoop.outcome`,
`ScriptedLoop.Orderly` (the invariant). Main statement: `ScriptedLoop.trace_eq_of_complete`.
-/

namespace FramePipeline

/-- The step waits for what it publishes. -/
def ControlStep.isPaced : ControlStep → Bool
  | publish _ waits => waits
  | _ => true

/-- What is reported, apart from how long things took. -/
def RenderReport.tally (report : RenderReport) : RenderCounts × Nat :=
  (report.counts, report.latency.samples)

/-- What is reported, apart from how long things took. -/
def Rendering.tally {σ ρ : Type} (v : Rendering σ ρ) : Except RenderError (RenderCounts × Nat) :=
  if v.panicked then .error .panicked else .ok (v.counts, v.samples)

namespace RenderLoop

variable {σ ρ : Type} {t : FrameTransform σ} {k : FrameSink ρ} {r : RenderLoop σ ρ} {step : ControlStep}

theorem finalReport_of_overloaded (overloaded : r.isOverloaded = true) :
    r.finalReport = .error .panicked := by
  obtain ⟨o, phase⟩ := isOverloaded_iff.mp overloaded
  rw [finalReport, phase]

theorem tally_finalReport (within : r.isOverloaded = false) :
    r.finalReport.map RenderReport.tally = (r.view.heed r.queue).tally := by
  have panicked : (r.view.heed r.queue).panicked = decide (r.phase = .ended .panicked) := rfl
  unfold finalReport Rendering.tally
  rw [panicked]
  split
  · next phase =>
    rw [phase]
    rfl
  · next o phase => exact absurd phase (isOverloaded_eq_false_iff.mp within o)
  · next other _ =>
    rw [if_neg (by simpa using other)]
    simp [Except.map, RenderReport.tally, view, Rendering.heed]

theorem FirstSaveInv.same_of_prefix {r' : RenderLoop σ ρ} (h : r.FirstSaveInv) (h' : r'.FirstSaveInv)
    (shorter : r.trace <+: r'.trace) (overloaded : r.isOverloaded = true) :
    r.trace = r'.trace ∧
      r.finalReport.map RenderReport.tally = r'.finalReport.map RenderReport.tally := by
  obtain ⟨overloaded', trace⟩ := h.trace_eq h' shorter overloaded
  rw [finalReport_of_overloaded overloaded, finalReport_of_overloaded overloaded']
  exact ⟨trace, rfl⟩

/-! ## Ends -/

/-- What an ended loop did is a rendering, or the beginning of one if the loop broke down. -/
structure Conclusion (r : RenderLoop σ ρ) (v : Rendering σ ρ) : Prop where
  ended : r.hasEnded = true
  whole : r.isOverloaded = false → r.view.heed r.queue = v
  trace_prefix : r.trace <+: v.trace

theorem BrokenOff.conclusion {v : Rendering σ ρ} (h : r.BrokenOff v) : r.Conclusion v where
  ended := h.hasEnded
  whole within := by
    rw [h.isOverloaded] at within
    cases within
  trace_prefix := h.trace_prefix

theorem Orderly.conclusion (h : r.Orderly) (ended : r.hasEnded = true) : r.Conclusion (r.settled t k) := by
  have settled_eq : r.settled t k = r.view.heed r.queue := settled_of_ended h ended
  rw [settled_eq]
  exact ⟨ended, fun _ => rfl, List.prefix_rfl⟩

namespace Conclusion

variable {r' : RenderLoop σ ρ} {v : Rendering σ ρ}

theorem trace_eq (h : r.Conclusion v) (within : r.isOverloaded = false) : r.trace = v.trace :=
  congrArg Rendering.trace (h.whole within)

/-- Two loops that come to the same, one of which did all of it. -/
theorem trace_prefix_of_within (h : r.Conclusion v) (h' : r'.Conclusion v)
    (within : r'.isOverloaded = false) : r.trace <+: r'.trace := by
  rw [h'.trace_eq within]
  exact h.trace_prefix

theorem same_of_within (h : r.Conclusion v) (h' : r'.Conclusion v) (within : r.isOverloaded = false)
    (within' : r'.isOverloaded = false) :
    r.trace = r'.trace ∧
      r.finalReport.map RenderReport.tally = r'.finalReport.map RenderReport.tally := by
  refine ⟨(h.trace_eq within).trans (h'.trace_eq within').symm, ?_⟩
  rw [tally_finalReport within, tally_finalReport within', h.whole within, h'.whole within']

/-- Two loops that come to the same break down alike if they do so at the first output that is saved. -/
theorem same_of_firstSaveInv (h : r.Conclusion v) (h' : r'.Conclusion v) (once : r.FirstSaveInv)
    (once' : r'.FirstSaveInv) :
    r.trace = r'.trace ∧
      r.finalReport.map RenderReport.tally = r'.finalReport.map RenderReport.tally := by
  cases overloaded : r.isOverloaded with
  | false =>
    cases overloaded' : r'.isOverloaded with
    | false => exact h.same_of_within h' overloaded overloaded'
    | true =>
      obtain ⟨trace, report⟩ :=
        once'.same_of_prefix once (h'.trace_prefix_of_within h overloaded) overloaded'
      exact ⟨trace.symm, report.symm⟩
  | true =>
    cases overloaded' : r'.isOverloaded with
    | false => exact once.same_of_prefix once' (h.trace_prefix_of_within h' overloaded') overloaded
    | true =>
      obtain shorter | longer := List.prefix_or_prefix_of_prefix h.trace_prefix h'.trace_prefix
      · exact once.same_of_prefix once' shorter overloaded
      · obtain ⟨trace, report⟩ := once'.same_of_prefix once longer overloaded'
        exact ⟨trace.symm, report.symm⟩

end Conclusion

/-! ## Between the steps of a script -/

/-- The loop owes nothing, and was not told to end. -/
structure Ready (r : RenderLoop σ ρ) : Prop where
  orderly : r.Orderly
  idle : ¬ r.CallDue
  untold : ¬ r.Told

theorem ready_start {stream : StreamFormat} {c : FrameHandoff} (started : FrameHandoff.start stream = .ok c)
    (settings : RenderSettings) (transform : σ) (sink : ρ) :
    (start c settings transform sink).Ready := by
  obtain ⟨sound, plain⟩ := FrameHandoff.start_refines started
  have nothing : c.plain.waiting = none := PlainSession.waiting_of_start plain
  have untold : ¬ (start c settings transform sink).Told := by
    rintro (mem | phase)
    · cases mem
    · cases phase
  refine ⟨⟨sound, nofun, nofun, fun told => absurd told untold, nofun, nofun⟩, ?_, untold⟩
  rintro ⟨-, input | waiting⟩
  · cases input
  · exact waiting nothing

end RenderLoop

/-! ## A loop that rests after each step -/

namespace RenderRun

variable {σ ρ : Type} {t : FrameTransform σ} {k : FrameSink ρ} {r : RenderRun σ ρ}

theorem perform_spec (ready : r.loop.Ready) (step : ControlStep) :
    ((r.perform t k step none).2.loop.Ready ∧
        (r.perform t k step none).2.loop.settled t k = (r.loop.settled t k).control t k step) ∨
      (r.perform t k step none).2.loop.BrokenOff ((r.loop.settled t k).control t k step) := by
  obtain ⟨orderly, untold⟩ := RenderLoop.orderly_control ready.orderly ready.idle ready.untold step
  have settled_eq : (r.loop.control step).settled t k = (r.loop.settled t k).control t k step :=
    RenderLoop.settled_control ready.orderly ready.idle
  rw [perform_eq, ← settled_eq]
  refine (settle_spec (t := t) (k := k) (r := { r with loop := r.loop.control step }) orderly).imp_left ?_
  rintro ⟨continues, atRest⟩
  exact ⟨⟨continues.orderly, atRest.not_callDue continues.orderly, fun told => untold (continues.told told)⟩,
    continues.settled_eq⟩

theorem performAll_spec (ready : r.loop.Ready) (script : List ControlStep) :
    ((r.performAll t k script none).2.loop.Ready ∧
        (r.performAll t k script none).2.loop.settled t k =
          script.foldl (Rendering.control t k) (r.loop.settled t k)) ∨
      (r.performAll t k script none).2.loop.BrokenOff
        (script.foldl (Rendering.control t k) (r.loop.settled t k)) := by
  induction script generalizing r with
  | nil => exact .inl ⟨ready, rfl⟩
  | cons step rest ih =>
    rw [List.foldl_cons]
    obtain ⟨ready', settled_eq⟩ | breaksOff := perform_spec (t := t) (k := k) ready step
    · rw [← settled_eq]
      exact ih ready'
    · have later : ((r.perform t k step none).2.performAll t k rest none).2.loop.BrokenOff _ :=
        (progress_performAll _ rest).brokenOff breaksOff
      exact .inr (later.mono (Rendering.trace_prefix_foldl t k _ rest))

theorem stop_spec (ready : r.loop.Ready) : (r.stop t k none).loop.Conclusion (r.loop.settled t k) := by
  have orderly := RenderLoop.orderly_shutdown ready.orderly ready.idle
  have settled_eq := RenderLoop.settled_shutdown (t := t) (k := k) ready.idle
  rw [← settled_eq]
  obtain ⟨continues, atRest⟩ | breaksOff := settle_spec (t := t) (k := k)
    (r := { r with loop := r.loop.send .shutdown }) orderly
  · rw [← continues.settled_eq]
    refine continues.orderly.conclusion ?_
    have sent : .shutdown ∈ (r.loop.send .shutdown).queue := by simp [RenderLoop.send]
    obtain mem | ended := continues.ends (.inl sent)
    · obtain ended | ⟨-, empty, -⟩ := atRest
      · exact ended
      · rw [empty] at mem
        cases mem
    · exact ended
  · exact breaksOff.conclusion

/-- What the loop comes to that rests after each step of a script. -/
theorem conclusion_stop (ready : r.loop.Ready) (script : List ControlStep) :
    ((r.performAll t k script none).2.stop t k none).loop.Conclusion
      (script.foldl (Rendering.control t k) (r.loop.settled t k)) := by
  obtain ⟨ready', settled_eq⟩ | breaksOff := performAll_spec (t := t) (k := k) ready script
  · rw [← settled_eq]
    exact stop_spec ready'
  · exact ((progress_stop _).brokenOff breaksOff).conclusion

end RenderRun

/-! ## Schedules -/

namespace ScriptedLoop

variable {σ ρ : Type} {t : FrameTransform σ} {k : FrameSink ρ} {s s' : ScriptedLoop σ ρ}

/-- What holds between two moves. -/
structure Orderly (s : ScriptedLoop σ ρ) : Prop where
  loop : s.loop.Orderly
  /-- The script waits for the call that the loop owes. -/
  awaits : s.loop.CallDue → s.awaiting = some (s.loop.calls + 1)
  told : s.loop.Told → s.told = true
  done : s.told = true → s.script = [] ∧ s.awaiting = none
  paced : s.script.all ControlStep.isPaced = true

/-- What the loop comes to with the steps of the script that are still to be done. -/
def outcome (t : FrameTransform σ) (k : FrameSink ρ) (s : ScriptedLoop σ ρ) : Rendering σ ρ :=
  s.script.foldl (Rendering.control t k) (s.loop.settled t k)

theorem script_perform (s : ScriptedLoop σ ρ) (step : ControlStep) :
    (s.perform step).script = s.script := by
  cases step with
  | publish bytes waits =>
    unfold perform
    dsimp only
    split <;> rfl
  | _ => rfl

theorem told_perform (s : ScriptedLoop σ ρ) (step : ControlStep) :
    (s.perform step).told = s.told := by
  cases step with
  | publish bytes waits =>
    unfold perform
    dsimp only
    split <;> rfl
  | _ => rfl

theorem Orderly.ready (h : s.Orderly) (free : s.awaiting = none) (untold : s.told = false) :
    s.loop.Ready where
  orderly := h.loop
  idle owes := by
    have awaits := h.awaits owes
    rw [free] at awaits
    cases awaits
  untold told := by
    have told := h.told told
    rw [untold] at told
    cases told

theorem move_loop (h : s.Orderly) (clock : Reading) :
    (({ s with loop := s.loop.step t k clock } : ScriptedLoop σ ρ).Orderly ∧
        ({ s with loop := s.loop.step t k clock } : ScriptedLoop σ ρ).outcome t k = s.outcome t k) ∨
      (s.loop.step t k clock).BrokenOff (s.outcome t k) := by
  obtain continues | breaksOff := RenderLoop.continuation_step h.loop t k clock
  · refine .inl ⟨⟨continues.orderly, fun owes => ?_, fun told => h.told (continues.told told), h.done,
      h.paced⟩, ?_⟩
    · obtain ⟨owed, calls⟩ := continues.owes owes
      show s.awaiting = some ((s.loop.step t k clock).calls + 1)
      rw [calls]
      exact h.awaits owed
    · exact congrArg (s.script.foldl (Rendering.control t k)) continues.settled_eq
  · exact .inr (breaksOff.mono (Rendering.trace_prefix_foldl t k _ s.script))

/-- The script gets what it waited for. -/
theorem move_release (h : s.Orderly) {n : Nat} (awaiting : s.awaiting = some n)
    (came : n ≤ s.loop.calls ∨ s.loop.hasEnded = true) :
    ({ s with awaiting := none } : ScriptedLoop σ ρ).Orderly := by
  refine ⟨h.loop, fun owes => ?_, h.told, fun told => ⟨(h.done told).1, rfl⟩, h.paced⟩
  obtain came | ended := came
  · have awaits := h.awaits owes
    rw [awaiting] at awaits
    have eq : n = s.loop.calls + 1 := Option.some.inj awaits
    omega
  · exact absurd owes (h.loop.ended_idle ended)

/-- A published frame is waited for. -/
theorem awaiting_perform {bytes : Bytes} {n : Nat} (published : (s.loop.handoff.publish bytes).1 = .ok n) :
    (s.perform (.publish bytes true)).awaiting = some (s.loop.calls + 1) := by
  unfold perform
  dsimp only
  split
  · next e handoff eq =>
    rw [eq] at published
    cases published
  · rfl

/-- The script takes a step. -/
theorem move_step (h : s.Orderly) {step : ControlStep} {rest : List ControlStep}
    (awaiting : s.awaiting = none) (script : s.script = step :: rest) :
    (({ s with script := rest } : ScriptedLoop σ ρ).perform step).Orderly ∧
      (({ s with script := rest } : ScriptedLoop σ ρ).perform step).outcome t k = s.outcome t k := by
  have untold : s.told = false := by
    cases told : s.told with
    | false => rfl
    | true =>
      have done := (h.done told).1
      rw [script] at done
      cases done
  have ready := h.ready awaiting untold
  obtain ⟨orderly, untold'⟩ := RenderLoop.orderly_control ready.orderly ready.idle ready.untold step
  have paced : step.isPaced = true ∧ rest.all ControlStep.isPaced = true := by
    have paced := h.paced
    rwa [script, List.all_cons, Bool.and_eq_true] at paced
  constructor
  · exact {
      loop := by
        rw [loop_perform]
        exact orderly
      awaits := fun owes => by
        rw [loop_perform] at owes
        obtain ⟨bytes, waits, n, rfl, published⟩ :=
          RenderLoop.published_of_callDue ready.orderly ready.idle owes
        obtain rfl : waits = true := paced.1
        rw [loop_perform]
        exact awaiting_perform published
      told := fun told => by
        rw [loop_perform] at told
        exact absurd told untold'
      done := fun told => by
        rw [told_perform] at told
        exact absurd (untold.symm.trans told) Bool.false_ne_true
      paced := by
        rw [script_perform]
        exact paced.2 }
  · unfold outcome
    rw [script_perform, loop_perform, RenderLoop.settled_control ready.orderly ready.idle, script]
    rfl

/-- The script is done and tells the loop to end. -/
theorem move_tell (h : s.Orderly) (awaiting : s.awaiting = none) (script : s.script = [])
    (untold : s.told = false) :
    ({ s with told := true, loop := s.loop.send .shutdown } : ScriptedLoop σ ρ).Orderly ∧
      ({ s with told := true, loop := s.loop.send .shutdown } : ScriptedLoop σ ρ).outcome t k =
        s.outcome t k := by
  have ready := h.ready awaiting untold
  refine ⟨⟨RenderLoop.orderly_shutdown ready.orderly ready.idle, fun owes => absurd owes ready.idle,
    fun _ => rfl, fun _ => ⟨script, awaiting⟩, h.paced⟩, ?_⟩
  exact congrArg (s.script.foldl (Rendering.control t k)) (RenderLoop.settled_shutdown ready.idle)

/-- A move keeps the invariant and does not change the outcome, unless the loop breaks down on its way. -/
theorem move_spec (h : s.Orderly) {m : Move} (moved : s.move? t k m = some s') :
    (s'.Orderly ∧ s'.outcome t k = s.outcome t k) ∨ s'.loop.BrokenOff (s.outcome t k) := by
  cases m with
  | loop clock =>
    obtain rfl := Option.some.inj moved
    exact move_loop h clock
  | script =>
    unfold move? goOn? at moved
    dsimp only at moved
    split at moved
    · next n awaiting =>
      split at moved
      · next came =>
        obtain rfl := Option.some.inj moved
        exact .inl ⟨move_release h awaiting came, rfl⟩
      · cases moved
    · next step rest awaiting script =>
      obtain rfl := Option.some.inj moved
      exact .inl (move_step h awaiting script)
    · next awaiting script =>
      split at moved
      · cases moved
      · next untold =>
        obtain rfl := Option.some.inj moved
        exact .inl (move_tell h awaiting script (by simpa using untold))

theorem run_spec {schedule : List Move} (h : s.Orderly) (ran : s.run? t k schedule = some s') :
    (s'.Orderly ∧ s'.outcome t k = s.outcome t k) ∨ s'.loop.BrokenOff (s.outcome t k) := by
  induction schedule generalizing s with
  | nil =>
    obtain rfl := Option.some.inj ran
    exact .inl ⟨h, rfl⟩
  | cons m rest ih =>
    unfold run? at ran
    rw [List.foldlM_cons] at ran
    obtain ⟨s₁, moved, others⟩ := Option.bind_eq_some_iff.mp ran
    obtain ⟨h₁, eq₁⟩ | breaksOff := move_spec h moved
    · rw [← eq₁]
      exact ih h₁ others
    · obtain ⟨actions, loop, -⟩ := exists_run_of_run? others
      rw [loop]
      exact .inr (breaksOff.run t k actions)

/-- What the loop of a complete run comes to. -/
theorem conclusion_of_complete (h : s.Orderly) {schedule : List Move}
    (ran : s.run? t k schedule = some s') (complete : s'.isComplete = true) :
    s'.loop.Conclusion (s.outcome t k) := by
  obtain ⟨told, ended⟩ : s'.told = true ∧ s'.loop.hasEnded = true := by
    simpa [isComplete] using complete
  obtain ⟨orderly, outcome_eq⟩ | breaksOff := run_spec h ran
  · have done : s'.outcome t k = s'.loop.settled t k := by
      unfold outcome
      rw [(orderly.done told).1]
      rfl
    rw [← outcome_eq, done]
    exact orderly.loop.conclusion ended
  · exact breaksOff.conclusion

/-- **The schedule does not matter.** A complete run of a script that waits for what it publishes did the
same and reports the same, under every schedule, as the loop that comes to rest after each step of the
script, provided that neither broke down because the output was to be frozen until a time that the clock
cannot show. If one of them broke down, it did a part of what the other one did. Neither breaks down if the
clock has room for the period of a freeze at all times that it shows; and where it never has, both break down
at the first output that is saved. -/
theorem trace_eq_of_complete {stream : StreamFormat} {c : FrameHandoff}
    (started : FrameHandoff.start stream = .ok c)
    (settings : RenderSettings) (transform : σ) (sink : ρ) {script : List ControlStep}
    (paced : script.all ControlStep.isPaced = true) {schedule : List Move} {e : ScriptedLoop σ ρ}
    (ran : run? t k { loop := .start c settings transform sink, script } schedule = some e)
    (complete : e.isComplete = true) (now : Duration) :
    let alone := ({ loop := .start c settings transform sink, now } : RenderRun σ ρ)
    let last := (alone.performAll t k script none).2.stop t k none
    let same := e.loop.trace = last.loop.trace ∧
      e.loop.finalReport.map RenderReport.tally = last.loop.finalReport.map RenderReport.tally
    let period := settings.freezeAfterSave
    last.loop.hasEnded = true ∧
      (e.loop.isOverloaded = false → last.loop.isOverloaded = false → same) ∧
      (last.loop.isOverloaded = false → e.loop.trace <+: last.loop.trace) ∧
      (e.loop.isOverloaded = false → last.loop.trace <+: e.loop.trace) ∧
      (e.loop.trace <+: last.loop.trace ∨ last.loop.trace <+: e.loop.trace) ∧
      ((∀ clock, .loop clock ∈ schedule → clock.now.nanos + period.nanos < Clock.limit) →
        e.loop.isOverloaded = false) ∧
      (last.now.nanos + period.nanos < Clock.limit → last.loop.isOverloaded = false) ∧
      (Clock.limit ≤ period.nanos → same) := by
  intro alone last same period
  have ready : alone.loop.Ready := RenderLoop.ready_start started settings transform sink
  have orderly : ({ loop := .start c settings transform sink, script } : ScriptedLoop σ ρ).Orderly :=
    { loop := ready.orderly
      awaits := fun owes => absurd owes ready.idle
      told := fun told => absurd told ready.untold
      done := nofun
      paced }
  have scheduled : e.loop.Conclusion _ := conclusion_of_complete orderly ran complete
  have stepwise : last.loop.Conclusion _ := RenderRun.conclusion_stop ready script
  -- Both are runs of the loop, at times that the schedule shows or that are past in the end.
  have history := RenderLoop.historyInv_start started settings transform sink
  have once := RenderLoop.firstSaveInv_start c settings transform sink
  obtain ⟨actions, loop_eq, steps⟩ := exists_run_of_run? ran
  obtain ⟨actions', loop_eq', past⟩ :=
    ((RenderRun.progress_performAll alone script).trans (RenderRun.progress_stop _)).run
  have loop_eq' : last.loop = (RenderLoop.start c settings transform sink).run t k actions' := loop_eq'
  refine ⟨stepwise.ended, scheduled.same_of_within stepwise, scheduled.trace_prefix_of_within stepwise,
    stepwise.trace_prefix_of_within scheduled,
    List.prefix_or_prefix_of_prefix scheduled.trace_prefix stepwise.trace_prefix, fun room => ?_,
    fun room => ?_, fun long => ?_⟩
  · rw [← Bool.not_eq_true, loop_eq]
    intro overloaded
    obtain ⟨clock, o, mem, beyond⟩ := RenderLoop.exists_reading_of_overloaded history rfl overloaded
    exact absurd (room clock (steps clock mem)) (Nat.not_lt.mpr (Clock.after_eq_error_iff.mp beyond).1)
  · rw [← Bool.not_eq_true, loop_eq']
    intro overloaded
    obtain ⟨clock, o, mem, beyond⟩ := RenderLoop.exists_reading_of_overloaded history rfl overloaded
    have late : clock.now.nanos ≤ last.now.nanos := past clock mem
    have limit : Clock.limit ≤ clock.now.nanos + period.nanos := (Clock.after_eq_error_iff.mp beyond).1
    omega
  · refine scheduled.same_of_firstSaveInv stepwise ?_ ?_
    · rw [loop_eq]
      exact once.run history long actions
    · rw [loop_eq']
      exact once.run history long actions'

/-- A script asks for a snapshot while the loop looks at the clock, closes the session while the loop shows
the frame, and tells it to end while it saves it. -/
theorem trace_eq_of_complete_snapshot :
    ∃ c e, FrameHandoff.start ⟨1, 1, .gray8⟩ = .ok c ∧
      run? .negative .memorySink
        { loop := .start c {} () {}, script := [.requestSnapshot, .publish [5] true, .close] }
        [.loop ⟨⟨0⟩, ⟨0⟩⟩, .script, .loop ⟨⟨0⟩, ⟨0⟩⟩, .script, .loop ⟨⟨0⟩, ⟨0⟩⟩, .loop ⟨⟨0⟩, ⟨0⟩⟩,
          .loop ⟨⟨0⟩, ⟨0⟩⟩, .loop ⟨⟨0⟩, ⟨0⟩⟩, .script, .script, .loop ⟨⟨0⟩, ⟨7⟩⟩, .script,
          .loop ⟨⟨1⟩, ⟨0⟩⟩, .loop ⟨⟨2⟩, ⟨0⟩⟩] = some e ∧
      e.isComplete = true ∧ e.loop.counts = ⟨1, 1, 0⟩ ∧
      let alone : RenderRun Unit Recorded := { loop := .start c {} () {} }
      e.loop.trace = ((alone.performAll .negative .memorySink
        [.requestSnapshot, .publish [5] true, .close] none).2.stop .negative .memorySink
          none).loop.trace := by
  obtain ⟨c, started, e, ran, complete, counts, within, within'⟩ :
      ∃ c, FrameHandoff.start ⟨1, 1, .gray8⟩ = .ok c ∧ ∃ e, run? .negative .memorySink
        { loop := .start c {} () {}, script := [.requestSnapshot, .publish [5] true, .close] }
        [.loop ⟨⟨0⟩, ⟨0⟩⟩, .script, .loop ⟨⟨0⟩, ⟨0⟩⟩, .script, .loop ⟨⟨0⟩, ⟨0⟩⟩, .loop ⟨⟨0⟩, ⟨0⟩⟩,
          .loop ⟨⟨0⟩, ⟨0⟩⟩, .loop ⟨⟨0⟩, ⟨0⟩⟩, .script, .script, .loop ⟨⟨0⟩, ⟨7⟩⟩, .script,
          .loop ⟨⟨1⟩, ⟨0⟩⟩, .loop ⟨⟨2⟩, ⟨0⟩⟩] = some e ∧ e.isComplete = true ∧
      e.loop.counts = ⟨1, 1, 0⟩ ∧ e.loop.isOverloaded = false ∧
      let alone : RenderRun Unit Recorded := { loop := .start c {} () {} }
      ((alone.performAll .negative .memorySink
        [.requestSnapshot, .publish [5] true, .close] none).2.stop .negative .memorySink
          none).loop.isOverloaded = false :=
    ⟨_, rfl, _, rfl, rfl, rfl, rfl, rfl⟩
  refine ⟨c, e, started, ran, complete, counts, ?_⟩
  have independent := trace_eq_of_complete started {} () {} rfl ran complete ⟨0⟩
  exact (independent.2.1 within within').1

/-- The output is to be frozen for one nanosecond less than the clock can show. A loop that saves at time 0
ends when it is told to; at time 1 it breaks down, with the same script. -/
theorem trace_ne_of_overflow :
    ∃ c e e', FrameHandoff.start ⟨1, 1, .gray8⟩ = .ok c ∧
      let s : ScriptedLoop Unit Recorded :=
        { loop := .start c { freezeAfterSave := ⟨Clock.limit - 1⟩ } () {}
          script := [.requestSnapshot, .publish [5] true] }
      let upTo (now : Nat) : List Move :=
        .script :: .script :: List.replicate 6 (.loop ⟨⟨0⟩, ⟨0⟩⟩) ++
          [.script, .script, .loop ⟨⟨0⟩, ⟨0⟩⟩, .loop ⟨⟨now⟩, ⟨0⟩⟩, .loop ⟨⟨now⟩, ⟨0⟩⟩]
      s.script.all ControlStep.isPaced = true ∧
      s.run? .negative .memorySink (upTo 0) = some e ∧ e.isComplete = true ∧
      s.run? .negative .memorySink (upTo 1) = some e' ∧ e'.isComplete = true ∧
      e.loop.finalReport.map RenderReport.tally = .ok (⟨1, 1, 0⟩, 1) ∧
      e'.loop.finalReport.map RenderReport.tally = .error .panicked := by
  exact ⟨_, _, _, rfl, rfl, rfl, rfl, rfl, rfl, rfl, rfl⟩

end ScriptedLoop

end FramePipeline
