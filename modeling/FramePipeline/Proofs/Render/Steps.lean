import FramePipeline.Proofs.Handoff.SessionCounters
import FramePipeline.Proofs.Handoff.SessionRefinement
import FramePipeline.Render.Loop

/-!
# Steps of the render loop

All that a step of a render loop can do, in one place, for loops whose buffers are accounted for: the
loop refers to the buffer of the frame at hand and to no other, so there is a frame at hand whenever a
step needs one. Properties of steps are proved from this by cases.

Main definition: `RenderLoop.StepRel`. Main statement: `RenderLoop.stepRel_step`.
-/

namespace FramePipeline.RenderLoop

variable {σ ρ : Type} {t : FrameTransform σ} {k : FrameSink ρ} {clock : Reading} {r r' : RenderLoop σ ρ}

/-- The buffers of the session and the one at hand are all that is referred to. -/
def Sound (r : RenderLoop σ ρ) : Prop :=
  r.handoff.Sound r.phase.atHand?.toList

/-- What a step does. -/
inductive StepRel (t : FrameTransform σ) (k : FrameSink ρ) (clock : Reading) (r : RenderLoop σ ρ) :
    RenderLoop σ ρ → Prop
  | readNothing (phase : r.phase = .drain) (empty : r.queue = []) :
      StepRel t k clock r { r with phase := .thaw }
  | readNothingWith {id : CellId} (phase : r.phase = .drainWith id) (empty : r.queue = []) :
      StepRel t k clock r { r with phase := .apply id }
  | readSnapshot {queue : List Command} (reads : r.phase = .drain ∨ ∃ id, r.phase = .drainWith id)
      (first : r.queue = .snapshot :: queue) :
      StepRel t k clock r { r with queue, pendingSave := true }
  | readShutdown {queue : List Command} (phase : r.phase = .drain)
      (first : r.queue = .shutdown :: queue) :
      StepRel t k clock r { r with queue, phase := .ended .shutdown }
  | readShutdownWith {id : CellId} {queue : List Command} (phase : r.phase = .drainWith id)
      (first : r.queue = .shutdown :: queue) :
      StepRel t k clock r
        { r with queue, phase := .ended .shutdown, handoff := r.handoff.release id }
  | notFrozen (phase : r.phase = .thaw) (free : r.frozenUntil = none) :
      StepRel t k clock r { r with phase := .take }
  | frozen {thaw : Duration} (phase : r.phase = .thaw) (until_eq : r.frozenUntil = some thaw)
      (early : clock.now.nanos < thaw.nanos) : StepRel t k clock r { r with phase := .drain }
  | thawed {thaw : Duration} (phase : r.phase = .thaw) (until_eq : r.frozenUntil = some thaw)
      (late : thaw.nanos ≤ clock.now.nanos) :
      StepRel t k clock r { r with frozenUntil := none, phase := .take }
  | tookNothing (phase : r.phase = .take) (taken : r.handoff.plain.tryTake = (.ok none, r.handoff.plain)) :
      StepRel t k clock r { r with phase := .drain }
  | foundClosed (phase : r.phase = .take) (closed : r.handoff.session.closed = true) :
      StepRel t k clock r { r with phase := .ended .sessionClosed }
  | took {id : CellId} {f : Frame} {handoff : FrameHandoff} (phase : r.phase = .take)
      (taken : r.handoff.plain.tryTake = (.ok (some f), handoff.plain))
      (frame : handoff.frame? id = some f) (sound : handoff.Sound [id])
      (same : ∀ other, handoff.frame? other = r.handoff.frame? other)
      (metrics : handoff.metrics = r.handoff.metrics) :
      StepRel t k clock r { r with handoff, phase := .drainWith id }
  | panicked {id : CellId} {f : Frame} {transform : σ} (phase : r.phase = .apply id)
      (frame : r.handoff.frame? id = some f)
      (applied : t.apply f r.modes [] r.transform = (.panicked, transform)) :
      StepRel t k clock r
        { r with
          scratch := []
          transform
          trace := r.trace ++ [.applied f r.modes [] .panicked]
          phase := .ended .panicked
          handoff := r.handoff.release id }
  | failed {id : CellId} {f : Frame} {result : Applied} {out : Bytes} {transform : σ}
      (phase : r.phase = .apply id) (frame : r.handoff.frame? id = some f)
      (applied : t.apply f r.modes [] r.transform = (result, transform))
      (fault : (∃ e, result = .failed e out) ∨ result = .done out ∧ out.length ≠ f.data.length) :
      StepRel t k clock r
        { r with
          scratch := out
          transform
          trace := r.trace ++ [.applied f r.modes [] result]
          counts.errors := r.counts.errors + 1
          phase := .drain
          handoff := { r.handoff with
            metrics := r.handoff.metrics.count .renderErrors }.release id }
  | transformed {id : CellId} {f : Frame} {out : Bytes} {transform : σ} (phase : r.phase = .apply id)
      (frame : r.handoff.frame? id = some f)
      (applied : t.apply f r.modes [] r.transform = (.done out, transform))
      (fits : out.length = f.data.length) :
      StepRel t k clock r
        { r with
          scratch := out
          transform
          trace := r.trace ++ [.applied f r.modes [] (.done out)]
          phase := .present id }
  | presentFailed {id : CellId} {f : Frame} {e : RenderError} {sink : ρ} (phase : r.phase = .present id)
      (frame : r.handoff.frame? id = some f)
      (presented : k.present (r.output f) r.sink = (.error e, sink)) :
      StepRel t k clock r
        { r with
          sink
          trace := r.trace ++ [.presented (r.output f) false]
          counts.errors := r.counts.errors + 1
          phase := .save id
          handoff.metrics := r.handoff.metrics.count .renderErrors }
  | presented {id : CellId} {f : Frame} {sink : ρ} (phase : r.phase = .present id)
      (frame : r.handoff.frame? id = some f)
      (presented : k.present (r.output f) r.sink = (.ok (), sink)) :
      StepRel t k clock r
        { r with
          sink
          trace := r.trace ++ [.presented (r.output f) true]
          counts.framesRendered := r.counts.framesRendered + 1
          window := r.window.record clock.latency
          phase := .save id
          handoff.metrics := (r.handoff.metrics.count .renderFrames).count .latencies }
  | notSaved {id : CellId} (phase : r.phase = .save id) (unasked : r.pendingSave = false) :
      StepRel t k clock r { r with phase := .drain, handoff := r.handoff.release id }
  | saveFailed {id : CellId} {f : Frame} {e : RenderError} {sink : ρ} (phase : r.phase = .save id)
      (frame : r.handoff.frame? id = some f) (asked : r.pendingSave = true)
      (saved : k.save (r.output f) r.sink = (.error e, sink)) :
      StepRel t k clock r
        { r with
          sink
          pendingSave := false
          trace := r.trace ++ [.saved (r.output f) false]
          counts.errors := r.counts.errors + 1
          phase := .drain
          handoff := r.handoff.release id }
  | saved {id : CellId} {f : Frame} {sink : ρ} {frozenUntil : Option Duration} (phase : r.phase = .save id)
      (frame : r.handoff.frame? id = some f) (asked : r.pendingSave = true)
      (saved : k.save (r.output f) r.sink = (.ok (), sink))
      (freezes : r.settings.freezeAfterSave.nanos = 0 ∧ frozenUntil = r.frozenUntil ∨
        r.settings.freezeAfterSave.nanos ≠ 0 ∧
          ∃ thaw, Clock.after clock.now r.settings.freezeAfterSave = .ok thaw ∧ frozenUntil = some thaw) :
      StepRel t k clock r
        { r with
          sink
          pendingSave := false
          trace := r.trace ++ [.saved (r.output f) true]
          counts.snapshots := r.counts.snapshots + 1
          frozenUntil
          phase := .drain
          handoff := r.handoff.release id }
  | overloaded {id : CellId} {f : Frame} {sink : ρ} {o : Overload} (phase : r.phase = .save id)
      (frame : r.handoff.frame? id = some f) (asked : r.pendingSave = true)
      (saved : k.save (r.output f) r.sink = (.ok (), sink))
      (period : r.settings.freezeAfterSave.nanos ≠ 0)
      (beyond : Clock.after clock.now r.settings.freezeAfterSave = .error o) :
      StepRel t k clock r
        { r with
          sink
          pendingSave := false
          trace := r.trace ++ [.saved (r.output f) true]
          counts.snapshots := r.counts.snapshots + 1
          phase := .ended (.overloaded o)
          handoff := r.handoff.release id }
  | ended {why : RenderEnd} (phase : r.phase = .ended why) : StepRel t k clock r r

theorem Sound.exists_frame (sound : r.Sound) {id : CellId} (held : r.phase.atHand? = some id) :
    ∃ f, r.handoff.frame? id = some f := by
  unfold Sound at sound
  rw [held] at sound
  exact sound.owned.exists_frame (List.mem_append_right _ (List.mem_singleton_self id))

/-! ## Buffers -/

/-- The loop goes on with the frame at hand, or without one. -/
theorem Sound.keep (sound : r.Sound) {metrics : Metrics} (same : r'.phase.atHand? = r.phase.atHand?)
    (handoff : r'.handoff = { r.handoff with metrics }) : r'.Sound := by
  unfold Sound at sound ⊢
  rw [same, handoff]
  exact sound.with_metrics metrics

/-- The loop gives the frame at hand back. -/
theorem Sound.giveBack (sound : r.Sound) {id : CellId} {metrics : Metrics}
    (held : r.phase.atHand? = some id) (free : r'.phase.atHand? = none)
    (handoff : r'.handoff = { r.handoff with metrics }.release id) : r'.Sound := by
  unfold Sound at sound ⊢
  rw [held] at sound
  rw [free, handoff]
  exact (FrameHandoff.release_refines (sound.with_metrics metrics)).2.1

/-- What a step does to the handoff: a frame is taken, the frame at hand is given back, or no more than
the metrics change. -/
theorem StepRel.handoff_cases (s : StepRel t k clock r r') :
    (∃ id f, r.phase = .take ∧ r'.phase = .drainWith id ∧
        r.handoff.plain.tryTake = (.ok (some f), r'.handoff.plain) ∧ r'.handoff.frame? id = some f ∧
        r'.handoff.Sound [id] ∧ ∀ other, r'.handoff.frame? other = r.handoff.frame? other) ∨
      (∃ id metrics, r.phase.atHand? = some id ∧ r'.phase.atHand? = none ∧
        r'.handoff = { r.handoff with metrics }.release id) ∨
      ∃ metrics, r'.phase.atHand? = r.phase.atHand? ∧ r'.handoff = { r.handoff with metrics } := by
  cases s with
  | took phase taken frame sound same => exact .inl ⟨_, _, phase, rfl, taken, frame, sound, same⟩
  | readShutdownWith phase | panicked phase | failed phase | notSaved phase | saveFailed phase
  | saved phase | overloaded phase =>
    exact .inr (.inl ⟨_, _, by rw [phase]; rfl, rfl, rfl⟩)
  | readSnapshot | ended => exact .inr (.inr ⟨_, rfl, rfl⟩)
  | readNothing phase | readNothingWith phase | readShutdown phase | notFrozen phase | frozen phase
  | thawed phase | tookNothing phase | foundClosed phase | transformed phase | presentFailed phase
  | presented phase =>
    exact .inr (.inr ⟨_, by rw [phase]; rfl, rfl⟩)

theorem StepRel.sound (s : StepRel t k clock r r') (sound : r.Sound) : r'.Sound := by
  obtain ⟨id, f, -, phase, -, -, sound', -⟩ | ⟨id, metrics, held, free, handoff⟩ |
    ⟨metrics, same, handoff⟩ := s.handoff_cases
  · unfold Sound
    rw [phase]
    exact sound'
  · exact sound.giveBack held free handoff
  · exact sound.keep same handoff

/-- A step changes no frame. -/
theorem StepRel.frame?_eq (s : StepRel t k clock r r') (id : CellId) :
    r'.handoff.frame? id = r.handoff.frame? id := by
  obtain ⟨-, -, -, -, -, -, -, same⟩ | ⟨other, metrics, -, -, handoff⟩ | ⟨metrics, -, handoff⟩ :=
    s.handoff_cases
  · exact same id
  · rw [handoff]
    exact Pool.frame?_release ..
  · rw [handoff]
    rfl

/-- Only a take changes what the session stands for. -/
theorem StepRel.plain_eq (s : StepRel t k clock r r') (other : r.phase ≠ .take) :
    r'.handoff.plain = r.handoff.plain := by
  obtain ⟨-, -, phase, -⟩ | ⟨id, metrics, -, -, handoff⟩ | ⟨metrics, -, handoff⟩ := s.handoff_cases
  · exact absurd phase other
  · rw [handoff, FrameHandoff.plain_release, FrameHandoff.plain_with_metrics]
  · rw [handoff, FrameHandoff.plain_with_metrics]

/-- A step does not change the stream. -/
theorem StepRel.stream_eq (s : StepRel t k clock r r') :
    r'.handoff.session.stream = r.handoff.session.stream := by
  obtain ⟨-, f, -, -, taken, -⟩ | ⟨id, metrics, -, -, handoff⟩ | ⟨metrics, -, handoff⟩ := s.handoff_cases
  · have stream := PlainSession.stream_take r.handoff.plain
    rw [taken] at stream
    exact stream
  · rw [handoff]
    rfl
  · rw [handoff]

/-! ## All steps -/

theorem stepRel_take (sound : r.Sound) (phase : r.phase = .take) : StepRel t k clock r r.takeFrame := by
  unfold Sound at sound
  rw [phase] at sound
  unfold takeFrame
  obtain ⟨closed, taken, -⟩ | ⟨taken, plain⟩ | ⟨id, f, handoff, taken, plain, frame, sound', same⟩ :=
    FrameHandoff.tryTake_cases sound
  · rw [taken]
    simp only [goTo, phase, RenderPhase.atHand?]
    exact .foundClosed phase closed
  · rw [taken]
    simp only [goTo, phase, RenderPhase.atHand?]
    exact .tookNothing phase plain
  · have metrics := r.handoff.metrics_tryTake
    rw [taken] at metrics ⊢
    simp only [goTo, phase, RenderPhase.atHand?]
    exact .took phase plain frame sound' same metrics

theorem stepRel_drain (phase : r.phase = .drain) : StepRel t k clock r (r.drainCommands .thaw) := by
  unfold drainCommands
  split
  · next empty =>
    simp only [goTo, phase, RenderPhase.atHand?]
    exact .readNothing phase empty
  · next queue first => exact .readSnapshot (.inl phase) first
  · next queue first =>
    simp only [goTo, phase, RenderPhase.atHand?]
    exact .readShutdown phase first

theorem stepRel_drainWith {id : CellId} (phase : r.phase = .drainWith id) :
    StepRel t k clock r (r.drainCommands (.apply id)) := by
  unfold drainCommands
  split
  · next empty =>
    simp only [goTo, phase, RenderPhase.atHand?]
    exact .readNothingWith phase empty
  · next queue first => exact .readSnapshot (.inr ⟨id, phase⟩) first
  · next queue first =>
    simp only [goTo, phase, RenderPhase.atHand?]
    exact .readShutdownWith phase first

theorem stepRel_thaw (phase : r.phase = .thaw) : StepRel t k clock r (r.checkFrozenUntil clock.now) := by
  unfold checkFrozenUntil
  split
  · next free =>
    simp only [goTo, phase, RenderPhase.atHand?]
    exact .notFrozen phase free
  · next thaw until_eq =>
    split
    · next early =>
      simp only [goTo, phase, RenderPhase.atHand?]
      exact .frozen phase until_eq early
    · next late =>
      simp only [goTo, phase, RenderPhase.atHand?]
      exact .thawed phase until_eq (Nat.le_of_not_lt late)

theorem stepRel_apply {id : CellId} {f : Frame} (phase : r.phase = .apply id)
    (frame : r.handoff.frame? id = some f) : StepRel t k clock r (r.applyTransform t id f) := by
  obtain ⟨⟨result, transform⟩, applied⟩ : ∃ p, t.apply f r.modes [] r.transform = p := ⟨_, rfl⟩
  simp only [applyTransform, applied]
  cases result with
  | panicked =>
    simp only [goTo, note, phase, RenderPhase.atHand?]
    exact .panicked phase frame applied
  | failed e out =>
    simp only [goTo, note, countFailure, phase, RenderPhase.atHand?]
    exact .failed phase frame applied (.inl ⟨e, rfl⟩)
  | done out =>
    dsimp only
    split
    · next fits =>
      simp only [goTo, note, phase, RenderPhase.atHand?]
      exact .transformed phase frame applied fits
    · next differs =>
      simp only [goTo, note, countFailure, phase, RenderPhase.atHand?]
      exact .failed phase frame applied (.inr ⟨rfl, differs⟩)

theorem stepRel_present {id : CellId} {f : Frame} (phase : r.phase = .present id)
    (frame : r.handoff.frame? id = some f) :
    StepRel t k clock r (r.presentOutput k clock.latency id (r.output f)) := by
  obtain ⟨⟨result, sink⟩, presented⟩ : ∃ p, k.present (r.output f) r.sink = p := ⟨_, rfl⟩
  simp only [presentOutput, presented]
  cases result with
  | error e =>
    simp only [goTo, note, countFailure, phase, RenderPhase.atHand?]
    exact .presentFailed phase frame presented
  | ok _ =>
    simp only [goTo, note, phase, RenderPhase.atHand?]
    exact .presented phase frame presented

theorem stepRel_save {id : CellId} {f : Frame} (phase : r.phase = .save id)
    (frame : r.handoff.frame? id = some f) :
    StepRel t k clock r (r.saveOutput k clock.now (r.output f)) := by
  obtain ⟨⟨result, sink⟩, saved⟩ : ∃ p, k.save (r.output f) r.sink = p := ⟨_, rfl⟩
  unfold saveOutput
  split
  · next asked =>
    simp only [saved]
    cases result with
    | error e =>
      simp only [goTo, note, phase, RenderPhase.atHand?]
      exact .saveFailed phase frame asked saved
    | ok _ =>
      dsimp only [note, freezeOutput]
      split
      · next none =>
        simp only [goTo, phase, RenderPhase.atHand?]
        exact .saved phase frame asked saved (.inl ⟨none, rfl⟩)
      · next some =>
        split
        · next thaw shown =>
          simp only [goTo, phase, RenderPhase.atHand?]
          exact .saved phase frame asked saved (.inr ⟨some, thaw, shown, rfl⟩)
        · next o beyond =>
          simp only [goTo, phase, RenderPhase.atHand?]
          exact .overloaded phase frame asked saved some beyond
  · next unasked =>
    simp only [goTo, phase, RenderPhase.atHand?]
    exact .notSaved phase (Bool.eq_false_iff.mpr unasked)

/-- A step does one of these things. -/
theorem stepRel_step (sound : r.Sound) : StepRel t k clock r (r.step t k clock) := by
  unfold step
  split
  · next phase => exact stepRel_drain phase
  · next phase => exact stepRel_thaw phase
  · next phase => exact stepRel_take sound phase
  · next id phase => exact stepRel_drainWith phase
  · next id phase =>
    obtain ⟨f, frame⟩ := sound.exists_frame (by rw [phase]; rfl)
    rw [frame]
    exact stepRel_apply phase frame
  · next id phase =>
    obtain ⟨f, frame⟩ := sound.exists_frame (by rw [phase]; rfl)
    rw [frame]
    exact stepRel_present phase frame
  · next id phase =>
    obtain ⟨f, frame⟩ := sound.exists_frame (by rw [phase]; rfl)
    rw [frame]
    exact stepRel_save phase frame
  · next why phase => exact .ended phase

end FramePipeline.RenderLoop
