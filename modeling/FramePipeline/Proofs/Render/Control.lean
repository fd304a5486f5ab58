import FramePipeline.Proofs.Render.Settling

/-!
# Steps of a script

A step of a script changes what the render loop comes to as it changes a rendering without rounds,
wherever in its round the loop is, provided that the loop owes nothing. Afterwards it owes something only
if a frame was published.

Main definition: `RenderLoop.control`. Main statements: `RenderLoop.settled_control`,
`RenderLoop.orderly_control` and `RenderLoop.published_of_callDue`.
-/

namespace FramePipeline.RenderLoop

variable {σ ρ : Type} {t : FrameTransform σ} {k : FrameSink ρ} {r : RenderLoop σ ρ} {step : ControlStep}

/-- What a step of a script does to the loop at once. -/
def control (r : RenderLoop σ ρ) : ControlStep → RenderLoop σ ρ
  | .publish bytes _ => { r with handoff := (r.handoff.publish bytes).2 }
  | .requestSnapshot => r.send .snapshot
  | .setModes modes => r.setModes modes
  | .close => { r with handoff := r.handoff.stop }
  | .await _ | .askModes | .awaitEnd => r

/-! ## Loops that owe nothing -/

theorem hasInput_of_idle (idle : ¬ r.CallDue) : r.phase.hasInput = false := by
  cases input : r.phase.hasInput with
  | false => rfl
  | true =>
    have calm : r.phase ≠ .ended .panicked := by
      intro phase
      rw [phase] at input
      cases input
    exact absurd ⟨calm, .inl input⟩ idle

/-- A loop that owes nothing is done with its frames. -/
theorem settled_of_not_callDue (idle : ¬ r.CallDue) : r.settled t k = r.finished t k := by
  by_cases phase : r.phase = .ended .panicked
  · refine Rendering.renderWaiting_of_panicked t k _ ?_
    rw [finished_of_free (by rw [phase]; rfl)]
    exact decide_eq_true phase
  · exact settled_of_idle (waiting_eq_none idle phase)

/-- The session and the modes do not matter for a frame that was given to the transform. -/
theorem finished_with (noInput : r.phase.hasInput = false) (handoff : FrameHandoff) (modes : CartoonModes)
    (same : ∀ id ∈ r.phase.atHand?.toList, handoff.frame? id = r.handoff.frame? id) :
    ({ r with handoff, modes } : RenderLoop σ ρ).finished t k =
      { r.finished t k with session := handoff.plain, modes } := by
  have atHand : ({ r with handoff, modes } : RenderLoop σ ρ).frameAtHand? = r.frameAtHand? := by
    show r.phase.atHand?.bind handoff.frame? = r.phase.atHand?.bind r.handoff.frame?
    cases held : r.phase.atHand? with
    | none => rfl
    | some id => exact same id (by simp [held])
  unfold finished
  rw [atHand]
  dsimp only
  split
  · next phase _ =>
    rw [phase] at noInput
    cases noInput
  · next phase _ =>
    rw [phase] at noInput
    cases noInput
  · exact congrArg (·.heed r.queue) (Rendering.putOut_with k r.view _ handoff.plain modes)
  · exact congrArg (·.heed r.queue) (Rendering.save_with k r.view _ handoff.plain modes)
  · rfl

/-- A command that is sent is read after all that was sent before. -/
theorem finished_send (noInput : r.phase.hasInput = false) (c : Command) :
    (r.send c).finished t k = (r.finished t k).heed [c] := by
  have atHand : (r.send c).frameAtHand? = r.frameAtHand? := rfl
  have phase : (r.send c).phase = r.phase := rfl
  unfold finished
  rw [atHand, phase]
  generalize r.phase = phase at noInput ⊢
  generalize r.frameAtHand? = atHand
  cases phase with
  | drainWith id => cases noInput
  | apply id => cases noInput
  | _ => cases atHand <;> exact Rendering.heed_append _ r.queue [c]

/-! ## Steps of a script -/

/-- Something is owed after a step only if it published a frame. -/
theorem published_of_callDue (h : r.Orderly) (idle : ¬ r.CallDue) (owes : (r.control step).CallDue) :
    ∃ bytes waits n, step = .publish bytes waits ∧ (r.handoff.publish bytes).1 = .ok n := by
  have same : ∀ r' : RenderLoop σ ρ, r'.phase = r.phase →
      r'.handoff.plain.waiting = r.handoff.plain.waiting → ¬ r'.CallDue := by
    rintro r' phase waiting ⟨calm, owes⟩
    rw [phase] at calm owes
    rw [waiting] at owes
    exact idle ⟨calm, owes⟩
  cases step with
  | publish bytes waits =>
    obtain ⟨c', result, plain, -⟩ := FrameHandoff.publish_refines bytes h.sound
    have result : r.handoff.publish bytes = ((r.handoff.plain.publish bytes).1, c') := result
    cases outcome : (r.handoff.plain.publish bytes).1 with
    | ok n => exact ⟨bytes, waits, n, rfl, by rw [result, outcome]⟩
    | error e =>
      refine absurd owes (same _ rfl ?_)
      show (r.handoff.publish bytes).2.plain.waiting = _
      rw [result, plain, PlainSession.waiting_publish_of_error outcome]
  | close =>
    obtain ⟨calm, input | waiting⟩ := owes
    · exact absurd ⟨calm, .inl input⟩ idle
    · have plain : r.handoff.stop.plain = r.handoff.plain.stop := (FrameHandoff.stop_refines h.sound).1
      refine absurd ?_ waiting
      show r.handoff.stop.plain.waiting = none
      rw [plain]
      rfl
  | _ => exact absurd owes (same _ rfl rfl)

theorem orderly_control (h : r.Orderly) (idle : ¬ r.CallDue) (untold : ¬ r.Told) (step : ControlStep) :
    (r.control step).Orderly ∧ ¬ (r.control step).Told := by
  have noInput := hasInput_of_idle idle
  have orderly : ∀ r' : RenderLoop σ ρ, r'.phase = r.phase → ¬ r'.Told → r'.Sound →
      (r.handoff.session.closed = true → r'.handoff.session.closed = true) → r'.Orderly := by
    intro r' phase untold' sound closed
    exact {
      sound
      input_alone := fun input => by
        rw [phase, noInput] at input
        cases input
      apply_queue := fun id phase' => by
        rw [← phase, phase'] at noInput
        cases noInput
      told_idle := fun told => absurd told untold'
      closed_end := fun phase' => closed (h.closed_end (phase ▸ phase'))
      within := fun o phase' => h.within o (phase ▸ phase') }
  cases step with
  | publish bytes waits =>
    refine ⟨orderly _ rfl untold ?_ ?_, untold⟩
    · obtain ⟨c', result, -, sound, -⟩ := FrameHandoff.publish_refines bytes h.sound
      show (r.handoff.publish bytes).2.Sound r.phase.atHand?.toList
      have result : r.handoff.publish bytes = ((r.handoff.plain.publish bytes).1, c') := result
      rwa [result]
    · obtain ⟨c', result, plain, -⟩ := FrameHandoff.publish_refines bytes h.sound
      intro closed
      have result : r.handoff.publish bytes = ((r.handoff.plain.publish bytes).1, c') := result
      show (r.handoff.publish bytes).2.plain.closed = true
      rw [result, plain, PlainSession.closed_publish]
      exact closed
  | requestSnapshot =>
    have untold' : ¬ (r.send .snapshot).Told := by
      rintro (mem | phase)
      · obtain mem | mem := List.mem_append.mp mem
        · exact untold (.inl mem)
        · simp at mem
      · exact untold (.inr phase)
    exact ⟨orderly _ rfl untold' h.sound id, untold'⟩
  | setModes modes => exact ⟨orderly _ rfl untold h.sound id, untold⟩
  | close =>
    obtain ⟨plain, sound, -⟩ := FrameHandoff.stop_refines h.sound
    refine ⟨orderly _ rfl untold sound fun _ => ?_, untold⟩
    show r.handoff.stop.plain.closed = true
    rw [plain]
    rfl
  | _ => exact ⟨h, untold⟩

/-- A step of a script changes what the loop comes to, wherever in its round the loop is. -/
theorem settled_control (h : r.Orderly) (idle : ¬ r.CallDue) :
    (r.control step).settled t k = (r.settled t k).control t k step := by
  have noInput := hasInput_of_idle idle
  have modes_eq : (r.finished t k).modes = r.modes :=
    congrArg Rendering.modes (finished_with noInput r.handoff r.modes fun _ _ => rfl)
  rw [settled_of_not_callDue idle]
  cases step with
  | publish bytes waits =>
    obtain ⟨c', result, plain, -, same⟩ := FrameHandoff.publish_refines bytes h.sound
    have handoff : (r.handoff.publish bytes).2 = c' := congrArg Prod.snd result
    refine congrArg (Rendering.renderWaiting t k) ?_
    show ({ r with handoff := (r.handoff.publish bytes).2 } : RenderLoop σ ρ).finished t k = _
    rw [handoff]
    refine (finished_with noInput c' r.modes same).trans ?_
    rw [plain, session_finished, ← modes_eq]
  | requestSnapshot =>
    have idle' : ¬ (r.send .snapshot).CallDue := idle
    show (r.send .snapshot).settled t k = _
    rw [settled_of_not_callDue idle', finished_send noInput]
    simp [Rendering.heed, Rendering.control]
  | setModes modes =>
    have idle' : ¬ (r.setModes modes).CallDue := idle
    show (r.setModes modes).settled t k = _
    rw [settled_of_not_callDue idle']
    refine (finished_with noInput r.handoff modes fun _ _ => rfl).trans ?_
    rw [← session_finished (t := t) (k := k)]
    rfl
  | close =>
    obtain ⟨plain, sound, same⟩ := FrameHandoff.stop_refines h.sound
    have waiting : r.handoff.stop.plain.waiting = none := by
      rw [plain]
      rfl
    refine (settled_of_idle waiting).trans ?_
    refine (finished_with noInput r.handoff.stop r.modes fun id _ => same id).trans ?_
    rw [plain, ← session_finished (t := t) (k := k), ← modes_eq]
    rfl
  | _ => exact settled_of_not_callDue idle

/-! ## The end -/

theorem orderly_shutdown (h : r.Orderly) (idle : ¬ r.CallDue) : (r.send .shutdown).Orderly where
  sound := h.sound
  input_alone := h.input_alone
  apply_queue id phase := by
    have noInput := hasInput_of_idle idle
    have phase : r.phase = .apply id := phase
    rw [phase] at noInput
    cases noInput
  told_idle _ := idle
  closed_end := h.closed_end
  within := h.within

theorem settled_shutdown (idle : ¬ r.CallDue) : (r.send .shutdown).settled t k = r.settled t k := by
  have idle' : ¬ (r.send .shutdown).CallDue := idle
  rw [settled_of_not_callDue idle, settled_of_not_callDue idle', finished_send (hasInput_of_idle idle)]
  simp [Rendering.heed]

/-- A loop that has ended made of the frames all that there was to make of them. -/
theorem settled_of_ended (h : r.Orderly) (ended : r.hasEnded = true) :
    r.settled t k = r.view.heed r.queue := by
  have free : r.phase.atHand? = none := by
    unfold hasEnded at ended
    split at ended
    · next why phase =>
      rw [phase]
      rfl
    · cases ended
  rw [settled_of_not_callDue (h.ended_idle ended), finished_of_free free]

end FramePipeline.RenderLoop
