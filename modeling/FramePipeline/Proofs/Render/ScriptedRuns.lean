import FramePipeline.Proofs.Render.Breakdowns

/-!
# Runs of scripts as runs of the loop

Under the control of a script a render loop takes the steps of a free schedule, with the steps of the
script in between. So what holds of every run of a loop holds of the runs of scripts, be they scheduled
freely or such that the loop rests after each step of the script.

Main definition: `RenderRun.Progress`. Main statements: `ScriptedLoop.exists_run_of_run?`,
`RenderRun.progress_performAll`, `RenderRun.progress_stop`.
-/

namespace FramePipeline

/-- What a step of a script does, if anything. -/
def ControlStep.action? : ControlStep → Option RenderAction
  | publish bytes _ => some (.publish bytes)
  | requestSnapshot => some (.send .snapshot)
  | setModes modes => some (.setModes modes)
  | close => some .close
  | await _ | askModes | awaitEnd => none

namespace RenderLoop

variable {σ ρ : Type}

theorem run_append (t : FrameTransform σ) (k : FrameSink ρ) (r : RenderLoop σ ρ)
    (schedule rest : List RenderAction) :
    r.run t k (schedule ++ rest) = (r.run t k schedule).run t k rest :=
  List.foldl_append

theorem control_eq_run (t : FrameTransform σ) (k : FrameSink ρ) (r : RenderLoop σ ρ) (step : ControlStep) :
    r.control step = r.run t k step.action?.toList := by
  cases step <;> rfl

/-- A step of a script is not a step of the loop. -/
theorem step_notMem_action? (step : ControlStep) (clock : Reading) :
    .step clock ∉ step.action?.toList := by
  cases step <;> simp [ControlStep.action?]

/-- A loop that broke down stays as it is. -/
theorem BrokenOff.run {r : RenderLoop σ ρ} {v : Rendering σ ρ} (h : r.BrokenOff v) (t : FrameTransform σ)
    (k : FrameSink ρ) (schedule : List RenderAction) : (r.run t k schedule).BrokenOff v := by
  induction schedule generalizing r with
  | nil => exact h
  | cons action rest ih =>
    have first : (r.act t k action).BrokenOff v := by
      obtain ⟨o, phase⟩ := h.beyond
      cases action with
      | step clock =>
        show (r.step t k clock).BrokenOff v
        rwa [show r.step t k clock = r by rw [step, phase]]
      | send | setModes | publish | close => exact ⟨h.beyond, h.trace_prefix⟩
    exact ih first

end RenderLoop

/-! ## A loop that rests after each step -/

namespace RenderRun

open RenderLoop

variable {σ ρ : Type} {t : FrameTransform σ} {k : FrameSink ρ} {r r' r'' : RenderRun σ ρ}
    {patience : Patience}

theorem perform_eq (r : RenderRun σ ρ) (step : ControlStep) :
    (r.perform t k step patience).2 =
      ({ r with loop := r.loop.control step } : RenderRun σ ρ).settle t k patience := by
  cases step with
  | publish bytes waits =>
    unfold perform
    dsimp only [RenderLoop.control]
    split
    · next e handoff eq =>
      rw [eq]
      rfl
    · next n handoff eq =>
      rw [eq]
      rfl
  | _ => rfl

/-- The loop has followed a schedule, and what it read off the clock is past. -/
structure Progress (t : FrameTransform σ) (k : FrameSink ρ) (r r' : RenderRun σ ρ) : Prop where
  now_le : r.now.nanos ≤ r'.now.nanos
  run : ∃ schedule, r'.loop = r.loop.run t k schedule ∧
    ∀ clock, .step clock ∈ schedule → clock.now.nanos ≤ r'.now.nanos

namespace Progress

theorem refl (r : RenderRun σ ρ) : Progress t k r r :=
  ⟨Nat.le_refl _, [], rfl, nofun⟩

theorem trans (h : Progress t k r r') (h' : Progress t k r' r'') : Progress t k r r'' := by
  obtain ⟨schedule, loop, past⟩ := h.run
  obtain ⟨schedule', loop', past'⟩ := h'.run
  refine ⟨Nat.le_trans h.now_le h'.now_le, schedule ++ schedule', ?_, fun clock mem => ?_⟩
  · rw [run_append, ← loop, loop']
  · obtain mem | mem := List.mem_append.mp mem
    · exact Nat.le_trans (past clock mem) h'.now_le
    · exact past' clock mem

/-- Time goes by. -/
theorem wait {now : Duration} (later : r.now.nanos ≤ now.nanos) : Progress t k r { r with now } :=
  ⟨later, [], rfl, nofun⟩

theorem step (r : RenderRun σ ρ) :
    Progress t k r { r with loop := r.loop.step t k ⟨r.now, ⟨0⟩⟩ } := by
  refine ⟨Nat.le_refl _, [.step ⟨r.now, ⟨0⟩⟩], rfl, fun clock mem => ?_⟩
  obtain rfl := RenderAction.step.inj (List.mem_singleton.mp mem)
  exact Nat.le_refl _

theorem control (r : RenderRun σ ρ) (step : ControlStep) :
    Progress t k r { r with loop := r.loop.control step } :=
  ⟨Nat.le_refl _, step.action?.toList, control_eq_run t k r.loop step,
    fun clock mem => absurd mem (step_notMem_action? step clock)⟩

end Progress

theorem Progress.brokenOff {v : Rendering σ ρ} (h : Progress t k r r') (breaksOff : r.loop.BrokenOff v) :
    r'.loop.BrokenOff v := by
  obtain ⟨schedule, loop, -⟩ := h.run
  rw [loop]
  exact breaksOff.run t k schedule

theorem now_lt_of_frozen {thaw : Duration} (frozen : r.obstacle patience = .frozen thaw) :
    r.now.nanos < thaw.nanos := by
  unfold obstacle at frozen
  grind

theorem progress_settleFor (r : RenderRun σ ρ) (steps : Nat) :
    Progress t k r (r.settleFor t k patience steps) := by
  induction steps generalizing r with
  | zero => exact .refl r
  | succ steps ih =>
    unfold settleFor
    split
    · exact .refl r
    · next thaw frozen => exact (Progress.wait (Nat.le_of_lt (now_lt_of_frozen frozen))).trans (ih _)
    · exact (Progress.step r).trans (ih _)

theorem progress_perform (r : RenderRun σ ρ) (step : ControlStep) :
    Progress t k r (r.perform t k step patience).2 := by
  rw [perform_eq]
  exact (Progress.control r step).trans (progress_settleFor _ _)

theorem progress_performAll (r : RenderRun σ ρ) (script : List ControlStep) :
    Progress t k r (r.performAll t k script patience).2 := by
  induction script generalizing r with
  | nil => exact .refl r
  | cons step rest ih => exact (progress_perform r step).trans (ih _)

theorem progress_stop (r : RenderRun σ ρ) : Progress t k r (r.stop t k patience) := by
  have told : Progress t k r { r with loop := r.loop.send .shutdown } :=
    ⟨Nat.le_refl _, [.send .shutdown], rfl, fun clock mem => nomatch List.mem_singleton.mp mem⟩
  exact told.trans (progress_settleFor _ _)

end RenderRun

/-! ## Scheduled scripts -/

namespace ScriptedLoop

variable {σ ρ : Type} {t : FrameTransform σ} {k : FrameSink ρ} {s s' : ScriptedLoop σ ρ}

theorem loop_perform (s : ScriptedLoop σ ρ) (step : ControlStep) :
    (s.perform step).loop = s.loop.control step := by
  cases step with
  | publish bytes waits =>
    unfold perform
    dsimp only [RenderLoop.control]
    split
    · next e handoff eq =>
      rw [eq]
    · next n handoff eq =>
      rw [eq]
  | _ => rfl

/-- A move is an action, or none. -/
theorem exists_run_of_move? {m : Move} (moved : s.move? t k m = some s') :
    ∃ schedule, s'.loop = s.loop.run t k schedule ∧ ∀ clock, .step clock ∈ schedule → m = .loop clock := by
  cases m with
  | loop clock =>
    obtain rfl := Option.some.inj moved
    exact ⟨[.step clock], rfl, fun _ mem => by simpa [eq_comm] using mem⟩
  | script =>
    unfold move? goOn? at moved
    dsimp only at moved
    split at moved
    · split at moved
      · obtain rfl := Option.some.inj moved
        exact ⟨[], rfl, nofun⟩
      · cases moved
    · next step rest _ _ =>
      obtain rfl := Option.some.inj moved
      refine ⟨step.action?.toList, ?_,
        fun clock mem => absurd mem (RenderLoop.step_notMem_action? step clock)⟩
      rw [loop_perform]
      exact RenderLoop.control_eq_run t k s.loop step
    · split at moved
      · cases moved
      · obtain rfl := Option.some.inj moved
        exact ⟨[.send .shutdown], rfl, nofun⟩

theorem exists_run_of_run? {moves : List Move} (ran : s.run? t k moves = some s') :
    ∃ schedule, s'.loop = s.loop.run t k schedule ∧
      ∀ clock, .step clock ∈ schedule → .loop clock ∈ moves := by
  induction moves generalizing s with
  | nil =>
    obtain rfl := Option.some.inj ran
    exact ⟨[], rfl, nofun⟩
  | cons m rest ih =>
    unfold run? at ran
    rw [List.foldlM_cons] at ran
    obtain ⟨s₁, moved, others⟩ := Option.bind_eq_some_iff.mp ran
    obtain ⟨schedule₁, loop₁, steps₁⟩ := exists_run_of_move? moved
    obtain ⟨schedule, loop, steps⟩ := ih others
    refine ⟨schedule₁ ++ schedule, by rw [RenderLoop.run_append, ← loop₁, loop], fun clock mem => ?_⟩
    obtain mem | mem := List.mem_append.mp mem
    · exact List.mem_cons.mpr (.inl (steps₁ clock mem).symm)
    · exact List.mem_cons_of_mem _ (steps clock mem)

end ScriptedLoop

end FramePipeline
