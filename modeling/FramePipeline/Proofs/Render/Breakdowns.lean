import FramePipeline.Proofs.Render.Control
import FramePipeline.Proofs.Render.History

/-!
# Loops that break down

A loop breaks down where it has saved an output that would be frozen until a time that the clock cannot
show: the time has to be read off the clock in the step that saves. If no time has room for the period, the
loop breaks down at the first output that is saved.

Main definition: `RenderLoop.FirstSaveInv` (the invariant of such a period). Main statements:
`RenderLoop.exists_reading_of_overloaded`, `RenderLoop.FirstSaveInv.run`.
-/

namespace FramePipeline

namespace RenderLoop

variable {σ ρ : Type} {t : FrameTransform σ} {k : FrameSink ρ} {clock : Reading} {r r' : RenderLoop σ ρ}
  {events : List SlotEvent} {lost : List Frame}

theorem isOverloaded_iff : r.isOverloaded = true ↔ ∃ o, r.phase = .ended (.overloaded o) := by
  unfold isOverloaded
  split
  · next o phase => simp [phase]
  · next other => exact iff_of_false Bool.false_ne_true (not_exists.mpr other)

theorem isOverloaded_eq_false_iff : r.isOverloaded = false ↔ ∀ o, r.phase ≠ .ended (.overloaded o) := by
  rw [← Bool.not_eq_true, isOverloaded_iff, not_exists]

theorem isOverloaded_congr (phase : r'.phase = r.phase) : r'.isOverloaded = r.isOverloaded := by
  rw [isOverloaded, isOverloaded, phase]

theorem BrokenOff.isOverloaded {v : Rendering σ ρ} (h : r.BrokenOff v) : r.isOverloaded = true :=
  isOverloaded_iff.mpr h.beyond

/-! ## Where a loop breaks down -/

theorem StepRel.settings_eq (s : StepRel t k clock r r') : r'.settings = r.settings := by
  cases s <;> rfl

theorem settings_act (sound : r.Sound) (action : RenderAction) :
    (r.act t k action).settings = r.settings := by
  cases action with
  | step clock => exact (stepRel_step sound).settings_eq
  | send | setModes | publish | close => rfl

/-- The loop breaks down in a step that saves, where the time that it reads has no room for the period. -/
theorem StepRel.beyond_of_overloaded (s : StepRel t k clock r r') (going : r.isOverloaded = false)
    (overloaded : r'.isOverloaded = true) :
    ∃ o, Clock.after clock.now r.settings.freezeAfterSave = .error o := by
  obtain ⟨o, phase'⟩ := isOverloaded_iff.mp overloaded
  cases s with
  | overloaded _ _ _ _ _ beyond => exact ⟨_, beyond⟩
  | readSnapshot | ended => exact absurd phase' (isOverloaded_eq_false_iff.mp going o)
  | _ => simp at phase'

theorem exists_reading_of_overloaded (history : r.HistoryInv events lost) (going : r.isOverloaded = false)
    {schedule : List RenderAction} (overloaded : (r.run t k schedule).isOverloaded = true) :
    ∃ clock o, .step clock ∈ schedule ∧ Clock.after clock.now r.settings.freezeAfterSave = .error o := by
  induction schedule generalizing r events lost with
  | nil =>
    rw [show r.isOverloaded = true from overloaded] at going
    cases going
  | cons action rest ih =>
    obtain ⟨events₁, lost₁, history₁⟩ := history.act t k action
    cases first : (r.act t k action).isOverloaded with
    | false =>
      obtain ⟨clock, o, mem, beyond⟩ := ih history₁ first overloaded
      rw [settings_act history.sound] at beyond
      exact ⟨clock, o, List.mem_cons_of_mem _ mem, beyond⟩
    | true =>
      obtain ⟨clock, rfl, s⟩ | ⟨-, u⟩ := act_cases (t := t) (k := k) history.sound action
      · obtain ⟨o, beyond⟩ := s.beyond_of_overloaded going first
        exact ⟨clock, o, List.mem_cons_self, beyond⟩
      · rw [isOverloaded_congr u.phase, going] at first
        cases first

/-! ## Periods that no time has room for -/

/-- No output was saved, or the last thing the loop did was to save the first one, and it broke down. -/
structure FirstSaveInv (r : RenderLoop σ ρ) : Prop where
  unsaved : r.isOverloaded = false → ∀ output, .saved output true ∉ r.trace
  saved : r.isOverloaded = true →
    ∃ before output, r.trace = before ++ [.saved output true] ∧ ∀ other, .saved other true ∉ before

theorem firstSaveInv_start (handoff : FrameHandoff) (settings : RenderSettings) (transform : σ) (sink : ρ) :
    (start handoff settings transform sink).FirstSaveInv :=
  ⟨fun _ _ => List.not_mem_nil, nofun⟩

theorem StepRel.firstSaveInv (s : StepRel t k clock r r') (h : r.FirstSaveInv)
    (long : Clock.limit ≤ r.settings.freezeAfterSave.nanos) : r'.FirstSaveInv := by
  cases s with
  | @overloaded id f sink o phase =>
    exact ⟨nofun, fun _ => ⟨r.trace, r.output f, rfl, h.unsaved (by rw [isOverloaded, phase])⟩⟩
  | @saved id f sink frozenUntil phase frame asked saved freezes =>
    -- There is a time to freeze the output for, and it cannot be shown.
    obtain ⟨zero, -⟩ | ⟨-, thaw, after, -⟩ := freezes
    · have positive : 0 < Clock.limit := by decide
      omega
    · have room := (Clock.after_eq_ok_iff.mp after).1
      omega
  | panicked phase | failed phase | transformed phase | presentFailed phase | presented phase
  | saveFailed phase =>
    refine ⟨fun _ output mem => ?_, nofun⟩
    have unsaved := h.unsaved (by rw [isOverloaded, phase]) output
    simp [unsaved] at mem
  | readNothing phase | readNothingWith phase | readShutdown phase | readShutdownWith phase
  | notFrozen phase | frozen phase | thawed phase | tookNothing phase | foundClosed phase | took phase
  | notSaved phase =>
    exact ⟨fun _ => h.unsaved (by rw [isOverloaded, phase]), nofun⟩
  | readSnapshot => exact ⟨h.unsaved, h.saved⟩
  | ended => exact h

theorem FirstSaveInv.run (h : r.FirstSaveInv) (history : r.HistoryInv events lost)
    (long : Clock.limit ≤ r.settings.freezeAfterSave.nanos) (schedule : List RenderAction) :
    (r.run t k schedule).FirstSaveInv := by
  induction schedule generalizing r events lost with
  | nil => exact h
  | cons action rest ih =>
    obtain ⟨events₁, lost₁, history₁⟩ := history.act t k action
    have settings := settings_act (t := t) (k := k) history.sound action
    have first : (r.act t k action).FirstSaveInv := by
      obtain ⟨clock, rfl, s⟩ | ⟨-, u⟩ := act_cases (t := t) (k := k) history.sound action
      · exact s.firstSaveInv h long
      · refine ⟨fun going => ?_, fun overloaded => ?_⟩
        · rw [u.trace]
          exact h.unsaved (by rwa [isOverloaded_congr u.phase] at going)
        · rw [u.trace]
          exact h.saved (by rwa [isOverloaded_congr u.phase] at overloaded)
    exact ih first history₁ (by rwa [settings])

/-- Of two loops that broke down at most at the first output that was saved, neither did more than the
other one if both did the beginning of the same. -/
theorem FirstSaveInv.trace_eq (h : r.FirstSaveInv) (h' : r'.FirstSaveInv) (shorter : r.trace <+: r'.trace)
    (overloaded : r.isOverloaded = true) : r'.isOverloaded = true ∧ r.trace = r'.trace := by
  obtain ⟨before, output, trace, -⟩ := h.saved overloaded
  have mem : .saved output true ∈ r.trace := by simp [trace]
  cases overloaded' : r'.isOverloaded with
  | false => exact absurd (shorter.subset mem) (h'.unsaved overloaded' output)
  | true =>
    obtain ⟨before', output', trace', unsaved⟩ := h'.saved overloaded'
    rw [trace'] at shorter ⊢
    obtain same | shorter := List.prefix_concat_iff.mp shorter
    · exact ⟨rfl, same⟩
    · exact absurd (shorter.subset mem) (unsaved output)

end RenderLoop

end FramePipeline
