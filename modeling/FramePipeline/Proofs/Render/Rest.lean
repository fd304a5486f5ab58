import FramePipeline.Proofs.Render.Control

/-!
# Coming to rest

A script that waits as long as it takes finds the render loop at rest after each of its steps. How far
the loop is from rest at most is its *rank*, which every step of a loop that is not at rest lowers, and
so does the thaw of its output; `RenderRun.settle` allows for as many steps as the rank can be.

Main definitions: `RenderLoop.AtRest`, `RenderLoop.rank`. Main statements: `RenderLoop.StepRel.rank_lt`,
`RenderRun.settle_spec`.
-/

namespace FramePipeline

namespace RenderLoop

variable {σ ρ : Type} {t : FrameTransform σ} {k : FrameSink ρ} {r r' : RenderLoop σ ρ}

/-! ## Rest -/

/-- The session has a frame for the loop, or it is closed. -/
def hasNews (r : RenderLoop σ ρ) : Bool :=
  r.handoff.plain.closed || r.handoff.plain.waiting.isSome

/-- The loop has ended, or it has nothing to do. -/
def AtRest (r : RenderLoop σ ρ) : Prop :=
  r.hasEnded = true ∨
    r.phase = .drain ∧ r.queue = [] ∧ r.frozenUntil = none ∧ r.hasNews = false

theorem AtRest.not_callDue (rest : r.AtRest) (h : r.Orderly) : ¬ r.CallDue := by
  obtain ended | ⟨phase, -, -, news⟩ := rest
  · exact h.ended_idle ended
  · rintro ⟨-, input | waiting⟩
    · rw [phase] at input
      cases input
    · simp only [hasNews, Bool.or_eq_false_iff, Option.isSome_eq_false_iff, Option.isNone_iff_eq_none]
        at news
      exact waiting news.2

/-! ## Ranks -/

/-- How many steps at most it takes to rest from the beginning of a round, with no command to read and
no frame to render. -/
def roundRank (r : RenderLoop σ ρ) (now : Duration) : Nat :=
  match r.frozenUntil with
  | none => if r.hasNews then 3 else 0
  | some thaw => if now.nanos < thaw.nanos then 4 else 3

/-- How many steps at most it takes to rest, with no command to read and no frame to take. -/
def phaseRank (r : RenderLoop σ ρ) (now : Duration) : Nat :=
  match r.phase with
  | .drain => r.roundRank now
  | .thaw =>
    match r.frozenUntil with
    | none => 2
    | some thaw => if now.nanos < thaw.nanos then 5 else 2
  | .take => if r.frozenUntil = none then 1 else 5
  | .drainWith _ => 8
  | .apply _ => 7
  | .present _ => 6
  | .save _ => 5
  | .ended _ => 0

/-- How many steps at most it takes to rest. A frame that waits costs less than a round more. -/
def rank (r : RenderLoop σ ρ) (now : Duration) : Nat :=
  r.queue.length + 12 * r.handoff.plain.waiting.isSome.toNat + r.phaseRank now

theorem roundRank_le (r : RenderLoop σ ρ) (now : Duration) : r.roundRank now ≤ 4 := by
  unfold roundRank
  split
  · split <;> omega
  · split <;> omega

theorem phaseRank_le_of_drain (phase : r.phase = .drain) (now : Duration) : r.phaseRank now ≤ 4 := by
  rw [phaseRank, phase]
  exact r.roundRank_le now

theorem rank_le (r : RenderLoop σ ρ) (now : Duration) : r.rank now ≤ r.queue.length + 24 := by
  have round := r.roundRank_le now
  have phase : r.phaseRank now ≤ 8 := by
    unfold phaseRank
    split
    · omega
    · split
      · omega
      · split <;> omega
    · split <;> omega
    all_goals omega
  have waiting : r.handoff.plain.waiting.isSome.toNat ≤ 1 := Bool.toNat_le _
  unfold rank
  omega

/-- A step that leaves the commands and the session. -/
theorem rank_lt_of_phase {now : Duration} (queue : r'.queue = r.queue)
    (plain : r'.handoff.plain = r.handoff.plain) (lower : r'.phaseRank now < r.phaseRank now) :
    r'.rank now < r.rank now := by
  unfold rank
  rw [queue, plain]
  omega

/-- A step that leaves the commands and the session, and ends the round. -/
theorem rank_lt_of_drain {now : Duration} (queue : r'.queue = r.queue)
    (plain : r'.handoff.plain = r.handoff.plain) (drain : r'.phase = .drain) (above : 4 < r.phaseRank now) :
    r'.rank now < r.rank now :=
  rank_lt_of_phase queue plain (Nat.lt_of_le_of_lt (phaseRank_le_of_drain drain now) above)

/-- A step that reads a command. -/
theorem rank_lt_of_read {now : Duration} {c : Command} (first : r.queue = c :: r'.queue)
    (plain : r'.handoff.plain = r.handoff.plain) (lower : r'.phaseRank now ≤ r.phaseRank now) :
    r'.rank now < r.rank now := by
  unfold rank
  rw [first, plain, List.length_cons]
  omega

/-- A step of a loop that is not at rest brings it closer to rest, unless it only waits for the thaw. -/
theorem StepRel.rank_lt {now latency : Duration} (s : StepRel t k ⟨now, latency⟩ r r')
    (busy : ¬ r.AtRest)
    (thawed : ∀ thaw, r.phase = .drain → r.queue = [] → r.frozenUntil = some thaw →
      thaw.nanos ≤ now.nanos) : r'.rank now < r.rank now := by
  cases s with
  | readNothing phase empty =>
    refine rank_lt_of_phase rfl rfl ?_
    cases frozen : r.frozenUntil with
    | none =>
      have news : r.hasNews = true := by
        cases news : r.hasNews with
        | false => exact absurd (.inr ⟨phase, empty, frozen, news⟩) busy
        | true => rfl
      simp [phaseRank, roundRank, phase, frozen, news]
    | some thaw =>
      have late := thawed thaw phase empty frozen
      simp [phaseRank, roundRank, phase, frozen, Nat.not_lt.mpr late]
  | readSnapshot reads first => exact rank_lt_of_read first rfl (Nat.le_refl (r.phaseRank now))
  | readShutdown phase first => exact rank_lt_of_read first rfl (Nat.zero_le _)
  | readShutdownWith phase first =>
    exact rank_lt_of_read first (FrameHandoff.plain_release ..) (Nat.zero_le _)
  | notFrozen phase free =>
    refine rank_lt_of_phase rfl rfl ?_
    simp [phaseRank, phase, free]
  | frozen phase until_eq early =>
    refine rank_lt_of_phase rfl rfl ?_
    simp [phaseRank, roundRank, phase, until_eq, early]
  | thawed phase until_eq late =>
    refine rank_lt_of_phase rfl rfl ?_
    simp [phaseRank, phase, until_eq, Nat.not_lt.mpr late]
  | tookNothing phase taken =>
    refine rank_lt_of_phase rfl rfl ?_
    cases frozen : r.frozenUntil with
    | none =>
      obtain ⟨isOpen, nothing⟩ := PlainSession.open_of_tryTake_none taken
      simp [phaseRank, roundRank, hasNews, phase, frozen, isOpen, nothing]
    | some thaw => exact Nat.lt_of_le_of_lt (phaseRank_le_of_drain rfl now) (by simp [phaseRank, phase, frozen])
  | foundClosed phase closed =>
    refine rank_lt_of_phase rfl rfl ?_
    show 0 < r.phaseRank now
    rw [phaseRank, phase]
    dsimp only
    split <;> omega
  | took phase taken frame sound same =>
    obtain ⟨waiting, nothing⟩ := PlainSession.waiting_of_tryTake taken
    unfold rank
    rw [waiting, nothing]
    show r.queue.length + 12 * 0 + 8 < r.queue.length + 12 * 1 + r.phaseRank now
    omega
  | readNothingWith phase | transformed phase | presentFailed phase | presented phase =>
    refine rank_lt_of_phase rfl rfl ?_
    simp [phaseRank, phase]
  | failed phase | notSaved phase | saveFailed phase | saved phase =>
    refine rank_lt_of_drain rfl (FrameHandoff.plain_release ..) rfl ?_
    simp [phaseRank, phase]
  | panicked phase | overloaded phase =>
    refine rank_lt_of_phase rfl (FrameHandoff.plain_release ..) ?_
    simp [phaseRank, phase]
  | ended phase => exact absurd (.inl (by simp [hasEnded, phase])) busy

end RenderLoop

/-! ## Scripts that wait as long as it takes -/

namespace RenderRun

open RenderLoop

variable {σ ρ : Type} {t : FrameTransform σ} {k : FrameSink ρ} {r : RenderRun σ ρ}

/-- A script that waits as long as it takes lets the loop rest, waits for the thaw, or lets it go on. -/
theorem obstacle_cases (sound : r.loop.Sound) :
    (r.obstacle none = .rest ∧ r.loop.AtRest) ∨
      (∃ thaw, r.obstacle none = .frozen thaw ∧ r.loop.phase = .drain ∧
        r.loop.frozenUntil = some thaw ∧ r.now.nanos < thaw.nanos) ∨
      r.obstacle none = .none ∧ ¬ r.loop.AtRest ∧
        ∀ thaw, r.loop.phase = .drain → r.loop.queue = [] → r.loop.frozenUntil = some thaw →
          thaw.nanos ≤ r.now.nanos := by
  unfold obstacle
  cases phase : r.loop.phase with
  | ended why => exact .inl ⟨rfl, .inl (by simp [hasEnded, phase])⟩
  | drain =>
    have going : r.loop.hasEnded = false := by simp [hasEnded, phase]
    cases empty : r.loop.queue with
    | cons c queue =>
      refine .inr (.inr ⟨rfl, ?_, by rintro _ - ⟨⟩⟩)
      simp [AtRest, going, empty]
    | nil =>
      cases until_eq : r.loop.frozenUntil with
      | some thaw =>
        by_cases early : r.now.nanos < thaw.nanos
        · exact .inr (.inl ⟨thaw, by simp [awaits, early], rfl, rfl, early⟩)
        · refine .inr (.inr ⟨by simp [awaits, early], ?_, ?_⟩)
          · simp [AtRest, going, until_eq]
          · rintro _ - - ⟨⟩
            exact Nat.le_of_not_lt early
      | none =>
        obtain ⟨front, closed, -⟩ | ⟨id, front, isOpen, nothing⟩ | ⟨id, f, front, -, waiting⟩ :=
          FrameHandoff.Sound.front_cases sound
        · refine .inr (.inr ⟨by simp [front], ?_, by rintro _ - - ⟨⟩⟩)
          simp [AtRest, going, hasNews, closed]
        · exact .inl ⟨by simp [front], .inr ⟨phase, empty, until_eq, by simp [hasNews, isOpen, nothing]⟩⟩
        · refine .inr (.inr ⟨by simp [front], ?_, by rintro _ - - ⟨⟩⟩)
          simp [AtRest, going, hasNews, waiting]
  | _ =>
    refine .inr (.inr ⟨rfl, ?_, by rintro _ ⟨⟩⟩)
    simp [AtRest, hasEnded, phase]

theorem rank_lt_of_thaw {loop : RenderLoop σ ρ} {now thaw : Duration} (phase : loop.phase = .drain)
    (until_eq : loop.frozenUntil = some thaw) (early : now.nanos < thaw.nanos) :
    loop.rank thaw < loop.rank now := by
  have lower : loop.phaseRank thaw < loop.phaseRank now := by
    simp [phaseRank, roundRank, phase, until_eq, early]
  unfold rank
  omega

/-- A loop that has ended stays as it is. -/
theorem settleFor_of_ended (ended : r.loop.hasEnded = true) (steps : Nat) :
    r.settleFor t k none steps = r := by
  have rest : r.obstacle none = .rest := by
    unfold hasEnded at ended
    split at ended
    · next phase => rw [obstacle, phase]
    · cases ended
  cases steps with
  | zero => rfl
  | succ steps => rw [settleFor, rest]

/-- A loop that is not at rest goes on, and comes closer to rest or breaks down. -/
theorem atRest_or_progress (t : FrameTransform σ) (k : FrameSink ρ) (h : r.loop.Orderly) :
    (r.loop.AtRest ∧ ∀ steps, r.settleFor t k none steps = r) ∨
      (∃ r' : RenderRun σ ρ, Continuation t k r.loop r'.loop ∧ r'.loop.rank r'.now < r.loop.rank r.now ∧
        ∀ steps, r.settleFor t k none (steps + 1) = r'.settleFor t k none steps) ∨
      0 < r.loop.rank r.now ∧
        ∀ steps, (r.settleFor t k none (steps + 1)).loop.BrokenOff (r.loop.settled t k) := by
  obtain ⟨rest, atRest⟩ | ⟨thaw, frozen, phase, until_eq, early⟩ | ⟨goes, busy, thawed⟩ :=
    obstacle_cases h.sound
  · refine .inl ⟨atRest, fun steps => ?_⟩
    cases steps with
    | zero => rfl
    | succ steps => rw [settleFor, rest]
  · refine .inr (.inl ⟨{ r with now := thaw }, .refl h, rank_lt_of_thaw phase until_eq early,
      fun steps => ?_⟩)
    rw [settleFor, frozen]
  · have lower : (r.loop.step t k ⟨r.now, ⟨0⟩⟩).rank r.now < r.loop.rank r.now :=
      (stepRel_step h.sound).rank_lt busy thawed
    obtain continues | breaksOff := continuation_step h t k ⟨r.now, ⟨0⟩⟩
    · refine .inr (.inl ⟨{ r with loop := r.loop.step t k ⟨r.now, ⟨0⟩⟩ }, continues, lower,
        fun steps => ?_⟩)
      rw [settleFor, goes]
    · refine .inr (.inr ⟨Nat.zero_lt_of_lt lower, fun steps => ?_⟩)
      rw [settleFor, goes]
      dsimp only
      rwa [settleFor_of_ended breaksOff.hasEnded]

theorem settleFor_spec (h : r.loop.Orderly) {steps : Nat} (enough : r.loop.rank r.now ≤ steps) :
    (Continuation t k r.loop (r.settleFor t k none steps).loop ∧
        (r.settleFor t k none steps).loop.AtRest) ∨
      (r.settleFor t k none steps).loop.BrokenOff (r.loop.settled t k) := by
  induction steps generalizing r with
  | zero =>
    obtain ⟨atRest, stays⟩ | ⟨r', -, lower, -⟩ | ⟨busy, -⟩ := atRest_or_progress t k h
    · rw [stays]
      exact .inl ⟨.refl h, atRest⟩
    · omega
    · omega
  | succ steps ih =>
    obtain ⟨atRest, stays⟩ | ⟨r', continues, lower, goes⟩ | ⟨-, breaksOff⟩ := atRest_or_progress t k h
    · rw [stays]
      exact .inl ⟨.refl h, atRest⟩
    · rw [goes]
      obtain ⟨continues', atRest⟩ | breaksOff := ih continues.orderly (by omega)
      · exact .inl ⟨continues.trans continues', atRest⟩
      · rw [continues.settled_eq] at breaksOff
        exact .inr breaksOff
    · exact .inr (breaksOff steps)

/-- The steps that are allowed for are enough. -/
theorem settle_spec (h : r.loop.Orderly) :
    (Continuation t k r.loop (r.settle t k none).loop ∧ (r.settle t k none).loop.AtRest) ∨
      (r.settle t k none).loop.BrokenOff (r.loop.settled t k) :=
  settleFor_spec h (r.loop.rank_le r.now)

end RenderRun

end FramePipeline
