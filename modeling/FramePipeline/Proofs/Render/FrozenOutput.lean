import FramePipeline.Proofs.Render.FrameTakings
import FramePipeline.Proofs.Render.SavedFrames

/-!
# Frozen output

An output that was saved stays on the screen for a while. Until the time for this has come, the loop goes
round between its commands and its clock: it takes no frame, has nothing for the transform or the sink, and
leaves the session to others, but it can be told to end, and requests that it reads stay pending. Nothing
depends on how the clock goes; what counts is what the loop reads off it.

Main definitions: `RenderLoop.reads`, `RenderLoop.Frozen`, `RenderLoop.FrozenRun` (what is left of a frozen
loop), `RenderLoop.RequestDue` (the invariant of a request). Main statement:
`RenderLoop.saveOutput_frozenRun`.
-/

namespace FramePipeline

/-- What an action that is not a step of the loop does to its session. -/
def FrameHandoff.undergo (c : FrameHandoff) : RenderAction → FrameHandoff
  | .publish bytes => (c.publish bytes).2
  | .close => c.stop
  | .step _ | .send _ | .setModes _ => c

namespace RenderLoop

variable {σ ρ : Type} {t : FrameTransform σ} {k : FrameSink ρ} {clock : Reading} {r r' : RenderLoop σ ρ}
  {thaw : Duration} {events : List SlotEvent} {lost : List Frame} {action : RenderAction}
  {schedule rest : List RenderAction}

/-! ## The clock -/

/-- The time that the loop reads off the clock to see whether the output is still frozen. -/
def readBy? (r : RenderLoop σ ρ) : RenderAction → Option Duration
  | .step clock =>
    match r.phase, r.frozenUntil with
    | .thaw, some _ => some clock.now
    | _, _ => none
  | _ => none

/-- The times that the loop reads off the clock in the course of a schedule. -/
def reads (t : FrameTransform σ) (k : FrameSink ρ) : RenderLoop σ ρ → List RenderAction → List Duration :=
  collect readBy? t k

theorem mem_reads_cons {now : Duration} :
    now ∈ reads t k r (action :: rest) ↔
      r.readBy? action = some now ∨ now ∈ reads t k (r.act t k action) rest := by
  simp [reads, collect]

/-- The output is frozen: the loop reads its commands or looks at the clock, or it was told to end. -/
structure Frozen (r : RenderLoop σ ρ) (thaw : Duration) : Prop where
  until_eq : r.frozenUntil = some thaw
  phase : r.phase = .drain ∨ r.phase = .thaw ∨ r.phase = .ended .shutdown

/-- A frame that is saved freezes the output, if the clock can show until when. -/
theorem StepRel.frozen_of_saved (s : StepRel t k clock r r') {output : Frame}
    (deed : r.deedsTo r' = [.did (.saved output true)]) (period : r.settings.freezeAfterSave.nanos ≠ 0)
    (after : Clock.after clock.now r.settings.freezeAfterSave = .ok thaw) : r'.Frozen thaw := by
  have event := drop_of_deedsTo deed
  cases s with
  | saved _ _ _ _ freezes =>
    obtain ⟨zero, -⟩ | ⟨-, thaw', after', until_eq⟩ := freezes
    · exact absurd zero period
    · obtain rfl := Except.ok.inj (after.symm.trans after')
      exact ⟨until_eq, .inl rfl⟩
  | overloaded _ _ _ _ _ beyond => cases after.symm.trans beyond
  | _ => simp at event

/-- A frame that is saved ends the loop, if the clock cannot show until when the output is to be frozen. -/
theorem StepRel.overloaded_of_saved (s : StepRel t k clock r r') {output : Frame}
    (deed : r.deedsTo r' = [.did (.saved output true)]) (period : r.settings.freezeAfterSave.nanos ≠ 0)
    {o : Overload} (beyond : Clock.after clock.now r.settings.freezeAfterSave = .error o) :
    r'.phase = .ended (.overloaded o) := by
  have event := drop_of_deedsTo deed
  cases s with
  | saved _ _ _ _ freezes =>
    obtain ⟨zero, -⟩ | ⟨-, thaw, after, -⟩ := freezes
    · exact absurd zero period
    · cases after.symm.trans beyond
  | overloaded _ _ _ _ _ beyond' => rw [Except.error.inj (beyond.symm.trans beyond')]
  | _ => simp at event

/-- A loop that has ended takes nothing, does nothing, and leaves the commands that are sent in the queue. -/
theorem idle_of_ended {why : RenderEnd} (ended : r.phase = .ended why) (t : FrameTransform σ)
    (k : FrameSink ρ) (schedule : List RenderAction) :
    takes t k r schedule = [] ∧ deeds t k r schedule = [] ∧
      (r.run t k schedule).queue = r.queue ++ schedule.filterMap RenderAction.command? := by
  induction schedule generalizing r with
  | nil => exact ⟨rfl, rfl, (List.append_nil _).symm⟩
  | cons action rest ih =>
    obtain ⟨takes_eq, deeds_eq, queue⟩ := ih (phase_act_of_ended (t := t) (k := k) ended action)
    rw [takes] at takes_eq ⊢
    rw [collect, deeds, takes_eq, deeds_eq]
    cases action with
    | step clock =>
      have same : r.act t k (.step clock) = r := by simp [act, step, ended]
      have nothing : r.deedsOf t k (.step clock) = [] := by
        simp [deedsOf, deedsTo, step, ended, receives]
      rw [same] at queue
      refine ⟨by simp [takenBy?, taken?, ended], by rw [nothing]; rfl, ?_⟩
      exact (congrArg (fun r : RenderLoop σ ρ => (r.run t k rest).queue) same).trans queue
    | send c => exact ⟨rfl, rfl, queue.trans (by simp [act, send, RenderAction.command?])⟩
    | setModes | publish | close => exact ⟨rfl, rfl, queue⟩

/-- The loop goes on with the next round when the time has come. -/
theorem Frozen.phase_of_late (h : r.Frozen thaw) (phase : r.phase = .thaw)
    (late : thaw.nanos ≤ clock.now.nanos) : (r.step t k clock).phase = .take := by
  simp [step, phase, checkFrozenUntil, h.until_eq, Nat.not_lt.mpr late, goTo, RenderPhase.atHand?]

/-! ## Rounds of a frozen loop -/

/-- What a step does while the output is frozen. -/
inductive FrozenStep (r : RenderLoop σ ρ) : RenderLoop σ ρ → Prop
  | readNothing (phase : r.phase = .drain) (empty : r.queue = []) : FrozenStep r { r with phase := .thaw }
  | readSnapshot {queue : List Command} (phase : r.phase = .drain) (first : r.queue = .snapshot :: queue) :
      FrozenStep r { r with queue, pendingSave := true }
  | readShutdown {queue : List Command} (phase : r.phase = .drain) (first : r.queue = .shutdown :: queue) :
      FrozenStep r { r with queue, phase := .ended .shutdown }
  | early (phase : r.phase = .thaw) : FrozenStep r { r with phase := .drain }
  | ended (phase : r.phase = .ended .shutdown) : FrozenStep r r

theorem StepRel.frozenStep (s : StepRel t k clock r r') (h : r.Frozen thaw)
    (early : ∀ now, r.readBy? (.step clock) = some now → now.nanos < thaw.nanos) : FrozenStep r r' := by
  obtain ⟨until_eq, phases⟩ := h
  cases s with
  | readNothing phase empty => exact .readNothing phase empty
  | readSnapshot reads first =>
    obtain phase | ⟨id, phase⟩ := reads
    · exact .readSnapshot phase first
    · simp [phase] at phases
  | readShutdown phase first => exact .readShutdown phase first
  | frozen phase => exact .early phase
  | notFrozen phase free => cases free.symm.trans until_eq
  | thawed phase until_eq' late =>
    obtain rfl := Option.some.inj (until_eq.symm.trans until_eq')
    have before := early clock.now (by simp [readBy?, phase, until_eq])
    omega
  | @ended why phase =>
    obtain phase' | phase' | phase' := phases
    · cases phase.symm.trans phase'
    · cases phase.symm.trans phase'
    · exact .ended phase'
  | readNothingWith phase | readShutdownWith phase | tookNothing phase | foundClosed phase | took phase
  | panicked phase | failed phase | transformed phase | presentFailed phase | presented phase
  | notSaved phase | saveFailed phase | saved phase | overloaded phase => simp [phase] at phases

/-- In the course of the schedule the loop stays frozen, takes nothing, gives nothing to the transform or to
the sink, and leaves the session to others. It does nothing but read requests, and these are pending then. -/
structure FrozenRun (t : FrameTransform σ) (k : FrameSink ρ) (thaw : Duration) (r : RenderLoop σ ρ)
    (schedule : List RenderAction) : Prop where
  frozen : (r.run t k schedule).Frozen thaw
  takes_eq : takes t k r schedule = []
  trace_eq : (r.run t k schedule).trace = r.trace
  handoff_eq : (r.run t k schedule).handoff = schedule.foldl FrameHandoff.undergo r.handoff
  only_hears : ∀ deed ∈ deeds t k r schedule, deed = .heard
  pending_iff : (r.run t k schedule).pendingSave = true ↔
    r.pendingSave = true ∨ .heard ∈ deeds t k r schedule

theorem Frozen.frozenRun_nil (h : r.Frozen thaw) : FrozenRun t k thaw r [] where
  frozen := h
  takes_eq := rfl
  trace_eq := rfl
  handoff_eq := rfl
  only_hears _ mem := nomatch mem
  pending_iff := by simp [run, deeds]

/-- A step of a frozen loop. -/
theorem FrozenStep.frozenRun (i : FrozenStep r (r.step t k clock)) (h : r.Frozen thaw) :
    FrozenRun t k thaw r [.step clock] := by
  have trace : (r.step t k clock).trace = r.trace := by
    generalize r.step t k clock = r' at i
    cases i <;> rfl
  have taken : r.taken? = none := taken?_of_ne fun take => by simpa [take] using h.phase
  have deeds_eq : deeds t k r [.step clock] = if r.receives then [.heard] else [] := by
    simp [deeds, deedsOf, deedsTo, trace]
  have frozen : (r.step t k clock).Frozen thaw := by
    generalize r.step t k clock = r' at i
    cases i with
    | readNothing => exact ⟨h.until_eq, .inr (.inl rfl)⟩
    | readSnapshot phase => exact ⟨h.until_eq, .inl phase⟩
    | readShutdown => exact ⟨h.until_eq, .inr (.inr rfl)⟩
    | early => exact ⟨h.until_eq, .inl rfl⟩
    | ended => exact h
  exact {
    frozen
    takes_eq := by simp [takes, collect, takenBy?, taken]
    trace_eq := trace
    handoff_eq := by
      show (r.step t k clock).handoff = r.handoff
      generalize r.step t k clock = r' at i
      cases i <;> rfl
    only_hears := by
      rw [deeds_eq]
      split <;> simp
    pending_iff := by
      rw [deeds_eq]
      show (r.step t k clock).pendingSave = true ↔ _
      generalize r.step t k clock = r' at i
      cases i with
      | readSnapshot phase first => simp [receives, phase, first]
      | readNothing phase empty => simp [receives, empty]
      | readShutdown phase first => simp [receives, phase, first]
      | early phase | ended phase => simp [receives, phase] }

/-- Others do something while the output is frozen. -/
theorem Frozen.frozenRun_of_other (h : r.Frozen thaw) (other : action.isStep = false) :
    FrozenRun t k thaw r [action] := by
  cases action with
  | step => cases other
  | send | setModes | publish | close =>
    refine ⟨⟨h.until_eq, h.phase⟩, rfl, rfl, rfl, fun _ mem => absurd mem List.not_mem_nil, ?_⟩
    exact ⟨.inl, fun pending => pending.resolve_right List.not_mem_nil⟩

theorem FrozenRun.cons (first : FrozenRun t k thaw r [action])
    (others : FrozenRun t k thaw (r.act t k action) rest) :
    FrozenRun t k thaw r (action :: rest) where
  frozen := others.frozen
  takes_eq := by
    have taken := first.takes_eq
    have taken' := others.takes_eq
    simp only [takes, collect, List.append_nil] at taken taken' ⊢
    rw [taken, taken', List.append_nil]
  trace_eq := others.trace_eq.trans first.trace_eq
  handoff_eq := others.handoff_eq.trans (congrArg (rest.foldl FrameHandoff.undergo) first.handoff_eq)
  only_hears deed mem := by
    have hears := first.only_hears deed
    rw [deeds, deeds, List.append_nil] at hears
    rw [deeds] at mem
    exact (List.mem_append.mp mem).elim hears (others.only_hears deed)
  pending_iff := by
    have pending : (r.act t k action).pendingSave = true ↔ _ := first.pending_iff
    rw [deeds, deeds, List.append_nil] at pending
    rw [deeds, List.mem_append, ← or_assoc, ← pending]
    exact others.pending_iff

/-- A frozen loop sits out what happens, unless it reads off the clock that the time has come. -/
theorem Frozen.frozenRun_act (h : r.Frozen thaw) (sound : r.Sound)
    (early : ∀ now, r.readBy? action = some now → now.nanos < thaw.nanos) :
    FrozenRun t k thaw r [action] := by
  cases step : action.isStep with
  | false => exact h.frozenRun_of_other step
  | true =>
    cases action with
    | step clock => exact ((stepRel_step sound).frozenStep h early).frozenRun h
    | _ => cases step

/-- So it stays frozen for what follows. -/
theorem Frozen.act (h : r.Frozen thaw) (sound : r.Sound)
    (early : ∀ now ∈ reads t k r (action :: rest), now.nanos < thaw.nanos) :
    (r.act t k action).Frozen thaw ∧
      ∀ now ∈ reads t k (r.act t k action) rest, now.nanos < thaw.nanos :=
  ⟨(h.frozenRun_act sound fun now read => early now (mem_reads_cons.mpr (.inl read))).frozen,
    fun now mem => early now (mem_reads_cons.mpr (.inr mem))⟩

theorem Frozen.frozenRun (h : r.Frozen thaw) (history : r.HistoryInv events lost)
    (early : ∀ now ∈ reads t k r schedule, now.nanos < thaw.nanos) : FrozenRun t k thaw r schedule := by
  induction schedule generalizing r events lost with
  | nil => exact h.frozenRun_nil
  | cons action rest ih =>
    obtain ⟨events₁, lost₁, history₁⟩ := history.act t k action
    have first : FrozenRun t k thaw r [action] :=
      h.frozenRun_act history.sound fun now read => early now (mem_reads_cons.mpr (.inl read))
    obtain ⟨frozen, later⟩ := h.act history.sound early
    exact first.cons (ih frozen history₁ later)

/-! ## Commands -/

/-- A frozen loop that has a command to read goes on to read it, or reads it: a request is pending then, and
otherwise the loop ends. -/
theorem FrozenStep.command_cases (i : FrozenStep r r') {command : Command} {queue : List Command}
    (first : r.queue = command :: queue) :
    r'.phase = .ended .shutdown ∨
      (r.phase = .thaw ∧ r'.phase = .drain ∧ r'.queue = command :: queue) ∨
      command = .snapshot ∧ r'.phase = .drain ∧ r'.queue = queue ∧ r'.pendingSave = true := by
  cases i with
  | readNothing phase empty => cases empty.symm.trans first
  | readSnapshot phase first' =>
    obtain ⟨rfl, rfl⟩ := List.cons.inj (first'.symm.trans first)
    exact .inr (.inr ⟨rfl, phase, rfl, rfl⟩)
  | readShutdown => exact .inl rfl
  | early phase => exact .inr (.inl ⟨phase, rfl, first⟩)
  | ended phase => exact .inl phase

/-- While the output is frozen the loop goes on reading: what is in front of its queue is read in as many
steps, and one more if it is to look at the clock first. -/
theorem Frozen.drains (h : r.Frozen thaw) (history : r.HistoryInv events lost)
    (early : ∀ now ∈ reads t k r schedule, now.nanos < thaw.nanos) {front behind : List Command}
    (queue_eq : r.queue = front ++ behind)
    (steps : front.length + (decide (r.phase = .thaw)).toNat ≤ schedule.countP (·.isStep)) :
    (r.run t k schedule).phase = .ended .shutdown ∨
      .shutdown ∉ front ∧ (.snapshot ∈ front → (r.run t k schedule).pendingSave = true) := by
  induction schedule generalizing r events lost front behind with
  | nil =>
    rw [List.countP_nil] at steps
    have empty : front = [] := List.eq_nil_of_length_eq_zero (by omega)
    exact .inr (by simp [empty])
  | cons action rest ih =>
    obtain ⟨events₁, lost₁, history₁⟩ := history.act t k action
    obtain ⟨frozen, later⟩ := h.act history.sound early
    cases front with
    | nil => exact .inr (by simp)
    | cons command front =>
      obtain ⟨clock, rfl, s⟩ | ⟨other, u⟩ := act_cases (t := t) (k := k) history.sound action
      · rw [List.countP_cons_of_pos rfl, List.length_cons] at steps
        have i := s.frozenStep h fun now read => early now (mem_reads_cons.mpr (.inl read))
        obtain ended | ⟨phase, phase', queue⟩ | ⟨rfl, phase', queue, pending⟩ := i.command_cases queue_eq
        · exact .inl (phase_run_of_ended ended rest)
        · exact ih frozen history₁ later queue (by simp [phase, phase'] at steps ⊢; omega)
        · refine (ih frozen history₁ later queue (by simp [phase']; omega)).imp_right fun heard => ?_
          have sits : FrozenRun t k thaw (r.act t k (.step clock)) rest := frozen.frozenRun history₁ later
          exact ⟨by simp [heard.1], fun _ => sits.pending_iff.mpr (.inl pending)⟩
      · rw [List.countP_cons_of_neg (by simp [other])] at steps
        have queue : (r.act t k action).queue = (command :: front) ++ (behind ++ action.command?.toList) := by
          rw [u.queue, queue_eq, List.append_assoc]
        exact ih frozen history₁ later queue (by rwa [u.phase])

/-! ## Requests -/

/-- A request is pending, or will be before the next frame is given to the transform, and nothing that was
made before is due at the sink. -/
structure RequestDue (r : RenderLoop σ ρ) : Prop where
  idle : r.due = .nothing
  heard : r.pendingSave = true ∨ .snapshot ∈ r.queue
  ready : ∀ id, r.phase = .apply id → r.pendingSave = true

/-- An output becomes due at a call of the transform. -/
theorem StepRel.apply_of_toShow (s : StepRel t k clock r r') (idle : r.due = .nothing) {output : Frame}
    (due' : r'.due = .toShow output) : ∃ id, r.phase = .apply id := by
  cases s with
  | transformed phase => exact ⟨_, phase⟩
  | readSnapshot | ended => cases idle.symm.trans due'
  | _ => exact absurd due' (due_ne_toShow (by simp))

/-- A step leaves the request pending, or makes the output that it is for. -/
theorem StepRel.requestDue (s : StepRel t k clock r r') (h : r.RequestDue)
    (unmade : ∀ event, .did event ∈ r.deedsTo r' → event.rendered? = none) : r'.RequestDue := by
  have ready : ∀ id, r'.phase = .apply id → r'.pendingSave = true := by
    intro id phase'
    obtain ⟨-, empty, rfl⟩ := s.apply_cases phase'
    exact h.heard.resolve_right (by simp [empty])
  have does := s.deedRel.1
  generalize r.deedsTo r' = ds at does unmade
  have pending : r'.due = .nothing ∧ (r'.pendingSave = true ∨ r'.pendingSave = r.pendingSave) := by
    cases does with
    | goesOn _ _ due' same => exact ⟨due', .inr same⟩
    | hears _ due' pending => exact ⟨due', .inl pending⟩
    | fails _ _ due' same => exact ⟨due', .inr same⟩
    | makes _ fits =>
      have none := unmade _ (List.mem_singleton_self _)
      rw [RenderEvent.rendered?, if_pos fits] at none
      cases none
    | shows due | saves due => cases h.idle.symm.trans due
  obtain ⟨idle, pending | same⟩ := pending
  · exact ⟨idle, .inl pending, ready⟩
  · refine ⟨idle, ?_, ready⟩
    obtain ⟨-, -, pending, -⟩ | ⟨-, asked, spent, -⟩ | ⟨-, -, queue, -⟩ := s.request_cases
    · exact .inl pending
    · cases (asked.symm.trans same.symm).trans spent
    · rw [same, ← List.count_pos_iff, queue, List.count_pos_iff]
      exact h.heard

theorem RequestDue.act (h : r.RequestDue) (sound : r.Sound)
    (unmade : ∀ event, .did event ∈ r.deedsOf t k action → event.rendered? = none) :
    (r.act t k action).RequestDue := by
  obtain ⟨clock, rfl, s⟩ | ⟨other, u⟩ := act_cases (t := t) (k := k) sound action
  · exact s.requestDue h unmade
  · obtain ⟨step, -⟩ | ⟨-, due', pending⟩ := act_deedRel (t := t) (k := k) sound action
    · cases step.symm.trans other
    · refine ⟨due'.trans h.idle, ?_, fun id phase => ?_⟩
      · rw [pending, u.queue]
        exact h.heard.imp_right (List.mem_append_left _)
      · rw [pending]
        exact h.ready id (u.phase.symm.trans phase)

theorem RequestDue.run (h : r.RequestDue) (history : r.HistoryInv events lost)
    (unmade : ∀ event, .did event ∈ deeds t k r schedule → event.rendered? = none) :
    (r.run t k schedule).RequestDue := by
  induction schedule generalizing r events lost with
  | nil => exact h
  | cons action rest ih =>
    obtain ⟨events₁, lost₁, history₁⟩ := history.act t k action
    have first := h.act history.sound fun event mem => unmade event (List.mem_append_left _ mem)
    exact ih first history₁ fun event mem => unmade event (List.mem_append_right _ mem)

/-- The output for the first frame of which the transform makes one is shown and saved. -/
theorem RequestDue.deeds_of_first (h : r.RequestDue) (history : r.HistoryInv events lost)
    {quiet after : List RenderDeed} {f : Frame} {modes : CartoonModes} {buffer out : Bytes}
    (split : deeds t k r schedule = quiet ++ .did (.applied f modes buffer (.done out)) :: after)
    (fits : out.length = f.data.length) (unmade : ∀ event, .did event ∈ quiet → event.rendered? = none)
    (steps : 2 ≤ rest.countP (·.isStep)) :
    ∃ shown ok others, deeds t k r (schedule ++ rest) =
      quiet ++ .did (.applied f modes buffer (.done out)) :: .did (.presented ⟨f.metadata, out⟩ shown) ::
        .did (.saved ⟨f.metadata, out⟩ ok) :: others := by
  obtain ⟨earlier, action, later, rfl, rfl, deed, does⟩ := exists_act_of_split history split
  obtain ⟨events₁, lost₁, history₁⟩ := history.run t k earlier
  obtain ⟨events₂, lost₂, history₂⟩ := history₁.act t k action
  have request : (r.run t k earlier).RequestDue := h.run history unmade
  obtain ⟨due', pending⟩ := does.of_made fits
  have asked : ((r.run t k earlier).act t k action).pendingSave = true := by
    obtain ⟨clock, rfl, s⟩ | ⟨other, -⟩ := act_cases (t := t) (k := k) history₁.sound action
    · obtain ⟨id, phase⟩ := s.apply_of_toShow request.idle due'
      rw [pending]
      exact request.ready id phase
    · rw [deedsOf_of_other other] at deed
      cases deed
  have steps' : 2 ≤ (later ++ rest).countP (·.isStep) := by
    rw [List.countP_append]
    exact Nat.le_add_left_of_le steps
  obtain ⟨shown, others, deeds_eq, attempt⟩ := deeds_of_toShow history₂ due' steps'
  obtain ⟨ok, others, rfl⟩ := attempt asked
  refine ⟨shown, ok, others, ?_⟩
  rw [List.append_assoc, List.cons_append, deeds_append, deeds, deed, deeds_eq]
  rfl

theorem Frozen.requestDue (h : r.Frozen thaw) (queued : .snapshot ∈ r.queue) : r.RequestDue where
  idle := by obtain phase | phase | phase := h.phase <;> simp [due, phase]
  heard := .inr queued
  ready id phase := by simpa [phase] using h.phase

theorem Frozen.requestDue_run_of_queued (h : r.Frozen thaw) (history : r.HistoryInv events lost)
    (early : ∀ now ∈ reads t k r schedule, now.nanos < thaw.nanos) (queued : .snapshot ∈ r.queue) :
    (r.run t k schedule).RequestDue := by
  refine (h.requestDue queued).run history fun event mem => ?_
  cases (h.frozenRun history early).only_hears _ mem

/-- A request that is in the queue of a frozen loop, or is sent to it, is for the first frame of which the
transform makes an output afterwards. -/
theorem Frozen.requestDue_run (h : r.Frozen thaw) (history : r.HistoryInv events lost)
    (early : ∀ now ∈ reads t k r schedule, now.nanos < thaw.nanos)
    (sent : .snapshot ∈ r.queue ∨ .send .snapshot ∈ schedule) : (r.run t k schedule).RequestDue := by
  obtain queued | sent := sent
  · exact h.requestDue_run_of_queued history early queued
  · induction schedule generalizing r events lost with
    | nil => cases sent
    | cons action rest ih =>
      obtain ⟨events₁, lost₁, history₁⟩ := history.act t k action
      obtain ⟨frozen, later⟩ := h.act history.sound early
      obtain rfl | sent := List.mem_cons.mp sent
      · have queued : .snapshot ∈ (r.send .snapshot).queue := List.mem_concat_self
        exact frozen.requestDue_run_of_queued history₁ later queued
      · exact ih frozen history₁ later sent

/-! ## Main statement -/

/-- A time until which the output is frozen is not replaced by another one. -/
theorem StepRel.frozenUntil_cases {period : Duration} (s : StepRel t k clock r r')
    (h : r.UnfrozenInv period) (until_eq : r.frozenUntil = some thaw) :
    r'.frozenUntil = some thaw ∨ r'.frozenUntil = none := by
  cases s with
  | saved phase | overloaded phase =>
    have free := h.free (by rw [phase]; rfl)
    cases free.symm.trans until_eq
  | thawed => exact .inr rfl
  | _ => exact .inl until_eq

/-- **A saved output stays until its time has come.** Whatever happens to a loop in which order, and however
the clock goes: after an output was saved at a time, and is to be frozen for a while whose end the clock can
show, the loop sits out whatever happens until it reads a time off the clock at which this while is over, and
then looks for a frame. Until then it goes on reading its commands, so that it ends if it is told to; and if a
request was sent, the output for the first frame of which the transform makes one afterwards is shown and
saved. The first frame that the loop takes afterwards is the last one of those that waited or were published
since, and the others were counted as dropped. Where the clock cannot show the end of the while, the loop
breaks down: it takes nothing, does nothing and reads no command any more. With a frame at hand the output is
never frozen, and no time until which it is frozen is replaced by another one. -/
theorem saveOutput_frozenRun {stream : StreamFormat} {c : FrameHandoff}
    (started : FrameHandoff.start stream = .ok c)
    (settings : RenderSettings) (t : FrameTransform σ) (k : FrameSink ρ) (transform : σ) (sink : ρ) :
    let loop := start c settings transform sink
    (∀ before clock output,
      let r := loop.run t k before
      let frozen := r.step t k clock
      settings.freezeAfterSave.nanos ≠ 0 → r.deedsOf t k (.step clock) = [.did (.saved output true)] →
        (∀ thaw, Clock.after clock.now settings.freezeAfterSave = .ok thaw →
          ∀ rest, (∀ now ∈ reads t k frozen rest, now.nanos < thaw.nanos) →
            let e := frozen.run t k rest
            FrozenRun t k thaw frozen rest ∧
              (∀ late, e.phase = .thaw → thaw.nanos ≤ late.now.nanos → (e.step t k late).phase = .take) ∧
              (∀ more : List RenderAction, (∀ now ∈ reads t k e more, now.nanos < thaw.nanos) →
                e.queue.length < more.countP (·.isStep) →
                  (.shutdown ∈ e.queue → (e.run t k more).phase = .ended .shutdown) ∧
                  (.snapshot ∈ e.queue →
                    (e.run t k more).phase = .ended .shutdown ∨ (e.run t k more).pendingSave = true)) ∧
              (.snapshot ∈ frozen.queue ∨ .send .snapshot ∈ rest →
                ∀ later quiet f modes buffer out after,
                  deeds t k e later = quiet ++ .did (.applied f modes buffer (.done out)) :: after →
                    out.length = f.data.length →
                    (∀ event, .did event ∈ quiet → event.rendered? = none) →
                      ∀ more : List RenderAction, 2 ≤ more.countP (·.isStep) →
                        ∃ shown ok others, deeds t k e (later ++ more) =
                          quiet ++ .did (.applied f modes buffer (.done out)) ::
                            .did (.presented ⟨f.metadata, out⟩ shown) ::
                              .did (.saved ⟨f.metadata, out⟩ ok) :: others)) ∧
        (∀ o, Clock.after clock.now settings.freezeAfterSave = .error o → ∀ rest,
          let e := frozen.run t k rest
          e.phase = .ended (.overloaded o) ∧ takes t k frozen rest = [] ∧ deeds t k frozen rest = [] ∧
            e.queue = frozen.queue ++ rest.filterMap RenderAction.command?) ∧
        ∀ all f, takes t k frozen all = [] → (frozen.run t k all).taken? = some f →
          ∃ earlier, frozen.handoff.plain.waiting.toList ++ publishes t k frozen all = earlier ++ [f] ∧
            (frozen.run t k all).handoff.session.stats.dropped =
              frozen.handoff.session.stats.dropped + earlier.length) ∧
      (∀ schedule, (loop.run t k schedule).frameAtHand? ≠ none →
        (loop.run t k schedule).frozenUntil = none) ∧
      ∀ schedule action thaw thaw', (loop.run t k schedule).frozenUntil = some thaw →
        ((loop.run t k schedule).act t k action).frozenUntil = some thaw' → thaw' = thaw := by
  intro loop
  have history : loop.HistoryInv [] [] := historyInv_start started settings transform sink
  have unfrozen (schedule) : (loop.run t k schedule).UnfrozenInv settings.freezeAfterSave :=
    UnfrozenInv.run ⟨rfl, fun _ => rfl⟩ history t k schedule
  refine ⟨?_, ?_, ?_⟩
  · intro before clock output r frozen period deed
    obtain ⟨events, lost, history₁⟩ := history.run t k before
    have history₂ : frozen.HistoryInv _ _ := history₁.step t k clock
    have period_eq : r.settings.freezeAfterSave = settings.freezeAfterSave := (unfrozen before).period_eq
    have s : StepRel t k clock r frozen := stepRel_step history₁.sound
    rw [← period_eq] at period ⊢
    refine ⟨fun thaw after => ?_, fun o beyond rest => ?_,
      fun all f untaken taken => history₂.dropped_before_taken untaken taken⟩
    · intro rest early e
      have freezes : frozen.Frozen thaw := s.frozen_of_saved deed period after
      have sits : FrozenRun t k thaw frozen rest := freezes.frozenRun history₂ early
      obtain ⟨events', lost', history₃⟩ := history₂.run t k rest
      refine ⟨sits, fun late => sits.frozen.phase_of_late, fun more early' steps => ?_, fun sent => ?_⟩
      · obtain ended | ⟨not_told, heard⟩ := sits.frozen.drains history₃ early' (List.append_nil _).symm
          (Nat.le_trans (Nat.add_le_add_left (Bool.toNat_le _) _) steps)
        · exact ⟨fun _ => ended, fun _ => .inl ended⟩
        · exact ⟨fun told => absurd told not_told, fun queued => .inr (heard queued)⟩
      · intro later quiet f modes buffer out after split fits unmade more steps
        exact (freezes.requestDue_run history₂ early sent).deeds_of_first history₃ split fits unmade steps
    · have ended : frozen.phase = .ended (.overloaded o) := s.overloaded_of_saved deed period beyond
      exact ⟨phase_run_of_ended ended rest, idle_of_ended ended t k rest⟩
  · intro schedule held
    refine (unfrozen schedule).free ?_
    cases atHand : (loop.run t k schedule).phase.atHand? with
    | none => simp [frameAtHand?, atHand] at held
    | some id => exact RenderPhase.isThawed_of_atHand atHand
  · intro schedule action thaw thaw' until_eq until_eq'
    obtain ⟨events, lost, history₁⟩ := history.run t k schedule
    have kept : ((loop.run t k schedule).act t k action).frozenUntil = some thaw ∨
        ((loop.run t k schedule).act t k action).frozenUntil = none := by
      cases action with
      | step clock => exact (stepRel_step history₁.sound).frozenUntil_cases (unfrozen schedule) until_eq
      | _ => exact .inl until_eq
    rw [until_eq'] at kept
    rcases kept with same | free
    · exact Option.some.inj same
    · cases free

/-- A frame is saved at time 3 and stays for 4. Two frames are published meanwhile and a snapshot is
requested: the first of them is dropped, and the other one is taken at time 7, and saved. Told to end
meanwhile, the loop ends. -/
theorem saveOutput_frozenRun_two_snapshots :
    ∃ c frozen e earlier shown ok others, FrameHandoff.start ⟨1, 1, .gray8⟩ = .ok c ∧
      (run .negative .memorySink (start c { freezeAfterSave := ⟨4⟩ } () {})
        ([.send .snapshot, .publish [5]] ++ List.replicate 7 (.step ⟨⟨3⟩, ⟨0⟩⟩))).step .negative .memorySink
          ⟨⟨3⟩, ⟨0⟩⟩ = frozen ∧
      frozen.run .negative .memorySink
        ([.publish [6], .publish [7], .send .snapshot] ++ List.replicate 4 (.step ⟨⟨6⟩, ⟨0⟩⟩)) = e ∧
      e.Frozen ⟨7⟩ ∧ e.pendingSave = true ∧ (e.step .negative .memorySink ⟨⟨7⟩, ⟨0⟩⟩).phase = .take ∧
      ([⟨⟨2, ⟨1, 1, .gray8⟩⟩, [6]⟩, ⟨⟨3, ⟨1, 1, .gray8⟩⟩, [7]⟩] : List Frame) =
        earlier ++ [⟨⟨3, ⟨1, 1, .gray8⟩⟩, [7]⟩] ∧
      e.handoff.session.stats.dropped = earlier.length ∧
      deeds .negative .memorySink e (List.replicate 4 (.step ⟨⟨7⟩, ⟨0⟩⟩) ++
          List.replicate 2 (.step ⟨⟨7⟩, ⟨0⟩⟩)) =
        [] ++ .did (.applied ⟨⟨3, ⟨1, 1, .gray8⟩⟩, [7]⟩ {} [] (.done [248])) ::
          .did (.presented ⟨⟨3, ⟨1, 1, .gray8⟩⟩, [248]⟩ shown) ::
            .did (.saved ⟨⟨3, ⟨1, 1, .gray8⟩⟩, [248]⟩ ok) :: others ∧
      ((frozen.run .negative .memorySink [.send .shutdown]).run .negative .memorySink
        (List.replicate 2 (.step ⟨⟨6⟩, ⟨0⟩⟩))).phase = .ended .shutdown := by
  obtain ⟨freezes, -, -⟩ := saveOutput_frozenRun (rfl : FrameHandoff.start ⟨1, 1, .gray8⟩ = .ok _)
    { freezeAfterSave := ⟨4⟩ } .negative .memorySink () {}
  obtain ⟨untilThaw, -, first⟩ := freezes
    ([.send .snapshot, .publish [5]] ++ List.replicate 7 (.step ⟨⟨3⟩, ⟨0⟩⟩)) ⟨⟨3⟩, ⟨0⟩⟩
    ⟨⟨1, ⟨1, 1, .gray8⟩⟩, [250]⟩ nofun rfl
  obtain ⟨sits, late, -, requested⟩ := untilThaw ⟨7⟩ rfl
    ([.publish [6], .publish [7], .send .snapshot] ++ List.replicate 4 (.step ⟨⟨6⟩, ⟨0⟩⟩)) (by decide +kernel)
  obtain ⟨shown, ok, others, deeds_eq⟩ :=
    requested (.inr (by decide)) (List.replicate 4 (.step ⟨⟨7⟩, ⟨0⟩⟩)) []
    ⟨⟨3, ⟨1, 1, .gray8⟩⟩, [7]⟩ {} [] [248] [] rfl rfl (fun _ mem => absurd mem List.not_mem_nil)
    (List.replicate 2 (.step ⟨⟨7⟩, ⟨0⟩⟩)) (Nat.le_refl 2)
  obtain ⟨earlier, offered, dropped⟩ := first
    ([.publish [6], .publish [7], .send .snapshot] ++ List.replicate 4 (.step ⟨⟨6⟩, ⟨0⟩⟩) ++
      [.step ⟨⟨7⟩, ⟨0⟩⟩]) ⟨⟨3, ⟨1, 1, .gray8⟩⟩, [7]⟩ rfl rfl
  obtain ⟨-, -, told, -⟩ := untilThaw ⟨7⟩ rfl [.send .shutdown] (by decide +kernel)
  have ended := (told (List.replicate 2 (.step ⟨⟨6⟩, ⟨0⟩⟩)) (by decide +kernel) (Nat.le_refl 2)).1
    (List.mem_singleton_self _)
  have pending := sits.pending_iff.mpr (.inr (by decide +kernel))
  exact ⟨_, _, _, earlier, shown, ok, others, rfl, rfl, rfl, sits.frozen, pending,
    late ⟨⟨7⟩, ⟨0⟩⟩ rfl (Nat.le_refl 7), offered, dropped.trans (Nat.zero_add _), deeds_eq, ended⟩

/-- An output is saved that is to be frozen for as long as a duration can last, and the loop is told to end:
the command is not read, and the loop reports nothing. -/
theorem saveOutput_overflow_unread :
    ∃ c frozen e, FrameHandoff.start ⟨1, 1, .gray8⟩ = .ok c ∧
      let period : Duration := .ofSeconds (Word.limit - 1) 999999999
      (run .negative .memorySink (start c { freezeAfterSave := period } () {})
        ([.send .snapshot, .publish [5]] ++ List.replicate 7 (.step ⟨⟨3⟩, ⟨0⟩⟩))).step .negative .memorySink
          ⟨⟨3⟩, ⟨0⟩⟩ = frozen ∧
      .saved ⟨⟨1, ⟨1, 1, .gray8⟩⟩, [250]⟩ true ∈ frozen.trace ∧
      frozen.run .negative .memorySink (.send .shutdown :: List.replicate 9 (.step ⟨⟨6⟩, ⟨0⟩⟩)) = e ∧
      e.queue = [.shutdown] ∧ e.phase ≠ .ended .shutdown ∧ e.finalReport = .error .panicked := by
  exact ⟨_, _, _, rfl, rfl, by decide +kernel, rfl, rfl, nofun, rfl⟩

end RenderLoop

end FramePipeline
