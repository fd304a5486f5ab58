import FramePipeline.Proofs.Render.FrameTakings
import FramePipeline.Proofs.Render.Settling
import FramePipeline.Proofs.Render.SnapshotRequests

/-!
# The end of rendering

A render loop is told to end through its queue, or finds that its session was stopped. It may be anywhere in
its round then, and others go on doing what they like. What it is still going to do is bounded all the same:
there is one call of the transform at most, and it is for the frame at hand; commands behind the one that
tells the loop to end have no effect whatever; and what was taken is given to the transform, but for one
frame at most.

Main definitions: `RenderLoop.Curtailment` (the two loops differ in commands that are never read). Main
statement: `RenderLoop.shutdown_apply_le_one`.
-/

namespace FramePipeline.RenderLoop

variable {σ ρ : Type} {t : FrameTransform σ} {k : FrameSink ρ} {clock : Reading} {r r' : RenderLoop σ ρ}
  {events : List SlotEvent} {lost : List Frame} {action : RenderAction} {schedule : List RenderAction}
  {f : Frame}

/-! ## Calls of the transform -/

/-- A step gives the frame at hand to the transform, or nothing. -/
theorem StepRel.call_cases (s : StepRel t k clock r r') :
    (∃ id f, r.phase = .apply id ∧ r.frameAtHand? = some f ∧ (∀ id, r'.phase ≠ .apply id) ∧
        r'.inputs = r.inputs ++ [f]) ∨
      (∀ id, r.phase ≠ .apply id) ∧ r'.inputs = r.inputs := by
  cases s with
  | @panicked id f transform phase frame | @failed id f result out transform phase frame
  | @transformed id f out transform phase frame =>
    refine .inl ⟨id, f, phase, frameAtHand?_eq (by rw [phase]; rfl) frame, by simp, ?_⟩
    simp [inputs, RenderEvent.input?]
  | readSnapshot reads =>
    refine .inr ⟨fun id phase => ?_, rfl⟩
    obtain phase' | ⟨id', phase'⟩ := reads <;> cases phase.symm.trans phase'
  | presentFailed phase | presented phase | saveFailed phase | saved phase | overloaded phase =>
    exact .inr ⟨by simp [phase], by simp [inputs, RenderEvent.input?]⟩
  | readNothing phase | readNothingWith phase | readShutdown phase | readShutdownWith phase
  | notFrozen phase | frozen phase | thawed phase | tookNothing phase | foundClosed phase | took phase
  | notSaved phase | ended phase =>
    exact .inr ⟨by simp [phase], rfl⟩

theorem Undisturbed.inputs {sent : List Command} (u : r.Undisturbed r' sent) : r'.inputs = r.inputs :=
  congrArg (List.filterMap RenderEvent.input?) u.trace

theorem inputs_act (sound : r.Sound) (t : FrameTransform σ) (k : FrameSink ρ) (action : RenderAction) :
    ∃ more, (r.act t k action).inputs = r.inputs ++ more := by
  obtain ⟨clock, rfl, s⟩ | ⟨-, u⟩ := act_cases (t := t) (k := k) sound action
  · obtain ⟨id, f, -, -, -, more⟩ | ⟨-, same⟩ := s.call_cases
    · exact ⟨[f], more⟩
    · exact ⟨[], by rw [List.append_nil]; exact same⟩
  · exact ⟨[], by rw [List.append_nil]; exact u.inputs⟩

/-- Calls are not undone. -/
theorem HistoryInv.inputs_run (h : r.HistoryInv events lost) (t : FrameTransform σ) (k : FrameSink ρ)
    (schedule : List RenderAction) : ∃ more, (r.run t k schedule).inputs = r.inputs ++ more := by
  induction schedule generalizing r events lost with
  | nil => exact ⟨[], (List.append_nil _).symm⟩
  | cons action rest ih =>
    obtain ⟨events₁, lost₁, history⟩ := h.act t k action
    obtain ⟨first, eq⟩ := inputs_act h.sound t k action
    obtain ⟨more, eq'⟩ := ih history
    exact ⟨first ++ more, by rw [← List.append_assoc, ← eq]; exact eq'⟩

/-! ## Told to end -/

/-- What was told to the loop stays told. -/
theorem StepRel.told (s : StepRel t k clock r r') (told : r.Told) : r'.Told := by
  cases s with
  | readSnapshot reads first =>
    refine told.imp_left fun mem => ?_
    rw [first] at mem
    cases mem with
    | tail _ there => exact there
  | readShutdown | readShutdownWith => exact .inr rfl
  | ended => exact told
  | _ => exact .inl (told.resolve_right (by simp_all))

theorem told_act (sound : r.Sound) (told : r.Told) (t : FrameTransform σ) (k : FrameSink ρ)
    (action : RenderAction) :
    (r.act t k action).Told := by
  obtain ⟨clock, rfl, s⟩ | ⟨-, u⟩ := act_cases (t := t) (k := k) sound action
  · exact s.told told
  · rw [Told, u.queue, u.phase]
    exact told.imp_left (List.mem_append_left _)

/-- A loop that was told to end gives no other frame to the transform. -/
theorem not_apply_act (sound : r.Sound) (told : r.Told) (unready : ∀ id, r.phase ≠ .apply id) (id : CellId) :
    (r.act t k action).phase ≠ .apply id := by
  intro phase'
  obtain ⟨clock, rfl, s⟩ | ⟨-, u⟩ := act_cases (t := t) (k := k) sound action
  · obtain ⟨phase, empty, -⟩ := s.apply_cases phase'
    rw [Told, phase, empty] at told
    simp at told
  · exact unready id (u.phase.symm.trans phase')

theorem HistoryInv.inputs_of_told (h : r.HistoryInv events lost) (told : r.Told)
    (unready : ∀ id, r.phase ≠ .apply id) : (r.run t k schedule).inputs = r.inputs := by
  induction schedule generalizing r events lost with
  | nil => rfl
  | cons action rest ih =>
    obtain ⟨events₁, lost₁, history⟩ := h.act t k action
    have same : (r.act t k action).inputs = r.inputs := by
      obtain ⟨clock, rfl, s⟩ | ⟨-, u⟩ := act_cases (t := t) (k := k) h.sound action
      · obtain ⟨id, f, phase, -⟩ | ⟨-, same⟩ := s.call_cases
        · exact absurd phase (unready id)
        · exact same
      · exact u.inputs
    exact (ih history (told_act h.sound told t k action) (not_apply_act h.sound told unready)).trans same

/-- Where the frame at hand is to be given to the transform, it is the last one. -/
theorem HistoryInv.inputs_of_told_apply (h : r.HistoryInv events lost) (told : r.Told) {id : CellId}
    (phase : r.phase = .apply id) (held : r.frameAtHand? = some f) :
    (r.run t k schedule).inputs = r.inputs ∨ (r.run t k schedule).inputs = r.inputs ++ [f] := by
  induction schedule generalizing r events lost with
  | nil => exact .inl rfl
  | cons action rest ih =>
    obtain ⟨events₁, lost₁, history⟩ := h.act t k action
    have told' := told_act h.sound told t k action
    obtain ⟨clock, rfl, s⟩ | ⟨-, u⟩ := act_cases (t := t) (k := k) h.sound action
    · obtain ⟨id', g, -, held', unready, more⟩ | ⟨unready, -⟩ := s.call_cases
      · obtain rfl := Option.some.inj (held.symm.trans held')
        exact .inr ((history.inputs_of_told told' unready).trans more)
      · exact absurd phase (unready id)
    · rw [← u.inputs]
      exact ih history told' (u.phase.trans phase) (u.frameAtHand.trans held)

/-! ## Nothing left to take -/

theorem unapplied_cases (r : RenderLoop σ ρ) :
    r.unapplied = [] ∨ ∃ f, r.phase.hasInput = true ∧ r.frameAtHand? = some f ∧ r.unapplied = [f] := by
  unfold unapplied
  split
  · next input =>
    cases r.frameAtHand? with
    | none => exact .inl rfl
    | some f => exact .inr ⟨f, input, rfl, rfl⟩
  · exact .inl rfl

/-- Where nothing is taken, only the frame at hand may still be given to the transform. -/
theorem HistoryInv.inputs_of_untaken (h : r.HistoryInv events lost) (untaken : takes t k r schedule = []) :
    (r.run t k schedule).inputs = r.inputs ∨
      ∃ f, r.phase.hasInput = true ∧ r.frameAtHand? = some f ∧
        (r.run t k schedule).inputs = r.inputs ++ [f] := by
  obtain ⟨more, inputs_eq⟩ := h.inputs_run t k schedule
  have balance := h.takes_eq t k schedule
  rw [untaken, inputs_eq, List.append_nil, List.append_assoc, List.append_assoc, List.append_assoc,
    List.append_cancel_left_eq] at balance
  obtain none | ⟨f, input, held, one⟩ := r.unapplied_cases
  · have nothing : more = [] := by
      rw [none] at balance
      have lengths := congrArg List.length balance
      simp only [List.length_append, List.length_nil] at lengths
      exact List.eq_nil_of_length_eq_zero (by omega)
    exact .inl (by rw [inputs_eq, nothing, List.append_nil])
  · -- A loop that gave up a frame has ended, and has none at hand.
    have kept : lost = [] := by
      cases ended : r.hasEnded with
      | false => exact h.lost_eq_nil ended
      | true =>
        rw [unapplied_of_ended ended] at one
        cases one
    rw [one, kept, List.append_nil] at balance
    obtain ⟨rfl, -⟩ | ⟨rfl, -⟩ := List.append_eq_singleton_iff.mp balance
    · exact .inl (by rw [inputs_eq, List.append_nil])
    · exact .inr ⟨f, input, held, inputs_eq⟩

/-! ## Commands that are never read -/

theorem goTo_with_queue (r : RenderLoop σ ρ) (queue : List Command) (next : RenderPhase) :
    { r with queue }.goTo next = { r.goTo next with queue } := by
  unfold goTo
  dsimp only
  split <;> rfl

theorem freezeOutput_with_queue (r : RenderLoop σ ρ) (queue : List Command) (now : Duration) :
    { r with queue }.freezeOutput now = { r.freezeOutput now with queue } := by
  unfold freezeOutput
  dsimp only
  split
  · exact goTo_with_queue r queue .drain
  · split
    · next thaw _ => exact goTo_with_queue { r with frozenUntil := some thaw } queue .drain
    · next o _ => exact goTo_with_queue r queue (.ended (.overloaded o))

theorem saveOutput_with_queue (r : RenderLoop σ ρ) (k : FrameSink ρ) (queue : List Command) (now : Duration)
    (f : Frame) : { r with queue }.saveOutput k now f = { r.saveOutput k now f with queue } := by
  unfold saveOutput
  dsimp only
  split
  · split
    · next e sink _ =>
      exact goTo_with_queue ({ r with
        sink, pendingSave := false, counts.errors := r.counts.errors + 1 }.note (.saved f false)) queue .drain
    · next sink _ =>
      exact freezeOutput_with_queue ({ r with
        sink, pendingSave := false, counts.snapshots := r.counts.snapshots + 1 }.note (.saved f true))
        queue now
  · exact goTo_with_queue r queue .drain

/-- Where the loop reads no command, its queue does not matter. -/
theorem step_with_queue (t : FrameTransform σ) (k : FrameSink ρ) (clock : Reading) (queue : List Command)
    (other : r.phase ≠ .drain) (other' : ∀ id, r.phase ≠ .drainWith id) :
    { r with queue }.step t k clock = { r.step t k clock with queue } := by
  obtain ⟨handoff, settings, modes, unread, phase, pendingSave, frozenUntil, scratch, window, counts,
    transform, sink, trace⟩ := r
  cases phase with
  | drain => exact absurd rfl other
  | drainWith id => exact absurd rfl (other' id)
  | thaw =>
    simp only [step, checkFrozenUntil, goTo, RenderPhase.atHand?]
    split
    · rfl
    · split <;> rfl
  | take =>
    simp only [step, takeFrame, goTo, RenderPhase.atHand?]
    split <;> rfl
  | apply id =>
    simp only [step, applyTransform, goTo, note, countFailure, RenderPhase.atHand?]
    split
    · split
      · rfl
      · rfl
      · split <;> rfl
    · rfl
  | present id =>
    simp only [step, presentOutput, output, goTo, note, countFailure, RenderPhase.atHand?]
    split
    · split <;> rfl
    · rfl
  | save id =>
    simp only [step, output]
    split
    · next frame _ =>
      exact saveOutput_with_queue ⟨handoff, settings, modes, unread, .save id, pendingSave, frozenUntil,
        scratch, window, counts, transform, sink, trace⟩ k queue clock.now ⟨frame.metadata, scratch⟩
    · rfl
  | ended why => rfl

theorem hasEnded_goTo (r : RenderLoop σ ρ) (why : RenderEnd) : (r.goTo (.ended why)).hasEnded = true := by
  unfold goTo
  split <;> rfl

theorem step_of_snapshot (reads : r.phase = .drain ∨ ∃ id, r.phase = .drainWith id) {queue : List Command}
    (first : r.queue = .snapshot :: queue) : r.step t k clock = { r with queue, pendingSave := true } := by
  obtain phase | ⟨id, phase⟩ := reads <;> simp [step, phase, drainCommands, first]

theorem step_of_shutdown (reads : r.phase = .drain ∨ ∃ id, r.phase = .drainWith id) {queue : List Command}
    (first : r.queue = .shutdown :: queue) : r.step t k clock = { r with queue }.goTo (.ended .shutdown) := by
  obtain phase | ⟨id, phase⟩ := reads <;> simp [step, phase, drainCommands, first]

/-- The second loop lacks the commands of the first one that are behind one that tells it to end. -/
def Curtailment (r r' : RenderLoop σ ρ) : Prop :=
  ∃ queue, r' = { r with queue } ∧
    (r.hasEnded = true ∨ ∃ ahead behind, r.queue = ahead ++ .shutdown :: behind ∧
      queue = ahead ++ [.shutdown])

namespace Curtailment

variable (h : r.Curtailment r')

include h

/-- Both loops read the same command, or that they are to end. -/
theorem step (t : FrameTransform σ) (k : FrameSink ρ) (clock : Reading) :
    (r.step t k clock).Curtailment (r'.step t k clock) := by
  obtain ⟨queue, rfl, ended | ⟨ahead, behind, queue_eq, rfl⟩⟩ := h
  · unfold hasEnded at ended
    split at ended
    · next why phase =>
      have still (r : RenderLoop σ ρ) (phase : r.phase = .ended why) : r.step t k clock = r := by
        simp [RenderLoop.step, phase]
      rw [still r phase, still { r with queue } phase]
      exact ⟨queue, rfl, .inl (by rw [hasEnded, phase])⟩
    · cases ended
  · by_cases reads : r.phase = .drain ∨ ∃ id, r.phase = .drainWith id
    · obtain ⟨rest, rest', first, first'⟩ | ⟨ahead, rfl⟩ :
          (∃ rest rest', r.queue = .shutdown :: rest ∧ ahead ++ [.shutdown] = .shutdown :: rest') ∨
            ∃ others, ahead = .snapshot :: others := by
        cases ahead with
        | nil => exact .inl ⟨behind, [], queue_eq, rfl⟩
        | cons command ahead =>
          cases command with
          | shutdown => exact .inl ⟨_, _, queue_eq, rfl⟩
          | snapshot => exact .inr ⟨ahead, rfl⟩
      · rw [step_of_shutdown reads first,
          step_of_shutdown (r := { r with queue := ahead ++ [.shutdown] }) reads first']
        refine ⟨rest', ?_, .inl ?_⟩
        · exact goTo_with_queue { r with queue := rest } rest' (.ended .shutdown)
        · exact hasEnded_goTo _ .shutdown
      · rw [step_of_snapshot reads queue_eq,
          step_of_snapshot (r := { r with queue := .snapshot :: ahead ++ [.shutdown] }) reads rfl]
        exact ⟨ahead ++ [.shutdown], rfl, .inr ⟨ahead, behind, rfl, rfl⟩⟩
    · obtain ⟨other, other'⟩ := not_or.mp reads
      have other' := not_exists.mp other'
      have same := congrArg RenderLoop.queue (step_with_queue t k clock r.queue other other')
      exact ⟨_, step_with_queue t k clock _ other other', .inr ⟨ahead, behind, same.trans queue_eq, rfl⟩⟩

/-- A command that is sent now is behind the others. -/
theorem send (c : Command) : (r.send c).Curtailment r' := by
  obtain ⟨queue, rfl, ended | ⟨ahead, behind, queue_eq, rfl⟩⟩ := h
  · exact ⟨queue, rfl, .inl ended⟩
  · refine ⟨_, rfl, .inr ⟨ahead, behind ++ [c], ?_, rfl⟩⟩
    rw [RenderLoop.send, queue_eq, List.append_assoc, List.cons_append]

theorem act (t : FrameTransform σ) (k : FrameSink ρ) (other : action.command? = none) :
    (r.act t k action).Curtailment (r'.act t k action) := by
  cases action with
  | step clock => exact h.step t k clock
  | send => cases other
  | setModes | publish | close =>
    obtain ⟨queue, rfl, behind⟩ := h
    exact ⟨queue, rfl, behind⟩

/-- Neither do commands matter that are sent later. -/
theorem run (t : FrameTransform σ) (k : FrameSink ρ) (schedule : List RenderAction) :
    (r.run t k schedule).Curtailment (r'.run t k (schedule.filter (·.command?.isNone))) := by
  induction schedule generalizing r r' with
  | nil => exact h
  | cons action rest ih =>
    cases command : action.command? with
    | none =>
      rw [List.filter_cons_of_pos (by simp [command])]
      exact ih (h.act t k command)
    | some c =>
      rw [List.filter_cons_of_neg (by simp [command])]
      cases action with
      | send => exact ih (h.send _)
      | _ => cases command

end Curtailment

/-! ## Main statement -/

/-- A frame is at hand wherever it is to be given to the transform. -/
theorem length_unapplied (sound : r.Sound) : r.unapplied.length = r.phase.hasInput.toNat := by
  unfold unapplied
  split
  · next input =>
    obtain ⟨id, held⟩ : ∃ id, r.phase.atHand? = some id := by
      cases phase : r.phase <;> simp_all [RenderPhase.hasInput, RenderPhase.atHand?]
    obtain ⟨f, frame⟩ := sound.exists_frame held
    rw [frameAtHand?_eq held frame, input]
    rfl
  · next input =>
    rw [Bool.eq_false_iff.mpr input]
    rfl

/-- **A loop that is to end calls the transform once more at most.** Whatever happens to a loop in which
order: once a command to end is in its queue, the transform is given no frame, or only the one that it was to
be given next, when the commands had been read after this frame was taken. Commands behind this one, also
those that are sent later, change nothing but the queue: without them the loop does the same, and so it saves
nothing for them. Once its slot was emptied the session gives no frame, and the transform is given the one at
hand at most. In the whole run as many frames were taken as there were calls, or one more: this one is still
to be given to the transform, or the loop was told to end right after it took it. -/
theorem shutdown_apply_le_one {stream : StreamFormat} {c : FrameHandoff}
    (started : FrameHandoff.start stream = .ok c)
    (settings : RenderSettings) (t : FrameTransform σ) (k : FrameSink ρ) (transform : σ) (sink : ρ) :
    let loop := start c settings transform sink
    (∀ before rest,
      let r := loop.run t k before
      Command.shutdown ∈ r.queue →
        (r.run t k rest).inputs = r.inputs ∨
          ∃ id f, r.phase = .apply id ∧ r.frameAtHand? = some f ∧
            (r.run t k rest).inputs = r.inputs ++ [f]) ∧
      (∀ before (ahead behind : List Command) rest,
        let r := loop.run t k before
        r.queue = ahead ++ .shutdown :: behind →
          ∃ queue, ({ r with queue := ahead ++ [.shutdown] } : RenderLoop σ ρ).run t k
            (rest.filter (·.command?.isNone)) = { r.run t k rest with queue }) ∧
      (∀ before rest,
        let r := loop.run t k before
        r.handoff.session.front = none →
          takes t k r rest = [] ∧
            ((r.run t k rest).inputs = r.inputs ∨
              ∃ f, r.phase.hasInput = true ∧ r.frameAtHand? = some f ∧
                (r.run t k rest).inputs = r.inputs ++ [f])) ∧
      ∀ schedule,
        let e := loop.run t k schedule
        let taken := e.handoff.session.stats.taken
        taken = (takes t k loop schedule).length ∧ (taken = e.calls ∨ taken = e.calls + 1) ∧
          (taken = e.calls + 1 ↔ e.phase.hasInput = true ∨
            ∃ earlier clock later id, schedule = earlier ++ .step clock :: later ∧
              (loop.run t k earlier).phase = .drainWith id ∧
              (loop.run t k earlier).queue.head? = some .shutdown) := by
  intro loop
  have history : loop.HistoryInv [] [] := historyInv_start started settings transform sink
  refine ⟨?_, ?_, ?_, ?_⟩
  · intro before rest r queued
    obtain ⟨events, lost, history₁⟩ := history.run t k before
    have told : r.Told := .inl queued
    by_cases ready : ∃ id, r.phase = .apply id
    · obtain ⟨id, phase⟩ := ready
      obtain ⟨f, frame⟩ := history₁.sound.exists_frame (show r.phase.atHand? = some id by rw [phase]; rfl)
      have held : r.frameAtHand? = some f := frameAtHand?_eq (by rw [phase]; rfl) frame
      exact (history₁.inputs_of_told_apply told phase held).imp_right fun more => ⟨id, f, phase, held, more⟩
    · exact .inl (history₁.inputs_of_told told (not_exists.mp ready))
  · intro before ahead behind rest r queue_eq
    have curtails : r.Curtailment { r with queue := ahead ++ [.shutdown] } :=
      ⟨_, rfl, .inr ⟨ahead, behind, queue_eq, rfl⟩⟩
    obtain ⟨queue, eq, -⟩ := curtails.run t k rest
    exact ⟨queue, eq⟩
  · intro before rest r emptied
    obtain ⟨events, lost, history₁⟩ := history.run t k before
    have untaken : takes t k r rest = [] := history₁.takes_of_emptied emptied
    exact ⟨untaken, history₁.inputs_of_untaken untaken⟩
  · intro schedule e taken
    obtain ⟨others, history₁, takings⟩ := history.run_takings t k schedule
    have taken_eq : taken = (takes t k loop schedule).length := by
      rw [← takings]
      exact history₁.session.taken_eq
    have lost_le : (abandons t k loop schedule).length ≤ 1 := history₁.lost_le
    have balance := congrArg List.length (history.takes_eq t k schedule)
    rw [List.length_append, List.length_append, ← calls_eq_length, length_unapplied history₁.sound] at balance
    have balance : e.calls + e.phase.hasInput.toNat + (abandons t k loop schedule).length = taken := by
      rw [taken_eq]
      exact balance
    rw [← history.abandons_ne_nil]
    by_cases kept : abandons t k loop schedule = []
    · rw [kept, List.length_nil, Nat.add_zero] at balance
      refine ⟨taken_eq, ?_, ?_⟩
      · cases input : e.phase.hasInput <;> simp [input] at balance <;> omega
      · cases input : e.phase.hasInput <;> simp [input, kept] at balance ⊢ <;> omega
    · -- A loop that gave up a frame has ended, and has none at hand.
      have one := List.length_pos_iff.mpr kept
      have ended : e.hasEnded = true := history₁.lost_end kept
      have noInput : e.phase.hasInput = false := by
        have length := length_unapplied history₁.sound
        rw [unapplied_of_ended ended, List.length_nil] at length
        exact Bool.toNat_eq_zero.mp length.symm
      rw [noInput] at balance ⊢
      simp only [Bool.toNat_false] at balance
      exact ⟨taken_eq, .inr (by omega), fun _ => .inr kept, fun _ => by omega⟩

/-- A loop is told to end when it is about to give a frame to the transform, and a snapshot is requested then;
or its session is stopped instead; or it is told to end right after it took the frame. -/
theorem shutdown_apply_le_one_around_call :
    ∃ c ready told stopped queue f, FrameHandoff.start ⟨1, 1, .gray8⟩ = .ok c ∧
      run .negative .memorySink (start c {} () {}) (.publish [5] :: List.replicate 4 (.step ⟨⟨0⟩, ⟨0⟩⟩)) =
        ready ∧
      ready.run .negative .memorySink [.send .shutdown, .send .snapshot] = told ∧
      told.queue = [] ++ .shutdown :: [.snapshot] ∧
      ((told.run .negative .memorySink (List.replicate 6 (.step ⟨⟨0⟩, ⟨0⟩⟩))).inputs = told.inputs ∨
        ∃ id f, told.phase = .apply id ∧ told.frameAtHand? = some f ∧
          (told.run .negative .memorySink (List.replicate 6 (.step ⟨⟨0⟩, ⟨0⟩⟩))).inputs =
            told.inputs ++ [f]) ∧
      ({ told with queue := [] ++ [.shutdown] } : RenderLoop Unit Recorded).run .negative .memorySink
          (List.replicate 6 (.step ⟨⟨0⟩, ⟨0⟩⟩)) =
        { told.run .negative .memorySink (List.replicate 6 (.step ⟨⟨0⟩, ⟨0⟩⟩)) with queue } ∧
      ready.run .negative .memorySink [.close] = stopped ∧ stopped.handoff.session.front = none ∧
      stopped.frameAtHand? = some f ∧
      (stopped.run .negative .memorySink (List.replicate 6 (.step ⟨⟨0⟩, ⟨0⟩⟩))).inputs =
        stopped.inputs ++ [f] ∧
      let late := run .negative .memorySink (start c {} () {})
        (.publish [5] :: List.replicate 3 (.step ⟨⟨0⟩, ⟨0⟩⟩) ++ [.send .shutdown, .step ⟨⟨0⟩, ⟨0⟩⟩])
      late.handoff.session.stats.taken = late.calls + 1 := by
  obtain ⟨last, behind, emptied, taken⟩ :=
    shutdown_apply_le_one (rfl : FrameHandoff.start ⟨1, 1, .gray8⟩ = .ok _) {} .negative .memorySink () {}
  have told :=
    last (.publish [5] :: List.replicate 4 (.step ⟨⟨0⟩, ⟨0⟩⟩) ++ [.send .shutdown, .send .snapshot])
    (List.replicate 6 (.step ⟨⟨0⟩, ⟨0⟩⟩)) (List.mem_cons_self ..)
  obtain ⟨queue, same⟩ := behind
    (.publish [5] :: List.replicate 4 (.step ⟨⟨0⟩, ⟨0⟩⟩) ++ [.send .shutdown, .send .snapshot]) [] [.snapshot]
    (List.replicate 6 (.step ⟨⟨0⟩, ⟨0⟩⟩)) rfl
  obtain ⟨-, none | ⟨f, -, held, more⟩⟩ := emptied
    (.publish [5] :: List.replicate 4 (.step ⟨⟨0⟩, ⟨0⟩⟩) ++ [.close])
      (List.replicate 6 (.step ⟨⟨0⟩, ⟨0⟩⟩)) rfl
  · cases none
  · have late := (taken (.publish [5] :: List.replicate 3 (.step ⟨⟨0⟩, ⟨0⟩⟩) ++
      [.send .shutdown, .step ⟨⟨0⟩, ⟨0⟩⟩])).2.2.mpr
        (.inr ⟨.publish [5] :: List.replicate 3 (.step ⟨⟨0⟩, ⟨0⟩⟩) ++ [.send .shutdown], ⟨⟨0⟩, ⟨0⟩⟩, [], _,
          rfl, rfl, rfl⟩)
    exact ⟨_, _, _, _, queue, f, rfl, rfl, rfl, rfl, told, same, rfl, rfl, held, more, late⟩

end FramePipeline.RenderLoop
