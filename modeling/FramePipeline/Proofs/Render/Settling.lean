import FramePipeline.Proofs.Render.Rendering
import FramePipeline.Proofs.Render.Steps

/-!
# Steps of the loop do not change what it comes to

What a render loop comes to, `RenderLoop.settled`, is the same before and after each of its steps,
whatever the clock shows, unless the loop breaks down because the output would be frozen until a time that
the clock cannot show. The loop *owes* a call of the transform while a frame is waiting, or is at hand
and was not given to the transform yet; its steps make it owe nothing new, and it is told to end only
when it owes nothing.

Main definitions: `RenderLoop.CallDue`, `RenderLoop.Orderly` (the invariant), `RenderLoop.Continuation`,
`RenderLoop.BrokenOff`. Main statement: `RenderLoop.continuation_step`.
-/

namespace FramePipeline

/-- The loop looks at its commands, the clock or the session, with no frame at hand. -/
def RenderPhase.isLook : RenderPhase → Bool
  | drain | thaw | take => true
  | _ => false

/-- Nothing is at hand that was not given to the transform, and the loop did not end except by a panic. -/
def RenderPhase.isQuiet : RenderPhase → Bool
  | drainWith _ | apply _ | ended .shutdown | ended .sessionClosed | ended (.overloaded _) => false
  | _ => true

namespace RenderPhase

variable {phase : RenderPhase}

theorem atHand?_of_isLook (look : phase.isLook = true) : phase.atHand? = none := by
  cases phase <;> first | rfl | cases look

theorem isQuiet_of_isLook (look : phase.isLook = true) : phase.isQuiet = true := by
  cases phase <;> first | rfl | cases look

theorem ne_ended_of_isLook (look : phase.isLook = true) (why : RenderEnd) : phase ≠ .ended why := by
  rintro rfl
  cases look

theorem hasInput_of_isQuiet (quiet : phase.isQuiet = true) : phase.hasInput = false := by
  cases phase <;> first | rfl | cases quiet

end RenderPhase

namespace RenderLoop

variable {σ ρ : Type} {t : FrameTransform σ} {k : FrameSink ρ} {clock : Reading} {r r' r'' : RenderLoop σ ρ}

/-! ## The invariant -/

/-- A call of the transform is still to come for what was published. -/
def CallDue (r : RenderLoop σ ρ) : Prop :=
  r.phase ≠ .ended .panicked ∧ (r.phase.hasInput = true ∨ r.handoff.plain.waiting ≠ none)

/-- The loop was told to end. -/
def Told (r : RenderLoop σ ρ) : Prop :=
  .shutdown ∈ r.queue ∨ r.phase = .ended .shutdown

/-- What holds between two steps. -/
structure Orderly (r : RenderLoop σ ρ) : Prop where
  sound : r.Sound
  /-- No frame is waiting behind one that was not given to the transform yet. -/
  input_alone : r.phase.hasInput = true → r.handoff.plain.waiting = none
  apply_queue : ∀ id, r.phase = .apply id → r.queue = []
  told_idle : r.Told → ¬ r.CallDue
  closed_end : r.phase = .ended .sessionClosed → r.handoff.session.closed = true
  /-- The loop did not break down. -/
  within : ∀ o, r.phase ≠ .ended (.overloaded o)

theorem Orderly.ended_idle (h : r.Orderly) (ended : r.hasEnded = true) : ¬ r.CallDue := by
  rintro ⟨calm, owes⟩
  unfold hasEnded at ended
  cases phase : r.phase with
  | ended why =>
    cases why with
    | shutdown => exact h.told_idle (.inr phase) ⟨calm, owes⟩
    | sessionClosed =>
      rw [phase] at owes
      have closed : r.handoff.plain.closed = true := h.closed_end phase
      obtain ⟨-, -, nothing⟩ | ⟨id, -, isOpen, -⟩ | ⟨id, f, -, isOpen, -⟩ :=
        FrameHandoff.Sound.front_cases h.sound
      · obtain input | waiting := owes
        · cases input
        · exact waiting nothing
      · rw [closed] at isOpen
        cases isOpen
      · rw [closed] at isOpen
        cases isOpen
    | panicked => exact calm phase
    | overloaded o => exact h.within o phase
  | _ =>
    rw [phase] at ended
    cases ended

/-- The loop owes nothing unless it panicked, so nothing waits. -/
theorem waiting_eq_none (idle : ¬ r.CallDue) (calm : r.phase ≠ .ended .panicked) :
    r.handoff.plain.waiting = none := by
  cases waiting : r.handoff.plain.waiting with
  | none => rfl
  | some f => exact absurd ⟨calm, .inr (by rw [waiting]; simp)⟩ idle

/-! ## Steps -/

/-- What a step of the loop keeps. -/
structure Continuation (t : FrameTransform σ) (k : FrameSink ρ) (r r' : RenderLoop σ ρ) : Prop where
  orderly : r'.Orderly
  settled_eq : r'.settled t k = r.settled t k
  /-- Nothing new is owed, and a call of the transform pays. -/
  owes : r'.CallDue → r.CallDue ∧ r'.calls = r.calls
  told : r'.Told → r.Told
  ends : .shutdown ∈ r.queue ∨ r.hasEnded = true → .shutdown ∈ r'.queue ∨ r'.hasEnded = true

theorem Continuation.refl (h : r.Orderly) : Continuation t k r r :=
  ⟨h, rfl, fun owes => ⟨owes, rfl⟩, id, id⟩

theorem Continuation.trans (h : Continuation t k r r') (h' : Continuation t k r' r'') :
    Continuation t k r r'' where
  orderly := h'.orderly
  settled_eq := h'.settled_eq.trans h.settled_eq
  owes owes := by
    obtain ⟨owes', calls'⟩ := h'.owes owes
    obtain ⟨owes'', calls''⟩ := h.owes owes'
    exact ⟨owes'', calls'.trans calls''⟩
  told told := h.told (h'.told told)
  ends ending := h'.ends (h.ends ending)

/-- A step that neither reads a command nor takes a frame. -/
theorem continuation_of_work (h : r.Orderly) (going : r.hasEnded = false) (sound : r'.Sound)
    (plain : r'.handoff.plain = r.handoff.plain) (queue : r'.queue = r.queue)
    (quiet : r'.phase.isQuiet = true) (calls : r.phase.hasInput = true ∨ r'.calls = r.calls)
    (finished_eq : r'.finished t k = r.finished t k) : Continuation t k r r' := by
  have noInput : r'.phase.hasInput = false := RenderPhase.hasInput_of_isQuiet quiet
  have owes : r'.CallDue → r.CallDue ∧ r'.calls = r.calls := by
    rintro ⟨-, input | waiting⟩
    · rw [noInput] at input
      cases input
    · rw [plain] at waiting
      have calm : r.phase ≠ .ended .panicked := by
        intro phase
        unfold hasEnded at going
        rw [phase] at going
        cases going
      obtain input | calls := calls
      · exact absurd (h.input_alone input) waiting
      · exact ⟨⟨calm, .inr waiting⟩, calls⟩
  have told : r'.Told → r.Told := by
    rintro (mem | phase)
    · exact .inl (queue ▸ mem)
    · rw [phase] at quiet
      cases quiet
  exact {
    orderly := {
      sound
      input_alone := fun input => by
        rw [noInput] at input
        cases input
      apply_queue := fun id phase => by
        rw [phase] at noInput
        cases noInput
      told_idle := fun told' owes' => h.told_idle (told told') (owes owes').1
      closed_end := fun phase => by
        rw [phase] at quiet
        cases quiet
      within := fun o phase => by
        rw [phase] at quiet
        cases quiet }
    settled_eq := congrArg (Rendering.renderWaiting t k) finished_eq
    owes
    told
    ends := by
      rintro (mem | ended)
      · exact .inl (queue ▸ mem)
      · rw [going] at ended
        cases ended }

theorem going_of_isLook (look : r.phase.isLook = true) : r.hasEnded = false := by
  unfold hasEnded
  split
  · next why phase => exact absurd phase (RenderPhase.ne_ended_of_isLook look why)
  · rfl

theorem Orderly.sound_at {id : CellId} (h : r.Orderly) (held : r.phase.atHand? = some id) :
    r.handoff.Sound [id] := by
  have sound : r.handoff.Sound r.phase.atHand?.toList := h.sound
  rwa [held] at sound

theorem going_of_atHand {id : CellId} (held : r.phase.atHand? = some id) : r.hasEnded = false := by
  unfold hasEnded
  split
  · next why phase =>
    rw [phase] at held
    cases held
  · rfl

/-- A step that keeps the frame at hand and what is in it. -/
theorem continuation_of_keep (h : r.Orderly) {id : CellId} {metrics : Metrics}
    (held : r.phase.atHand? = some id) (held' : r'.phase.atHand? = some id)
    (handoff : r'.handoff = { r.handoff with metrics }) (queue : r'.queue = r.queue)
    (quiet : r'.phase.isQuiet = true) (calls : r.phase.hasInput = true ∨ r'.calls = r.calls)
    (finished_eq : r'.finished t k = r.finished t k) : Continuation t k r r' := by
  have sound : r'.Sound := h.sound.keep (held'.trans held.symm) handoff
  have plain : r'.handoff.plain = r.handoff.plain := by rw [handoff, FrameHandoff.plain_with_metrics]
  exact continuation_of_work h (going_of_atHand held) sound plain queue quiet calls finished_eq

/-- A step that gives the frame at hand back. -/
theorem continuation_of_release (h : r.Orderly) {id : CellId} {metrics : Metrics}
    (held : r.phase.atHand? = some id) (free : r'.phase.atHand? = none)
    (handoff : r'.handoff = { r.handoff with metrics }.release id) (queue : r'.queue = r.queue)
    (quiet : r'.phase.isQuiet = true) (calls : r.phase.hasInput = true ∨ r'.calls = r.calls)
    (finished_eq : r'.view.heed r.queue = r.finished t k) : Continuation t k r r' := by
  have sound : r'.Sound := h.sound.giveBack held free handoff
  have plain : r'.handoff.plain = r.handoff.plain := by
    rw [handoff, FrameHandoff.plain_release, FrameHandoff.plain_with_metrics]
  refine continuation_of_work h (going_of_atHand held) sound plain queue quiet calls ?_
  rw [finished_of_free free, queue, finished_eq]

/-- A step from one look to the next, without a frame. -/
theorem continuation_of_look (h : r.Orderly) (here : r.phase.isLook = true) {phase : RenderPhase}
    (there : phase.isLook = true) (frozenUntil : Option Duration) :
    Continuation t k r { r with phase, frozenUntil } := by
  have free : r.phase.atHand? = none := RenderPhase.atHand?_of_isLook here
  have free' : phase.atHand? = none := RenderPhase.atHand?_of_isLook there
  refine continuation_of_work h (going_of_isLook here) ?_ rfl rfl (RenderPhase.isQuiet_of_isLook there)
    (.inr rfl) ?_
  · exact h.sound.keep (free'.trans free.symm) rfl
  · rw [finished_of_free free, finished_of_free free']
    simp [view, RenderPhase.ne_ended_of_isLook here, RenderPhase.ne_ended_of_isLook there]

theorem finished_of_apply {id : CellId} {f : Frame} (h : r.Orderly) (phase : r.phase = .apply id)
    (frame : r.handoff.frame? id = some f) : r.finished t k = r.view.render t k f := by
  rw [finished_of_input (.inr phase) frame, h.apply_queue id phase, Rendering.heed_nil]

/-- Reading a request leaves it pending. -/
theorem heed_snapshot {queue : List Command} (first : r.queue = .snapshot :: queue) :
    ({ r with queue, pendingSave := true } : RenderLoop σ ρ).view.heed queue = r.view.heed r.queue := by
  simp [view, Rendering.heed, first]

theorem continuation_of_readSnapshot (h : r.Orderly) {queue : List Command}
    (reads : r.phase = .drain ∨ ∃ id, r.phase = .drainWith id) (first : r.queue = .snapshot :: queue) :
    Continuation t k r { r with queue, pendingSave := true } := by
  have told : ({ r with queue, pendingSave := true } : RenderLoop σ ρ).Told → r.Told := by
    rintro (mem | phase)
    · exact .inl (first ▸ List.mem_cons_of_mem _ mem)
    · exact .inr phase
  exact {
    orderly := {
      sound := h.sound
      input_alone := h.input_alone
      apply_queue := fun id phase => by
        obtain phase' | ⟨_, phase'⟩ := reads <;> cases phase'.symm.trans phase
      told_idle := fun told' => h.told_idle (told told')
      closed_end := h.closed_end
      within := h.within }
    settled_eq := by
      refine congrArg (Rendering.renderWaiting t k) ?_
      obtain phase | ⟨id, phase⟩ := reads
      · have free : r.phase.atHand? = none := by rw [phase]; rfl
        rw [finished_of_free free, ← heed_snapshot first]
        exact finished_of_free free
      · have held : r.phase.atHand? = some id := by rw [phase]; rfl
        obtain ⟨f, frame⟩ := h.sound.exists_frame held
        rw [finished_of_input (.inl phase) frame, ← heed_snapshot first]
        exact finished_of_input (.inl phase) frame
    owes := fun owes => ⟨owes, rfl⟩
    told
    ends := by
      rintro (mem | ended)
      · rw [first] at mem
        obtain mem | mem := List.mem_cons.mp mem
        · cases mem
        · exact .inl mem
      · exact .inr ended }

/-- The loop ends in order, because it was told to or because the session is closed. -/
theorem continuation_of_end (h : r.Orderly) (look : r.phase.isLook = true) {queue : List Command}
    {why : RenderEnd} (told : .shutdown ∈ queue ∨ why = .shutdown → r.Told)
    (heeded : .snapshot ∈ queue ↔ .snapshot ∈ r.queue)
    (why_eq : why = .shutdown ∨ why = .sessionClosed ∧ r.handoff.session.closed = true) :
    Continuation t k r { r with queue, phase := .ended why } := by
  have free : r.phase.atHand? = none := RenderPhase.atHand?_of_isLook look
  have calm : why ≠ .panicked := by
    rintro rfl
    simp at why_eq
  have told' : ({ r with queue, phase := .ended why } : RenderLoop σ ρ).Told → r.Told := by
    rintro (mem | phase)
    · exact told (.inl mem)
    · exact told (.inr (RenderPhase.ended.inj phase))
  have owes : ({ r with queue, phase := .ended why } : RenderLoop σ ρ).CallDue → r.CallDue := by
    rintro ⟨-, input | waiting⟩
    · cases input
    · exact ⟨RenderPhase.ne_ended_of_isLook look _, .inr waiting⟩
  exact {
    orderly := {
      sound := by
        have sound : r.handoff.Sound r.phase.atHand?.toList := h.sound
        rwa [free] at sound
      input_alone := nofun
      apply_queue := nofun
      told_idle := fun now owes' => h.told_idle (told' now) (owes owes')
      closed_end := fun phase => by
        obtain rfl := RenderPhase.ended.inj phase
        obtain eq | ⟨-, closed⟩ := why_eq
        · cases eq
        · exact closed
      within := fun o phase => by
        obtain rfl := RenderPhase.ended.inj phase
        simp at why_eq }
    settled_eq := by
      refine congrArg (Rendering.renderWaiting t k) ?_
      rw [finished_of_free free, finished_of_free rfl]
      simp [view, Rendering.heed, heeded, calm, RenderPhase.ne_ended_of_isLook look]
    owes := fun owes' => ⟨owes owes', rfl⟩
    told := told'
    ends := fun _ => .inr rfl }

theorem continuation_of_readNothingWith (h : r.Orderly) {id : CellId} (phase : r.phase = .drainWith id)
    (empty : r.queue = []) : Continuation t k r { r with phase := .apply id } := by
  have held : r.phase.atHand? = some id := by rw [phase]; rfl
  obtain ⟨f, frame⟩ := h.sound.exists_frame held
  have input : r.phase.hasInput = true := by rw [phase]; rfl
  have calm : r.phase ≠ .ended .panicked := by rw [phase]; exact nofun
  have told : ({ r with phase := .apply id } : RenderLoop σ ρ).Told → r.Told := by
    rintro (mem | ended)
    · exact .inl mem
    · cases ended
  exact {
    orderly := {
      sound := h.sound_at held
      input_alone := fun _ => h.input_alone input
      apply_queue := fun _ _ => empty
      told_idle := fun now _ => h.told_idle (told now) ⟨calm, .inl input⟩
      closed_end := nofun
      within := nofun }
    settled_eq := by
      refine congrArg (Rendering.renderWaiting t k) ?_
      rw [finished_of_input (.inl phase) frame]
      refine Eq.trans (finished_of_input (.inr rfl) frame) ?_
      simp [view, calm]
    owes := fun _ => ⟨⟨calm, .inl input⟩, rfl⟩
    told
    ends := by
      rintro (mem | ended)
      · exact .inl mem
      · simp [hasEnded, phase] at ended }

theorem continuation_of_took (h : r.Orderly) {id : CellId} {f : Frame} {handoff : FrameHandoff}
    (phase : r.phase = .take) (taken : r.handoff.plain.tryTake = (.ok (some f), handoff.plain))
    (frame : handoff.frame? id = some f) (sound : handoff.Sound [id]) :
    Continuation t k r { r with handoff, phase := .drainWith id } := by
  have calm : r.phase ≠ .ended .panicked := by rw [phase]; exact nofun
  obtain ⟨waiting, nothing⟩ := PlainSession.waiting_of_tryTake taken
  have owed : r.CallDue := ⟨calm, .inr (by rw [waiting]; simp)⟩
  have told : ({ r with handoff, phase := .drainWith id } : RenderLoop σ ρ).Told → r.Told := by
    rintro (mem | ended)
    · exact .inl mem
    · cases ended
  exact {
    orderly := {
      sound
      input_alone := fun _ => nothing
      apply_queue := nofun
      told_idle := fun now _ => h.told_idle (told now) owed
      closed_end := nofun
      within := nofun }
    settled_eq := by
      have free : r.phase.atHand? = none := by rw [phase]; rfl
      have calm' : (r.view.heed r.queue).panicked = false := decide_eq_false calm
      refine (settled_of_idle nothing).trans ?_
      rw [settled, finished_of_free free, Rendering.renderWaiting_of_take calm' taken]
      refine Eq.trans (finished_of_input (.inl rfl) frame) ?_
      simp [view, Rendering.heed, calm]
    owes := fun _ => ⟨owed, rfl⟩
    told
    ends := by
      rintro (mem | ended)
      · exact .inl mem
      · simp [hasEnded, phase] at ended }

/-- A step after which the loop did not break down. -/
theorem StepRel.continuation (s : StepRel t k clock r r') (h : r.Orderly)
    (within : ∀ o, r'.phase ≠ .ended (.overloaded o)) : Continuation t k r r' := by
  cases s with
  | readNothing phase empty => exact continuation_of_look h (by rw [phase]; rfl) rfl _
  | readNothingWith phase empty => exact continuation_of_readNothingWith h phase empty
  | readSnapshot reads first => exact continuation_of_readSnapshot h reads first
  | @readShutdown queue phase first =>
    refine continuation_of_end h (by rw [phase]; rfl) (fun _ => .inl (by simp [first])) ?_ (.inl rfl)
    simp [first]
  | @readShutdownWith id queue phase first =>
    -- A loop that was told to end has no frame at hand that it did not transform.
    refine absurd ⟨?_, .inl ?_⟩ (h.told_idle (.inl (by simp [first])))
    · simp [phase]
    · rw [phase]
      rfl
  | notFrozen phase free => exact continuation_of_look h (by rw [phase]; rfl) rfl _
  | frozen phase until_eq early => exact continuation_of_look h (by rw [phase]; rfl) rfl _
  | thawed phase until_eq late => exact continuation_of_look h (by rw [phase]; rfl) rfl _
  | tookNothing phase taken => exact continuation_of_look h (by rw [phase]; rfl) rfl _
  | foundClosed phase closed =>
    refine continuation_of_end h (by rw [phase]; rfl) ?_ Iff.rfl (.inr ⟨rfl, closed⟩)
    rintro (mem | eq)
    · exact .inl mem
    · cases eq
  | took phase taken frame sound same => exact continuation_of_took h phase taken frame sound
  | @panicked id f transform phase frame applied =>
    have held : r.phase.atHand? = some id := by rw [phase]; rfl
    refine continuation_of_release h held rfl rfl rfl rfl (.inl (by rw [phase]; rfl)) ?_
    rw [finished_of_apply h phase frame, Rendering.render_of_panicked (v := r.view) applied]
    simp [view, Rendering.note, h.apply_queue id phase, Rendering.heed_nil]
  | @failed id f result out transform phase frame applied fault =>
    have held : r.phase.atHand? = some id := by rw [phase]; rfl
    refine continuation_of_release h held rfl rfl rfl rfl (.inl (by rw [phase]; rfl)) ?_
    rw [finished_of_apply h phase frame, Rendering.render_of_fault (v := r.view) applied fault]
    simp [view, Rendering.note, Rendering.countError, phase, h.apply_queue id phase,
      Rendering.heed_nil]
  | @transformed id f out transform phase frame applied fits =>
    have held : r.phase.atHand? = some id := by rw [phase]; rfl
    refine continuation_of_keep h held rfl rfl rfl rfl (.inl (by rw [phase]; rfl)) ?_
    rw [finished_of_apply h phase frame, Rendering.render_of_output (v := r.view) applied fits]
    refine Eq.trans (finished_of_present rfl frame) ?_
    simp [view, output, Rendering.note, phase, h.apply_queue id phase, Rendering.heed_nil]
  | @presentFailed id f e sink phase frame presented =>
    have held : r.phase.atHand? = some id := by rw [phase]; rfl
    refine continuation_of_keep h held rfl rfl rfl rfl (.inr (by simp [calls])) ?_
    rw [finished_of_present phase frame, Rendering.putOut,
      Rendering.present_of_error (v := r.view) presented]
    refine Eq.trans (finished_of_save rfl frame) ?_
    simp [view, output, Rendering.note, Rendering.countError, phase]
  | @presented id f sink phase frame presented =>
    have held : r.phase.atHand? = some id := by rw [phase]; rfl
    refine continuation_of_keep h held rfl rfl rfl rfl (.inr (by simp [calls])) ?_
    rw [finished_of_present phase frame, Rendering.putOut,
      Rendering.present_of_ok (v := r.view) presented]
    refine Eq.trans (finished_of_save rfl frame) ?_
    simp [view, output, Rendering.note, phase, LatencyWindow.record, LatencyWindow.length,
      Ring.length_push]
  | @notSaved id phase unasked =>
    have held : r.phase.atHand? = some id := by rw [phase]; rfl
    obtain ⟨f, frame⟩ := h.sound.exists_frame held
    refine continuation_of_release h held rfl rfl rfl rfl (.inr rfl) ?_
    rw [finished_of_save phase frame, Rendering.save_of_unasked unasked]
    simp [view, phase]
  | @saveFailed id f e sink phase frame asked saved =>
    have held : r.phase.atHand? = some id := by rw [phase]; rfl
    refine continuation_of_release h held rfl rfl rfl rfl (.inr (by simp [calls])) ?_
    rw [finished_of_save phase frame, Rendering.save_of_error (v := r.view) asked saved]
    simp [view, phase, Rendering.note, Rendering.countError]
  | @saved id f sink _ phase frame asked saved =>
    have held : r.phase.atHand? = some id := by rw [phase]; rfl
    refine continuation_of_release h held rfl rfl rfl rfl (.inr (by simp [calls])) ?_
    rw [finished_of_save phase frame, Rendering.save_of_ok (v := r.view) asked saved]
    simp [view, phase, Rendering.note]
  | overloaded => exact absurd rfl (within _)
  | ended phase => exact .refl h

/-! ## Breakdowns -/

/-- The loop broke down on its way to a rendering. -/
structure BrokenOff (r : RenderLoop σ ρ) (v : Rendering σ ρ) : Prop where
  beyond : ∃ o, r.phase = .ended (.overloaded o)
  trace_prefix : r.trace <+: v.trace

theorem BrokenOff.hasEnded {v : Rendering σ ρ} (h : r.BrokenOff v) : r.hasEnded = true := by
  obtain ⟨o, phase⟩ := h.beyond
  rw [RenderLoop.hasEnded, phase]

theorem BrokenOff.mono {v v' : Rendering σ ρ} (h : r.BrokenOff v) (more : v.trace <+: v'.trace) :
    r.BrokenOff v' :=
  ⟨h.beyond, h.trace_prefix.trans more⟩

/-- The loop breaks down when it has saved the frame at hand, before it renders the frame that waits. -/
theorem StepRel.brokenOff (s : StepRel t k clock r r') (h : r.Orderly)
    (beyond : ∃ o, r'.phase = .ended (.overloaded o)) : r'.BrokenOff (r.settled t k) := by
  cases s with
  | @overloaded id f sink _ phase frame asked saved =>
    have trace_eq : (r.finished t k).trace = r.trace ++ [.saved (r.output f) true] := by
      rw [finished_of_save phase frame, Rendering.save_of_ok (v := r.view) asked saved]
      rfl
    refine ⟨beyond, ?_⟩
    show r.trace ++ [.saved (r.output f) true] <+: _
    rw [← trace_eq]
    exact Rendering.trace_prefix_renderWaiting t k _
  | ended => exact absurd beyond (by simpa using h.within)
  | readSnapshot => exact absurd beyond (by simpa using h.within)
  | _ => simp at beyond

/-- A step of the loop does not change what it comes to, unless it breaks down on the way. -/
theorem continuation_step (h : r.Orderly) (t : FrameTransform σ) (k : FrameSink ρ) (clock : Reading) :
    Continuation t k r (r.step t k clock) ∨ (r.step t k clock).BrokenOff (r.settled t k) := by
  have s : StepRel t k clock r (r.step t k clock) := stepRel_step h.sound
  by_cases beyond : ∃ o, (r.step t k clock).phase = .ended (.overloaded o)
  · exact .inr (s.brokenOff h beyond)
  · exact .inl (s.continuation h (not_exists.mp beyond))

end RenderLoop

end FramePipeline
