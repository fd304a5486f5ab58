import FramePipeline.Proofs.Handoff.SlotHistory
import FramePipeline.Proofs.Render.Rendering
import FramePipeline.Proofs.Render.Steps

/-!
# What a render loop was given

The frames that a render loop takes are the takings of its session's history. The loop gives them to its
transform in the order in which it takes them; only a frame that it took right before it was told to end
is given up unseen. What it gives to its sink is what the transform made of the frame at hand.

Main definitions: `RenderLoop.inputs`, `RenderTrace.IsFaithful`, `RenderLoop.HistoryInv` (the invariant),
`RenderLoop.Undisturbed` (what others leave as it is). Main statements: `RenderLoop.HistoryInv.step`,
`RenderLoop.HistoryInv.publish`, `RenderLoop.HistoryInv.close`, `RenderLoop.HistoryInv.run`.
-/

namespace FramePipeline

open SlotEvent (publications takings unclaimed)

/-! ## Traces -/

namespace RenderEvent

/-- The frame that the transform was given. -/
def input? : RenderEvent → Option Frame
  | applied f _ _ _ => some f
  | presented .. | saved .. => none

/-- The frame that the sink was given. -/
def output? : RenderEvent → Option Frame
  | presented f _ | saved f _ => some f
  | applied .. => none

end RenderEvent

/-- Every frame that the sink was given is what an earlier call of the transform came to. -/
def RenderTrace.IsFaithful (trace : List RenderEvent) : Prop :=
  ∀ before event after output, trace = before ++ event :: after → event.output? = some output →
    ∃ f modes buffer, .applied f modes buffer (.done output.data) ∈ before ∧ f.metadata = output.metadata

namespace RenderTrace

variable {trace : List RenderEvent} {event : RenderEvent}

/-- A trace stays faithful if the new event is, be it that the sink is not given anything. -/
theorem IsFaithful.append (h : IsFaithful trace)
    (new : ∀ output, event.output? = some output →
      ∃ f modes buffer, .applied f modes buffer (.done output.data) ∈ trace ∧ f.metadata = output.metadata) :
    IsFaithful (trace ++ [event]) := by
  intro before x after output split given
  obtain ⟨after', -, split'⟩ | ⟨-, rfl, rfl⟩ := split_concat split
  · exact h before x after' output split' given
  · exact new output given

theorem IsFaithful.mem (h : IsFaithful trace) (mem : event ∈ trace) {output : Frame}
    (given : event.output? = some output) :
    ∃ f modes buffer, .applied f modes buffer (.done output.data) ∈ trace ∧ f.metadata = output.metadata := by
  obtain ⟨before, after, rfl⟩ := List.append_of_mem mem
  obtain ⟨f, modes, buffer, earlier, metadata⟩ := h before event after output rfl given
  exact ⟨f, modes, buffer, List.mem_append_left _ earlier, metadata⟩

end RenderTrace

/-- The loop takes a step. -/
def RenderAction.isStep : RenderAction → Bool
  | step _ => true
  | _ => false

/-- The command that is sent. -/
def RenderAction.command? : RenderAction → Option Command
  | send c => some c
  | _ => none

/-- In this phase a frame passes from the slot to the loop, or out of it. -/
def RenderPhase.passes : RenderPhase → Bool
  | .take | .drainWith _ => true
  | _ => false

namespace RenderLoop

variable {σ ρ : Type} {t : FrameTransform σ} {k : FrameSink ρ} {clock : Reading} {r r' : RenderLoop σ ρ}
  {events : List SlotEvent} {lost : List Frame} {id : CellId} {f : Frame}

/-- The frames that the transform was given, in their order. -/
def inputs (r : RenderLoop σ ρ) : List Frame :=
  r.trace.filterMap RenderEvent.input?

theorem calls_eq_length (r : RenderLoop σ ρ) : r.calls = r.inputs.length := by
  unfold calls inputs
  generalize r.trace = trace
  induction trace with
  | nil => rfl
  | cons event rest ih => cases event <;> simp [List.filterMap_cons, RenderEvent.input?, ih]

/-- The frame at hand, until it is given to the transform. -/
def unapplied (r : RenderLoop σ ρ) : List Frame :=
  if r.phase.hasInput then r.frameAtHand?.toList else []

theorem unapplied_of_noInput (noInput : r.phase.hasInput = false) : r.unapplied = [] := by
  unfold unapplied
  rw [noInput]
  rfl

theorem unapplied_of_free (free : r.phase.atHand? = none) : r.unapplied = [] := by
  unfold unapplied
  rw [frameAtHand?, free]
  exact ite_self []

theorem unapplied_of_ended (ended : r.hasEnded = true) : r.unapplied = [] := by
  unfold hasEnded at ended
  split at ended
  · next phase => exact unapplied_of_free (by rw [phase]; rfl)
  · cases ended

theorem frameAtHand?_eq (held : r.phase.atHand? = some id) (frame : r.handoff.frame? id = some f) :
    r.frameAtHand? = some f := by
  rw [frameAtHand?, held]
  exact frame

/-- The frame at hand depends on its own buffer only. -/
theorem frameAtHand?_congr {handoff : FrameHandoff} (queue : List Command) (modes : CartoonModes)
    (same : ∀ id ∈ r.phase.atHand?.toList, handoff.frame? id = r.handoff.frame? id) :
    ({ r with handoff, queue, modes } : RenderLoop σ ρ).frameAtHand? = r.frameAtHand? := by
  show r.phase.atHand?.bind handoff.frame? = r.phase.atHand?.bind r.handoff.frame?
  cases held : r.phase.atHand? with
  | none => rfl
  | some id => exact same id (by simp [held])

theorem unapplied_of_input (input : r.phase = .drainWith id ∨ r.phase = .apply id)
    (frame : r.handoff.frame? id = some f) : r.unapplied = [f] := by
  unfold unapplied
  obtain phase | phase := input
  · rw [frameAtHand?_eq (by rw [phase]; rfl) frame, phase]
    rfl
  · rw [frameAtHand?_eq (by rw [phase]; rfl) frame, phase]
    rfl

/-! ## What a step does at the slot -/

/-- The frame that the next step takes. -/
def taken? (r : RenderLoop σ ρ) : Option Frame :=
  match r.phase with
  | .take => r.handoff.plain.tryTake.1.toOption.join
  | _ => none

/-- The frame that the next step gives up unseen, because the loop was told to end. -/
def abandoned? (r : RenderLoop σ ρ) : Option Frame :=
  match r.phase, r.queue with
  | .drainWith id, .shutdown :: _ => r.handoff.frame? id
  | _, _ => none

theorem taken?_of_ne (other : r.phase ≠ .take) : r.taken? = none := by
  unfold taken?
  split
  · next phase => exact absurd phase other
  · rfl

theorem abandoned?_of_ne (other : ∀ id, r.phase ≠ .drainWith id) : r.abandoned? = none := by
  unfold abandoned?
  split
  · next id _ phase _ => exact absurd phase (other id)
  · rfl

/-- A step takes the waiting frame, or leaves it. -/
theorem StepRel.waiting_cases (s : StepRel t k clock r r') :
    (∃ f, r.taken? = some f ∧ r.handoff.plain.waiting = some f ∧ r'.handoff.plain.waiting = none) ∨
      r.taken? = none ∧ r'.handoff.plain.waiting = r.handoff.plain.waiting := by
  by_cases phase : r.phase = .take
  · cases s with
    | took _ taken =>
      obtain ⟨waiting, waiting'⟩ := PlainSession.waiting_of_tryTake taken
      exact .inl ⟨_, by simp [taken?, phase, taken, Except.toOption], waiting, waiting'⟩
    | tookNothing _ taken => exact .inr ⟨by simp [taken?, phase, taken, Except.toOption], rfl⟩
    | foundClosed _ closed =>
      have closed : r.handoff.plain.closed = true := closed
      exact .inr ⟨by simp [taken?, phase, PlainSession.tryTake, closed, Except.toOption], rfl⟩
    | readSnapshot reads =>
      obtain other | ⟨id, other⟩ := reads <;> cases phase.symm.trans other
    | _ => simp_all
  · exact .inr ⟨taken?_of_ne phase, by rw [s.plain_eq phase]⟩

/-! ## The invariant -/

/-- The loop is at the point that the history of its session has come to; `lost` is what it gave up
unseen. -/
structure HistoryInv (r : RenderLoop σ ρ) (events : List SlotEvent) (lost : List Frame) : Prop where
  sound : r.Sound
  session : r.handoff.plain.HistoryInv events
  takings_eq : takings events = r.inputs ++ r.unapplied ++ lost
  lost_end : lost ≠ [] → r.hasEnded = true
  lost_le : lost.length ≤ 1
  faithful : RenderTrace.IsFaithful r.trace
  /-- The buffer holds what the transform made of the frame at hand. -/
  made : ∀ f, r.phase.hasInput = false → r.frameAtHand? = some f →
    ∃ modes buffer, .applied f modes buffer (.done r.scratch) ∈ r.trace

theorem historyInv_start {stream : StreamFormat} {c : FrameHandoff}
    (started : FrameHandoff.start stream = .ok c) (settings : RenderSettings) (transform : σ) (sink : ρ) :
    (start c settings transform sink).HistoryInv [] [] := by
  obtain ⟨sound, plain⟩ := FrameHandoff.start_refines started
  exact {
    sound
    session := PlainSession.historyInv_start plain
    takings_eq := rfl
    lost_end := fun ne => absurd rfl ne
    lost_le := Nat.zero_le _
    faithful := by
      intro before event after output split
      simp [start] at split
    made := nofun }

namespace HistoryInv

/-- What the loop was given follows from what was published. -/
theorem inputs_sublist (h : r.HistoryInv events lost) :
    (r.inputs ++ r.unapplied).Sublist (publications events) := by
  have sublist := h.session.sublist_takings
  rw [h.takings_eq] at sublist
  exact (List.sublist_append_left ..).trans sublist

theorem pairwise_inputs (h : r.HistoryInv events lost) :
    ((r.inputs ++ r.unapplied).map Frame.sequence).Pairwise (· < ·) := by
  have pairwise := h.session.pairwise_takings
  rw [h.takings_eq, List.map_append] at pairwise
  exact (List.pairwise_append.mp pairwise).1

/-- What the loop was given has a smaller number than the frame that is published next. -/
theorem sequence_lt_of_publish (h : r.HistoryInv events lost) {bytes : Bytes} {n : Nat}
    (accepted : (r.handoff.publish bytes).1 = .ok n) (mem : f ∈ r.inputs ++ r.unapplied) :
    f.sequence < n := by
  obtain ⟨c', result, -⟩ := FrameHandoff.publish_refines bytes h.sound
  have result : r.handoff.publish bytes = ((r.handoff.plain.publish bytes).1, c') := result
  rw [result] at accepted
  obtain ⟨-, rfl, -⟩ := PlainSession.publish_ok accepted
  have published : f.sequence ∈ (publications events).map Frame.sequence :=
    List.mem_map_of_mem (h.inputs_sublist.subset mem)
  rw [h.session.numbers, List.mem_range'_1] at published
  omega

/-- What the sink was given came before the frame at hand. -/
theorem sequence_lt (h : r.HistoryInv events lost) {event : RenderEvent} {output : Frame}
    (mem : event ∈ r.trace) (given : event.output? = some output) (next : f ∈ r.unapplied) :
    output.sequence < f.sequence := by
  obtain ⟨g, modes, buffer, applied, metadata⟩ := h.faithful.mem mem given
  have input : g ∈ r.inputs := List.mem_filterMap.mpr ⟨_, applied, rfl⟩
  have pairwise := h.pairwise_inputs
  rw [List.map_append, List.pairwise_append] at pairwise
  have lt := pairwise.2.2 _ (List.mem_map_of_mem input) _ (List.mem_map_of_mem next)
  have eq : g.sequence = output.sequence := congrArg FrameMetadata.sequence metadata
  rwa [eq] at lt

/-- A loop that goes on has given up nothing. -/
theorem lost_eq_nil (h : r.HistoryInv events lost) (going : r.hasEnded = false) : lost = [] := by
  cases eq : lost with
  | nil => rfl
  | cons f rest =>
    have ended := h.lost_end (by rw [eq]; exact List.cons_ne_nil f rest)
    rw [going] at ended
    cases ended

/-! ## Steps of the loop -/

/-- A step that neither takes a frame, nor gives one to the transform, nor gives one up. -/
theorem still (h : r.HistoryInv events lost) (s : StepRel t k clock r r')
    (plain : r'.handoff.plain = r.handoff.plain) (inputs : r'.inputs = r.inputs)
    (unapplied : r'.unapplied = r.unapplied) (ended : r.hasEnded = true → r'.hasEnded = true)
    (faithful : RenderTrace.IsFaithful r'.trace)
    (made : ∀ f, r'.phase.hasInput = false → r'.frameAtHand? = some f →
      ∃ modes buffer, .applied f modes buffer (.done r'.scratch) ∈ r'.trace) :
    r'.HistoryInv events lost where
  sound := s.sound h.sound
  session := by
    rw [plain]
    exact h.session
  takings_eq := by rw [inputs, unapplied, h.takings_eq]
  lost_end ne := ended (h.lost_end ne)
  lost_le := h.lost_le
  faithful
  made

/-- A step from one look to the next, or to the end. -/
theorem look (h : r.HistoryInv events lost) (s : StepRel t k clock r r')
    (plain : r'.handoff.plain = r.handoff.plain) (free : r.phase.atHand? = none)
    (free' : r'.phase.atHand? = none) (trace : r'.trace = r.trace)
    (ended : r.hasEnded = true → r'.hasEnded = true) : r'.HistoryInv events lost := by
  refine h.still s plain ?_ ?_ ended (by rw [trace]; exact h.faithful) ?_
  · rw [inputs, trace, inputs]
  · rw [unapplied_of_free free, unapplied_of_free free']
  · intro f _ held
    rw [frameAtHand?, free'] at held
    cases held

/-- The frame at hand is given to the transform. -/
theorem applied (h : r.HistoryInv events lost) (s : StepRel t k clock r r') {modes : CartoonModes}
    {buffer : Bytes} {result : Applied} (phase : r.phase = .apply id) (frame : r.handoff.frame? id = some f)
    (trace : r'.trace = r.trace ++ [.applied f modes buffer result])
    (noInput : r'.phase.hasInput = false)
    (made : r'.phase.atHand? = none ∨ r'.phase = .present id ∧ result = .done r'.scratch) :
    r'.HistoryInv events lost := by
  have none_lost : lost = [] := h.lost_eq_nil (by rw [hasEnded, phase])
  have inputs_eq : r'.inputs = r.inputs ++ [f] := by
    unfold inputs
    rw [trace, List.filterMap_append]
    rfl
  exact {
    sound := s.sound h.sound
    session := by
      rw [s.plain_eq (by rw [phase]; exact nofun)]
      exact h.session
    takings_eq := by
      rw [h.takings_eq, none_lost, inputs_eq, unapplied_of_input (.inr phase) frame,
        unapplied_of_noInput noInput, List.append_nil, List.append_nil]
    lost_end := fun ne => absurd none_lost ne
    lost_le := h.lost_le
    faithful := by
      rw [trace]
      exact h.faithful.append nofun
    made := by
      intro g _ held
      obtain free | ⟨phase', rfl⟩ := made
      · rw [frameAtHand?, free] at held
        cases held
      · have same : r'.handoff.frame? id = some f := by rw [s.frame?_eq, frame]
        rw [frameAtHand?_eq (by rw [phase']; rfl) same] at held
        obtain rfl := Option.some.inj held
        exact ⟨modes, buffer, by rw [trace]; simp⟩ }

/-- The sink is given the output for the frame at hand. -/
theorem given (h : r.HistoryInv events lost) (s : StepRel t k clock r r') {event : RenderEvent}
    (phase : r.phase = .present id ∨ r.phase = .save id) (frame : r.handoff.frame? id = some f)
    (trace : r'.trace = r.trace ++ [event]) (output : event.output? = some (r.output f))
    (scratch : r'.scratch = r.scratch) (noInput : r'.phase.hasInput = false)
    (held : r'.phase.atHand? = none ∨ r'.phase.atHand? = some id) : r'.HistoryInv events lost := by
  have noInput₀ : r.phase.hasInput = false := by obtain phase | phase := phase <;> rw [phase] <;> rfl
  have held₀ : r.phase.atHand? = some id := by obtain phase | phase := phase <;> rw [phase] <;> rfl
  have other : r.phase ≠ .take := by obtain phase | phase := phase <;> rw [phase] <;> exact nofun
  have going : r.hasEnded = false := by obtain phase | phase := phase <;> rw [hasEnded, phase]
  obtain ⟨modes, buffer, mem⟩ := h.made f noInput₀ (frameAtHand?_eq held₀ frame)
  refine h.still s (s.plain_eq other) ?_ ?_ ?_ ?_ ?_
  · cases event with
    | applied => cases output
    | _ => simp [inputs, trace, RenderEvent.input?]
  · rw [unapplied_of_noInput noInput₀, unapplied_of_noInput noInput]
  · intro ended
    rw [going] at ended
    cases ended
  · rw [trace]
    refine h.faithful.append fun o eq => ?_
    obtain rfl := Option.some.inj (output.symm.trans eq)
    exact ⟨f, modes, buffer, mem, rfl⟩
  · intro g _ held'
    obtain free | held := held
    · rw [frameAtHand?, free] at held'
      cases held'
    · have same : r'.handoff.frame? id = some f := by rw [s.frame?_eq, frame]
      rw [frameAtHand?_eq held same] at held'
      obtain rfl := Option.some.inj held'
      exact ⟨modes, buffer, by rw [trace, scratch]; exact List.mem_append_left _ mem⟩

/-- A frame is taken. -/
theorem took (h : r.HistoryInv events lost) {handoff : FrameHandoff} (phase : r.phase = .take)
    (taken : r.handoff.plain.tryTake = (.ok (some f), handoff.plain))
    (frame : handoff.frame? id = some f) (sound : handoff.Sound [id]) :
    ({ r with handoff, phase := .drainWith id } : RenderLoop σ ρ).HistoryInv (events ++ [.took f]) lost := by
  have none_lost : lost = [] := h.lost_eq_nil (by rw [hasEnded, phase])
  have history := h.session.tryTake_any
  rw [taken] at history
  exact {
    sound
    session := history
    takings_eq := by
      rw [SlotEvent.takings_append_took, h.takings_eq, unapplied_of_free (by rw [phase]; rfl),
        none_lost, List.append_nil, List.append_nil, List.append_nil]
      exact congrArg (r.inputs ++ ·) (unapplied_of_input (.inl rfl) frame).symm
    lost_end := fun ne => absurd none_lost ne
    lost_le := h.lost_le
    faithful := h.faithful
    made := nofun }

/-- The loop is told to end when it has just taken a frame. -/
theorem abandoned (h : r.HistoryInv events lost) (s : StepRel t k clock r r')
    (phase : r.phase = .drainWith id) (frame : r.handoff.frame? id = some f)
    (phase' : r'.phase = .ended .shutdown) (trace : r'.trace = r.trace) :
    r'.HistoryInv events (lost ++ [f]) := by
  have none_lost : lost = [] := h.lost_eq_nil (by rw [hasEnded, phase])
  have inputs_eq : r'.inputs = r.inputs := by rw [inputs, trace, inputs]
  exact {
    sound := s.sound h.sound
    session := by
      rw [s.plain_eq (by rw [phase]; exact nofun)]
      exact h.session
    takings_eq := by
      rw [h.takings_eq, none_lost, inputs_eq, unapplied_of_input (.inl phase) frame,
        unapplied_of_free (by rw [phase']; rfl), List.append_nil, List.append_nil, List.nil_append]
    lost_end := fun _ => by rw [hasEnded, phase']
    lost_le := by rw [none_lost]; exact Nat.le_refl 1
    faithful := by
      rw [trace]
      exact h.faithful
    made := by
      intro g _ held
      rw [frameAtHand?, phase'] at held
      cases held }

/-- A step that neither takes a frame nor gives one up. -/
theorem quiet (history : r'.HistoryInv events lost) (nothing : r.taken? = none)
    (kept : r.abandoned? = none) :
    r'.HistoryInv (events ++ (r.taken?.map .took).toList) (lost ++ r.abandoned?.toList) := by
  rw [nothing, kept]
  simpa using history

/-- A step of a phase in which no frame is taken or given up. -/
theorem quiet_at {here : RenderPhase} (history : r'.HistoryInv events lost) (phase : r.phase = here)
    (passes : here.passes = false) :
    r'.HistoryInv (events ++ (r.taken?.map .took).toList) (lost ++ r.abandoned?.toList) := by
  refine history.quiet (taken?_of_ne fun take => ?_) (abandoned?_of_ne fun id drain => ?_)
  · rw [phase.symm.trans take] at passes
    cases passes
  · rw [phase.symm.trans drain] at passes
    cases passes

end HistoryInv

/-- A step adds to the history the frame that it takes, and to what is lost the frame that it gives up. -/
theorem StepRel.historyInv (s : StepRel t k clock r r') (h : r.HistoryInv events lost) :
    r'.HistoryInv (events ++ (r.taken?.map .took).toList) (lost ++ r.abandoned?.toList) := by
  have s' := s
  cases s with
  | readNothing phase | notFrozen phase | frozen phase | thawed phase =>
    exact (h.look s' rfl (by rw [phase]; rfl) rfl rfl (by simp [hasEnded, phase])).quiet_at phase rfl
  | @readNothingWith id phase empty =>
    have held : r.phase.atHand? = some id := by rw [phase]; rfl
    obtain ⟨f, frame⟩ := h.sound.exists_frame held
    refine (h.still s' rfl rfl ?_ (by simp [hasEnded, phase]) h.faithful fun _ noInput => ?_).quiet
      (by simp [taken?, phase]) (by simp [abandoned?, empty])
    · rw [unapplied_of_input (.inl phase) frame]
      exact unapplied_of_input (.inr rfl) frame
    · cases noInput
  | readSnapshot reads first =>
    refine (h.still s' rfl rfl rfl (fun ended => ended) h.faithful h.made).quiet ?_
      (by simp [abandoned?, first])
    obtain phase | ⟨id, phase⟩ := reads <;> simp [taken?, phase]
  | readShutdown phase first =>
    exact (h.look s' rfl (by rw [phase]; rfl) rfl rfl fun _ => rfl).quiet_at phase rfl
  | @readShutdownWith id queue phase first =>
    have held : r.phase.atHand? = some id := by rw [phase]; rfl
    obtain ⟨f, frame⟩ := h.sound.exists_frame held
    have nothing : r.taken? = none := by simp [taken?, phase]
    have abandoned : r.abandoned? = some f := by simp [abandoned?, phase, first, frame]
    rw [nothing, abandoned, Option.map_none, Option.toList_none, List.append_nil]
    exact h.abandoned s' phase frame rfl rfl
  | tookNothing phase taken =>
    exact (h.look s' rfl (by rw [phase]; rfl) rfl rfl (by simp [hasEnded, phase])).quiet
      (by simp [taken?, phase, taken, Except.toOption]) (by simp [abandoned?, phase])
  | foundClosed phase closed =>
    have refused : r.handoff.plain.tryTake.1 = .error .sessionClosed := by
      have closed : r.handoff.plain.closed = true := closed
      simp [PlainSession.tryTake, closed]
    exact (h.look s' rfl (by rw [phase]; rfl) rfl rfl fun _ => rfl).quiet
      (by simp [taken?, phase, refused, Except.toOption]) (by simp [abandoned?, phase])
  | @took id f handoff phase taken frame sound same =>
    have eq : r.taken? = some f := by simp [taken?, phase, taken, Except.toOption]
    have kept : r.abandoned? = none := by simp [abandoned?, phase]
    rw [eq, kept, Option.toList_none, List.append_nil]
    exact h.took phase taken frame sound
  | panicked phase frame | failed phase frame =>
    exact (h.applied s' phase frame rfl rfl (.inl rfl)).quiet_at phase rfl
  | transformed phase frame applied fits =>
    exact (h.applied s' phase frame rfl rfl (.inr ⟨rfl, rfl⟩)).quiet_at phase rfl
  | presentFailed phase frame | presented phase frame =>
    exact (h.given s' (.inl phase) frame rfl rfl rfl rfl (.inr rfl)).quiet_at phase rfl
  | notSaved phase unasked =>
    refine (h.still s' (FrameHandoff.plain_release ..) rfl ?_ (by simp [hasEnded, phase]) h.faithful
      fun _ _ held => ?_).quiet_at phase rfl
    · rw [unapplied_of_noInput (r := r) (by rw [phase]; rfl)]
      rfl
    · cases held
  | saveFailed phase frame | saved phase frame | overloaded phase frame =>
    exact (h.given s' (.inr phase) frame rfl rfl rfl rfl (.inl rfl)).quiet_at phase rfl
  | ended phase => exact h.quiet_at phase rfl

namespace HistoryInv

theorem step (h : r.HistoryInv events lost) (t : FrameTransform σ) (k : FrameSink ρ) (clock : Reading) :
    (r.step t k clock).HistoryInv (events ++ (r.taken?.map .took).toList)
      (lost ++ r.abandoned?.toList) :=
  (stepRel_step h.sound).historyInv h

/-! ## What others do -/

/-- Others change the session, the commands and the modes, but not the frame at hand. -/
theorem change (h : r.HistoryInv events lost) (handoff : FrameHandoff) (events' : List SlotEvent)
    (queue : List Command) (modes : CartoonModes) (sound : handoff.Sound r.phase.atHand?.toList)
    (session : handoff.plain.HistoryInv (events ++ events')) (takings : takings events' = [])
    (same : ∀ id ∈ r.phase.atHand?.toList, handoff.frame? id = r.handoff.frame? id) :
    ({ r with handoff, queue, modes } : RenderLoop σ ρ).HistoryInv (events ++ events') lost := by
  have atHand := frameAtHand?_congr queue modes same
  exact {
    sound
    session
    takings_eq := by
      rw [SlotEvent.takings_append, takings, List.append_nil, h.takings_eq]
      unfold unapplied
      rw [atHand]
      rfl
    lost_end := h.lost_end
    lost_le := h.lost_le
    faithful := h.faithful
    made := by
      rw [atHand]
      exact h.made }

theorem send (h : r.HistoryInv events lost) (c : Command) : (r.send c).HistoryInv events lost := by
  have changed := h.change r.handoff [] (r.queue ++ [c]) r.modes h.sound (by simpa using h.session) rfl
    fun _ _ => rfl
  rwa [List.append_nil] at changed

theorem setModes (h : r.HistoryInv events lost) (modes : CartoonModes) :
    (r.setModes modes).HistoryInv events lost := by
  have changed := h.change r.handoff [] r.queue modes h.sound (by simpa using h.session) rfl
    fun _ _ => rfl
  rwa [List.append_nil] at changed

theorem with_metrics (h : r.HistoryInv events lost) (metrics : Metrics) :
    ({ r with handoff.metrics := metrics } : RenderLoop σ ρ).HistoryInv events lost := by
  have changed := h.change { r.handoff with metrics } [] r.queue r.modes
    (h.sound.with_metrics metrics) (by simpa using h.session) rfl fun _ _ => rfl
  rwa [List.append_nil] at changed

/-- A publication adds to the history if it is not refused. -/
theorem publish (h : r.HistoryInv events lost) (bytes : Bytes) :
    ({ r with handoff := (r.handoff.publish bytes).2 } : RenderLoop σ ρ).HistoryInv
      (events ++ ((r.handoff.publish bytes).1.toOption.map fun n =>
        .published ⟨⟨n, r.handoff.session.stream⟩, bytes⟩).toList) lost := by
  obtain ⟨c', result, plain, sound, same⟩ := FrameHandoff.publish_refines bytes h.sound
  have result : r.handoff.publish bytes = ((r.handoff.plain.publish bytes).1, c') := result
  rw [result]
  refine h.change _ _ r.queue r.modes sound ?_ ?_ same
  · rw [plain]
    exact h.session.publish_any bytes
  · cases (r.handoff.plain.publish bytes).1 <;> rfl

theorem close (h : r.HistoryInv events lost) :
    ({ r with handoff := r.handoff.stop } : RenderLoop σ ρ).HistoryInv (events ++ [.stopped]) lost := by
  obtain ⟨plain, sound, same⟩ := FrameHandoff.stop_refines h.sound
  refine h.change _ _ r.queue r.modes sound ?_ rfl fun id _ => same id
  rw [plain]
  exact h.session.stop

end HistoryInv

/-! ## Free schedules -/

/-- What others do between two steps of the loop does not concern the frame at hand. -/
structure Undisturbed (r r' : RenderLoop σ ρ) (sent : List Command) : Prop where
  phase : r'.phase = r.phase
  trace : r'.trace = r.trace
  pendingSave : r'.pendingSave = r.pendingSave
  frameAtHand : r'.frameAtHand? = r.frameAtHand?
  queue : r'.queue = r.queue ++ sent

theorem undisturbed_of_handoff {handoff : FrameHandoff}
    (same : ∀ id ∈ r.phase.atHand?.toList, handoff.frame? id = r.handoff.frame? id) :
    r.Undisturbed { r with handoff } [] :=
  ⟨rfl, rfl, rfl, frameAtHand?_congr r.queue r.modes same, (List.append_nil _).symm⟩

/-- The loop takes a step, or others do something. -/
theorem act_cases (h : r.Sound) (action : RenderAction) :
    (∃ clock, action = .step clock ∧ StepRel t k clock r (r.act t k action)) ∨
      action.isStep = false ∧ r.Undisturbed (r.act t k action) action.command?.toList := by
  cases action with
  | step clock => exact .inl ⟨clock, rfl, stepRel_step h⟩
  | send c => exact .inr ⟨rfl, rfl, rfl, rfl, rfl, rfl⟩
  | setModes modes => exact .inr ⟨rfl, rfl, rfl, rfl, rfl, (List.append_nil _).symm⟩
  | publish bytes =>
    obtain ⟨c', result, -, -, same⟩ := FrameHandoff.publish_refines bytes h
    have result : r.handoff.publish bytes = ((r.handoff.plain.publish bytes).1, c') := result
    refine .inr ⟨rfl, undisturbed_of_handoff ?_⟩
    rw [result]
    exact same
  | close =>
    obtain ⟨-, -, same⟩ := FrameHandoff.stop_refines h
    exact .inr ⟨rfl, undisturbed_of_handoff fun id _ => same id⟩

/-- A loop that has ended stays as it ended. -/
theorem phase_act_of_ended {why : RenderEnd} (ended : r.phase = .ended why) (action : RenderAction) :
    (r.act t k action).phase = .ended why := by
  cases action with
  | step clock => simp [act, step, ended]
  | _ => exact ended

theorem phase_run_of_ended {why : RenderEnd} (ended : r.phase = .ended why)
    (schedule : List RenderAction) : (r.run t k schedule).phase = .ended why := by
  induction schedule generalizing r with
  | nil => exact ended
  | cons action rest ih => exact ih (phase_act_of_ended ended action)

namespace HistoryInv

theorem act (h : r.HistoryInv events lost) (t : FrameTransform σ) (k : FrameSink ρ) (action : RenderAction) :
    ∃ events' lost', (r.act t k action).HistoryInv events' lost' := by
  cases action with
  | step clock => exact ⟨_, _, h.step t k clock⟩
  | send c => exact ⟨_, _, h.send c⟩
  | setModes modes => exact ⟨_, _, h.setModes modes⟩
  | publish bytes => exact ⟨_, _, h.publish bytes⟩
  | close => exact ⟨_, _, h.close⟩

theorem run (h : r.HistoryInv events lost) (t : FrameTransform σ) (k : FrameSink ρ)
    (schedule : List RenderAction) :
    ∃ events' lost', (r.run t k schedule).HistoryInv events' lost' := by
  induction schedule generalizing r events lost with
  | nil => exact ⟨events, lost, h⟩
  | cons action rest ih =>
    obtain ⟨events₁, lost₁, history⟩ := h.act t k action
    exact ih history

end HistoryInv

end RenderLoop

end FramePipeline
