import FramePipeline.Proofs.Render.History

/-!
# What a render loop puts out

The buffer that transforms write into is used for all frames, and is left as it is by a call that failed. It
is emptied before every call, and given to the sink only after a call that filled it. So what the sink is
given is what the latest call of the transform wrote, for the frame that this call was given.

Main definitions: `RenderTrace.LatestIs`, `RenderTrace.IsFresh`, `RenderLoop.Fresh` (the invariant). Main
statements: `RenderLoop.fresh_run`, `RenderLoop.HistoryInv.output_ne_of_refused` (what was refused is never
put out).
-/

namespace FramePipeline

/-! ## Sizes -/

/-- Frames of the session have `n` bytes, and so has the waiting one. -/
structure PlainSession.Sized (s : PlainSession) (n : Nat) : Prop where
  frameLen : s.frameLen = n
  waiting : ∀ f, s.waiting = some f → f.data.length = n

namespace PlainSession

variable {s : PlainSession} {n : Nat}

theorem sized_start {stream : StreamFormat} (started : start stream = .ok s) : s.Sized s.frameLen where
  frameLen := rfl
  waiting := by
    rw [waiting_of_start started]
    exact nofun

theorem Sized.publish (h : s.Sized n) (bytes : Bytes) : (s.publish bytes).2.Sized n := by
  unfold PlainSession.publish
  split
  · exact h
  · split
    · next fits =>
      refine ⟨h.frameLen, fun f waiting => ?_⟩
      obtain rfl := Option.some.inj waiting
      exact fits.trans h.frameLen
    · exact ⟨h.frameLen, h.waiting⟩

theorem Sized.tryTake (h : s.Sized n) : s.tryTake.2.Sized n := by
  unfold PlainSession.tryTake
  split
  · exact h
  · split
    · exact h
    · exact ⟨h.frameLen, nofun⟩

theorem Sized.stop (h : s.Sized n) : s.stop.Sized n :=
  ⟨h.frameLen, nofun⟩

end PlainSession

/-! ## Traces -/

/-- The latest call of the transform was for `f`, into an empty buffer, and came to `out`. -/
def RenderTrace.LatestIs (trace : List RenderEvent) (f : Frame) (out : Bytes) : Prop :=
  ∃ earlier modes others, trace = earlier ++ .applied f modes [] (.done out) :: others ∧
    ∀ event ∈ others, event.input? = none

/-- Calls have an empty buffer and a frame of `n` bytes, and what the sink is given is what the latest of
them came to. -/
def RenderEvent.IsFresh (n : Nat) (before : List RenderEvent) : RenderEvent → Prop
  | applied f _ buffer _ => buffer = [] ∧ f.data.length = n
  | presented output _ | saved output _ =>
    output.data.length = n ∧ ∃ f, f.metadata = output.metadata ∧ RenderTrace.LatestIs before f output.data

/-- So it is at every point of the trace. -/
def RenderTrace.IsFresh (n : Nat) (trace : List RenderEvent) : Prop :=
  ∀ before event after, trace = before ++ event :: after → event.IsFresh n before

namespace RenderTrace

variable {trace : List RenderEvent} {event : RenderEvent} {f : Frame} {out : Bytes} {n : Nat}

theorem IsFresh.append (h : IsFresh n trace) (new : event.IsFresh n trace) :
    IsFresh n (trace ++ [event]) := by
  intro before x after split
  obtain ⟨after', -, split'⟩ | ⟨-, rfl, rfl⟩ := split_concat split
  · exact h before x after' split'
  · exact new

/-- What the sink was given is what an earlier call came to. -/
theorem IsFresh.output (h : IsFresh n trace) (mem : event ∈ trace) {output : Frame}
    (given : event.output? = some output) :
    output.data.length = n ∧ ∃ f modes, f.metadata = output.metadata ∧
      .applied f modes [] (.done output.data) ∈ trace := by
  obtain ⟨before, after, rfl⟩ := List.append_of_mem mem
  have fresh := h before event after rfl
  obtain ⟨length, f, metadata, latest⟩ : output.data.length = n ∧
      ∃ f, f.metadata = output.metadata ∧ LatestIs before f output.data := by
    cases event with
    | applied => cases given
    | presented | saved =>
      obtain rfl := Option.some.inj given
      exact fresh
  obtain ⟨earlier, modes, others, rfl, -⟩ := latest
  exact ⟨length, f, modes, metadata, by simp⟩

theorem latestIs_applied (trace : List RenderEvent) (f : Frame) (modes : CartoonModes) (out : Bytes) :
    LatestIs (trace ++ [.applied f modes [] (.done out)]) f out :=
  ⟨trace, modes, [], rfl, fun _ mem => absurd mem List.not_mem_nil⟩

/-- What the sink is given is no call. -/
theorem LatestIs.append (h : LatestIs trace f out) (other : event.input? = none) :
    LatestIs (trace ++ [event]) f out := by
  obtain ⟨earlier, modes, others, rfl, none⟩ := h
  refine ⟨earlier, modes, others ++ [event], by rw [List.append_assoc, List.cons_append], ?_⟩
  intro x mem
  obtain mem | mem := List.mem_append.mp mem
  · exact none x mem
  · rw [List.mem_singleton.mp mem]
    exact other

end RenderTrace

/-! ## The invariant -/

namespace RenderLoop

variable {σ ρ : Type} {t : FrameTransform σ} {k : FrameSink ρ} {clock : Reading} {r r' : RenderLoop σ ρ}
    {n : Nat}
  {id : CellId} {f : Frame}

/-- All frames have `n` bytes, and the buffer holds what the latest call made of the frame at hand. -/
structure Fresh (r : RenderLoop σ ρ) (n : Nat) : Prop where
  sound : r.Sound
  sized : r.handoff.plain.Sized n
  atHand : ∀ f, r.frameAtHand? = some f → f.data.length = n
  trace : RenderTrace.IsFresh n r.trace
  made : ∀ f, r.phase.hasInput = false → r.frameAtHand? = some f →
    r.scratch.length = n ∧ RenderTrace.LatestIs r.trace f r.scratch

theorem fresh_start {stream : StreamFormat} {c : FrameHandoff} (started : FrameHandoff.start stream = .ok c)
    (settings : RenderSettings) (transform : σ) (sink : ρ) :
    (start c settings transform sink).Fresh c.session.frameLen := by
  obtain ⟨sound, plain⟩ := FrameHandoff.start_refines started
  exact {
    sound
    sized := PlainSession.sized_start plain
    atHand := nofun
    trace := by
      intro before event after split
      simp [start] at split
    made := nofun }

/-! ## Steps -/

theorem StepRel.sized (s : StepRel t k clock r r') (h : r.handoff.plain.Sized n) :
    r'.handoff.plain.Sized n := by
  obtain ⟨id, f, -, -, taken, -⟩ | ⟨id, metrics, -, -, handoff⟩ | ⟨metrics, -, handoff⟩ := s.handoff_cases
  · have sized := h.tryTake
    rwa [taken] at sized
  · rwa [handoff, FrameHandoff.plain_release, FrameHandoff.plain_with_metrics]
  · rwa [handoff, FrameHandoff.plain_with_metrics]

/-- The frame at hand was waiting, or was at hand before. -/
theorem StepRel.frameAtHand_cases (s : StepRel t k clock r r') (there : r'.frameAtHand? = some f) :
    r.handoff.plain.waiting = some f ∨ r.frameAtHand? = some f := by
  obtain ⟨id, g, -, phase, taken, frame, -⟩ | ⟨id, metrics, -, free, -⟩ | ⟨metrics, same, -⟩ :=
    s.handoff_cases
  · rw [frameAtHand?_eq (by rw [phase]; rfl) frame] at there
    obtain rfl := Option.some.inj there
    exact .inl (PlainSession.waiting_of_tryTake taken).1
  · rw [frameAtHand?, free] at there
    cases there
  · refine .inr ?_
    rw [frameAtHand?, same] at there
    cases held : r.phase.atHand? with
    | none =>
      rw [held] at there
      cases there
    | some id =>
      rw [held] at there
      exact frameAtHand?_eq held ((s.frame?_eq id).symm.trans there)

/-- A step goes on being fresh if what it adds to the trace is, and the buffer still is what it should be. -/
theorem Fresh.next (h : r.Fresh n) (s : StepRel t k clock r r') (trace : RenderTrace.IsFresh n r'.trace)
    (made : ∀ f, r'.phase.hasInput = false → r'.frameAtHand? = some f →
      r'.scratch.length = n ∧ RenderTrace.LatestIs r'.trace f r'.scratch) : r'.Fresh n where
  sound := s.sound h.sound
  sized := s.sized h.sized
  atHand := by
    intro f there
    obtain waiting | before := s.frameAtHand_cases there
    · exact h.sized.waiting f waiting
    · exact h.atHand f before
  trace
  made

/-- Where the buffer is not going to be put out, it does not matter what it holds. -/
theorem Fresh.next_unmade (h : r.Fresh n) (s : StepRel t k clock r r')
    (trace : RenderTrace.IsFresh n r'.trace)
    (unmade : r'.phase.hasInput = true ∨ r'.phase.atHand? = none) : r'.Fresh n := by
  refine h.next s trace fun f noInput there => ?_
  obtain input | free := unmade
  · rw [noInput] at input
    cases input
  · rw [frameAtHand?, free] at there
    cases there

/-- The sink is given the buffer only as what the latest call came to. -/
theorem Fresh.output (h : r.Fresh n) (phase : r.phase = .present id ∨ r.phase = .save id)
    (frame : r.handoff.frame? id = some f) :
    r.scratch.length = n ∧ RenderTrace.LatestIs r.trace f r.scratch := by
  obtain phase | phase := phase
  · exact h.made f (by rw [phase]; rfl) (frameAtHand?_eq (by rw [phase]; rfl) frame)
  · exact h.made f (by rw [phase]; rfl) (frameAtHand?_eq (by rw [phase]; rfl) frame)

theorem StepRel.fresh (s : StepRel t k clock r r') (h : r.Fresh n) : r'.Fresh n := by
  have s' := s
  cases s with
  | readNothing | readShutdown | readShutdownWith | notFrozen | frozen | thawed | tookNothing
  | foundClosed | notSaved => exact h.next_unmade s' h.trace (.inr rfl)
  | readNothingWith | took => exact h.next_unmade s' h.trace (.inl rfl)
  | readSnapshot | ended => exact h.next s' h.trace h.made
  | @panicked id f transform phase frame | @failed id f result out transform phase frame =>
    have fits : f.data.length = n := h.atHand f (frameAtHand?_eq (by rw [phase]; rfl) frame)
    exact h.next_unmade s' (h.trace.append ⟨rfl, fits⟩) (.inr rfl)
  | @transformed id f out transform phase frame applied same =>
    have there : r.frameAtHand? = some f := frameAtHand?_eq (by rw [phase]; rfl) frame
    have fits : f.data.length = n := h.atHand f there
    refine h.next s' (h.trace.append ⟨rfl, fits⟩) fun g _ there' => ?_
    obtain rfl : f = g := Option.some.inj (frame.symm.trans there')
    exact ⟨same.trans fits, RenderTrace.latestIs_applied ..⟩
  | @presentFailed id f e sink phase frame | @presented id f sink phase frame =>
    obtain ⟨length, latest⟩ := h.output (.inl phase) frame
    refine h.next s' (h.trace.append ⟨length, f, rfl, latest⟩) fun g _ there' => ?_
    obtain rfl : f = g := Option.some.inj (frame.symm.trans there')
    exact ⟨length, latest.append rfl⟩
  | @saveFailed id f e sink phase frame | @saved id f sink frozenUntil phase frame
  | @overloaded id f sink o phase frame =>
    obtain ⟨length, latest⟩ := h.output (.inr phase) frame
    exact h.next_unmade s' (h.trace.append ⟨length, f, rfl, latest⟩) (.inr rfl)

/-! ## What others do -/

/-- Others change the session, the commands and the modes, but not the frame at hand. -/
theorem Fresh.change (h : r.Fresh n) (handoff : FrameHandoff) (queue : List Command) (modes : CartoonModes)
    (sound : handoff.Sound r.phase.atHand?.toList) (sized : handoff.plain.Sized n)
    (same : ∀ id ∈ r.phase.atHand?.toList, handoff.frame? id = r.handoff.frame? id) :
    ({ r with handoff, queue, modes } : RenderLoop σ ρ).Fresh n := by
  have atHand := frameAtHand?_congr queue modes same
  exact {
    sound
    sized
    atHand := by
      rw [atHand]
      exact h.atHand
    trace := h.trace
    made := by
      rw [atHand]
      exact h.made }

theorem Fresh.act (h : r.Fresh n) (t : FrameTransform σ) (k : FrameSink ρ) (action : RenderAction) :
    (r.act t k action).Fresh n := by
  cases action with
  | step clock => exact (stepRel_step h.sound).fresh h
  | send c => exact h.change r.handoff _ r.modes h.sound h.sized fun _ _ => rfl
  | setModes modes => exact h.change r.handoff r.queue modes h.sound h.sized fun _ _ => rfl
  | publish bytes =>
    obtain ⟨c', result, plain, sound, same⟩ := FrameHandoff.publish_refines bytes h.sound
    have result : r.handoff.publish bytes = ((r.handoff.plain.publish bytes).1, c') := result
    have published : (r.handoff.publish bytes).2 = c' := by rw [result]
    have sized : c'.plain.Sized n := by
      rw [plain]
      exact h.sized.publish bytes
    show ({ r with handoff := (r.handoff.publish bytes).2 } : RenderLoop σ ρ).Fresh n
    rw [published]
    exact h.change c' r.queue r.modes sound sized same
  | close =>
    obtain ⟨plain, sound, same⟩ := FrameHandoff.stop_refines h.sound
    have sized : r.handoff.stop.plain.Sized n := by
      rw [plain]
      exact h.sized.stop
    exact h.change r.handoff.stop r.queue r.modes sound sized fun id _ => same id

theorem Fresh.run (h : r.Fresh n) (t : FrameTransform σ) (k : FrameSink ρ) (schedule : List RenderAction) :
    (r.run t k schedule).Fresh n := by
  induction schedule generalizing r with
  | nil => exact h
  | cons action rest ih => exact ih (h.act t k action)

/-- Whatever the transform does, and whatever others do between the steps of the loop, its trace is fresh. -/
theorem fresh_run {stream : StreamFormat} {c : FrameHandoff} (started : FrameHandoff.start stream = .ok c)
    (settings : RenderSettings) (t : FrameTransform σ) (k : FrameSink ρ) (transform : σ) (sink : ρ)
    (schedule : List RenderAction) :
    ((start c settings transform sink).run t k schedule).Fresh c.session.frameLen :=
  (fresh_start started settings transform sink).run t k schedule

/-! ## What is refused -/

/-- The transform is given every frame once. -/
theorem HistoryInv.applied_unique {events : List SlotEvent} {lost : List Frame} (h : r.HistoryInv events lost)
    {x y : RenderEvent} {f g : Frame} (mem : x ∈ r.trace) (mem' : y ∈ r.trace)
    (input : x.input? = some f) (input' : y.input? = some g) (same : f.sequence = g.sequence) :
    x = y := by
  have pairwise := h.pairwise_inputs
  rw [List.map_append, List.pairwise_append, List.pairwise_map, inputs, List.pairwise_filterMap]
    at pairwise
  have ordered := pairwise.1
  obtain ⟨before, after, split⟩ := List.append_of_mem mem
  rw [split] at mem' ordered
  obtain ⟨-, later, earlier⟩ := List.pairwise_append.mp ordered
  obtain there | there := List.mem_append.mp mem'
  · have lt := earlier y there x (List.mem_cons_self ..) g input' f input
    omega
  · obtain rfl | there := List.mem_cons.mp there
    · rfl
    · have lt := (List.pairwise_cons.mp later).1 y there f input g input'
      omega

/-- Nothing that the sink is given has the number of a frame of which the transform made no output. -/
theorem HistoryInv.output_ne_of_refused {events : List SlotEvent} {lost : List Frame}
    (h : r.HistoryInv events lost) (fresh : r.Fresh n) {modes : CartoonModes} {buffer : Bytes}
      {result : Applied}
    (mem : .applied f modes buffer result ∈ r.trace)
    (refused : ∀ out, result = .done out → out.length ≠ n)
    {event : RenderEvent} {output : Frame} (given : event ∈ r.trace)
    (output_eq : event.output? = some output) : output.sequence ≠ f.sequence := by
  intro same
  obtain ⟨length, g, modes', metadata, mem'⟩ := fresh.trace.output given output_eq
  have sequence : f.sequence = g.sequence :=
    same.symm.trans (congrArg FrameMetadata.sequence metadata.symm)
  cases h.applied_unique mem mem' rfl rfl sequence
  exact refused _ rfl length

end RenderLoop

end FramePipeline
