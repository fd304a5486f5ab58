import FramePipeline.Proofs.Render.History

/-!
# Requests for snapshots

A request goes through the queue of a render loop into its pending flag, and from there into an attempt to
save the output for the next frame that is rendered. Requests that the flag finds set are one request. As
the loop reads its commands once more when it has a frame at hand, a frame that was published after a
request was sent is not rendered before the request is read.

Main definitions: `RenderLoop.rendered`, `RenderLoop.attempts`, `RenderLoop.receipts` (the requests that a
schedule reads), `RenderLoop.FrameRequestInv` (the invariant). Main statement:
`RenderLoop.send_snapshot_attempts`.
-/

namespace FramePipeline

namespace RenderEvent

/-- The frame of which the transform made an output of its length. -/
def rendered? : RenderEvent → Option Frame
  | applied f _ _ (.done out) => if out.length = f.data.length then some f else none
  | _ => none

/-- The output that the sink was given to save. -/
def saved? : RenderEvent → Option Frame
  | saved output _ => some output
  | _ => none

theorem output?_of_saved? {event : RenderEvent} {output : Frame} (saved : event.saved? = some output) :
    event.output? = some output := by
  cases event with
  | saved => exact saved
  | _ => cases saved

end RenderEvent

namespace RenderLoop

variable {σ ρ : Type} {t : FrameTransform σ} {k : FrameSink ρ} {clock : Reading} {r r' : RenderLoop σ ρ}
  {id : CellId} {f : Frame} {since n m : Nat}

/-- The frames that were rendered, in their order. -/
def rendered (r : RenderLoop σ ρ) : List Frame :=
  r.trace.filterMap RenderEvent.rendered?

/-- The outputs that the sink was given to save, in their order. -/
def attempts (r : RenderLoop σ ρ) : List Frame :=
  r.trace.filterMap RenderEvent.saved?

/-- The next step reads a request. -/
def receives (r : RenderLoop σ ρ) : Bool :=
  match r.phase, r.queue with
  | .drain, .snapshot :: _ | .drainWith _, .snapshot :: _ => true
  | _, _ => false

/-- The number of requests that a schedule reads. -/
def receipts (t : FrameTransform σ) (k : FrameSink ρ) : RenderLoop σ ρ → List RenderAction → Nat
  | _, [] => 0
  | r, action :: rest => (action.isStep && r.receives).toNat + receipts t k (r.act t k action) rest

/-! ## Steps -/

theorem rendered_append {event : RenderEvent} (trace : r'.trace = r.trace ++ [event])
    (rendered : event.rendered? = some f) : r'.rendered = r.rendered ++ [f] := by
  simp [RenderLoop.rendered, trace, rendered]

theorem rendered_eq {event : RenderEvent} (trace : r'.trace = r.trace ++ [event])
    (other : event.rendered? = none) : r'.rendered = r.rendered := by
  simp [rendered, trace, other]

theorem attempts_append {event : RenderEvent} (trace : r'.trace = r.trace ++ [event])
    (saved : event.saved? = some f) : r'.attempts = r.attempts ++ [f] := by
  simp [attempts, trace, saved]

theorem attempts_eq {event : RenderEvent} (trace : r'.trace = r.trace ++ [event])
    (other : event.saved? = none) : r'.attempts = r.attempts := by
  simp [attempts, trace, other]

/-- What a step does to requests: it reads one, or spends the pending one on an attempt, or neither. -/
theorem StepRel.request_cases (s : StepRel t k clock r r') :
    (r.receives = true ∧ (∃ queue, r.queue = .snapshot :: queue ∧ r'.queue = queue) ∧
        r'.pendingSave = true ∧ r'.attempts = r.attempts) ∨
      (r.receives = false ∧ r.pendingSave = true ∧ r'.pendingSave = false ∧ r'.queue = r.queue ∧
        ∃ output, r'.attempts = r.attempts ++ [output]) ∨
      (r.receives = false ∧ r'.pendingSave = r.pendingSave ∧
        r'.queue.count .snapshot = r.queue.count .snapshot ∧ r'.attempts = r.attempts) := by
  cases s with
  | readSnapshot reads first =>
    refine .inl ⟨?_, ⟨_, first, rfl⟩, rfl, rfl⟩
    obtain phase | ⟨id, phase⟩ := reads <;> simp [receives, phase, first]
  | saveFailed phase frame asked | saved phase frame asked | overloaded phase frame asked =>
    exact .inr (.inl ⟨by simp [receives, phase], asked, rfl, rfl, _, attempts_append rfl rfl⟩)
  | readShutdown phase first | readShutdownWith phase first =>
    exact .inr (.inr ⟨by simp [receives, phase, first], rfl, by simp [first], rfl⟩)
  | readNothing phase empty | readNothingWith phase empty =>
    exact .inr (.inr ⟨by simp [receives, empty], rfl, rfl, rfl⟩)
  | panicked phase | failed phase | transformed phase | presentFailed phase | presented phase =>
    exact .inr (.inr ⟨by simp [receives, phase], rfl, rfl, attempts_eq rfl rfl⟩)
  | notFrozen phase | frozen phase | thawed phase | tookNothing phase | foundClosed phase | took phase
  | notSaved phase | ended phase =>
    exact .inr (.inr ⟨by simp [receives, phase], rfl, rfl, rfl⟩)

/-- A frame comes to be transformed only if there is no command left to read. -/
theorem StepRel.apply_cases (s : StepRel t k clock r r') (phase' : r'.phase = .apply id) :
    r.phase = .drainWith id ∧ r.queue = [] ∧ r' = { r with phase := .apply id } := by
  cases s with
  | readNothingWith phase empty =>
    cases phase'
    exact ⟨phase, empty, rfl⟩
  | readSnapshot reads =>
    have phase' : r.phase = .apply id := phase'
    obtain phase | ⟨_, phase⟩ := reads <;> cases phase.symm.trans phase'
  | ended phase => cases phase.symm.trans phase'
  | _ => cases phase'

/-- A step renders the frame at hand, or none. -/
theorem StepRel.rendered_cases (s : StepRel t k clock r r') :
    (∃ id f, r.phase = .apply id ∧ r.frameAtHand? = some f ∧ r'.phase = .present id ∧
        r'.frameAtHand? = some f ∧ r'.pendingSave = r.pendingSave ∧ r'.rendered = r.rendered ++ [f]) ∨
      r'.rendered = r.rendered := by
  cases s with
  | @transformed id f out transform phase frame applied fits =>
    refine .inl ⟨id, f, phase, frameAtHand?_eq (by rw [phase]; rfl) frame, rfl,
      frameAtHand?_eq rfl frame, rfl, rendered_append rfl ?_⟩
    exact if_pos fits
  | panicked phase => exact .inr (rendered_eq rfl rfl)
  | failed phase frame applied fault =>
    refine .inr (rendered_eq rfl ?_)
    obtain ⟨e, rfl⟩ | ⟨rfl, differs⟩ := fault
    · rfl
    · exact if_neg differs
  | presentFailed => exact .inr (rendered_eq rfl rfl)
  | presented => exact .inr (rendered_eq rfl rfl)
  | saveFailed => exact .inr (rendered_eq rfl rfl)
  | saved => exact .inr (rendered_eq rfl rfl)
  | overloaded => exact .inr (rendered_eq rfl rfl)
  | _ => exact .inr rfl

/-- What is rendered was given to the transform. -/
theorem rendered_subset_inputs (mem : f ∈ r.rendered) : f ∈ r.inputs := by
  obtain ⟨event, there, eq⟩ := List.mem_filterMap.mp mem
  refine List.mem_filterMap.mpr ⟨event, there, ?_⟩
  unfold RenderEvent.rendered? at eq
  split at eq
  · split at eq
    · exact eq
    · cases eq
  · cases eq

/-! ## What is going to be saved -/

/-- The output for the frame at hand, which is no later than number `m`, is going to be saved. -/
structure SaveDue (r : RenderLoop σ ρ) (id : CellId) (m : Nat) : Prop where
  asked : r.pendingSave = true
  phase : r.phase = .present id ∨ r.phase = .save id
  frame : ∃ f, r.frameAtHand? = some f ∧ f.sequence ≤ m

/-- It is shown first, and saved then. -/
theorem StepRel.saveDue (s : StepRel t k clock r r') (w : r.SaveDue id m) :
    r.phase = .present id ∧ r'.phase = .save id ∧ r'.SaveDue id m ∨
      ∃ output, r'.attempts = r.attempts ++ [output] ∧ output.sequence ≤ m := by
  obtain ⟨asked, phase | phase, g, held, le⟩ := w
  · refine .inl ⟨phase, ?_⟩
    cases s with
    | @presentFailed id' f e sink phase' frame =>
      obtain rfl : id = id' := RenderPhase.present.inj (phase.symm.trans phase')
      rw [frameAtHand?_eq (by rw [phase]; rfl) frame] at held
      exact ⟨rfl, asked, .inr rfl, f, frameAtHand?_eq rfl frame, by rwa [Option.some.inj held]⟩
    | @presented id' f sink phase' frame =>
      obtain rfl : id = id' := RenderPhase.present.inj (phase.symm.trans phase')
      rw [frameAtHand?_eq (by rw [phase]; rfl) frame] at held
      exact ⟨rfl, asked, .inr rfl, f, frameAtHand?_eq rfl frame, by rwa [Option.some.inj held]⟩
    | _ => simp_all
  · refine .inr ?_
    cases s with
    | @saveFailed id' f _ _ phase' frame | @saved id' f _ _ phase' frame
    | @overloaded id' f _ _ phase' frame =>
      rw [frameAtHand?_eq (by rw [phase']; rfl) frame] at held
      obtain rfl := Option.some.inj held
      exact ⟨r.output f, attempts_append rfl rfl, le⟩
    | _ => simp_all

theorem Undisturbed.saveDue {sent : List Command} (u : r.Undisturbed r' sent) (w : r.SaveDue id m) :
    r'.SaveDue id m where
  asked := by rw [u.pendingSave, w.asked]
  phase := by rw [u.phase]; exact w.phase
  frame := by rw [u.frameAtHand]; exact w.frame

theorem Undisturbed.rendered {sent : List Command} (u : r.Undisturbed r' sent) :
    r'.rendered = r.rendered :=
  congrArg (List.filterMap RenderEvent.rendered?) u.trace

theorem Undisturbed.attempts {sent : List Command} (u : r.Undisturbed r' sent) :
    r'.attempts = r.attempts :=
  congrArg (List.filterMap RenderEvent.saved?) u.trace

/-- Attempts are not undone. -/
theorem StepRel.attempts_append (s : StepRel t k clock r r') :
    ∃ later, r'.attempts = r.attempts ++ later := by
  obtain ⟨-, -, -, same⟩ | ⟨-, -, -, -, output, more⟩ | ⟨-, -, -, same⟩ := s.request_cases
  · exact ⟨[], by rw [same, List.append_nil]⟩
  · exact ⟨_, more⟩
  · exact ⟨[], by rw [same, List.append_nil]⟩

theorem attempts_act (sound : r.Sound) (action : RenderAction) :
    ∃ later, (r.act t k action).attempts = r.attempts ++ later := by
  obtain ⟨clock, -, s⟩ | ⟨-, u⟩ := act_cases (t := t) (k := k) sound action
  · exact s.attempts_append
  · exact ⟨[], by rw [u.attempts, List.append_nil]⟩

/-! ## The invariant -/

/-- An output for a frame no later than number `m` was given to the sink to save, after the first `since`
attempts. -/
def SavedBy (r : RenderLoop σ ρ) (since m : Nat) : Prop :=
  ∃ output ∈ r.attempts.drop since, output.sequence ≤ m

theorem SavedBy.append {later : List Frame} (h : r.SavedBy since m)
    (attempts : r'.attempts = r.attempts ++ later) : r'.SavedBy since m := by
  obtain ⟨output, mem, le⟩ := h
  refine ⟨output, ?_, le⟩
  rw [attempts, List.drop_append]
  exact List.mem_append_left _ mem

theorem savedBy_of_append {output : Frame} (attempts : r'.attempts = r.attempts ++ [output])
    (before : since ≤ r.attempts.length) (le : output.sequence ≤ m) : r'.SavedBy since m := by
  refine ⟨output, ?_, le⟩
  rw [attempts, List.drop_append_of_le_length before]
  exact List.mem_append_right _ (List.mem_singleton_self output)

/-- A request that was sent after `since` attempts led to another one, or is pending, or still in the
queue. -/
structure RequestInv (r : RenderLoop σ ρ) (since : Nat) : Prop where
  history : ∃ events lost, r.HistoryInv events lost
  before : since ≤ r.attempts.length
  heard : r.attempts.drop since ≠ [] ∨ r.pendingSave = true ∨ .snapshot ∈ r.queue

/-- The request is heeded for frames from number `n` on: no such frame is transformed before the request is
read, and when one is rendered, there was an attempt or there is going to be one. -/
structure FrameRequestInv (r : RenderLoop σ ρ) (since n : Nat) : Prop extends RequestInv r since where
  atHand : ∀ id f, r.phase = .apply id → r.frameAtHand? = some f → n ≤ f.sequence →
    r.attempts.drop since ≠ [] ∨ r.pendingSave = true
  served : ∀ f ∈ r.rendered, n ≤ f.sequence →
    r.SavedBy since f.sequence ∨ ∃ id, r.SaveDue id f.sequence

theorem requestInv_send {events : List SlotEvent} {lost : List Frame} (h : r.HistoryInv events lost) :
    (r.send .snapshot).RequestInv r.attempts.length where
  history := ⟨events, lost, h.send .snapshot⟩
  before := Nat.le_refl _
  heard := .inr (.inr (by simp [send]))

namespace RequestInv

variable (h : r.RequestInv since)

include h

theorem sound : r.Sound := by
  obtain ⟨events, lost, history⟩ := h.history
  exact history.sound

theorem act (t : FrameTransform σ) (k : FrameSink ρ) (action : RenderAction) :
    (r.act t k action).RequestInv since where
  history := by
    obtain ⟨events, lost, history⟩ := h.history
    exact history.act t k action
  before := by
    obtain ⟨later, attempts⟩ := attempts_act (t := t) (k := k) h.sound action
    rw [attempts, List.length_append]
    exact Nat.le_add_right_of_le h.before
  heard := by
    obtain ⟨clock, -, s⟩ | ⟨-, u⟩ := act_cases (t := t) (k := k) h.sound action
    · obtain ⟨-, -, pending, -⟩ | ⟨-, -, -, -, output, attempts⟩ | ⟨-, pending, queue, attempts⟩ :=
        s.request_cases
      · exact .inr (.inl pending)
      · refine .inl ?_
        rw [attempts, List.drop_append_of_le_length h.before]
        simp
      · rw [attempts, pending, ← List.count_pos_iff, queue, List.count_pos_iff]
        exact h.heard
    · rw [u.attempts, u.pendingSave, u.queue]
      exact h.heard.imp_right (.imp_right (List.mem_append_left _))

theorem run (t : FrameTransform σ) (k : FrameSink ρ) (schedule : List RenderAction) :
    (r.run t k schedule).RequestInv since := by
  induction schedule generalizing r with
  | nil => exact h
  | cons action rest ih => exact ih (h.act t k action)

/-- What was transformed so far, or is about to be, does not concern a frame that is published now. -/
theorem publish (t : FrameTransform σ) (k : FrameSink ρ) {bytes : Bytes}
    (accepted : (r.handoff.publish bytes).1 = .ok n) :
      (r.act t k (.publish bytes)).FrameRequestInv since n := by
  obtain ⟨events, lost, history⟩ := h.history
  obtain ⟨clock, eq, -⟩ | ⟨-, u⟩ := act_cases (t := t) (k := k) h.sound (.publish bytes)
  · cases eq
  · refine ⟨h.act t k (.publish bytes), fun id f phase held le => ?_, fun f mem le => ?_⟩
    · rw [u.phase] at phase
      rw [u.frameAtHand] at held
      have next : f ∈ r.unapplied := by simp [unapplied, phase, held, RenderPhase.hasInput]
      have lt := history.sequence_lt_of_publish accepted (List.mem_append_right _ next)
      omega
    · rw [u.rendered] at mem
      have lt := history.sequence_lt_of_publish accepted
        (List.mem_append_left _ (rendered_subset_inputs mem))
      omega

end RequestInv

namespace FrameRequestInv

variable (h : r.FrameRequestInv since n)

include h

/-- The frame at hand is rendered, and its output is going to be saved unless there was an attempt. -/
theorem served_next (phase : r.phase = .apply id) (held : r.frameAtHand? = some f) (le : n ≤ f.sequence)
    (phase' : r'.phase = .present id) (held' : r'.frameAtHand? = some f)
    (pending : r'.pendingSave = r.pendingSave) :
    r.SavedBy since f.sequence ∨ r'.SaveDue id f.sequence := by
  obtain ⟨events, lost, history⟩ := h.history
  obtain saved | asked := h.atHand id f phase held le
  · obtain ⟨output, mem⟩ := List.exists_mem_of_ne_nil _ saved
    obtain ⟨event, there, eq⟩ := List.mem_filterMap.mp (List.mem_of_mem_drop mem)
    have next : f ∈ r.unapplied := by simp [unapplied, phase, held, RenderPhase.hasInput]
    have lt := history.sequence_lt there (RenderEvent.output?_of_saved? eq) next
    exact .inl ⟨output, mem, Nat.le_of_lt lt⟩
  · exact .inr ⟨pending.trans asked, .inl phase', f, held', Nat.le_refl _⟩

theorem step (s : StepRel t k clock r r') (remembers : r'.RequestInv since) : r'.FrameRequestInv since n where
  toRequestInv := remembers
  atHand := by
    intro id f phase' held' le
    obtain ⟨-, empty, rfl⟩ := s.apply_cases phase'
    obtain saved | pending | queued := h.heard
    · exact .inl saved
    · exact .inr pending
    · rw [empty] at queued
      cases queued
  served := by
    intro f mem le
    obtain ⟨later, attempts⟩ := s.attempts_append
    have old (served : r.SavedBy since f.sequence ∨ ∃ id, r.SaveDue id f.sequence) :
        r'.SavedBy since f.sequence ∨ ∃ id, r'.SaveDue id f.sequence := by
      obtain saved | ⟨id, w⟩ := served
      · exact .inl (saved.append attempts)
      · obtain ⟨-, -, w'⟩ | ⟨output, one, before⟩ := s.saveDue w
        · exact .inr ⟨id, w'⟩
        · exact .inl (savedBy_of_append one h.before before)
    obtain ⟨id, g, phase, held, phase', held', pending, rendered⟩ | same := s.rendered_cases
    · rw [rendered, List.mem_append, List.mem_singleton] at mem
      obtain mem | rfl := mem
      · exact old (h.served f mem le)
      · obtain saved | w := h.served_next phase held le phase' held' pending
        · exact .inl (saved.append attempts)
        · exact .inr ⟨id, w⟩
    · rw [same] at mem
      exact old (h.served f mem le)

theorem act (t : FrameTransform σ) (k : FrameSink ρ) (action : RenderAction) :
    (r.act t k action).FrameRequestInv since n := by
  have remembers := h.toRequestInv.act t k action
  obtain ⟨clock, -, s⟩ | ⟨-, u⟩ := act_cases (t := t) (k := k) h.sound action
  · exact h.step s remembers
  · refine ⟨remembers, fun id f phase held le => ?_, fun f mem le => ?_⟩
    · rw [u.attempts, u.pendingSave]
      exact h.atHand id f (u.phase ▸ phase) (u.frameAtHand ▸ held) le
    · rw [u.rendered] at mem
      obtain ⟨output, saved, before⟩ | ⟨id, w⟩ := h.served f mem le
      · exact .inl ⟨output, by rwa [u.attempts], before⟩
      · exact .inr ⟨id, u.saveDue w⟩

theorem run (t : FrameTransform σ) (k : FrameSink ρ) (schedule : List RenderAction) :
    (r.run t k schedule).FrameRequestInv since n := by
  induction schedule generalizing r with
  | nil => exact h
  | cons action rest ih => exact ih (h.act t k action)

end FrameRequestInv

/-! ## Two steps later -/

/-- What was saved stays saved. -/
theorem RequestInv.savedBy_run (h : r.RequestInv since) (saved : r.SavedBy since m) (t : FrameTransform σ)
    (k : FrameSink ρ) (schedule : List RenderAction) : (r.run t k schedule).SavedBy since m := by
  induction schedule generalizing r with
  | nil => exact saved
  | cons action rest ih =>
    obtain ⟨later, attempts⟩ := attempts_act (t := t) (k := k) h.sound action
    exact ih (h.act t k action) (saved.append attempts)

/-- What is going to be saved is, after one step if it was shown already, and after two otherwise. -/
theorem RequestInv.savedBy_of_saveDue (h : r.RequestInv since) (w : r.SaveDue id m) (t : FrameTransform σ)
    (k : FrameSink ρ) {rest : List RenderAction}
    (steps : (if r.phase = .save id then 1 else 2) ≤ rest.countP (·.isStep)) :
    (r.run t k rest).SavedBy since m := by
  induction rest generalizing r with
  | nil => split at steps <;> cases steps
  | cons action rest ih =>
    have remembers := h.act t k action
    obtain ⟨clock, rfl, s⟩ | ⟨other, u⟩ := act_cases (t := t) (k := k) h.sound action
    · rw [List.countP_cons_of_pos rfl] at steps
      obtain ⟨phase, phase', w'⟩ | ⟨output, attempts, le⟩ := s.saveDue w
      · rw [if_neg (by simp [phase])] at steps
        exact ih remembers w' (by rw [if_pos phase']; omega)
      · exact remembers.savedBy_run (savedBy_of_append attempts h.before le) t k rest
    · rw [List.countP_cons_of_neg (by simp [other])] at steps
      exact ih remembers (u.saveDue w) (by rwa [u.phase])

/-! ## Counting requests -/

/-- The requests that led to an attempt, or are pending, or are still in the queue. -/
def requests (r : RenderLoop σ ρ) : Nat :=
  r.attempts.length + r.pendingSave.toNat + r.queue.count .snapshot

theorem requests_act (sound : r.Sound) (action : RenderAction) :
    (r.act t k action).requests ≤ r.requests + [action].count (.send .snapshot) := by
  unfold requests
  obtain ⟨clock, rfl, s⟩ | ⟨-, u⟩ := act_cases (t := t) (k := k) sound action
  · obtain ⟨-, ⟨queue, first, queue_eq⟩, pending, attempts⟩ |
      ⟨-, asked, pending, queue, output, attempts⟩ | ⟨-, pending, queue, attempts⟩ := s.request_cases
    · rw [attempts, pending, first, queue_eq, List.count_cons_self, Bool.toNat_true]
      omega
    · rw [attempts, pending, asked, queue, List.length_append, List.length_singleton, Bool.toNat_true,
        Bool.toNat_false]
      omega
    · rw [attempts, pending, queue]
      omega
  · rw [u.attempts, u.pendingSave, u.queue, List.count_append]
    have sent : action.command?.toList.count .snapshot = [action].count (.send .snapshot) := by
      cases action with
      | send c => cases c <;> rfl
      | _ => rfl
    omega

/-- There are no more attempts than requests. -/
theorem requests_run {events : List SlotEvent} {lost : List Frame} (h : r.HistoryInv events lost)
    (t : FrameTransform σ) (k : FrameSink ρ) (schedule : List RenderAction) :
    (r.run t k schedule).requests ≤ r.requests + schedule.count (.send .snapshot) := by
  induction schedule generalizing r events lost with
  | nil => exact Nat.le_refl _
  | cons action rest ih =>
    obtain ⟨events₁, lost₁, history⟩ := h.act t k action
    have first := requests_act (t := t) (k := k) h.sound action
    have others := ih history
    rw [← List.singleton_append, List.count_append]
    exact Nat.le_trans others (by omega)

/-- A schedule that reads no request leaves none pending. -/
theorem pendingSave_run {events : List SlotEvent} {lost : List Frame} (h : r.HistoryInv events lost)
    {schedule : List RenderAction} (spent : r.pendingSave = false)
    (nothing : receipts t k r schedule = 0) : (r.run t k schedule).pendingSave = false := by
  induction schedule generalizing r events lost with
  | nil => exact spent
  | cons action rest ih =>
    obtain ⟨events₁, lost₁, history⟩ := h.act t k action
    rw [receipts, Nat.add_eq_zero_iff] at nothing
    refine ih history ?_ nothing.2
    obtain ⟨clock, rfl, s⟩ | ⟨-, u⟩ := act_cases (t := t) (k := k) h.sound action
    · obtain ⟨receives, -⟩ | ⟨-, asked, -⟩ | ⟨-, pending, -⟩ := s.request_cases
      · simp [RenderAction.isStep, receives] at nothing
      · rw [spent] at asked
        cases asked
      · rw [pending, spent]
    · rw [u.pendingSave, spent]

/-- An attempt spends the pending request. -/
theorem StepRel.attempt (s : StepRel t k clock r r') (more : r'.attempts.length = r.attempts.length + 1) :
    r.pendingSave = true ∧ r'.pendingSave = false := by
  obtain ⟨-, -, -, same⟩ | ⟨-, asked, spent, -⟩ | ⟨-, -, -, same⟩ := s.request_cases
  · rw [same] at more
    omega
  · exact ⟨asked, spent⟩
  · rw [same] at more
    omega

/-! ## Main statement -/

/-- **Requests are heeded, and nothing else is saved.** Whatever happens to a loop in which order: after a
request was sent and a frame was published then, every frame from that one on that the loop renders comes
with an attempt to save, made after the request was sent, an output for no later a frame, within two steps
of the loop. There are never more attempts than requests that were sent, and between two attempts the loop
reads a request. -/
theorem send_snapshot_attempts {stream : StreamFormat} {c : FrameHandoff}
    (started : FrameHandoff.start stream = .ok c)
    (settings : RenderSettings) (t : FrameTransform σ) (k : FrameSink ρ) (transform : σ) (sink : ρ) :
    let loop := start c settings transform sink
    (∀ earlier between later bytes n,
      let asked := loop.run t k earlier
      let found := asked.run t k (.send .snapshot :: between)
      let e := found.run t k (.publish bytes :: later)
      (found.handoff.publish bytes).1 = .ok n →
        ∀ f ∈ e.rendered, n ≤ f.sequence → ∀ rest : List RenderAction, 2 ≤ rest.countP (·.isStep) →
          ∃ output ∈ (e.run t k rest).attempts.drop asked.attempts.length,
            output.sequence ≤ f.sequence) ∧
      (∀ schedule, (loop.run t k schedule).attempts.length ≤ schedule.count (.send .snapshot)) ∧
      ∀ earlier between clock clock',
        let first := loop.run t k earlier
        let after := first.step t k clock
        let second := after.run t k between
        after.attempts.length = first.attempts.length + 1 →
          (second.step t k clock').attempts.length = second.attempts.length + 1 →
            0 < receipts t k after between := by
  intro loop
  have history : loop.HistoryInv [] [] := historyInv_start started settings transform sink
  refine ⟨?_, ?_, ?_⟩
  · intro earlier between later bytes n asked found e accepted f mem le rest steps
    obtain ⟨events, lost, sent⟩ := history.run t k earlier
    have inv : e.FrameRequestInv asked.attempts.length n :=
      (((requestInv_send sent).run t k between).publish t k accepted).run t k later
    obtain saved | ⟨id, w⟩ := inv.served f mem le
    · exact inv.savedBy_run saved t k rest
    · exact inv.savedBy_of_saveDue w t k (by split <;> omega)
  · intro schedule
    have counted := requests_run history t k schedule
    have none_yet : loop.requests = 0 := rfl
    unfold requests at counted none_yet
    omega
  · intro earlier between clock clock' first after second attempt attempt'
    obtain ⟨events, lost, history₁⟩ := history.run t k earlier
    have step : StepRel t k clock first (first.step t k clock) := stepRel_step history₁.sound
    have spent := step.attempt attempt
    have history₂ := history₁.step t k clock
    obtain ⟨events', lost', history₃⟩ := history₂.run t k between
    have step' : StepRel t k clock' second (second.step t k clock') := stepRel_step history₃.sound
    have asked := step'.attempt attempt'
    refine Nat.pos_of_ne_zero fun nothing => ?_
    have free : second.pendingSave = false := pendingSave_run history₂ spent.2 nothing
    rw [asked.1] at free
    cases free

/-- A request is sent and a frame is published after the loop has read its commands and before it takes
the frame: the output for this frame is saved. -/
theorem send_snapshot_attempts_before_take :
    ∃ c e output, FrameHandoff.start ⟨1, 1, .gray8⟩ = .ok c ∧
      run .negative .memorySink (start c {} () {})
        ([.step ⟨⟨0⟩, ⟨0⟩⟩, .step ⟨⟨0⟩, ⟨0⟩⟩, .send .snapshot, .publish [5]] ++
          List.replicate 6 (.step ⟨⟨0⟩, ⟨3⟩⟩)) = e ∧
      e.attempts = [output] ∧ output.sequence ≤ 1 := by
  obtain ⟨heeded, -, -⟩ :=
    send_snapshot_attempts (rfl : FrameHandoff.start ⟨1, 1, .gray8⟩ = .ok _) {} .negative .memorySink () {}
  obtain ⟨output, mem, le⟩ := heeded [.step ⟨⟨0⟩, ⟨0⟩⟩, .step ⟨⟨0⟩, ⟨0⟩⟩] []
    (List.replicate 4 (.step ⟨⟨0⟩, ⟨3⟩⟩)) [5] 1 rfl ⟨⟨1, ⟨1, 1, .gray8⟩⟩, [5]⟩
    (List.mem_singleton_self _) (Nat.le_refl 1) (List.replicate 2 (.step ⟨⟨0⟩, ⟨3⟩⟩)) (Nat.le_refl 2)
  exact ⟨_, _, output, rfl, rfl, congrArg (fun o => [o]) (List.mem_singleton.mp mem).symm, le⟩

end RenderLoop

end FramePipeline
