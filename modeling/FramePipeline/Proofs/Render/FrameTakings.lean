import FramePipeline.Proofs.Render.History

/-!
# What passes through the slot of a render loop

In the course of a schedule others publish frames, and the loop takes some of them, which it gives to its
transform or gives up unseen. These frames are read off the schedule, action by action, and follow from one
another: what was taken is accounted for by the loop, and while nothing is taken, every publication takes the
place of the one before, which is dropped.

Main definitions: `RenderLoop.collect`, and with it `RenderLoop.takes`, `RenderLoop.abandons` and
`RenderLoop.publishes`. Main statements: `RenderLoop.HistoryInv.takes_eq`,
`RenderLoop.HistoryInv.takes_of_emptied`, `RenderLoop.HistoryInv.dropped_before_taken`.
-/

namespace FramePipeline

open SlotEvent (takings)

/-- A publication drops the frame that waits, and waits itself. -/
theorem PlainSession.publish_drops (s : PlainSession) (bytes : Bytes) :
    ∃ earlier : List Frame,
      s.waiting.toList ++ ((s.publish bytes).1.toOption.map fun n => ⟨⟨n, s.stream⟩, bytes⟩).toList =
          earlier ++ (s.publish bytes).2.waiting.toList ∧
        (s.publish bytes).2.stats.dropped = s.stats.dropped + earlier.length := by
  cases closed : s.closed with
  | true =>
    rw [publish_of_closed closed]
    exact ⟨[], List.append_nil _, rfl⟩
  | false =>
    by_cases fits : bytes.length = s.frameLen
    · rw [publish_of_fits closed fits]
      refine ⟨s.waiting.toList, rfl, ?_⟩
      cases s.waiting <;> rfl
    · rw [publish_of_mismatch closed fits]
      exact ⟨[], List.append_nil _, rfl⟩

namespace RenderLoop

variable {σ ρ : Type} {t : FrameTransform σ} {k : FrameSink ρ} {clock : Reading} {r r' : RenderLoop σ ρ}
  {events : List SlotEvent} {lost : List Frame} {action : RenderAction} {schedule : List RenderAction}

/-! ## Along a schedule -/

section Collect

variable {α : Type} {of : RenderLoop σ ρ → RenderAction → Option α}

/-- What `of` makes of what happens in the course of a schedule. -/
def collect (of : RenderLoop σ ρ → RenderAction → Option α) (t : FrameTransform σ) (k : FrameSink ρ) :
    RenderLoop σ ρ → List RenderAction → List α
  | _, [] => []
  | r, action :: rest => (of r action).toList ++ collect of t k (r.act t k action) rest

/-- Where something is found, there is a point of the schedule at which it is found. -/
theorem collect_ne_nil :
    collect of t k r schedule ≠ [] ↔
      ∃ earlier action later, schedule = earlier ++ action :: later ∧
        (of (r.run t k earlier) action).isSome = true := by
  induction schedule generalizing r with
  | nil => simp [collect]
  | cons action rest ih =>
    cases here : of r action with
    | some a =>
      refine iff_of_true (by simp [collect, here]) ⟨[], action, rest, rfl, ?_⟩
      exact Option.isSome_iff_exists.mpr ⟨a, here⟩
    | none =>
      rw [collect, here, Option.toList_none, List.nil_append, ih]
      constructor
      · rintro ⟨earlier, action', later, rfl, found⟩
        exact ⟨action :: earlier, action', later, rfl, found⟩
      · rintro ⟨earlier, action', later, split, found⟩
        cases earlier with
        | nil =>
          obtain ⟨rfl, -⟩ := List.cons.inj split
          rw [run, List.foldl_nil, here] at found
          cases found
        | cons first earlier =>
          obtain ⟨rfl, rfl⟩ := List.cons.inj split
          exact ⟨earlier, action', later, rfl, found⟩

end Collect

/-- The frame that the loop takes when something happens. -/
def takenBy? (r : RenderLoop σ ρ) : RenderAction → Option Frame
  | .step _ => r.taken?
  | _ => none

/-- The frame that the loop gives up unseen when something happens. -/
def abandonedBy? (r : RenderLoop σ ρ) : RenderAction → Option Frame
  | .step _ => r.abandoned?
  | _ => none

/-- The frame that is published when something happens. -/
def publishedBy? (r : RenderLoop σ ρ) : RenderAction → Option Frame
  | .publish bytes =>
    (r.handoff.publish bytes).1.toOption.map fun n => ⟨⟨n, r.handoff.session.stream⟩, bytes⟩
  | _ => none

/-- The frames that the loop takes in the course of a schedule. -/
def takes (t : FrameTransform σ) (k : FrameSink ρ) : RenderLoop σ ρ → List RenderAction → List Frame :=
  collect takenBy? t k

/-- The frames that the loop gives up unseen in the course of a schedule. -/
def abandons (t : FrameTransform σ) (k : FrameSink ρ) : RenderLoop σ ρ → List RenderAction → List Frame :=
  collect abandonedBy? t k

/-- The frames that others publish in the course of a schedule. -/
def publishes (t : FrameTransform σ) (k : FrameSink ρ) : RenderLoop σ ρ → List RenderAction → List Frame :=
  collect publishedBy? t k

/-- A frame is given up where the loop finds that it was told to end right after it took the frame. -/
theorem abandonedBy?_isSome (sound : r.Sound) :
    (r.abandonedBy? action).isSome = true ↔
      action.isStep = true ∧ (∃ id, r.phase = .drainWith id) ∧ r.queue.head? = some .shutdown := by
  constructor
  · intro found
    cases action with
    | step clock =>
      have found : r.abandoned?.isSome = true := found
      unfold abandoned? at found
      split at found
      · next id queue phase first => exact ⟨rfl, ⟨id, phase⟩, by rw [first]; rfl⟩
      · cases found
    | _ => cases found
  · rintro ⟨step, ⟨id, phase⟩, first⟩
    cases action with
    | step clock =>
      obtain ⟨queue, queue_eq⟩ := List.head?_eq_some_iff.mp first
      obtain ⟨f, frame⟩ := sound.exists_frame (by rw [phase]; rfl)
      simp [abandonedBy?, abandoned?, phase, queue_eq, frame]
    | _ => cases step

theorem HistoryInv.abandons_ne_nil (h : r.HistoryInv events lost) :
    abandons t k r schedule ≠ [] ↔ ∃ earlier clock later id, schedule = earlier ++ .step clock :: later ∧
      (r.run t k earlier).phase = .drainWith id ∧ (r.run t k earlier).queue.head? = some .shutdown := by
  have sound (earlier : List RenderAction) : (r.run t k earlier).Sound := by
    obtain ⟨events', lost', history⟩ := h.run t k earlier
    exact history.sound
  rw [abandons, collect_ne_nil]
  constructor
  · rintro ⟨earlier, action, later, split, there⟩
    obtain ⟨step, ⟨id, phase⟩, first⟩ := (abandonedBy?_isSome (sound earlier)).mp there
    cases action with
    | step clock => exact ⟨earlier, clock, later, id, split, phase, first⟩
    | _ => cases step
  · rintro ⟨earlier, clock, later, id, split, phase, first⟩
    exact ⟨earlier, .step clock, later, split, (abandonedBy?_isSome (sound earlier)).mpr
      ⟨rfl, ⟨id, phase⟩, first⟩⟩

/-! ## What was taken -/

/-- What happens adds to the history the frame that is taken, and to what is lost the frame that is given
up. -/
theorem HistoryInv.act_takings (h : r.HistoryInv events lost) (t : FrameTransform σ) (k : FrameSink ρ)
    (action : RenderAction) :
    ∃ others, (r.act t k action).HistoryInv (events ++ others) (lost ++ (r.abandonedBy? action).toList) ∧
      takings others = (r.takenBy? action).toList := by
  have kept {r' : RenderLoop σ ρ} {others : List SlotEvent}
    (history : r'.HistoryInv (events ++ others) lost) :
      r'.HistoryInv (events ++ others) (lost ++ []) := by
    rwa [List.append_nil]
  have same {r' : RenderLoop σ ρ} (history : r'.HistoryInv events lost) :
    r'.HistoryInv (events ++ []) lost := by
    rwa [List.append_nil]
  cases action with
  | step clock =>
    refine ⟨_, h.step t k clock, ?_⟩
    cases eq : r.taken? <;> simp [takenBy?, takings, eq, SlotEvent.took?]
  | send c => exact ⟨[], kept (same (h.send c)), rfl⟩
  | setModes modes => exact ⟨[], kept (same (h.setModes modes)), rfl⟩
  | publish bytes =>
    refine ⟨_, kept (h.publish bytes), ?_⟩
    cases (r.handoff.publish bytes).1 <;> rfl
  | close => exact ⟨[.stopped], kept h.close, rfl⟩

theorem HistoryInv.run_takings (h : r.HistoryInv events lost) (t : FrameTransform σ) (k : FrameSink ρ)
    (schedule : List RenderAction) :
    ∃ others, (r.run t k schedule).HistoryInv (events ++ others) (lost ++ abandons t k r schedule) ∧
      takings others = takes t k r schedule := by
  induction schedule generalizing r events lost with
  | nil =>
    refine ⟨[], ?_, rfl⟩
    show r.HistoryInv (events ++ []) (lost ++ [])
    rwa [List.append_nil, List.append_nil]
  | cons action rest ih =>
    obtain ⟨first, history, taken⟩ := h.act_takings t k action
    obtain ⟨others, history', taken'⟩ := ih history
    rw [List.append_assoc, List.append_assoc] at history'
    refine ⟨first ++ others, history', ?_⟩
    rw [SlotEvent.takings_append, taken, taken']
    rfl

/-- What was at hand or is taken is given to the transform, or still at hand, or given up. -/
theorem HistoryInv.takes_eq (h : r.HistoryInv events lost) (t : FrameTransform σ) (k : FrameSink ρ)
    (schedule : List RenderAction) :
    (r.run t k schedule).inputs ++ (r.run t k schedule).unapplied ++ (lost ++ abandons t k r schedule) =
      r.inputs ++ r.unapplied ++ lost ++ takes t k r schedule := by
  obtain ⟨others, history, taken⟩ := h.run_takings t k schedule
  rw [← history.takings_eq, SlotEvent.takings_append, h.takings_eq, taken]

/-! ## What the slot holds -/

/-- Where nothing is taken, the session stays as it is. -/
theorem StepRel.plain_of_untaken (s : StepRel t k clock r r') (untaken : r.taken? = none) :
    r'.handoff.plain = r.handoff.plain := by
  obtain ⟨id, f, phase, -, taken, -⟩ | ⟨id, metrics, -, -, handoff⟩ | ⟨metrics, -, handoff⟩ :=
    s.handoff_cases
  · simp [taken?, phase, taken, Except.toOption] at untaken
  · rw [handoff, FrameHandoff.plain_release, FrameHandoff.plain_with_metrics]
  · rw [handoff, FrameHandoff.plain_with_metrics]

/-- From a closed session nothing is taken. -/
theorem taken?_of_closed (closed : r.handoff.plain.closed = true) : r.taken? = none := by
  unfold taken?
  split
  · rw [PlainSession.tryTake_of_closed closed]
    rfl
  · rfl

theorem open_of_taken? {f : Frame} (taken : r.taken? = some f) :
    r.handoff.plain.closed = false ∧ r.handoff.plain.waiting = some f := by
  cases closed : r.handoff.plain.closed with
  | true =>
    rw [taken?_of_closed closed] at taken
    cases taken
  | false =>
    unfold taken? at taken
    split at taken
    · rw [PlainSession.tryTake_of_open closed] at taken
      exact ⟨rfl, taken⟩
    · cases taken

/-- A session stays closed. -/
theorem closed_act (sound : r.Sound) (closed : r.handoff.plain.closed = true) (t : FrameTransform σ)
    (k : FrameSink ρ) (action : RenderAction) : (r.act t k action).handoff.plain.closed = true := by
  cases action with
  | step clock => rwa [act, (stepRel_step sound).plain_of_untaken (taken?_of_closed closed)]
  | send | setModes => exact closed
  | publish bytes =>
    obtain ⟨c', result, plain, -⟩ := FrameHandoff.publish_refines bytes sound
    have result : r.handoff.publish bytes = ((r.handoff.plain.publish bytes).1, c') := result
    show (r.handoff.publish bytes).2.plain.closed = true
    rw [result, plain, PlainSession.closed_publish, closed]
  | close =>
    have plain : r.handoff.stop.plain = r.handoff.plain.stop := (FrameHandoff.stop_refines sound).1
    show r.handoff.stop.plain.closed = true
    rw [plain]
    rfl

theorem HistoryInv.closed_run (h : r.HistoryInv events lost) (closed : r.handoff.plain.closed = true) :
    (r.run t k schedule).handoff.plain.closed = true := by
  induction schedule generalizing r events lost with
  | nil => exact closed
  | cons action rest ih =>
    obtain ⟨events₁, lost₁, history⟩ := h.act t k action
    exact ih history (closed_act h.sound closed t k action)

theorem HistoryInv.takes_of_closed (h : r.HistoryInv events lost) (closed : r.handoff.plain.closed = true) :
    takes t k r schedule = [] := by
  induction schedule generalizing r events lost with
  | nil => rfl
  | cons action rest ih =>
    obtain ⟨events₁, lost₁, history⟩ := h.act t k action
    have first : r.takenBy? action = none := by
      cases action with
      | step clock => exact taken?_of_closed closed
      | _ => rfl
    show (r.takenBy? action).toList ++ takes t k (r.act t k action) rest = []
    rw [first, ih history (closed_act h.sound closed t k action)]
    rfl

/-- Once the slot was emptied nothing is taken. -/
theorem HistoryInv.takes_of_emptied (h : r.HistoryInv events lost)
    (emptied : r.handoff.session.front = none) :
    takes t k r schedule = [] := by
  obtain ⟨-, closed, -⟩ | ⟨id, front, -⟩ | ⟨id, f, front, -⟩ := h.sound.front_cases
  · exact h.takes_of_closed closed
  · cases emptied.symm.trans front
  · cases emptied.symm.trans front

/-! ## What is dropped -/

/-- Of the frames that are offered between `r` and `r'`, the last one waits at `r'`, and the others were
dropped. -/
def DropBalance (r r' : RenderLoop σ ρ) (offered : List Frame) : Prop :=
  ∃ earlier, r.handoff.plain.waiting.toList ++ offered = earlier ++ r'.handoff.plain.waiting.toList ∧
    r'.handoff.session.stats.dropped = r.handoff.session.stats.dropped + earlier.length

theorem dropBalance_of_plain (plain : r'.handoff.plain = r.handoff.plain) : r.DropBalance r' [] := by
  have stats : r'.handoff.session.stats.dropped = r.handoff.session.stats.dropped :=
    congrArg (·.stats.dropped) plain
  exact ⟨[], by rw [plain, List.append_nil, List.nil_append], stats⟩

theorem DropBalance.trans {r'' : RenderLoop σ ρ} {offered offered' : List Frame}
    (h : r.DropBalance r' offered)
    (h' : r'.DropBalance r'' offered') : r.DropBalance r'' (offered ++ offered') := by
  obtain ⟨earlier, split, dropped⟩ := h
  obtain ⟨earlier', split', dropped'⟩ := h'
  refine ⟨earlier ++ earlier', ?_, ?_⟩
  · rw [← List.append_assoc, split, List.append_assoc, split', List.append_assoc]
  · rw [dropped', dropped, List.length_append, Nat.add_assoc]

theorem dropBalance_publish (sound : r.Sound) (bytes : Bytes) :
    r.DropBalance { r with handoff := (r.handoff.publish bytes).2 }
      (r.publishedBy? (.publish bytes)).toList := by
  obtain ⟨c', result, plain, -⟩ := FrameHandoff.publish_refines bytes sound
  have result : r.handoff.publish bytes = ((r.handoff.plain.publish bytes).1, c') := result
  have stats : c'.session.stats.dropped = (r.handoff.plain.publish bytes).2.stats.dropped :=
    congrArg (·.stats.dropped) plain
  unfold DropBalance publishedBy?
  dsimp only
  rw [result, stats, plain]
  exact r.handoff.plain.publish_drops bytes

theorem dropBalance_act (sound : r.Sound) (untaken : r.takenBy? action = none)
    (isOpen : (r.act t k action).handoff.plain.closed = false) :
    r.DropBalance (r.act t k action) (r.publishedBy? action).toList := by
  cases action with
  | step clock => exact dropBalance_of_plain ((stepRel_step sound).plain_of_untaken untaken)
  | send | setModes => exact dropBalance_of_plain rfl
  | publish bytes => exact dropBalance_publish sound bytes
  | close =>
    have plain : r.handoff.stop.plain = r.handoff.plain.stop := (FrameHandoff.stop_refines sound).1
    have isOpen : r.handoff.stop.plain.closed = false := isOpen
    rw [plain] at isOpen
    cases isOpen

/-- While nothing is taken, only the last of the frames that are offered waits, and the others are dropped. -/
theorem HistoryInv.dropBalance_of_untaken (h : r.HistoryInv events lost) (untaken : takes t k r schedule = [])
    (isOpen : (r.run t k schedule).handoff.plain.closed = false) :
    r.DropBalance (r.run t k schedule) (publishes t k r schedule) := by
  induction schedule generalizing r events lost with
  | nil => exact dropBalance_of_plain rfl
  | cons action rest ih =>
    obtain ⟨events₁, lost₁, history⟩ := h.act t k action
    obtain ⟨first, others⟩ := List.append_eq_nil_iff.mp untaken
    have goes_on : (r.act t k action).handoff.plain.closed = false := by
      refine Bool.eq_false_iff.mpr fun closed => ?_
      have closed : (r.run t k (action :: rest)).handoff.plain.closed = true := history.closed_run closed
      exact Bool.false_ne_true (isOpen.symm.trans closed)
    exact (dropBalance_act h.sound (by simpa using first) goes_on).trans (ih history others isOpen)

/-- The first frame that is taken is the last one that was offered, and all others were dropped. -/
theorem HistoryInv.dropped_before_taken (h : r.HistoryInv events lost) {f : Frame}
    (untaken : takes t k r schedule = []) (taken : (r.run t k schedule).taken? = some f) :
    ∃ earlier, r.handoff.plain.waiting.toList ++ publishes t k r schedule = earlier ++ [f] ∧
      (r.run t k schedule).handoff.session.stats.dropped =
        r.handoff.session.stats.dropped + earlier.length := by
  obtain ⟨isOpen, waiting⟩ := open_of_taken? taken
  obtain ⟨earlier, split, dropped⟩ := h.dropBalance_of_untaken untaken isOpen
  rw [waiting] at split
  exact ⟨earlier, split, dropped⟩

end RenderLoop

end FramePipeline
