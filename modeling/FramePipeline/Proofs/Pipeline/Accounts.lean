import FramePipeline.Pipeline
import FramePipeline.Proofs.Render.History

/-!
# What becomes of delivered frames

A driver and a loop on the two sides of one session, with others who send commands, set the modes and stop
the session, in any order. Every frame that the session accepts is given to the transform, or dropped for
a later one, or left untaken, or abandoned by a loop that was told to end right after it took the frame.

Main definitions: `Pipeline.accepted`, `Pipeline.discarded`, `Pipeline.abandoned` (what a schedule does with
frames), `Pipeline.AccountInv` (the invariant). Main statement: `Pipeline.run_frame_balance`.
-/

namespace FramePipeline.Pipeline

open SlotEvent (publications takings unclaimed)

variable {σ ρ : Type} {t : FrameTransform σ} {k : FrameSink ρ} {p : Pipeline σ ρ}

/-! ## What a schedule does with frames -/

/-- What a schedule comes to, if `note?` says what each action comes to in the state that it finds. -/
def collect {α : Type} (t : FrameTransform σ) (k : FrameSink ρ)
    (note? : Pipeline σ ρ → PipelineAction → Option α) :
    Pipeline σ ρ → List PipelineAction → List α
  | _, [] => []
  | p, action :: rest => (note? p action).toList ++ collect t k note? (p.act t k action) rest

/-- The bytes of a frame that is delivered, if the session accepts it. -/
def accepted? (p : Pipeline σ ρ) : PipelineAction → Option Bytes
  | .deliver (.frame bytes) =>
    if p.driver.ended.isSome then none
    else (p.loop.handoff.publish bytes).1.toOption.map fun _ => bytes
  | _ => none

/-- The frame that is discarded with the session when it is stopped. -/
def discarded? (p : Pipeline σ ρ) : PipelineAction → Option Frame
  | .close => p.loop.handoff.session.waiting p.loop.handoff.pool
  | _ => none

/-- The frame that the loop has just taken when it finds that it was told to end. -/
def abandoned? (p : Pipeline σ ρ) : PipelineAction → Option Frame
  | .render _ => p.loop.abandoned?
  | _ => none

/-- The bytes of the frames that the session accepts, in the order of their delivery. -/
def accepted (t : FrameTransform σ) (k : FrameSink ρ) : Pipeline σ ρ → List PipelineAction → List Bytes :=
  collect t k accepted?

/-- The frames that are discarded when the session is stopped. -/
def discarded (t : FrameTransform σ) (k : FrameSink ρ) : Pipeline σ ρ → List PipelineAction → List Frame :=
  collect t k discarded?

/-- The frames that the loop gives up unseen. -/
def abandoned (t : FrameTransform σ) (k : FrameSink ρ) : Pipeline σ ρ → List PipelineAction → List Frame :=
  collect t k abandoned?

/-! ## The invariant -/

/-- The session's history is that of the accepted frames, and its last publication is waiting or was
discarded, unless a take came after it. -/
structure AccountInv (p : Pipeline σ ρ) (stream : StreamFormat) (events : List SlotEvent)
    (accepted : List Bytes) (discarded abandoned : List Frame) : Prop where
  history : p.loop.HistoryInv events abandoned
  stream_eq : p.loop.handoff.session.stream = stream
  accepted_eq : (publications events).map Frame.data = accepted
  untaken_eq : p.loop.handoff.plain.waiting.toList.length + discarded.length =
    if unclaimed events = [] then 0 else 1

namespace AccountInv

variable {stream : StreamFormat} {events : List SlotEvent} {bytes : List Bytes} {gone lost : List Frame}

/-- Nothing was discarded as long as the session is open. -/
theorem discarded_eq_nil (h : p.AccountInv stream events bytes gone lost)
    (isOpen : p.loop.handoff.plain.closed = false) : gone = [] := by
  have untaken := h.untaken_eq
  rw [← h.history.session.waiting_isSome isOpen] at untaken
  cases waiting : p.loop.handoff.plain.waiting <;> simp_all

/-- The driver, the commands, the modes and the counters do not matter. -/
theorem still (h : p.AccountInv stream events bytes gone lost) {p' : Pipeline σ ρ}
    (history : p'.loop.HistoryInv events lost) (plain : p'.loop.handoff.plain = p.loop.handoff.plain) :
    p'.AccountInv stream events bytes gone lost where
  history
  stream_eq := (congrArg PlainSession.stream plain).trans h.stream_eq
  accepted_eq := h.accepted_eq
  untaken_eq := by
    rw [plain]
    exact h.untaken_eq

/-- A frame is published, or refused. -/
theorem publish (h : p.AccountInv stream events bytes gone lost) (driver : CaptureDriver) (frame : Bytes) :
    ∃ events', AccountInv ⟨driver, { p.loop with handoff := (p.loop.handoff.publish frame).2 }⟩ stream
      events' (bytes ++ ((p.loop.handoff.publish frame).1.toOption.map fun _ => frame).toList) gone
      lost := by
  obtain ⟨c', eq, plain, -⟩ := FrameHandoff.publish_refines frame h.history.sound
  have eq : p.loop.handoff.publish frame = ((p.loop.handoff.plain.publish frame).1, c') := eq
  have history := h.history.publish frame
  have stream_eq : c'.session.stream = stream := by
    have same : c'.plain.stream = p.loop.handoff.plain.stream := by rw [plain, PlainSession.stream_publish]
    exact same.trans h.stream_eq
  rw [eq] at history ⊢
  cases result : (p.loop.handoff.plain.publish frame).1 with
  | error e =>
    rw [result] at history
    simp only [Except.toOption, Option.map_none, Option.toList_none, List.append_nil] at history ⊢
    refine ⟨events, history, stream_eq, h.accepted_eq, ?_⟩
    rw [show c'.plain.waiting = p.loop.handoff.plain.waiting by
      rw [plain, PlainSession.waiting_publish_of_error result]]
    exact h.untaken_eq
  | ok n =>
    obtain ⟨isOpen, -, waiting⟩ := PlainSession.publish_ok result
    rw [result] at history
    refine ⟨_, history, stream_eq, ?_, ?_⟩
    · simp [Except.toOption, h.accepted_eq]
    · rw [show c'.plain.waiting = _ by rw [plain, waiting], h.discarded_eq_nil isOpen]
      simp [Except.toOption]

/-- The driver receives what a call of its source came to. -/
theorem deliver (h : p.AccountInv stream events bytes gone lost) (d : Delivery) :
    ∃ events', (p.deliver d).AccountInv stream events' (bytes ++ (p.accepted? (.deliver d)).toList) gone
      lost := by
  unfold Pipeline.deliver
  cases ended : p.driver.ended.isSome with
  | true =>
    have nothing : p.accepted? (.deliver d) = none := by cases d <;> simp [accepted?, ended]
    rw [nothing, if_pos rfl]
    exact ⟨events, by simpa using h⟩
  | false =>
    rw [if_neg Bool.false_ne_true]
    cases d with
    | frame frame =>
      simp only [accepted?, ended, Bool.false_eq_true, if_false]
      exact h.publish _ frame
    | error e =>
      refine ⟨events, ?_⟩
      simp only [accepted?, Option.toList_none, List.append_nil]
      unfold CaptureDriver.receive
      split
      · next eq => cases eq
      · exact h.still (h.history.with_metrics _) rfl
      · exact h.still (h.history.with_metrics _) rfl
      · next eq => cases eq
    | panic =>
      refine ⟨events, ?_⟩
      simp only [accepted?, Option.toList_none, List.append_nil]
      exact h.still h.history rfl

/-- The loop takes its next step. -/
theorem render (h : p.AccountInv stream events bytes gone lost) (t : FrameTransform σ) (k : FrameSink ρ)
    (clock : Reading) :
    ∃ events', (p.render t k clock).AccountInv stream events' bytes gone
      (lost ++ p.loop.abandoned?.toList) := by
  have s : RenderLoop.StepRel t k clock p.loop (p.loop.step t k clock) :=
    RenderLoop.stepRel_step h.history.sound
  have history := s.historyInv h.history
  have stream_eq := s.stream_eq.trans h.stream_eq
  obtain ⟨f, taken, waiting, waiting'⟩ | ⟨nothing, same⟩ := s.waiting_cases
  · rw [taken] at history
    refine ⟨_, history, stream_eq, ?_, ?_⟩
    · simp [h.accepted_eq]
    · have untaken := h.untaken_eq
      rw [waiting] at untaken
      show (p.loop.step t k clock).handoff.plain.waiting.toList.length + gone.length = _
      rw [waiting']
      split at untaken <;> simp_all
  · rw [nothing] at history
    refine ⟨events, by simpa [Pipeline.render] using history, stream_eq, h.accepted_eq, ?_⟩
    show (p.loop.step t k clock).handoff.plain.waiting.toList.length + gone.length = _
    rw [same]
    exact h.untaken_eq

/-- Someone stops the session. -/
theorem close (h : p.AccountInv stream events bytes gone lost) :
    ∃ events', p.close.AccountInv stream events' bytes (gone ++ (p.discarded? .close).toList) lost := by
  obtain ⟨plain, -⟩ := FrameHandoff.stop_refines h.history.sound
  refine ⟨_, h.history.close, ?_, ?_, ?_⟩
  · exact (congrArg PlainSession.stream plain).trans h.stream_eq
  · rw [SlotEvent.publications_append_stopped, h.accepted_eq]
  · show p.loop.handoff.stop.plain.waiting.toList.length + _ = _
    rw [plain, SlotEvent.unclaimed_append_stopped, ← h.untaken_eq]
    show 0 + (gone ++ p.loop.handoff.plain.waiting.toList).length = _
    rw [List.length_append]
    omega

/-- Whatever happens next is accounted for. -/
theorem act (h : p.AccountInv stream events bytes gone lost) (t : FrameTransform σ) (k : FrameSink ρ)
    (action : PipelineAction) :
    ∃ events', (p.act t k action).AccountInv stream events' (bytes ++ (p.accepted? action).toList)
      (gone ++ (p.discarded? action).toList) (lost ++ (p.abandoned? action).toList) := by
  cases action with
  | deliver d => simpa [Pipeline.act, discarded?, abandoned?] using h.deliver d
  | render clock => simpa [Pipeline.act, accepted?, discarded?, abandoned?] using h.render t k clock
  | send c => simpa [accepted?, discarded?, abandoned?] using ⟨events, h.still (h.history.send c) rfl⟩
  | setModes modes =>
    simpa [accepted?, discarded?, abandoned?] using ⟨events, h.still (h.history.setModes modes) rfl⟩
  | close => simpa [Pipeline.act, accepted?, abandoned?] using h.close

theorem run (h : p.AccountInv stream events bytes gone lost) (t : FrameTransform σ) (k : FrameSink ρ)
    (schedule : List PipelineAction) :
    ∃ events', (p.run t k schedule).AccountInv stream events' (bytes ++ accepted t k p schedule)
      (gone ++ discarded t k p schedule) (lost ++ abandoned t k p schedule) := by
  induction schedule generalizing p events bytes gone lost with
  | nil => exact ⟨events, by simpa [Pipeline.run, accepted, discarded, abandoned, collect] using h⟩
  | cons action rest ih =>
    obtain ⟨events₁, accounts⟩ := h.act t k action
    obtain ⟨events', accounts⟩ := ih accounts
    refine ⟨events', ?_⟩
    simpa only [Pipeline.run, List.foldl_cons, accepted, discarded, abandoned, collect,
      List.append_assoc] using accounts

end AccountInv

theorem accountInv_start {stream : StreamFormat} {c : FrameHandoff}
    (started : FrameHandoff.start stream = .ok c)
    (driver : DriverSettings) (settings : RenderSettings) (transform : σ) (sink : ρ) :
    AccountInv ⟨{ settings := driver }, .start c settings transform sink⟩ stream [] [] [] [] := by
  obtain ⟨-, plain⟩ := FrameHandoff.start_refines started
  refine ⟨RenderLoop.historyInv_start started settings transform sink, PlainSession.stream_of_start plain,
    rfl, ?_⟩
  show c.plain.waiting.toList.length + 0 = 0
  rw [PlainSession.waiting_of_start plain]
  rfl

/-! ## Main statement -/

/-- **No frame is lost, doubled or mixed up.** Whatever a source delivers and whatever happens in which
order, the transform is given accepted frames of the session's stream in the order of their delivery, each at
most once and unchanged, and the sink is given what the transform made of them. When the loop has ended,
every accepted frame was given to the transform, or dropped, or is untaken (at most one), or was abandoned
(at most one). -/
theorem run_frame_balance {stream : StreamFormat} {c : FrameHandoff}
    (started : FrameHandoff.start stream = .ok c)
    (driver : DriverSettings) (settings : RenderSettings) (t : FrameTransform σ) (k : FrameSink ρ)
      (transform : σ)
    (sink : ρ) (schedule : List PipelineAction) :
    let p : Pipeline σ ρ := ⟨{ settings := driver }, .start c settings transform sink⟩
    let e := p.run t k schedule
    let stats := e.loop.handoff.session.stats
    let untaken := (e.loop.handoff.session.waiting e.loop.handoff.pool).toList ++ discarded t k p schedule
    (e.loop.inputs.map Frame.sequence).Pairwise (· < ·) ∧
      (∀ f ∈ e.loop.inputs, f.metadata.stream = stream ∧
        ∃ n, f.sequence = n + 1 ∧ (accepted t k p schedule)[n]? = some f.data) ∧
      RenderTrace.IsFaithful e.loop.trace ∧
      stats.published = (accepted t k p schedule).length ∧
      untaken.length ≤ 1 ∧ (abandoned t k p schedule).length ≤ 1 ∧
      (e.loop.hasEnded = true → stats.published =
        e.loop.calls + stats.dropped + untaken.length + (abandoned t k p schedule).length) := by
  intro p e stats untaken
  obtain ⟨events, accounts⟩ := (accountInv_start started driver settings transform sink).run t k schedule
  simp only [List.nil_append] at accounts
  have history : e.loop.HistoryInv events (abandoned t k p schedule) := accounts.history
  have session := history.session
  have accepted_eq : (publications events).map Frame.data = accepted t k p schedule :=
    accounts.accepted_eq
  have untaken_eq : untaken.length = if unclaimed events = [] then 0 else 1 := by
    rw [← accounts.untaken_eq]
    exact List.length_append
  refine ⟨?_, ?_, history.faithful, ?_, ?_, history.lost_le, ?_⟩
  · have pairwise := history.pairwise_inputs
    rw [List.map_append] at pairwise
    exact (List.pairwise_append.mp pairwise).1
  · intro f mem
    have published : f ∈ publications events :=
      history.inputs_sublist.subset (List.mem_append_left _ mem)
    obtain ⟨n, number, there⟩ := session.numbered published
    refine ⟨(session.shape f published).1.trans accounts.stream_eq, n, number, ?_⟩
    rw [← accepted_eq, List.getElem?_map, there]
    rfl
  · have numbers := congrArg List.length session.numbers
    rw [List.length_map, List.length_range', ← session.published_eq] at numbers
    rw [← accepted_eq, List.length_map]
    exact numbers.symm
  · rw [untaken_eq]
    split <;> decide
  · intro ended
    have free : e.loop.unapplied = [] := RenderLoop.unapplied_of_ended ended
    have taken : stats.taken = e.loop.calls + (abandoned t k p schedule).length := by
      rw [e.loop.calls_eq_length, ← List.length_append]
      refine session.taken_eq.trans ?_
      rw [history.takings_eq, free, List.append_nil]
    have balance : stats.published =
        stats.taken + stats.dropped + if unclaimed events = [] then 0 else 1 := session.balance
    rw [← untaken_eq, taken] at balance
    omega

/-- Of four accepted frames the first is shown and saved, the second is dropped, the third is abandoned
when the loop finds that it was told to end, and the fourth is discarded when the session is stopped. -/
theorem run_frame_balance_each_fate :
    let look : PipelineAction := .render ⟨⟨0⟩, ⟨3⟩⟩
    let schedule : List PipelineAction :=
      [.deliver (.frame [5]), .send .snapshot, look, look, look, look, look, look, look, look,
        .deliver (.frame [1, 2]), .deliver (.frame [6]), .deliver (.frame [7]), look, look, look,
        .send .shutdown, .deliver (.frame [8]), look, .close, .deliver (.frame [9])]
    ∃ c e, FrameHandoff.start ⟨1, 1, .gray8⟩ = .ok c ∧
      run .negative .memorySink ⟨{}, .start c { freezeAfterSave := ⟨0⟩ } () {}⟩ schedule = e ∧
      e.driver.ended = some .sessionClosed ∧ e.loop.hasEnded = true ∧ e.loop.trace.length = 3 ∧
      e.loop.handoff.session.stats.dropped = 1 ∧
      e.loop.handoff.session.stats.published = e.loop.calls + 1 + 1 + 1 := by
  refine ⟨_, _, rfl, rfl, rfl, rfl, rfl, rfl, ?_⟩
  obtain ⟨-, -, -, -, -, -, balance⟩ :=
    run_frame_balance (rfl : FrameHandoff.start ⟨1, 1, .gray8⟩ = .ok _) {} { freezeAfterSave := ⟨0⟩ }
      .negative .memorySink () {} _
  exact balance rfl

end FramePipeline.Pipeline
