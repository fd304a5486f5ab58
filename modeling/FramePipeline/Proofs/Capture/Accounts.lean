import FramePipeline.Proofs.Capture.Turns
import FramePipeline.Proofs.Handoff.SlotHistory

/-!
# What becomes of the calls of a source

A driver alone at the producer's side of a session, with others who take frames, hold them, give them up
and stop the session between its calls. The session publishes the delivered frames that have its length,
as long as it is open, and every call is counted once by the driver, whether the frame was
published, refused by the session or by the source itself, or not delivered. Only the frame that finds
the session closed is counted nowhere, and it is the last one.

Main definitions: `CaptureRun.published` (the frames that a script publishes), `CaptureDriver.Increment`,
`CaptureRun.CallCounted`, `CaptureRun.PublishedInv` and `CaptureRun.BalanceInv` (the invariants). Main
statement: `CaptureRun.perform_balance`.
-/

namespace FramePipeline

open SlotEvent (publications)

/-- The bytes of a delivered frame of a length. -/
def CaptureTurn.fitting? (frameLen : Nat) : CaptureTurn → Option Bytes
  | call (.frame bytes) => if bytes.length = frameLen then some bytes else none
  | _ => none

/-- How many calls of the source were counted as published, rejected and failed. -/
def CaptureReport.counts (report : CaptureReport) : Nat × Nat × Nat :=
  (report.framesPublished, report.framesRejected, report.sourceErrors)

/-- One of the three counters is one higher than before, and the others are as they were. -/
def CaptureReport.OneCounted (report report' : CaptureReport) : Prop :=
  report'.counts = (report.framesPublished + 1, report.framesRejected, report.sourceErrors) ∨
    report'.counts = (report.framesPublished, report.framesRejected + 1, report.sourceErrors) ∨
    report'.counts = (report.framesPublished, report.framesRejected, report.sourceErrors + 1)

/-! ## What a call counts -/

namespace CaptureDriver

theorem counts_countError (d : CaptureDriver) (e : CaptureError) :
    (d.countError e).report.framesPublished = d.report.framesPublished ∧
      (d.countError e).report.framesRejected = d.report.framesRejected ∧
      (d.countError e).report.sourceErrors = d.report.sourceErrors + 1 := by
  unfold countError
  dsimp only
  split <;> exact ⟨rfl, rfl, rfl⟩

theorem ended_countError (d : CaptureDriver) (e : CaptureError) :
    (d.countError e).ended = d.ended ∨ (d.countError e).ended = some .gaveUp := by
  unfold countError
  dsimp only
  split
  · exact .inr rfl
  · exact .inl rfl

/-- What a call adds to the counters of the driver, and to those of the session and of the source. -/
structure Increment (d : CaptureDriver) (c : FrameHandoff) (d' : CaptureDriver) (c' : FrameHandoff)
    (published mismatched rejected failed : Nat) : Prop where
  framesPublished : d'.report.framesPublished = d.report.framesPublished + published
  framesRejected : d'.report.framesRejected = d.report.framesRejected + (rejected + mismatched)
  sourceErrors : d'.report.sourceErrors = d.report.sourceErrors + failed
  published : c'.plain.stats.published = c.plain.stats.published + published
  mismatches : c'.plain.stats.sizeMismatches = c.plain.stats.sizeMismatches + mismatched
  rejections : c'.metrics.value .captureRejected = c.metrics.value .captureRejected + rejected
  failures : c'.metrics.value .captureErrors = c.metrics.value .captureErrors + failed

namespace DeliveryRel

variable {d d' : CaptureDriver} {c c' : FrameHandoff} {delivery : Delivery}
  (h : d.DeliveryRel c delivery d' c') (going : d.ended = none) (sane : delivery ≠ .panic)

include h going sane

/-- Only a frame that finds the session closed ends the driver with the session. -/
theorem ended_cases :
    (d'.ended = none ∨ d'.ended = some .gaveUp) ∨
      d'.ended = some .sessionClosed ∧ d'.report = d.report ∧ (∃ bytes, delivery = .frame bytes) ∧
        c.session.closed = true := by
  cases h with
  | publishes | drops | rejects => exact .inl (.inl going)
  | @ends bytes closed => exact .inr ⟨rfl, rfl, ⟨bytes, rfl⟩, closed⟩
  | @fails e other =>
    obtain ended | ended := ended_countError d e
    · exact .inl (.inl (ended.trans going))
    · exact .inl (.inr ended)
  | breaks => exact absurd rfl sane

/-- A call is counted by the driver and in one other place, unless it ends the driver with the session. -/
theorem increment :
    ∃ published mismatched rejected failed, d.Increment c d' c' published mismatched rejected failed ∧
      published + mismatched + rejected + failed = if d'.ended = some .sessionClosed then 0 else 1 := by
  have open_eq : (if d.ended = some .sessionClosed then 0 else 1) = 1 := by
    rw [going]
    rfl
  have differ : Metric.captureErrors ≠ .captureRejected := nofun
  cases h with
  | publishes isOpen fits result plain metrics =>
    rw [PlainSession.publish_of_fits isOpen fits] at plain
    have stats : c'.plain.stats = _ := congrArg PlainSession.stats plain
    refine ⟨1, 0, 0, 0, ⟨rfl, rfl, rfl, ?_, ?_, metrics _ rfl, metrics _ rfl⟩, open_eq.symm⟩
    · rw [stats]
    · rw [stats]
      rfl
  | drops =>
    refine ⟨0, 1, 0, 0, ⟨rfl, rfl, rfl, rfl, rfl, ?_, ?_⟩, open_eq.symm⟩
    · exact FrameHandoff.value_count_of_session rfl rfl _
    · exact FrameHandoff.value_count_of_session rfl rfl _
  | ends => exact ⟨0, 0, 0, 0, ⟨rfl, rfl, rfl, rfl, rfl, rfl, rfl⟩, rfl⟩
  | rejects =>
    refine ⟨0, 0, 1, 0, ⟨rfl, rfl, rfl, rfl, rfl, ?_, ?_⟩, open_eq.symm⟩
    · exact Metrics.value_count_self ..
    · exact Metrics.value_count_of_ne differ _
  | @fails e other =>
    obtain ⟨published, rejected, errors⟩ := counts_countError d e
    refine ⟨0, 0, 0, 1, ⟨published, rejected, errors, rfl, rfl, ?_, ?_⟩, ?_⟩
    · exact Metrics.value_count_of_ne differ.symm _
    · exact Metrics.value_count_self ..
    · obtain ended | ended := ended_countError d e
      · rw [ended, open_eq]
      · rw [ended]
        rfl
  | breaks => exact absurd rfl sane

end DeliveryRel

end CaptureDriver

namespace CaptureRun

variable {r r' : CaptureRun} {t : CaptureTurn} {stream : StreamFormat} {events : List SlotEvent}
  {frames : List Frame}

/-! ## What is published -/

/-- The frame that a turn publishes: it waits in the session from then on. -/
def published? (r : CaptureRun) : CaptureTurn → Option Frame
  | .call (.frame bytes) =>
    match r.handoff.publish bytes with
    | (.ok _, c) => c.session.waiting c.pool
    | (.error _, _) => none
  | _ => none

/-- The frames that a script publishes. -/
def published : CaptureRun → List CaptureTurn → List Frame :=
  collect published?

theorem published?_of_not_call (other : ∀ d, t ≠ .call d) : r.published? t = none := by
  cases t with
  | call d => exact absurd rfl (other d)
  | take | hold | release | giveUp | stop => rfl

theorem published?_frame (sound : r.handoff.Sound r.held) (bytes : Bytes) :
    r.published? (.call (.frame bytes)) =
      if r.handoff.session.closed then none
      else if bytes.length = r.handoff.session.frameLen then
        some ⟨⟨r.handoff.session.sequence + 1, r.handoff.session.stream⟩, bytes⟩
      else none := by
  obtain ⟨c, eq, plain⟩ : ∃ c, r.handoff.publish bytes = ((r.handoff.plain.publish bytes).1, c) ∧
      c.plain = (r.handoff.plain.publish bytes).2 := by
    obtain ⟨c, eq, plain, -⟩ := FrameHandoff.publish_refines bytes sound
    exact ⟨c, eq, plain⟩
  simp only [published?]
  cases closed : r.handoff.session.closed with
  | true =>
    rw [FrameHandoff.publish_of_closed closed]
    rfl
  | false =>
    rw [if_neg Bool.false_ne_true]
    by_cases fits : bytes.length = r.handoff.session.frameLen
    · have isOpen : r.handoff.plain.closed = false := closed
      rw [PlainSession.publish_of_fits isOpen fits] at eq plain
      rw [eq, if_pos fits]
      exact congrArg PlainSession.waiting plain
    · rw [FrameHandoff.publish_of_mismatch closed fits, if_neg fits]

/-- A turn publishes what it delivers, if that fits and the session is open. -/
theorem data_published? (sound : r.handoff.Sound r.held) (t : CaptureTurn) :
    (r.published? t).map Frame.data =
      if r.handoff.session.closed then none else t.fitting? r.handoff.session.frameLen := by
  cases t with
  | call d =>
    cases d with
    | frame bytes =>
      rw [published?_frame sound, CaptureTurn.fitting?]
      split
      · rfl
      · split <;> rfl
    | error | panic => exact (ite_self none).symm
  | take | hold | release | giveUp | stop => exact (ite_self none).symm

/-- The frames that are published are those that have the session's length and are delivered as long as it
is open. -/
theorem data_published (sound : r.handoff.Sound r.held) (script : List CaptureTurn) :
    (r.published script).map Frame.data =
      if r.handoff.session.closed then []
      else ((r.performed script).takeWhile (· ≠ .stop)).filterMap
        (·.fitting? r.handoff.session.frameLen) := by
  induction script generalizing r with
  | nil =>
    show [] = _
    split <;> rfl
  | cons t rest ih =>
    cases ended : r.driver.ended with
    | some cause =>
      have ended : r.driver.ended.isSome = true := by rw [ended]; rfl
      rw [published, performed, collect_of_ended _ ended, collect_of_ended _ ended]
      show [] = _
      split <;> rfl
    | none =>
      obtain ⟨turns, sound'⟩ := turnRel_turn sound t
      obtain ⟨-, frameLen⟩ := turns.shape_eq
      have rest_eq : (collect published? (r.turn t) rest).map Frame.data = _ := ih sound'
      have first := data_published? sound t
      rw [turns.closed_eq, frameLen] at rest_eq
      rw [published, performed, collect_cons _ ended, collect_cons _ ended, List.map_append, rest_eq,
        Option.toList_some, List.singleton_append]
      cases closed : r.handoff.session.closed with
      | true =>
        rw [closed, if_pos rfl, Option.map_eq_none_iff] at first
        rw [first, if_pos rfl]
        split <;> rfl
      | false =>
        rw [closed, if_neg Bool.false_ne_true] at first
        by_cases stop : t = .stop
        · subst stop
          rw [if_pos rfl, List.takeWhile_cons_of_neg (by simp)]
          rfl
        · rw [if_neg stop, List.takeWhile_cons_of_pos (by simpa using stop), List.filterMap_cons, ← first]
          cases r.published? t <;> rfl

/-- The session's history is that of the published frames. -/
def PublishedInv (r : CaptureRun) (frames : List Frame) : Prop :=
  ∃ events, r.handoff.plain.HistoryInv events ∧ publications events = frames

theorem publishedInv_start {c : FrameHandoff} (started : FrameHandoff.start stream = .ok c)
    (settings : DriverSettings) : PublishedInv { driver := { settings }, handoff := c } [] := by
  obtain ⟨-, plain⟩ := FrameHandoff.start_refines started
  exact ⟨[], PlainSession.historyInv_start plain, rfl⟩

/-- A turn that publishes nothing adds nothing. -/
theorem PublishedInv.still (h : r.PublishedInv frames) (nothing : r.published? t = none)
    (later : ∀ events, r.handoff.plain.HistoryInv events → ∃ events', r'.handoff.plain.HistoryInv events' ∧
      publications events' = publications events) :
    r'.PublishedInv (frames ++ (r.published? t).toList) := by
  obtain ⟨events, follows, eq⟩ := h
  obtain ⟨events', follows', same⟩ := later events follows
  rw [nothing]
  exact ⟨events', follows', by rw [same, eq, Option.toList_none, List.append_nil]⟩

theorem PublishedInv.turn (h : r.PublishedInv frames) (sound : r.handoff.Sound r.held)
    (turns : r.TurnRel t r') : r'.PublishedInv (frames ++ (r.published? t).toList) := by
  cases turns with
  | @calls d driver handoff received =>
    cases received with
    | @publishes bytes c' isOpen fits result plain =>
      obtain ⟨events, follows, eq⟩ := h
      have isOpen' : ¬r.handoff.session.closed = true := Bool.not_eq_true _ ▸ isOpen
      have follows' := follows.publish isOpen fits
      rw [← plain] at follows'
      rw [published?_frame sound, if_neg isOpen', if_pos fits]
      exact ⟨_, follows', by rw [SlotEvent.publications_append_published, eq]; rfl⟩
    | @drops bytes isOpen differs =>
      have isOpen' : ¬r.handoff.session.closed = true := Bool.not_eq_true _ ▸ isOpen
      refine h.still ?_ fun events follows =>
        ⟨events, follows.mismatch (r.handoff.session.stats.sizeMismatches + 1), rfl⟩
      rw [published?_frame sound, if_neg isOpen', if_neg differs]
    | @ends bytes closed =>
      refine h.still ?_ fun events follows => ⟨events, follows, rfl⟩
      have closed : r.handoff.session.closed = true := closed
      rw [published?_frame sound, if_pos closed]
    | rejects | fails | breaks => exact h.still rfl fun events follows => ⟨events, follows, rfl⟩
  | @takes t isTake handoff held plain =>
    have nothing : r.published? t = none := by
      refine published?_of_not_call ?_
      rintro d rfl
      cases isTake
    refine h.still nothing fun events follows => ⟨_, plain ▸ follows.tryTake_any, ?_⟩
    cases r.handoff.plain.tryTake.1.toOption.join with
    | none => exact congrArg publications (List.append_nil events)
    | some f => exact SlotEvent.publications_append_took events f
  | @releases t isRelease handoff held plain =>
    have nothing : r.published? t = none := by
      refine published?_of_not_call ?_
      rintro d rfl
      cases isRelease
    exact h.still nothing fun events follows => ⟨events, plain ▸ follows, rfl⟩
  | stops plain =>
    exact h.still rfl fun events follows =>
      ⟨_, plain ▸ follows.stop, SlotEvent.publications_append_stopped events⟩

theorem PublishedInv.run (h : r.PublishedInv frames) (sound : r.handoff.Sound r.held)
    (script : List CaptureTurn) :
    (r.perform script).PublishedInv (frames ++ r.published script) := by
  induction script generalizing r frames with
  | nil => rwa [published, collect, List.append_nil]
  | cons t rest ih =>
    cases ended : r.driver.ended with
    | some cause =>
      have ended : r.driver.ended.isSome = true := by rw [ended]; rfl
      rwa [perform_of_ended ended, published, collect_of_ended _ ended, List.append_nil]
    | none =>
      obtain ⟨turns, sound'⟩ := turnRel_turn sound t
      rw [perform_cons ended, published, collect_cons _ ended, ← List.append_assoc]
      exact ih (h.turn sound turns) sound'

/-! ## The books -/

/-- The driver has counted every call once, and its counters agree with those of the session and of the
source. -/
structure BalanceInv (r : CaptureRun) : Prop where
  published_eq : r.driver.report.framesPublished = r.handoff.plain.stats.published
  rejected_eq : r.driver.report.framesRejected =
    r.handoff.metrics.value .captureRejected + r.handoff.plain.stats.sizeMismatches
  errors_eq : r.driver.report.sourceErrors = r.handoff.metrics.value .captureErrors
  calls_eq : r.calls =
    r.driver.report.framesPublished + r.driver.report.framesRejected + r.driver.report.sourceErrors +
      if r.driver.ended = some .sessionClosed then 1 else 0
  sane : r.driver.ended ≠ some .panicked

theorem balanceInv_start {c : FrameHandoff} (started : FrameHandoff.start stream = .ok c)
    (settings : DriverSettings) :
    BalanceInv { driver := { settings }, handoff := c } := by
  obtain ⟨-, stats, metrics⟩ := FrameHandoff.fresh_of_start started
  have nothing (m : Metric) : 0 = c.metrics.value m := by
    rw [metrics]
    rfl
  constructor
  · show 0 = c.session.stats.published
    rw [stats]
  · show 0 = c.metrics.value .captureRejected + c.session.stats.sizeMismatches
    rw [stats, ← nothing]
    rfl
  · exact nothing .captureErrors
  · rfl
  · exact nofun

/-- Others do not count what the driver counts. -/
theorem BalanceInv.still (h : r.BalanceInv) {handoff : FrameHandoff} {held : List CellId}
    (published : handoff.plain.stats.published = r.handoff.plain.stats.published)
    (mismatches : handoff.plain.stats.sizeMismatches = r.handoff.plain.stats.sizeMismatches)
    (metrics : handoff.metrics = r.handoff.metrics) : BalanceInv { r with handoff, held } where
  published_eq := h.published_eq.trans published.symm
  rejected_eq := by
    rw [mismatches, metrics]
    exact h.rejected_eq
  errors_eq := by
    rw [metrics]
    exact h.errors_eq
  calls_eq := h.calls_eq
  sane := h.sane

theorem BalanceInv.receive (h : r.BalanceInv) {d : Delivery} {driver : CaptureDriver} {handoff : FrameHandoff}
    (received : r.driver.DeliveryRel r.handoff d driver handoff) (going : r.driver.ended = none)
    (sane : d ≠ .panic) : BalanceInv { r with driver, handoff, calls := r.calls + 1 } := by
  obtain ⟨published, mismatched, rejected, failed, adds, once⟩ := received.increment going sane
  have calls := h.calls_eq
  rw [going, if_neg nofun] at calls
  constructor
  · rw [adds.framesPublished, adds.published, h.published_eq]
  · rw [adds.framesRejected, adds.rejections, adds.mismatches, h.rejected_eq]
    omega
  · rw [adds.sourceErrors, adds.failures, h.errors_eq]
  · show r.calls + 1 = _
    rw [adds.framesPublished, adds.framesRejected, adds.sourceErrors]
    split at once
    · next closed =>
      rw [if_pos closed]
      omega
    · next other =>
      rw [if_neg other]
      omega
  · obtain (ended | ended) | ⟨ended, -⟩ := received.ended_cases going sane <;> rw [ended] <;> exact nofun

theorem BalanceInv.turn (h : r.BalanceInv) (turns : r.TurnRel t r') (going : r.driver.ended = none)
    (sane : t ≠ .call .panic) : r'.BalanceInv := by
  cases turns with
  | calls received => exact h.receive received going fun panics => sane (congrArg CaptureTurn.call panics)
  | takes isTake plain metrics =>
    obtain ⟨waiting, taken, eq⟩ := r.handoff.plain.exists_tryTake_eq
    rw [eq] at plain
    exact h.still (by rw [plain]) (by rw [plain]) metrics
  | releases isRelease plain metrics => exact h.still (by rw [plain]) (by rw [plain]) metrics
  | stops plain metrics => exact h.still (by rw [plain]; rfl) (by rw [plain]; rfl) metrics

theorem BalanceInv.run (h : r.BalanceInv) (sound : r.handoff.Sound r.held) {script : List CaptureTurn}
    (sane : .call .panic ∉ script) : (r.perform script).BalanceInv := by
  refine perform_induction sound h fun r t mem sound going h => ?_
  obtain ⟨turns, -⟩ := turnRel_turn sound t
  exact h.turn turns going fun panics => sane (panics ▸ mem)

/-- A call that comes to the delivery is counted once, unless the delivered frame finds the session closed:
then it is counted nowhere, and the driver ends. -/
def CallCounted (d : Delivery) (before after : CaptureRun) : Prop :=
  before.driver.report.OneCounted after.driver.report ∨
    after.driver.report = before.driver.report ∧ (∃ bytes, d = .frame bytes) ∧
      before.handoff.session.closed = true ∧ after.driver.ended = some .sessionClosed

theorem callCounted_turn (sound : r.handoff.Sound r.held) (going : r.driver.ended = none) {d : Delivery}
    (sane : d ≠ .panic) : CallCounted d r (r.turn (.call d)) := by
  obtain ⟨received, -⟩ := CaptureDriver.deliveryRel sound r.driver d
  obtain ended | ⟨ended, same, frame, closed⟩ := received.ended_cases going sane
  · left
    obtain ⟨published, mismatched, rejected, failed, adds, once⟩ := received.increment going sane
    have other : (r.driver.receive r.handoff d).1.ended ≠ some .sessionClosed := by
      obtain ended | ended := ended <;> rw [ended] <;> exact nofun
    rw [if_neg other] at once
    have cases : (published = 1 ∧ rejected + mismatched = 0 ∧ failed = 0) ∨
        (published = 0 ∧ rejected + mismatched = 1 ∧ failed = 0) ∨
        (published = 0 ∧ rejected + mismatched = 0 ∧ failed = 1) := by omega
    unfold CaptureReport.OneCounted CaptureReport.counts
    show (_, _, _) = (_, _, _) ∨ (_, _, _) = (_, _, _) ∨ (_, _, _) = (_, _, _)
    simp only [turn, deliver, adds.framesPublished, adds.framesRejected, adds.sourceErrors]
    obtain ⟨a, b, c⟩ | ⟨a, b, c⟩ | ⟨a, b, c⟩ := cases <;> rw [a, b, c]
    · exact .inl rfl
    · exact .inr (.inl rfl)
    · exact .inr (.inr rfl)
  · exact .inr ⟨same, frame, closed, ended⟩

/-- A frame that finds the session closed ends the driver, whatever its length. -/
theorem ended_turn_of_closed (sound : r.handoff.Sound r.held) (closed : r.handoff.session.closed = true)
    (bytes : Bytes) : (r.turn (.call (.frame bytes))).driver.ended = some .sessionClosed := by
  obtain ⟨received, -⟩ := CaptureDriver.deliveryRel sound r.driver (.frame bytes)
  exact received.ended_of_closed closed

/-- After a stop nothing is counted by the session, and the session is closed while the driver goes on. -/
theorem perform_stop (sound : r.handoff.Sound r.held) (before after : List CaptureTurn) :
    (r.perform (before ++ .stop :: after)).handoff.session.stats =
        (r.perform before).handoff.session.stats ∧
      ((r.perform (before ++ .stop :: after)).driver.ended = none →
        (r.perform (before ++ .stop :: after)).handoff.session.closed = true) := by
  rw [perform_append]
  have sound := sound_perform sound before
  generalize r.perform before = b at sound ⊢
  cases ended : b.driver.ended with
  | some cause =>
    rw [perform_of_ended (by rw [ended]; rfl)]
    refine ⟨rfl, fun going => ?_⟩
    rw [ended] at going
    cases going
  | none =>
    obtain ⟨turns, sound'⟩ := turnRel_turn sound .stop
    have closed : (b.turn .stop).handoff.session.closed = true := turns.closed_eq
    rw [perform_cons ended, session_perform_of_closed sound' closed]
    exact ⟨FrameHandoff.stats_stop b.handoff, fun _ => closed⟩

/-! ## Main statement -/

/-- **Every call of the source is accounted for.** Whatever the source delivers, and whatever others take,
hold, give up or stop between its calls: the frames that are published are those of the session's length
that are delivered as long as the session is open and the driver goes on, numbered from one in the order of
their delivery. Every call is counted once, but for the frame that finds the session closed, and the
driver's three counters are those of the session and of the source. After a stop the session counts nothing
more, and the first frame that is delivered ends the driver. -/
theorem perform_balance {stream : StreamFormat} {c : FrameHandoff}
    (started : FrameHandoff.start stream = .ok c)
    (settings : DriverSettings) (script : List CaptureTurn) (sane : .call .panic ∉ script) :
    let r : CaptureRun := { driver := { settings }, handoff := c }
    let e := r.perform script
    let report := e.driver.finalReport
    let stats := e.handoff.session.stats
    let frames := r.published script
    (frames.map Frame.data =
        ((r.performed script).takeWhile (· ≠ .stop)).filterMap (·.fitting? c.session.frameLen) ∧
      frames.map Frame.sequence = List.range' 1 frames.length ∧ ∀ f ∈ frames, f.metadata.stream = stream) ∧
    ((∀ before d after, script = before ++ .call d :: after → (r.perform before).driver.ended = none →
        CallCounted d (r.perform before) (r.perform (before ++ [.call d]))) ∧
      e.calls = report.framesPublished + report.framesRejected + report.sourceErrors +
        if e.driver.ended = some .sessionClosed then 1 else 0) ∧
    (report.framesPublished = stats.published ∧ stats.published = frames.length ∧
      report.framesRejected = e.handoff.metrics.value .captureRejected + stats.sizeMismatches ∧
      report.sourceErrors = e.handoff.metrics.value .captureErrors) ∧
    ∀ before after, script = before ++ .stop :: after →
      stats = (r.perform before).handoff.session.stats ∧
      ∀ between bytes rest, after = between ++ .call (.frame bytes) :: rest →
        (r.perform (before ++ .stop :: between)).driver.ended = none →
        (r.perform (before ++ .stop :: between ++ [.call (.frame bytes)])).driver.ended =
          some .sessionClosed := by
  intro r e report stats frames
  obtain ⟨sound, plain⟩ := FrameHandoff.start_refines started
  have sound : r.handoff.Sound r.held := sound
  have books : e.BalanceInv := (balanceInv_start started settings).run sound sane
  have report_eq : report = e.driver.report := if_neg books.sane
  obtain ⟨events, follows, eq⟩ : e.PublishedInv ([] ++ frames) :=
    (publishedInv_start started settings).run sound script
  rw [List.nil_append] at eq
  have numbers : frames.map Frame.sequence = List.range' 1 e.handoff.session.sequence := by
    rw [← eq]
    exact follows.numbers
  have length : e.handoff.session.sequence = frames.length := by
    have lengths := congrArg List.length numbers
    rw [List.length_map, List.length_range'] at lengths
    exact lengths.symm
  refine ⟨⟨?data, ?numbers, ?streams⟩, ⟨?each, ?all⟩, ⟨?published, ?frames, ?rejected, ?failed⟩, ?stop⟩
  case data =>
    obtain ⟨isOpen, -⟩ := FrameHandoff.fresh_of_start started
    have isOpen : r.handoff.session.closed = false := isOpen
    rw [data_published sound script, isOpen]
    rfl
  case numbers => rw [numbers, length]
  case streams =>
    intro f mem
    rw [← eq] at mem
    obtain ⟨stream_eq, -⟩ := follows.shape f mem
    exact (stream_eq.trans (stream_perform sound script)).trans (PlainSession.stream_of_start plain)
  case each =>
    rintro before d after rfl going
    have known : d ≠ .panic := by
      rintro rfl
      exact sane (by simp)
    rw [perform_append, perform_cons going]
    exact callCounted_turn (sound_perform sound before) going known
  case all =>
    rw [report_eq]
    exact books.calls_eq
  case published =>
    rw [report_eq]
    exact books.published_eq
  case frames => exact follows.published_eq.trans length
  case rejected =>
    rw [report_eq]
    exact books.rejected_eq
  case failed =>
    rw [report_eq]
    exact books.errors_eq
  case stop =>
    rintro before after rfl
    obtain ⟨kept, -⟩ := perform_stop sound before after
    refine ⟨kept, ?_⟩
    rintro between bytes rest rfl going
    obtain ⟨-, closed⟩ := perform_stop sound before between
    rw [perform_append, perform_cons going]
    exact ended_turn_of_closed (sound_perform sound _) (closed going) bytes

/-- Three frames are published, one is refused by the session and one by the source itself, two calls fail,
and after the stop the first frame ends the driver, so that the last one is never asked for. -/
theorem perform_balance_closed_session :
    let script : List CaptureTurn :=
      [.call (.frame [1]), .hold, .call (.frame [1, 2]), .call (.error (.frame (.sizeMismatch 1 0))),
        .call (.frame [5]), .hold, .giveUp 1, .call (.error .notStarted), .call (.frame [6]), .take,
        .release, .stop, .call (.error (.io "unplugged")), .call (.frame []), .call (.frame [7])]
    ∃ c, FrameHandoff.start ⟨1, 1, .gray8⟩ = .ok c ∧ .call .panic ∉ script ∧
      let r : CaptureRun := { driver := {}, handoff := c }
      let e := r.perform script
      (r.published script).map Frame.data = [[1], [5], [6]] ∧
        (r.published script).map Frame.sequence = [1, 2, 3] ∧
        e.driver.finalReport.counts = (3, 2, 2) ∧ e.calls = 3 + 2 + 2 + 1 ∧
        e.driver.ended = some .sessionClosed := by
  intro script
  refine ⟨_, rfl, by decide, ?_⟩
  intro r e
  obtain ⟨⟨data, numbers, -⟩, ⟨-, all⟩, -, -⟩ :=
    perform_balance (rfl : FrameHandoff.start ⟨1, 1, .gray8⟩ = .ok r.handoff) {} script (by decide)
  have delivered : (r.published script).map Frame.data = [[1], [5], [6]] :=
    data.trans (by decide +kernel)
  have ended : e.driver.ended = some .sessionClosed := by decide +kernel
  have counts : e.driver.finalReport.counts = (3, 2, 2) := by decide +kernel
  have length : (r.published script).length = 3 := by
    rw [← List.length_map (f := Frame.data), delivered]
    rfl
  rw [length] at numbers
  obtain ⟨published, rejected, failed⟩ : e.driver.finalReport.framesPublished = 3 ∧
      e.driver.finalReport.framesRejected = 2 ∧ e.driver.finalReport.sourceErrors = 2 := by
    simpa only [CaptureReport.counts, Prod.mk.injEq] using counts
  have calls : e.calls = 3 + 2 + 2 + 1 := by
    refine all.trans ?_
    rw [published, rejected, failed, if_pos ended]
  exact ⟨delivered, numbers, counts, calls, ended⟩

end CaptureRun

end FramePipeline
