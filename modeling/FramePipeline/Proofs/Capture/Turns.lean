import Mathlib.Data.List.Perm.Basic
import FramePipeline.Capture.Script
import FramePipeline.Proofs.Handoff.SessionCounters
import FramePipeline.Proofs.Handoff.SessionRefinement

/-!
# What a capture driver does

A call of the source has one of six outcomes, and what others do between two calls leaves the driver and
all metrics alone. Both are said once and for all here, with the session seen without its buffers.

Main definitions: `CaptureDriver.DeliveryRel`, `CaptureRun.TurnRel`. Main statements:
`CaptureDriver.deliveryRel`, `CaptureRun.turnRel_turn`.
-/

namespace FramePipeline

namespace FrameHandoff

variable {c : FrameHandoff} {others : List CellId}

/-! ## Buffers that are held -/

theorem Sound.perm {others' : List CellId} (sound : c.Sound others) (same : others.Perm others') :
    c.Sound others' :=
  ⟨sound.owned.perm (same.append_left _), sound.session⟩

/-- All buffers that are held are given up. -/
theorem release_all {held : List CellId} (sound : c.Sound held) :
    (held.foldl release c).plain = c.plain ∧ (held.foldl release c).metrics = c.metrics ∧
      (held.foldl release c).Sound [] := by
  induction held generalizing c with
  | nil => exact ⟨rfl, rfl, sound⟩
  | cons id held ih =>
    obtain ⟨plain, sound', -⟩ := release_refines sound
    obtain ⟨plain', metrics, sound''⟩ := ih sound'
    exact ⟨plain'.trans plain, metrics, sound''⟩

/-! ## Closed sessions -/

theorem tryTake_of_closed (sound : c.Sound others) (closed : c.session.closed = true) :
    c.tryTake = (.error .sessionClosed, c) := by
  obtain ⟨-, front, -⟩ | ⟨front, spare, isOpen, -⟩ := sound.session.sides
  · simp only [tryTake, takeFront, front]
  · rw [closed] at isOpen
    cases isOpen

theorem session_release_all (held : List CellId) (c : FrameHandoff) :
    (held.foldl release c).session = c.session := by
  induction held generalizing c with
  | nil => rfl
  | cons id held ih => exact ih (c.release id)

end FrameHandoff

/-! ## Deliveries -/

namespace CaptureDriver

/-- What the driver makes of a delivery. -/
inductive DeliveryRel (d : CaptureDriver) (c : FrameHandoff) : Delivery → CaptureDriver → FrameHandoff → Prop
  /-- The frame is published. -/
  | publishes {bytes : Bytes} {c' : FrameHandoff} (isOpen : c.plain.closed = false)
      (fits : bytes.length = c.session.frameLen)
      (result : c.publish bytes = (.ok (c.session.sequence + 1), c'))
      (plain : c'.plain = (c.plain.publish bytes).2)
      (metrics : ∀ m : Metric, m.isOfSession = false → c'.metrics.value m = c.metrics.value m) :
      DeliveryRel d c (.frame bytes) { d with consecutiveErrors := 0 }.countPublished c'
  /-- The session refuses the frame for its length. -/
  | drops {bytes : Bytes} (isOpen : c.plain.closed = false) (differs : bytes.length ≠ c.session.frameLen) :
      DeliveryRel d c (.frame bytes) { d with consecutiveErrors := 0 }.countRejected c.countMismatch
  /-- The session is closed. -/
  | ends {bytes : Bytes} (closed : c.plain.closed = true) :
      DeliveryRel d c (.frame bytes)
        { d with consecutiveErrors := 0, ended := some .sessionClosed } c
  /-- The source itself refuses the frame for its length. -/
  | rejects (expected actual : Nat) :
      DeliveryRel d c (.error (.frame (.sizeMismatch expected actual)))
        { d with consecutiveErrors := 0 }.countRejected
        { c with metrics := c.metrics.count .captureRejected }
  /-- The source fails. -/
  | fails {e : CaptureError} (other : ∀ expected actual, e ≠ .frame (.sizeMismatch expected actual)) :
      DeliveryRel d c (.error e) (d.countError e) { c with metrics := c.metrics.count .captureErrors }
  /-- The source breaks down. -/
  | breaks : DeliveryRel d c .panic { d with ended := some .panicked } c

theorem deliveryRel {c : FrameHandoff} {others : List CellId} (sound : c.Sound others) (d : CaptureDriver)
    (delivery : Delivery) :
    d.DeliveryRel c delivery (d.receive c delivery).1 (d.receive c delivery).2 ∧
      (d.receive c delivery).2.Sound others := by
  unfold receive
  split
  · next bytes =>
    obtain ⟨c', eq, plain, sound', -⟩ := FrameHandoff.publish_refines bytes sound
    cases closed : c.plain.closed with
    | true =>
      rw [FrameHandoff.publish_of_closed closed]
      exact ⟨.ends closed, sound⟩
    | false =>
      by_cases fits : bytes.length = c.session.frameLen
      · have plainly := PlainSession.publish_of_fits closed fits
        have eq : c.publish bytes = (.ok (c.session.sequence + 1), c') := by
          have eq : c.publish bytes = ((c.plain.publish bytes).1, c') := eq
          rwa [plainly] at eq
        have metrics : ∀ m : Metric, m.isOfSession = false → c'.metrics.value m = c.metrics.value m := by
          intro m other
          have kept := FrameHandoff.value_publish other c bytes
          rwa [eq] at kept
        rw [eq]
        exact ⟨.publishes closed fits eq plain metrics, sound'⟩
      · rw [FrameHandoff.publish_of_mismatch closed fits]
        exact ⟨.drops closed fits, sound.owned, sound.session.sides, sound.session.stream_eq⟩
  · next expected actual => exact ⟨.rejects expected actual, sound.with_metrics _⟩
  · next e other => exact ⟨.fails other, sound.with_metrics _⟩
  · exact ⟨.breaks, sound⟩

/-- A delivery neither closes the session nor changes what it is for. -/
theorem DeliveryRel.shape_eq {d d' : CaptureDriver} {c c' : FrameHandoff} {delivery : Delivery}
    (h : d.DeliveryRel c delivery d' c') :
    c'.session.stream = c.session.stream ∧ c'.session.frameLen = c.session.frameLen ∧
      c'.session.closed = c.session.closed := by
  cases h with
  | publishes isOpen fits result plain =>
    have stream : c'.plain.stream = c.plain.stream := by rw [plain, PlainSession.stream_publish]
    have frameLen : c'.plain.frameLen = c.plain.frameLen := by rw [plain, PlainSession.frameLen_publish]
    have closed : c'.plain.closed = c.plain.closed := by rw [plain, PlainSession.closed_publish]
    exact ⟨stream, frameLen, closed⟩
  | drops | ends | rejects | fails | breaks => exact ⟨rfl, rfl, rfl⟩

/-- A frame that finds the session closed ends the driver, whatever its length. -/
theorem DeliveryRel.ended_of_closed {d d' : CaptureDriver} {c c' : FrameHandoff} {bytes : Bytes}
    (h : d.DeliveryRel c (.frame bytes) d' c') (closed : c.session.closed = true) :
    d'.ended = some .sessionClosed := by
  cases h with
  | publishes isOpen | drops isOpen => cases closed.symm.trans isOpen
  | ends => rfl

theorem DeliveryRel.session_of_closed {d d' : CaptureDriver} {c c' : FrameHandoff}
    {delivery : Delivery} (h : d.DeliveryRel c delivery d' c') (closed : c.session.closed = true) :
    c'.session = c.session := by
  cases h with
  | publishes isOpen | drops isOpen => cases closed.symm.trans isOpen
  | ends | rejects | fails | breaks => rfl

end CaptureDriver

/-! ## Turns -/

/-- Someone takes a frame. -/
def CaptureTurn.isTake : CaptureTurn → Bool
  | take | hold => true
  | _ => false

/-- Someone gives up frames. -/
def CaptureTurn.isRelease : CaptureTurn → Bool
  | release | giveUp _ => true
  | _ => false

namespace CaptureRun

variable {r : CaptureRun}

/-- What a turn of a driver that has not ended does. -/
inductive TurnRel (r : CaptureRun) : CaptureTurn → CaptureRun → Prop
  | calls {d : Delivery} {driver : CaptureDriver} {handoff : FrameHandoff}
      (received : r.driver.DeliveryRel r.handoff d driver handoff) :
      TurnRel r (.call d) { r with driver, handoff, calls := r.calls + 1 }
  | takes {t : CaptureTurn} (isTake : t.isTake = true) {handoff : FrameHandoff} {held : List CellId}
      (plain : handoff.plain = r.handoff.plain.tryTake.2) (metrics : handoff.metrics = r.handoff.metrics) :
      TurnRel r t { r with handoff, held }
  | releases {t : CaptureTurn} (isRelease : t.isRelease = true) {handoff : FrameHandoff} {held : List CellId}
      (plain : handoff.plain = r.handoff.plain) (metrics : handoff.metrics = r.handoff.metrics) :
      TurnRel r t { r with handoff, held }
  | stops {handoff : FrameHandoff} (plain : handoff.plain = r.handoff.plain.stop)
      (metrics : handoff.metrics = r.handoff.metrics) : TurnRel r .stop { r with handoff }

namespace TurnRel

variable {r' : CaptureRun} {t : CaptureTurn}

theorem shape_eq (h : r.TurnRel t r') :
    r'.handoff.session.stream = r.handoff.session.stream ∧
      r'.handoff.session.frameLen = r.handoff.session.frameLen := by
  cases h with
  | calls received =>
    obtain ⟨stream, frameLen, -⟩ := received.shape_eq
    exact ⟨stream, frameLen⟩
  | takes isTake plain =>
    obtain ⟨waiting, taken, eq⟩ := r.handoff.plain.exists_tryTake_eq
    rw [eq] at plain
    exact ⟨congrArg PlainSession.stream plain, congrArg PlainSession.frameLen plain⟩
  | releases _ plain => exact ⟨congrArg PlainSession.stream plain, congrArg PlainSession.frameLen plain⟩
  | stops plain => exact ⟨congrArg PlainSession.stream plain, congrArg PlainSession.frameLen plain⟩

/-- A stop closes the session, and nothing else does. -/
theorem closed_eq (h : r.TurnRel t r') :
    r'.handoff.session.closed = if t = .stop then true else r.handoff.session.closed := by
  cases h with
  | calls received =>
    obtain ⟨-, -, closed⟩ := received.shape_eq
    exact closed
  | takes isTake plain =>
    obtain ⟨waiting, taken, eq⟩ := r.handoff.plain.exists_tryTake_eq
    rw [eq] at plain
    have other : t ≠ .stop := by
      rintro rfl
      cases isTake
    rw [if_neg other]
    exact congrArg PlainSession.closed plain
  | releases isRelease plain =>
    have other : t ≠ .stop := by
      rintro rfl
      cases isRelease
    rw [if_neg other]
    exact congrArg PlainSession.closed plain
  | stops plain => exact congrArg PlainSession.closed plain

end TurnRel

/-- A frame is taken, if there is one, and its buffer is held from then on. -/
theorem tryTake_cases (sound : r.handoff.Sound r.held) :
    ∃ c : FrameHandoff, c.plain = r.handoff.plain.tryTake.2 ∧ c.metrics = r.handoff.metrics ∧
      (r.take = (none, { r with handoff := c }) ∧ c.Sound r.held ∨
        ∃ id, r.take = (some id, { r with handoff := c }) ∧ c.Sound (id :: r.held)) := by
  have metrics := FrameHandoff.metrics_tryTake r.handoff
  unfold take
  obtain ⟨-, eq, plain⟩ | ⟨eq, plain⟩ | ⟨id, f, c, eq, plain, -, sound', -⟩ :=
    FrameHandoff.tryTake_cases sound
  · rw [eq, plain]
    exact ⟨r.handoff, rfl, rfl, .inl ⟨rfl, sound⟩⟩
  · rw [eq, plain]
    exact ⟨r.handoff, rfl, rfl, .inl ⟨rfl, sound⟩⟩
  · rw [eq] at metrics
    rw [eq, plain]
    exact ⟨c, rfl, metrics, .inr ⟨id, rfl, sound'⟩⟩

theorem turnRel_giveUp (sound : r.handoff.Sound r.held) (i : Nat) :
    r.TurnRel (.giveUp i) (r.giveUp i) ∧ (r.giveUp i).handoff.Sound (r.giveUp i).held := by
  unfold giveUp
  split
  · next id found =>
    obtain ⟨bound, rfl⟩ := List.getElem?_eq_some_iff.mp found
    have same : (r.held[i] :: r.held.eraseIdx i).Perm r.held := List.getElem_cons_eraseIdx_perm bound
    obtain ⟨plain, sound', -⟩ := FrameHandoff.release_refines (sound.perm same.symm)
    exact ⟨.releases rfl plain rfl, sound'⟩
  · exact ⟨.releases rfl rfl rfl, sound⟩

theorem turnRel_turn (sound : r.handoff.Sound r.held) (t : CaptureTurn) :
    r.TurnRel t (r.turn t) ∧ (r.turn t).handoff.Sound (r.turn t).held := by
  cases t with
  | call d =>
    obtain ⟨received, sound'⟩ := CaptureDriver.deliveryRel sound r.driver d
    exact ⟨.calls received, sound'⟩
  | take =>
    obtain ⟨c, plain, metrics, ⟨eq, sound'⟩ | ⟨id, eq, sound'⟩⟩ := tryTake_cases sound
    · simp only [turn, eq]
      exact ⟨.takes rfl plain metrics, sound'⟩
    · simp only [turn, eq]
      obtain ⟨plain', sound'', -⟩ := FrameHandoff.release_refines sound'
      exact ⟨.takes rfl (plain'.trans plain) metrics, sound''⟩
  | hold =>
    obtain ⟨c, plain, metrics, ⟨eq, sound'⟩ | ⟨id, eq, sound'⟩⟩ := tryTake_cases sound
    · simp only [turn, eq]
      exact ⟨.takes rfl plain metrics, sound'⟩
    · simp only [turn, eq]
      exact ⟨.takes rfl plain metrics, sound'⟩
  | release =>
    obtain ⟨plain, metrics, sound'⟩ := FrameHandoff.release_all sound
    exact ⟨.releases rfl plain metrics, sound'⟩
  | giveUp i => exact turnRel_giveUp sound i
  | stop =>
    obtain ⟨plain, sound', -⟩ := FrameHandoff.stop_refines sound
    exact ⟨.stops plain (FrameHandoff.metrics_stop r.handoff), sound'⟩

/-- Nothing changes a closed session. -/
theorem session_turn_of_closed (sound : r.handoff.Sound r.held)
    (closed : r.handoff.session.closed = true) (t : CaptureTurn) :
    (r.turn t).handoff.session = r.handoff.session := by
  have nothing : r.take = (none, r) := by
    unfold take
    rw [FrameHandoff.tryTake_of_closed sound closed]
  cases t with
  | call d =>
    obtain ⟨received, -⟩ := CaptureDriver.deliveryRel sound r.driver d
    exact received.session_of_closed closed
  | take | hold => simp only [turn, nothing]
  | release => exact FrameHandoff.session_release_all r.held r.handoff
  | giveUp i =>
    simp only [turn, giveUp]
    split <;> rfl
  | stop => exact congrArg FrameHandoff.session (FrameHandoff.stop_of_closed closed)

/-! ## Runs -/

theorem perform_append (r : CaptureRun) (before after : List CaptureTurn) :
    r.perform (before ++ after) = (r.perform before).perform after :=
  List.foldl_append

theorem perform_cons (going : r.driver.ended = none) (t : CaptureTurn) (rest : List CaptureTurn) :
    r.perform (t :: rest) = (r.turn t).perform rest := by
  show (if r.driver.ended.isSome then r else r.turn t).perform rest = _
  rw [going]
  rfl

/-- Nothing happens once the driver has ended. -/
theorem perform_of_ended (ended : r.driver.ended.isSome = true) (script : List CaptureTurn) :
    r.perform script = r := by
  induction script with
  | nil => rfl
  | cons t rest ih =>
    show (if r.driver.ended.isSome then r else r.turn t).perform rest = r
    rw [if_pos ended, ih]

/-- What a script comes to, if `note?` says what each turn comes to in the state that it finds. -/
def collect {α : Type} (note? : CaptureRun → CaptureTurn → Option α) :
    CaptureRun → List CaptureTurn → List α
  | _, [] => []
  | r, t :: rest =>
    if r.driver.ended.isSome then [] else (note? r t).toList ++ collect note? (r.turn t) rest

theorem collect_cons {α : Type} (note? : CaptureRun → CaptureTurn → Option α)
    (going : r.driver.ended = none) (t : CaptureTurn) (rest : List CaptureTurn) :
    collect note? r (t :: rest) = (note? r t).toList ++ collect note? (r.turn t) rest := by
  rw [collect, going]
  rfl

theorem collect_of_ended {α : Type} (note? : CaptureRun → CaptureTurn → Option α)
    (ended : r.driver.ended.isSome = true) (script : List CaptureTurn) :
    collect note? r script = [] := by
  cases script with
  | nil => rfl
  | cons t rest => rw [collect, if_pos ended]

/-- The turns of a script that happen. -/
def performed : CaptureRun → List CaptureTurn → List CaptureTurn :=
  collect fun _ t => some t

/-- What every turn keeps holds in the end. -/
theorem perform_induction {motive : CaptureRun → Prop} {script : List CaptureTurn}
    (sound : r.handoff.Sound r.held) (start : motive r)
    (step : ∀ r t, t ∈ script → r.handoff.Sound r.held → r.driver.ended = none → motive r →
      motive (r.turn t)) :
    motive (r.perform script) := by
  induction script generalizing r with
  | nil => exact start
  | cons t rest ih =>
    cases ended : r.driver.ended with
    | some _ => rwa [perform_of_ended (by rw [ended]; rfl)]
    | none =>
      rw [perform_cons ended]
      exact ih (turnRel_turn sound t).2 (step r t (List.mem_cons_self ..) sound ended start)
        fun r t mem => step r t (List.mem_cons_of_mem _ mem)

theorem sound_perform (sound : r.handoff.Sound r.held) (script : List CaptureTurn) :
    (r.perform script).handoff.Sound (r.perform script).held :=
  perform_induction (motive := fun r => r.handoff.Sound r.held) sound sound
    fun _ t _ sound _ _ => (turnRel_turn sound t).2

theorem stream_perform (sound : r.handoff.Sound r.held) (script : List CaptureTurn) :
    (r.perform script).handoff.session.stream = r.handoff.session.stream := by
  refine perform_induction (motive := fun r' => r'.handoff.session.stream = r.handoff.session.stream)
    sound rfl fun r' t mem sound going same => ?_
  obtain ⟨stream, -⟩ := (turnRel_turn sound t).1.shape_eq
  exact stream.trans same

/-- A closed session stays as it is. -/
theorem session_perform_of_closed (sound : r.handoff.Sound r.held)
    (closed : r.handoff.session.closed = true) (script : List CaptureTurn) :
    (r.perform script).handoff.session = r.handoff.session := by
  refine perform_induction (motive := fun r' => r'.handoff.session = r.handoff.session) sound rfl
    fun r' t mem sound going same => ?_
  have closed' : r'.handoff.session.closed = true := by rw [same, closed]
  exact (session_turn_of_closed sound closed' t).trans same

end CaptureRun

end FramePipeline
