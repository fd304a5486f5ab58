import FramePipeline.Proofs.Capture.Turns
import FramePipeline.Proofs.Handoff.LatestPublication

/-!
# What the producer sees

Consumers take frames, hold them, share them and give them up, and each of these changes what the next
publication finds: whether a frame is waiting, and who refers to the spare buffer. The producer cannot
tell. A run is compared with the run in which consumers do nothing: every session is the same in the eyes
of its producer, and what waits in it is either what waits when nobody takes, or was taken already. Two
runs in which the producers do the same are compared with the same run.

Main definitions: `ProducerView`, `PlainSession.TakenFrom`, `HandoffTable.Request.isConsumer`,
`HandoffTable.producing` and `HandoffTable.producerAnswers` (a run with the consumers left out), and
`CaptureRun.producing`. Main statement: `HandoffTable.publish_consumer_independent`.
-/

namespace FramePipeline

/-! ## Sessions -/

/-- What a producer can tell about a session: what it accepts, and what became of the publications. -/
structure ProducerView where
  stream : StreamFormat
  frameLen : Nat
  closed : Bool
  sequence : Nat
  published : Nat
  sizeMismatches : Nat
  deriving DecidableEq, Repr

/-- The session in the eyes of its producer. -/
def Session.producerView (s : Session) : ProducerView where
  stream := s.stream
  frameLen := s.frameLen
  closed := s.closed
  sequence := s.sequence
  published := s.stats.published
  sizeMismatches := s.stats.sizeMismatches

namespace PlainSession

/-- The session in the eyes of its producer. -/
def producerView (s : PlainSession) : ProducerView where
  stream := s.stream
  frameLen := s.frameLen
  closed := s.closed
  sequence := s.sequence
  published := s.stats.published
  sizeMismatches := s.stats.sizeMismatches

/-- The session is what `s₀` is without consumers: the producer sees no difference, and a frame that waits
is the one that waits there. -/
structure TakenFrom (s s₀ : PlainSession) : Prop where
  view_eq : s.producerView = s₀.producerView
  waiting : s.waiting = none ∨ s.waiting = s₀.waiting

variable {s s₀ : PlainSession}

theorem TakenFrom.refl (s : PlainSession) : s.TakenFrom s :=
  ⟨rfl, .inr rfl⟩

namespace TakenFrom

variable (h : s.TakenFrom s₀)

include h

theorem stream_eq : s.stream = s₀.stream :=
  congrArg ProducerView.stream h.view_eq

theorem frameLen_eq : s.frameLen = s₀.frameLen :=
  congrArg ProducerView.frameLen h.view_eq

theorem closed_eq : s.closed = s₀.closed :=
  congrArg ProducerView.closed h.view_eq

theorem shown_eq : s.view = s₀.view := by
  rw [view, view, h.stream_eq, h.frameLen_eq, h.closed_eq]

theorem publish (bytes : Bytes) :
    (s.publish bytes).1 = (s₀.publish bytes).1 ∧ (s.publish bytes).2.TakenFrom (s₀.publish bytes).2 := by
  have len : s.frameLen = s₀.frameLen := h.frameLen_eq
  have number : s.sequence = s₀.sequence := congrArg ProducerView.sequence h.view_eq
  have published : s.stats.published = s₀.stats.published := congrArg ProducerView.published h.view_eq
  have mismatches : s.stats.sizeMismatches = s₀.stats.sizeMismatches :=
    congrArg ProducerView.sizeMismatches h.view_eq
  cases closed : s.closed with
  | true =>
    have closed₀ : s₀.closed = true := by rw [← h.closed_eq, closed]
    rw [publish_of_closed closed, publish_of_closed closed₀]
    exact ⟨rfl, h⟩
  | false =>
    have open₀ : s₀.closed = false := by rw [← h.closed_eq, closed]
    by_cases fits : bytes.length = s.frameLen
    · rw [publish_of_fits closed fits, publish_of_fits open₀ (fits.trans len)]
      refine ⟨by rw [number], ?_, .inr ?_⟩
      · simp only [producerView, h.stream_eq, len, closed, open₀, number, published, mismatches]
      · rw [number, h.stream_eq]
    · rw [publish_of_mismatch closed fits, publish_of_mismatch open₀ (len ▸ fits)]
      refine ⟨by rw [len], ?_, h.waiting⟩
      simp only [producerView, h.stream_eq, len, closed, open₀, number, published, mismatches]

theorem publishPadded (src : Bytes) (stride : Nat) :
    (PlainTable.publishPadded src stride s).1 = (PlainTable.publishPadded src stride s₀).1 ∧
      (PlainTable.publishPadded src stride s).2.TakenFrom
        (PlainTable.publishPadded src stride s₀).2 := by
  unfold PlainTable.publishPadded
  rw [h.stream_eq]
  cases s₀.stream.copyUnpadded src stride [] with
  | mk result bytes =>
    cases result with
    | error e => exact ⟨rfl, h⟩
    | ok _ => exact h.publish bytes

theorem stop : s.stop.TakenFrom s₀.stop := by
  refine ⟨?_, .inl rfl⟩
  have closed : ({ s.producerView with closed := true } : ProducerView) =
      { s₀.producerView with closed := true } := by rw [h.view_eq]
  exact closed

/-- To take a frame from the session is not to be seen by the producer. -/
theorem tryTake : s.tryTake.2.TakenFrom s₀ := by
  cases closed : s.closed with
  | true =>
    rw [tryTake_of_closed closed]
    exact h
  | false =>
    cases waiting : s.waiting with
    | none =>
      rw [tryTake_of_none closed waiting]
      exact h
    | some f =>
      rw [tryTake_of_some closed waiting]
      exact ⟨h.view_eq, .inl rfl⟩

end TakenFrom

end PlainSession

/-! ## Tables -/

namespace HandoffTable

/-- The request is made by a consumer. -/
def Request.isConsumer : Request → Bool
  | tryTake .. | read .. | share .. | release .. => true
  | _ => false

/-- The requests that are not made by consumers. -/
def producing (requests : List Request) : List Request :=
  requests.filter (!·.isConsumer)

/-- The answers to the requests that are not made by consumers. -/
def producerAnswers (requests : List Request) (answers : List Answer) : List Answer :=
  (requests.zip answers).filterMap fun (request, answer) =>
    if request.isConsumer then none else some answer

variable {request : Request} {rest : List Request} {answer : Answer} {answers : List Answer}

theorem producing_cons_of_consumer (consumer : request.isConsumer = true) :
    producing (request :: rest) = producing rest := by
  simp [producing, consumer]

theorem producing_cons_of_producer (producer : request.isConsumer = false) :
    producing (request :: rest) = request :: producing rest := by
  simp [producing, producer]

theorem producerAnswers_cons_of_consumer (consumer : request.isConsumer = true) :
    producerAnswers (request :: rest) (answer :: answers) = producerAnswers rest answers := by
  simp [producerAnswers, consumer]

theorem producerAnswers_cons_of_producer (producer : request.isConsumer = false) :
    producerAnswers (request :: rest) (answer :: answers) = answer :: producerAnswers rest answers := by
  simp [producerAnswers, producer]

end HandoffTable

namespace PlainTable

open HandoffTable (Request Answer producing producerAnswers)

/-- The table is what `p₀` is without consumers. -/
structure TakenFrom (p p₀ : PlainTable) : Prop where
  handles_eq : p.handles = p₀.handles
  length_eq : p.sessions.length = p₀.sessions.length
  session : ∀ {i : Nat} {s s₀ : PlainSession}, p.sessions[i]? = some s → p₀.sessions[i]? = some s₀ →
    s.TakenFrom s₀

variable {p p' p₀ : PlainTable} {i handle : Nat} {s s₁ s₀ : PlainSession} {request : Request}
  {answer : Answer}

namespace TakenFrom

theorem refl (p : PlainTable) : p.TakenFrom p where
  handles_eq := rfl
  length_eq := rfl
  session found found₀ := by
    obtain rfl := Option.some.inj (found.symm.trans found₀)
    exact .refl _

theorem congr (h : p.TakenFrom p₀) (handles : p'.handles = p.handles)
    (sessions : p'.sessions = p.sessions) : p'.TakenFrom p₀ where
  handles_eq := handles.trans h.handles_eq
  length_eq := by rw [sessions, h.length_eq]
  session found := h.session (sessions ▸ found)

/-- Each session is there without consumers too. -/
theorem exists_session (h : p.TakenFrom p₀) (found : p.sessions[i]? = some s) :
    ∃ s₀, p₀.sessions[i]? = some s₀ ∧ s.TakenFrom s₀ := by
  obtain ⟨bound, -⟩ := List.getElem?_eq_some_iff.mp found
  rw [h.length_eq] at bound
  exact ⟨_, List.getElem?_eq_getElem bound, h.session found (List.getElem?_eq_getElem bound)⟩

/-- Both tables change the same session. -/
theorem put (h : p.TakenFrom p₀) (found : p.sessions[i]? = some s) (found₀ : p₀.sessions[i]? = some s₀)
    {t : PlainSession} (taken : s₁.TakenFrom t) : (p.put i s₁).TakenFrom (p₀.put i t) where
  handles_eq := h.handles_eq
  length_eq := by simp only [PlainTable.put, List.length_set, h.length_eq]
  session {j u u₀} there there₀ := by
    rw [getElem?_put found] at there
    rw [getElem?_put found₀] at there₀
    by_cases here : i = j
    · rw [if_pos here] at there there₀
      obtain rfl := Option.some.inj there
      obtain rfl := Option.some.inj there₀
      exact taken
    · rw [if_neg here] at there there₀
      exact h.session there there₀

/-- Only the table with consumers changes a session. -/
theorem put_left (h : p.TakenFrom p₀) (found : p.sessions[i]? = some s)
    (taken : ∀ {s₀}, s.TakenFrom s₀ → s₁.TakenFrom s₀) : (p.put i s₁).TakenFrom p₀ where
  handles_eq := h.handles_eq
  length_eq := by simp only [PlainTable.put, List.length_set, h.length_eq]
  session {j u u₀} there there₀ := by
    rw [getElem?_put found] at there
    split at there
    · next same =>
      subst same
      obtain rfl := Option.some.inj there
      exact taken (h.session found there₀)
    · exact h.session there there₀

/-- A session is started in both tables. -/
theorem start (h : p.TakenFrom p₀) (s : PlainSession) :
    TakenFrom
      { p with sessions := p.sessions ++ [s], handles := p.handles ++ [p.sessions.length] }
      { p₀ with sessions := p₀.sessions ++ [s], handles := p₀.handles ++ [p₀.sessions.length] } where
  handles_eq := by rw [h.handles_eq, h.length_eq]
  length_eq := by simp only [List.length_append, h.length_eq]
  session {j u u₀} there there₀ := by
    by_cases old : j < p.sessions.length
    · rw [List.getElem?_append_left old] at there
      rw [List.getElem?_append_left (h.length_eq ▸ old)] at there₀
      exact h.session there there₀
    · rw [List.getElem?_append_right (Nat.le_of_not_lt old)] at there
      rw [List.getElem?_append_right (h.length_eq ▸ Nat.le_of_not_lt old), ← h.length_eq] at there₀
      obtain rfl := Option.some.inj (there.symm.trans there₀)
      exact .refl _

end TakenFrom

theorem handles_keep (name : Option String) (f : Frame) : (p.keep name f).handles = p.handles := by
  cases name <;> rfl

/-- What consumers ask for leaves the table what it is without them. -/
theorem AnswerRel.taken_of_consumer (answers : p.AnswerRel request answer p') (h : p.TakenFrom p₀)
    (consumer : request.isConsumer = true) : p'.TakenFrom p₀ := by
  cases answers with
  | takeSome leads found taken =>
    refine (h.put_left found fun h => ?_).congr (handles_keep ..) (sessions_keep ..)
    have after := h.tryTake
    rwa [taken] at after
  | takeNone leads found taken =>
    refine h.put_left found fun h => ?_
    have after := h.tryTake
    rwa [taken] at after
  | shareSome => exact h.congr (handles_keep ..) (sessions_keep ..)
  | read | shareNone | release => exact h.congr rfl rfl
  | publish | publishPadded | stop | clone | startRefused | start | inspect => cases consumer

/-- What others ask for is answered as it is without consumers. -/
theorem AnswerRel.taken_of_producer (answers : p.AnswerRel request answer p') (h : p.TakenFrom p₀)
    (producer : request.isConsumer = false) :
    ∃ p₀', p₀.AnswerRel request answer p₀' ∧ p'.TakenFrom p₀' := by
  cases answers with
  | @publish handle i s bytes leads found =>
    obtain ⟨s₀, found₀, taken⟩ := h.exists_session found
    obtain ⟨same, after⟩ := taken.publish bytes
    rw [same]
    exact ⟨_, .publish (h.handles_eq ▸ leads) found₀, h.put found found₀ after⟩
  | @publishPadded handle i s src stride leads found =>
    obtain ⟨s₀, found₀, taken⟩ := h.exists_session found
    obtain ⟨same, after⟩ := taken.publishPadded src stride
    rw [same]
    exact ⟨_, .publishPadded (h.handles_eq ▸ leads) found₀, h.put found found₀ after⟩
  | stop leads found =>
    obtain ⟨s₀, found₀, taken⟩ := h.exists_session found
    exact ⟨_, .stop (h.handles_eq ▸ leads) found₀, h.put found found₀ taken.stop⟩
  | @clone handle j leads =>
    refine ⟨{ p₀ with handles := p₀.handles ++ [j] }, ?_, ?_, h.length_eq, h.session⟩
    · rw [h.handles_eq]
      exact .clone (h.handles_eq ▸ leads)
    · rw [h.handles_eq]
  | startRefused refused => exact ⟨p₀, .startRefused refused, h⟩
  | start started =>
    refine ⟨_, ?_, h.start _⟩
    rw [h.handles_eq]
    exact .start started
  | @inspect handle s found =>
    obtain ⟨i, leads, found'⟩ := Option.bind_eq_some_iff.mp found
    obtain ⟨s₀, found₀, taken⟩ := h.exists_session found'
    have reached : p₀.session? handle = some s₀ := by simp [session?, ← h.handles_eq, leads, found₀]
    exact ⟨p₀, taken.shown_eq ▸ .inspect reached, h⟩
  | takeSome | takeNone | read | shareNone | shareSome | release => cases producer

/-- A run is answered, where consumers do not ask, as it is without them. -/
theorem TakenFrom.run (h : p.TakenFrom p₀) {requests : List Request} {answers : List Answer}
    (result : p.run requests = .ok (answers, p')) :
    ∃ p₀', p₀.run (producing requests) = .ok (producerAnswers requests answers, p₀') ∧
      p'.TakenFrom p₀' := by
  induction requests generalizing p p₀ answers with
  | nil =>
    obtain ⟨rfl, rfl⟩ := Prod.mk.inj (Except.ok.inj result)
    exact ⟨p₀, rfl, h⟩
  | cons request rest ih =>
    obtain ⟨answer, p₁, answers', first, others, rfl⟩ := exists_of_run_cons result
    cases who : request.isConsumer with
    | true =>
      rw [HandoffTable.producing_cons_of_consumer who, HandoffTable.producerAnswers_cons_of_consumer who]
      exact ih (first.taken_of_consumer h who) others
    | false =>
      obtain ⟨p₂, first₀, h₁⟩ := first.taken_of_producer h who
      obtain ⟨p₀', others₀, h'⟩ := ih h₁ others
      rw [HandoffTable.producing_cons_of_producer who, HandoffTable.producerAnswers_cons_of_producer who]
      exact ⟨p₀', run_cons first₀ others₀, h'⟩

/-- A frame that is taken waits when nobody takes. -/
theorem TakenFrom.waiting_of_tryTake (h : p.TakenFrom p₀) {name : Option String} {f : Frame}
    (answers : p.AnswerRel (.tryTake handle name) (.frame (.ok (some f))) p') :
    ∃ i s₀, p.handles[handle]? = some i ∧ p₀.sessions[i]? = some s₀ ∧ s₀.waiting = some f := by
  cases answers with
  | @takeSome _ i s s' _ _ leads found taken =>
    obtain ⟨waiting, -⟩ := PlainSession.waiting_of_tryTake taken
    obtain ⟨s₀, found₀, same⟩ := h.exists_session found
    refine ⟨i, s₀, leads, found₀, ?_⟩
    obtain gone | same := same.waiting
    · rw [gone] at waiting
      cases waiting
    · rw [← same, waiting]
  | takeNone leads found taken nothing => exact absurd rfl (nothing f)

end PlainTable

/-! ## Drivers -/

namespace CaptureDriver

variable {d : CaptureDriver} {c c₀ : FrameHandoff} {others others₀ : List CellId}

/-- The driver makes the same of a delivery. -/
theorem receive_eq (sound : c.Sound others) (sound₀ : c₀.Sound others₀)
    (taken : c.plain.TakenFrom c₀.plain) (delivery : Delivery) :
    (d.receive c delivery).1 = (d.receive c₀ delivery).1 ∧
      (d.receive c delivery).2.plain.TakenFrom (d.receive c₀ delivery).2.plain := by
  unfold receive
  split
  · next bytes =>
    obtain ⟨c', eq, plain, -⟩ := FrameHandoff.publish_refines bytes sound
    obtain ⟨c₀', eq₀, plain₀, -⟩ := FrameHandoff.publish_refines bytes sound₀
    obtain ⟨same, after⟩ := taken.publish bytes
    dsimp only at eq eq₀ ⊢
    rw [eq, eq₀, same]
    refine ⟨rfl, ?_⟩
    show c'.plain.TakenFrom c₀'.plain
    rw [plain, plain₀]
    exact after
  · exact ⟨rfl, taken⟩
  · exact ⟨rfl, taken⟩
  · exact ⟨rfl, taken⟩

end CaptureDriver

/-- The turn is a consumer's. -/
def CaptureTurn.isConsumer (t : CaptureTurn) : Bool :=
  t.isTake || t.isRelease

namespace CaptureRun

/-- The turns that are not those of consumers. -/
def producing (script : List CaptureTurn) : List CaptureTurn :=
  script.filter (!·.isConsumer)

/-- The run is what `r₀` is without consumers. -/
structure TakenFrom (r r₀ : CaptureRun) : Prop where
  driver_eq : r.driver = r₀.driver
  calls_eq : r.calls = r₀.calls
  sound : r.handoff.Sound r.held
  sound₀ : r₀.handoff.Sound r₀.held
  plain : r.handoff.plain.TakenFrom r₀.handoff.plain

namespace TakenFrom

variable {r r₀ : CaptureRun} {t : CaptureTurn} (h : r.TakenFrom r₀)

include h

theorem turn_of_consumer (consumer : t.isConsumer = true) : (r.turn t).TakenFrom r₀ := by
  obtain ⟨turns, sound⟩ := turnRel_turn h.sound t
  generalize r.turn t = r' at turns sound
  cases turns with
  | calls | stops => cases consumer
  | takes _ plain =>
    refine ⟨h.driver_eq, h.calls_eq, sound, h.sound₀, ?_⟩
    show PlainSession.TakenFrom _ _
    rw [plain]
    exact h.plain.tryTake
  | releases _ plain =>
    refine ⟨h.driver_eq, h.calls_eq, sound, h.sound₀, ?_⟩
    show PlainSession.TakenFrom _ _
    rw [plain]
    exact h.plain

theorem deliver (d : Delivery) : (r.deliver d).TakenFrom (r₀.deliver d) := by
  obtain ⟨-, sound⟩ := CaptureDriver.deliveryRel h.sound r.driver d
  obtain ⟨-, sound₀⟩ := CaptureDriver.deliveryRel h.sound₀ r₀.driver d
  obtain ⟨same, plain⟩ := CaptureDriver.receive_eq h.sound h.sound₀ h.plain (d := r.driver) d
  rw [h.driver_eq] at same plain
  refine ⟨?_, h.calls_eq, sound, sound₀, ?_⟩
  · show (r.driver.receive r.handoff d).1 = (r₀.driver.receive r₀.handoff d).1
    rw [h.driver_eq, same]
  · show (r.driver.receive r.handoff d).2.plain.TakenFrom (r₀.driver.receive r₀.handoff d).2.plain
    rw [h.driver_eq]
    exact plain

theorem stop :
    TakenFrom { r with handoff := r.handoff.stop } { r₀ with handoff := r₀.handoff.stop } := by
  obtain ⟨plain, sound, -⟩ := FrameHandoff.stop_refines h.sound
  obtain ⟨plain₀, sound₀, -⟩ := FrameHandoff.stop_refines h.sound₀
  refine ⟨h.driver_eq, h.calls_eq, sound, sound₀, ?_⟩
  show r.handoff.stop.plain.TakenFrom r₀.handoff.stop.plain
  rw [plain, plain₀]
  exact h.plain.stop

theorem turn_of_producer (producer : t.isConsumer = false) :
    (r.turn t).TakenFrom (r₀.turn t) := by
  cases t with
  | call d =>
    have delivered := h.deliver d
    exact { delivered with calls_eq := congrArg (· + 1) h.calls_eq }
  | stop => exact h.stop
  | take | hold | release | giveUp => cases producer

theorem perform (script : List CaptureTurn) :
    (r.perform script).TakenFrom (r₀.perform (producing script)) := by
  induction script generalizing r r₀ with
  | nil => exact h
  | cons t rest ih =>
    cases ended : r.driver.ended with
    | some cause =>
      have stopped : r.driver.ended.isSome = true := by rw [ended]; rfl
      rw [perform_of_ended stopped, perform_of_ended (h.driver_eq ▸ stopped)]
      exact h
    | none =>
      have going₀ : r₀.driver.ended = none := by rw [← h.driver_eq, ended]
      rw [perform_cons ended]
      cases who : t.isConsumer with
      | true =>
        have left_out : producing (t :: rest) = producing rest := by simp [producing, who]
        rw [left_out]
        exact ih (h.turn_of_consumer who)
      | false =>
        have stays : producing (t :: rest) = t :: producing rest := by simp [producing, who]
        rw [stays, perform_cons going₀]
        exact ih (h.turn_of_producer who)

theorem finish (how : CaptureFinish) :
    (r.finish how).driver = (r₀.finish how).driver ∧ (r.finish how).calls = (r₀.finish how).calls := by
  unfold CaptureRun.finish
  by_cases stopped : r.driver.ended.isSome
  · rw [if_pos stopped, if_pos (h.driver_eq ▸ stopped)]
    exact ⟨h.driver_eq, h.calls_eq⟩
  · rw [if_neg stopped, if_neg (h.driver_eq ▸ stopped)]
    cases how with
    | close =>
      have last := h.stop.deliver (.frame [])
      exact ⟨last.driver_eq, last.calls_eq⟩
    | idle => exact ⟨h.driver_eq, h.calls_eq⟩

end TakenFrom

end CaptureRun

/-! ## Main statement -/

namespace HandoffTable

variable {requests requests' : List Request} {answers answers' : List Answer} {e e' : HandoffTable}

/-- A run, and the run without consumers. -/
theorem exists_run_producing (result : run {} requests = .ok (answers, e)) :
    ∃ p p₀ e₀, run {} (producing requests) = .ok (producerAnswers requests answers, e₀) ∧
      RefinementRel e p [] ∧ RefinementRel e₀ p₀ [] ∧ p.TakenFrom p₀ := by
  obtain ⟨p, plainly, r⟩ := (run_refines refines_empty requests).of_ok result
  obtain ⟨p₀, plainly₀, taken⟩ := (PlainTable.TakenFrom.refl {}).run plainly
  obtain ⟨e₀, result₀, r₀⟩ := (run_refines refines_empty (producing requests)).of_plain plainly₀
  exact ⟨p, p₀, e₀, result₀, r, r₀, taken⟩

theorem RefinementRel.map_producerView {p : PlainTable} (r : RefinementRel e p []) :
    e.sessions.map Session.producerView = p.sessions.map PlainSession.producerView := by
  rw [r.sessions_eq, List.map_map]
  rfl

theorem map_producerView_eq {p p₀ : PlainTable} (h : p.TakenFrom p₀) :
    p.sessions.map PlainSession.producerView = p₀.sessions.map PlainSession.producerView := by
  refine List.ext_getElem (by simp only [List.length_map, h.length_eq]) fun i bound bound₀ => ?_
  rw [List.length_map] at bound bound₀
  rw [List.getElem_map, List.getElem_map]
  exact (h.session (List.getElem?_eq_getElem bound) (List.getElem?_eq_getElem bound₀)).view_eq

/-- **The consumer cannot influence the producer.** Two runs are compared in which all that is asked is the
same, but for what consumers take, read, share and release. All other requests are answered the same, and
in the eyes of their producers the sessions end the same. Where a consumer then takes a frame from the same
session in both, through whatever handles, it is the same frame; runs may end anywhere, so this is so at
every point. A capture driver too reports the same and calls its source as often, whatever consumers do
between its calls. -/
theorem publish_consumer_independent :
    (∀ {requests requests' : List Request} {answers answers' : List Answer} {e e' : HandoffTable},
      run {} requests = .ok (answers, e) → run {} requests' = .ok (answers', e') →
      producing requests = producing requests' →
        producerAnswers requests answers = producerAnswers requests' answers' ∧
        e.sessions.map Session.producerView = e'.sessions.map Session.producerView ∧
        ∀ {handle handle' : Nat} {name name' : Option String} {f f' : Frame} {after after' : HandoffTable},
          e.handles[handle]? = e'.handles[handle']? →
          e.step (.tryTake handle name) = .ok (.frame (.ok (some f)), after) →
          e'.step (.tryTake handle' name') = .ok (.frame (.ok (some f')), after') → f = f') ∧
    ∀ {stream : StreamFormat} {c : FrameHandoff} (d : CaptureDriver) {script script' : List CaptureTurn}
      (how : CaptureFinish), FrameHandoff.start stream = .ok c →
      CaptureRun.producing script = CaptureRun.producing script' →
        let r : CaptureRun := { driver := d, handoff := c }
        ((r.perform script).finish how).driver.finalReport =
            ((r.perform script').finish how).driver.finalReport ∧
          ((r.perform script).finish how).calls = ((r.perform script').finish how).calls := by
  constructor
  · intro requests requests' answers answers' e e' result result' same
    obtain ⟨p, p₀, e₀, alone, r, r₀, taken⟩ := exists_run_producing result
    obtain ⟨p', p₀', e₀', alone', r', r₀', taken'⟩ := exists_run_producing result'
    rw [← same, alone] at alone'
    obtain ⟨answers_eq, rfl⟩ := Prod.mk.inj (Except.ok.inj alone')
    refine ⟨answers_eq, ?_, ?_⟩
    · calc e.sessions.map Session.producerView
          = p₀.sessions.map PlainSession.producerView := by
            rw [r.map_producerView, map_producerView_eq taken]
        _ = e₀.sessions.map Session.producerView := r₀.map_producerView.symm
        _ = p₀'.sessions.map PlainSession.producerView := r₀'.map_producerView
        _ = e'.sessions.map Session.producerView := by
            rw [r'.map_producerView, map_producerView_eq taken']
    · intro handle handle' name name' f f' after after' leads took took'
      obtain ⟨q, step, -⟩ := (step_refines r (.tryTake handle name)).of_ok took
      obtain ⟨q', step', -⟩ := (step_refines r' (.tryTake handle' name')).of_ok took'
      obtain ⟨i, s, leads_p, found, waiting⟩ :=
        taken.waiting_of_tryTake (PlainTable.answerRel_of_step step)
      obtain ⟨i', s', leads_p', found', waiting'⟩ :=
        taken'.waiting_of_tryTake (PlainTable.answerRel_of_step step')
      have here : i = i' := by
        rw [r.handles_eq, leads, ← r'.handles_eq, leads_p'] at leads_p
        exact (Option.some.inj leads_p).symm
      -- nobody takes in the run that both are compared with, so one frame waits in its session
      have there : p₀.sessions = p₀'.sessions := r₀.sessions_eq.trans r₀'.sessions_eq.symm
      rw [here, there, found'] at found
      rw [← Option.some.inj found, waiting'] at waiting
      exact (Option.some.inj waiting).symm
  · intro stream c d script script' how started same
    obtain ⟨sound, -⟩ := FrameHandoff.start_refines started
    have start : CaptureRun.TakenFrom { driver := d, handoff := c } { driver := d, handoff := c } :=
      ⟨rfl, rfl, sound, sound, .refl _⟩
    obtain ⟨driver, calls⟩ := (start.perform script).finish how
    obtain ⟨driver', calls'⟩ := (start.perform script').finish how
    rw [← same] at driver' calls'
    exact ⟨by rw [driver, driver'], by rw [calls, calls']⟩

/-- In one run a frame is taken and held, shared, and held for longer than it should be, so that the last
publication cannot reuse its buffer; in the other run nobody takes before the end. A driver publishes as much
for a consumer who holds everything as for none. -/
theorem publish_consumer_independent_held :
    let shared : List Request :=
      [.start ⟨1, 1, .gray8⟩, .publish 0 [1], .tryTake 0 (some "a"), .publish 0 [2], .share "a" "b",
        .release "a", .publish 0 [], .publish 0 [3], .read "b"]
    let alone : List Request :=
      [.start ⟨1, 1, .gray8⟩, .publish 0 [1], .publish 0 [2], .publish 0 [], .publish 0 [3]]
    let greedy : List CaptureTurn :=
      [.call (.frame [1]), .hold, .call (.frame [2]), .hold, .call (.frame [3]), .call (.error .notStarted)]
    let calls : List CaptureTurn :=
      [.call (.frame [1]), .call (.frame [2]), .call (.frame [3]), .call (.error .notStarted)]
    ∃ answers answers' e e' after after' c, run {} shared = .ok (answers, e) ∧
      run {} alone = .ok (answers', e') ∧ FrameHandoff.start ⟨1, 1, .gray8⟩ = .ok c ∧
      e.sessions.map (·.stats.reallocations) = [1] ∧ e'.sessions.map (·.stats.reallocations) = [0] ∧
      producerAnswers shared answers = producerAnswers alone answers' ∧
      e.step (.tryTake 0 none) = .ok (.frame (.ok (some ⟨⟨3, ⟨1, 1, .gray8⟩⟩, [3]⟩)), after) ∧
      e'.step (.tryTake 0 (some "c")) = .ok (.frame (.ok (some ⟨⟨3, ⟨1, 1, .gray8⟩⟩, [3]⟩)), after') ∧
      let r : CaptureRun := { driver := {}, handoff := c }
      ((r.perform greedy).finish .close).driver.finalReport.framesPublished = 3 ∧
        ((r.perform greedy).finish .close).driver.finalReport =
          ((r.perform calls).finish .close).driver.finalReport := by
  intro shared alone greedy calls
  obtain ⟨answers, e, result, leads, again, after, took⟩ : ∃ answers e,
      run {} shared = .ok (answers, e) ∧ e.handles = [0] ∧
      e.sessions.map (·.stats.reallocations) = [1] ∧ ∃ after,
        e.step (.tryTake 0 none) = .ok (.frame (.ok (some ⟨⟨3, ⟨1, 1, .gray8⟩⟩, [3]⟩)), after) :=
    ⟨_, _, rfl, rfl, rfl, _, rfl⟩
  obtain ⟨answers', e', result', leads', first, f, after', took'⟩ : ∃ answers' e',
      run {} alone = .ok (answers', e') ∧ e'.handles = [0] ∧
      e'.sessions.map (·.stats.reallocations) = [0] ∧ ∃ f after',
        e'.step (.tryTake 0 (some "c")) = .ok (.frame (.ok (some f)), after') :=
    ⟨_, _, rfl, rfl, rfl, _, _, rfl⟩
  obtain ⟨same, -, frames⟩ := publish_consumer_independent.1 result result' rfl
  have here : e.handles[0]? = e'.handles[0]? := by rw [leads, leads']
  obtain rfl := frames here took took'
  obtain ⟨c, started, counted⟩ : ∃ c, FrameHandoff.start ⟨1, 1, .gray8⟩ = .ok c ∧
      (((CaptureRun.mk {} c [] 0).perform greedy).finish .close).driver.finalReport.framesPublished = 3 :=
    ⟨_, rfl, by decide +kernel⟩
  have calls_eq : CaptureRun.producing greedy = CaptureRun.producing calls := rfl
  obtain ⟨report, -⟩ := publish_consumer_independent.2 {} .close started calls_eq
  exact ⟨answers, answers', e, e', after, after', c, result, result', started, again, first, same, took,
    took', counted, report⟩

end HandoffTable

end FramePipeline
