import FramePipeline.Proofs.Handoff.PlainRuns
import FramePipeline.Proofs.Handoff.Refinement
import FramePipeline.Proofs.Handoff.SlotHistory

/-!
# The latest publication

Whatever a table is asked, each of its sessions follows its history. So a take gives the frame that
was published last, unless it was taken already, and the counters of a session add up.

Main definition: `PlainTable.SessionHistoryInv`. Main statements: `PlainTable.sessionHistoryInv_run`,
`HandoffTable.tryTake_latest_publication` and `HandoffTable.publish_balance`.
-/

namespace FramePipeline

open SlotEvent (publications takings unclaimed)

/-! ## Runs -/

namespace PlainTable

open HandoffTable (Request Answer slotEventAt? slotEvents)

/-- Session `i` follows its history, which begins with the session. -/
structure SessionHistoryInv (p : PlainTable) (i : Nat) (events : List SlotEvent) : Prop where
  follows : ∀ {s}, p.sessions[i]? = some s → s.HistoryInv events
  unborn : p.sessions[i]? = none → events = []

variable {p p' : PlainTable} {i j handle : Nat} {events : List SlotEvent} {s s₁ : PlainSession}
  {handles : List Nat} {stream : StreamFormat} {request : Request} {answer : Answer}

namespace SessionHistoryInv

theorem congr (h : p.SessionHistoryInv i events) (same : p'.sessions = p.sessions) :
    p'.SessionHistoryInv i events where
  follows found := h.follows (same ▸ found)
  unborn found := h.unborn (same ▸ found)

/-- A session changes, and its history tells how. -/
theorem put (h : p.SessionHistoryInv i events) (leads : handles[handle]? = some j)
    (found : p.sessions[j]? = some s) (event : Option SlotEvent)
    (acts : request.slotEvent? stream answer = event.map (handle, ·))
    (follows : j = i → s₁.HistoryInv (events ++ event.toList)) :
    (p.put j s₁).SessionHistoryInv i
      (events ++ (slotEventAt? handles i stream request answer).toList) := by
  have shows : slotEventAt? handles i stream request answer = if j = i then event else none := by
    rw [slotEventAt?, acts]
    cases event <;> simp [leads]
  rw [shows]
  by_cases here : j = i
  · rw [if_pos here]
    refine ⟨fun found' => ?_, fun absent => ?_⟩
    · rw [getElem?_put found, if_pos here] at found'
      obtain rfl := Option.some.inj found'
      exact follows here
    · rw [getElem?_put found, if_pos here] at absent
      cases absent
  · rw [if_neg here, Option.toList_none, List.append_nil]
    refine ⟨fun found' => ?_, fun absent => ?_⟩
    · rw [getElem?_put found, if_neg here] at found'
      exact h.follows found'
    · rw [getElem?_put found, if_neg here] at absent
      exact h.unborn absent

/-- A request that does nothing at any slot. -/
theorem still (h : p.SessionHistoryInv i events) (same : p'.sessions = p.sessions)
    (silent : request.slotEvent? stream answer = none) :
    p'.SessionHistoryInv i (events ++ (slotEventAt? handles i stream request answer).toList) := by
  rw [slotEventAt?, silent, Option.toList_none, List.append_nil]
  exact h.congr same

end SessionHistoryInv

@[simp] theorem sessions_keep (name : Option String) (f : Frame) :
    (p.keep name f).sessions = p.sessions := by
  cases name <;> rfl

/-- What an answered request does to a session shows in the session's history. -/
theorem AnswerRel.sessionHistoryInv (answers : p.AnswerRel request answer p')
    (h : p.SessionHistoryInv i events) (handles : List Nat) (stream : StreamFormat)
    (lasting : ∀ {handle i : Nat}, p.handles[handle]? = some i → handles[handle]? = some i)
    (stream_eq : ∀ {s}, p.sessions[i]? = some s → s.stream = stream) :
    p'.SessionHistoryInv i (events ++ (slotEventAt? handles i stream request answer).toList) := by
  cases answers with
  | @publish handle j s bytes leads found =>
    refine h.put (lasting leads) found
      ((s.publish bytes).1.toOption.map fun n => .published ⟨⟨n, stream⟩, bytes⟩) ?_ ?_
    · cases (s.publish bytes).1 <;> rfl
    · rintro rfl
      rw [← stream_eq found]
      exact (h.follows found).publish_any bytes
  | @publishPadded handle j s src stride leads found =>
    refine h.put (lasting leads) found
      ((PlainTable.publishPadded src stride s).1.toOption.map fun n =>
        .published ⟨⟨n, stream⟩, (stream.copyUnpadded src stride []).2⟩) ?_ ?_
    · cases (PlainTable.publishPadded src stride s).1 <;> rfl
    · rintro rfl
      rw [← stream_eq found]
      exact (h.follows found).publishPadded_any src stride
  | @takeSome handle j s s' name f leads found taken =>
    refine (h.put (lasting leads) found (some (.took f)) rfl ?_).congr (sessions_keep ..)
    rintro rfl
    have follows := (h.follows found).tryTake_any
    rw [taken] at follows
    exact follows
  | @takeNone handle j s s' name result leads found taken nothing =>
    have none_taken : result.toOption.join = none := by
      rcases result with e | ⟨- | f⟩
      · rfl
      · rfl
      · exact absurd rfl (nothing f)
    refine h.put (lasting leads) found none ?_ ?_
    · rcases result with e | ⟨- | f⟩
      · rfl
      · rfl
      · exact absurd rfl (nothing f)
    · rintro rfl
      have follows := (h.follows found).tryTake_any
      rw [taken, none_taken] at follows
      exact follows
  | @stop handle j s leads found =>
    refine h.put (lasting leads) found (some .stopped) rfl ?_
    rintro rfl
    exact (h.follows found).stop
  | @start _ s started =>
    refine SessionHistoryInv.still (p := { p with sessions := p.sessions ++ [s] }) ⟨?_, ?_⟩ rfl rfl
    · intro t found
      by_cases old : i < p.sessions.length
      · rw [List.getElem?_append_left old] at found
        exact h.follows found
      · rw [List.getElem?_append_right (Nat.le_of_not_lt old)] at found
        obtain ⟨-, rfl⟩ : i - p.sessions.length = 0 ∧ s = t := by
          simpa [List.getElem?_singleton] using found
        rw [h.unborn (List.getElem?_eq_none (Nat.le_of_not_lt old))]
        exact PlainSession.historyInv_start started
    · intro absent
      rw [List.getElem?_eq_none_iff, List.length_append] at absent
      exact h.unborn (List.getElem?_eq_none (by omega))
  | _ => exact h.still rfl rfl

theorem sessionHistoryInv_run {requests : List Request} {answers : List Answer}
    (result : p.run requests = .ok (answers, p')) (h : p.SessionHistoryInv i events)
    (stream : StreamFormat) (stream_eq : ∀ {s}, p'.sessions[i]? = some s → s.stream = stream) :
    p'.SessionHistoryInv i (events ++ slotEvents p'.handles i stream requests answers) := by
  induction requests generalizing p answers events with
  | nil =>
    obtain ⟨rfl, rfl⟩ := Prod.mk.inj (Except.ok.inj result)
    simpa [slotEvents] using h
  | cons request rest ih =>
    obtain ⟨answer, p₁, answers', first, others, rfl⟩ := exists_of_run_cons result
    have keeps := extension_run others
    have tracks := first.sessionHistoryInv h p'.handles stream
      (fun leads => keeps.handles (first.extension.handles leads)) fun found => by
        obtain ⟨s', found', eq⟩ := (first.extension.trans keeps).sessions found
        rw [← eq, stream_eq found']
    rw [HandoffTable.slotEvents_cons, ← List.append_assoc]
    exact ih others tracks

/-- The sessions of a run follow their histories. -/
theorem sessionHistoryInv_run_empty {requests : List Request} {answers : List Answer}
    (result : run {} requests = .ok (answers, p)) (found : p.sessions[i]? = some s) :
    p.SessionHistoryInv i (slotEvents p.handles i s.stream requests answers) := by
  have unborn : SessionHistoryInv {} i [] := ⟨fun found => (nomatch found), fun _ => rfl⟩
  refine sessionHistoryInv_run result unborn s.stream fun found' => ?_
  rw [Option.some.inj (found.symm.trans found')]

/-- The history goes on where a session is stopped. -/
theorem sessionHistoryInv_run_stop (h : p.SessionHistoryInv i events) (found : p.sessions[i]? = some s)
    (leads : p.handles[handle]? = some i) {later : List Request} {answers : List Answer}
    (result : p.run (.stop handle :: later) = .ok (answers, p')) :
    ∃ rest, p'.SessionHistoryInv i (events ++ .stopped :: rest) := by
  have keeps := extension_run result
  have tracks := sessionHistoryInv_run result h s.stream fun found' => by
    obtain ⟨s', found'', eq⟩ := keeps.sessions found
    rw [← eq, Option.some.inj (found'.symm.trans found'')]
  obtain ⟨answer, -, answers', -, -, rfl⟩ := exists_of_run_cons result
  have stopped : slotEventAt? p'.handles i s.stream (.stop handle) answer = some .stopped := by
    simp [slotEventAt?, Request.slotEvent?, keeps.handles leads]
  rw [HandoffTable.slotEvents_cons, stopped] at tracks
  exact ⟨_, tracks⟩

end PlainTable

namespace HandoffTable

variable {requests : List Request} {answers : List Answer} {e : HandoffTable} {i : Nat} {s : Session}

theorem RefinementRel.session_eq {p : PlainTable} (r : RefinementRel e p [])
    (found : e.sessions[i]? = some s) :
    p.sessions[i]? = some (s.plain e.pool) := by
  rw [r.sessions_eq, List.getElem?_map, found]
  rfl

theorem historyInv_run (result : run {} requests = .ok (answers, e)) (found : e.sessions[i]? = some s) :
    (s.plain e.pool).HistoryInv (slotEvents e.handles i s.stream requests answers) := by
  obtain ⟨p, plainly, r⟩ := (run_refines refines_empty requests).of_ok result
  rw [← r.handles_eq]
  exact (PlainTable.sessionHistoryInv_run_empty plainly (r.session_eq found)).follows (r.session_eq found)

theorem historyInv_run_stop (result : run {} requests = .ok (answers, e))
    (found : e.sessions[i]? = some s) {handle : Nat} (leads : e.handles[handle]? = some i)
    {later : List Request} {answers' : List Answer} {e' : HandoffTable} {s' : Session}
    (result' : e.run (.stop handle :: later) = .ok (answers', e')) (found' : e'.sessions[i]? = some s') :
    ∃ rest, (s'.plain e'.pool).HistoryInv
      (slotEvents e.handles i s.stream requests answers ++ .stopped :: rest) := by
  obtain ⟨p, plainly, r⟩ := (run_refines refines_empty requests).of_ok result
  obtain ⟨p', plainly', r'⟩ := (run_refines r (.stop handle :: later)).of_ok result'
  have tracks := PlainTable.sessionHistoryInv_run_empty plainly (r.session_eq found)
  obtain ⟨rest, tracks'⟩ :=
    PlainTable.sessionHistoryInv_run_stop tracks (r.session_eq found) (r.handles_eq ▸ leads) plainly'
  rw [← r.handles_eq]
  exact ⟨rest, tracks'.follows (r'.session_eq found')⟩

/-- What a take on an open session is answered. -/
theorem step_tryTake (result : run {} requests = .ok (answers, e)) (found : e.sessions[i]? = some s)
    {handle : Nat} (leads : e.handles[handle]? = some i) (isOpen : s.closed = false)
    (name : Option String) :
    ∃ e', e.step (.tryTake handle name) = .ok (.frame (.ok (s.waiting e.pool)), e') := by
  obtain ⟨p, plainly, r⟩ := (run_refines refines_empty requests).of_ok result
  obtain ⟨p', step⟩ :=
    PlainTable.step_tryTake_of_open (r.handles_eq ▸ leads) (r.session_eq found) isOpen name
  obtain ⟨e', step', -⟩ := (step_refines r (.tryTake handle name)).of_plain step
  exact ⟨e', step'⟩

/-- A frame is waiting exactly if the slot says so. -/
theorem waiting_ne_none_iff (result : run {} requests = .ok (answers, e))
    (found : e.sessions[i]? = some s) :
    s.waiting e.pool ≠ none ↔ ∃ id, s.front = some ⟨id, true⟩ := by
  obtain ⟨p, -, r⟩ := (run_refines refines_empty requests).of_ok result
  unfold Session.waiting
  split
  · next id front =>
    have owned : id ∈ e.held.map (·.2) ++ e.sessions.flatMap (·.buffers) := by
      refine List.mem_append_right _ (List.mem_flatMap.mpr ⟨s, List.mem_of_getElem? found, ?_⟩)
      simp [Session.buffers, front]
    obtain ⟨f, frame⟩ := r.owned.exists_frame owned
    simp [frame, front]
  · next other =>
    constructor
    · intro ne
      exact absurd rfl ne
    · rintro ⟨id, front⟩
      exact absurd front (other id)

/-! ## Main statements -/

/-- **The latest publication wins.** A take on a session that is still open, through any of its handles,
comes to nothing exactly if no frame was published since one was taken last; otherwise it comes to the
frame that was published last, which has the session's geometry, format and length. Frames are taken
in the order of their publication, each at most once. -/
theorem tryTake_latest_publication {handle : Nat} (result : run {} requests = .ok (answers, e))
    (leads : e.handles[handle]? = some i) (found : e.sessions[i]? = some s) :
    let events := slotEvents e.handles i s.stream requests answers
    (s.closed = true ↔ .stopped ∈ events) ∧
      (s.closed = false → ∀ name, ∃ taken e', e.step (.tryTake handle name) = .ok (.frame (.ok taken), e') ∧
        (taken = none ↔ unclaimed events = []) ∧
        ∀ f, taken = some f → (publications events).getLast? = some f) ∧
      (∀ f ∈ publications events, f.metadata.stream = s.stream ∧ f.data.length = s.frameLen) ∧
      s.stream.frameLen = .ok s.frameLen ∧
      (takings events).Sublist (publications events) ∧
      ((takings events).map Frame.sequence).Pairwise (· < ·) := by
  intro events
  have follows : (s.plain e.pool).HistoryInv events := historyInv_run result found
  refine ⟨follows.closed_iff, ?_, follows.shape, follows.frameLen_eq, follows.sublist_takings,
    follows.pairwise_takings⟩
  intro isOpen name
  obtain ⟨e', step⟩ := step_tryTake result found leads isOpen name
  have waiting_eq : s.waiting e.pool = (unclaimed events).head? := follows.waiting_eq isOpen
  refine ⟨s.waiting e.pool, e', step, ?_, ?_⟩
  · rw [waiting_eq, List.head?_eq_none_iff]
  · intro f taken
    rw [waiting_eq] at taken
    exact follows.getLast?_publications taken

/-- A frame is published through one handle, replaced through another, and taken by neither; then
a publication of a wrong length is refused. -/
theorem tryTake_latest_publication_clone :
    ∃ answers e e',
      run {} [.start ⟨2, 1, .gray8⟩, .clone 0, .publish 0 [1, 1], .publish 1 [2, 2], .publish 0 [9]] =
        .ok (answers, e) ∧
      e.step (.tryTake 1 none) = .ok (.frame (.ok (some ⟨⟨2, ⟨2, 1, .gray8⟩⟩, [2, 2]⟩)), e') := by
  obtain ⟨answers, e, s, ran, leads, found, isOpen, two⟩ : ∃ answers e s,
      run {} [.start ⟨2, 1, .gray8⟩, .clone 0, .publish 0 [1, 1], .publish 1 [2, 2], .publish 0 [9]] =
        .ok (answers, e) ∧ e.handles[1]? = some 0 ∧ e.sessions[0]? = some s ∧ s.closed = false ∧
      slotEvents e.handles 0 s.stream
        [.start ⟨2, 1, .gray8⟩, .clone 0, .publish 0 [1, 1], .publish 1 [2, 2], .publish 0 [9]] answers =
          [.published ⟨⟨1, ⟨2, 1, .gray8⟩⟩, [1, 1]⟩, .published ⟨⟨2, ⟨2, 1, .gray8⟩⟩, [2, 2]⟩] :=
    ⟨_, _, _, rfl, rfl, rfl, rfl, rfl⟩
  obtain ⟨-, takes, -⟩ := tryTake_latest_publication ran leads found
  obtain ⟨taken, e', step, nothing, latest⟩ := takes isOpen none
  rw [two] at nothing latest
  cases taken with
  | none => cases nothing.mp rfl
  | some f =>
    cases latest f rfl
    exact ⟨answers, e, e', ran, step⟩

/-- **Nothing is lost uncounted.** Publications are numbered from one without a gap, whatever was refused
between them; the session counts the publications and the takes, and every frame that was published was
taken, or dropped, or is unclaimed. An open session has an unclaimed frame exactly if one is ready in its
slot; once it is stopped, what counts is whether one was ready then. -/
theorem publish_balance (result : run {} requests = .ok (answers, e))
    (found : e.sessions[i]? = some s) :
    let events := slotEvents e.handles i s.stream requests answers
    (publications events).map Frame.sequence = List.range' 1 s.stats.published ∧
      s.stats.taken = (takings events).length ∧
      s.stats.published =
        s.stats.taken + s.stats.dropped + (if unclaimed events = [] then 0 else 1) ∧
      (s.closed = false → (unclaimed events ≠ [] ↔ ∃ id, s.front = some ⟨id, true⟩)) ∧
      ∀ {handle : Nat} {later : List Request} {answers' : List Answer} {e' : HandoffTable} {s' : Session},
        e.handles[handle]? = some i → e.run (.stop handle :: later) = .ok (answers', e') →
          e'.sessions[i]? = some s' →
            s'.stats.published =
              s'.stats.taken + s'.stats.dropped + if unclaimed events = [] then 0 else 1 := by
  intro events
  have follows : (s.plain e.pool).HistoryInv events := historyInv_run result found
  refine ⟨?_, follows.taken_eq, follows.balance, ?_, ?_⟩
  · have numbers := follows.numbers
    rw [← follows.published_eq] at numbers
    exact numbers
  · intro isOpen
    have waiting_eq : s.waiting e.pool = (unclaimed events).head? := follows.waiting_eq isOpen
    have ready := waiting_ne_none_iff result found
    rwa [waiting_eq, Ne, List.head?_eq_none_iff] at ready
  · intro handle later answers' e' s' leads result' found'
    obtain ⟨rest, follows'⟩ := historyInv_run_stop result found leads result' found'
    have stops : ∀ event ∈ SlotEvent.stopped :: rest, event = .stopped := by
      intro event mem
      obtain rfl | mem := List.mem_cons.mp mem
      · rfl
      · exact follows'.silent events rest rfl event mem
    have balance := follows'.balance
    rwa [SlotEvent.unclaimed_append_of_stops events stops] at balance

/-- Three frames are published, of which one is taken and one is dropped, and the last one is waiting
when the session stops. -/
theorem publish_balance_frame_waiting :
    ∃ answers e s,
      run {} [.start ⟨1, 1, .gray8⟩, .publish 0 [1], .publish 0 [2], .tryTake 0 none, .publish 0 [],
        .publish 0 [3], .stop 0, .publish 0 [4]] = .ok (answers, e) ∧
      e.sessions[0]? = some s ∧ s.stats.published = 3 ∧ s.stats.dropped = 1 ∧
      s.stats.published = s.stats.taken + s.stats.dropped + 1 := by
  obtain ⟨answers, e, s, ran, found, published, dropped, untaken⟩ : ∃ answers e s,
      run {} [.start ⟨1, 1, .gray8⟩, .publish 0 [1], .publish 0 [2], .tryTake 0 none, .publish 0 [],
        .publish 0 [3], .stop 0, .publish 0 [4]] = .ok (answers, e) ∧
      e.sessions[0]? = some s ∧ s.stats.published = 3 ∧ s.stats.dropped = 1 ∧
      unclaimed (slotEvents e.handles 0 s.stream
        [.start ⟨1, 1, .gray8⟩, .publish 0 [1], .publish 0 [2], .tryTake 0 none, .publish 0 [],
          .publish 0 [3], .stop 0, .publish 0 [4]] answers) = [⟨⟨3, ⟨1, 1, .gray8⟩⟩, [3]⟩] :=
    ⟨_, _, _, rfl, rfl, rfl, rfl, rfl⟩
  obtain ⟨-, -, balance, -⟩ := publish_balance ran found
  rw [untaken] at balance
  exact ⟨answers, e, s, ran, found, published, dropped, balance⟩

end HandoffTable

end FramePipeline
