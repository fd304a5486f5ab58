import FramePipeline.Proofs.Handoff.BufferReuse
import FramePipeline.Proofs.Handoff.SessionChanges

/-!
# A stop is final

Once a session was stopped through one of its handles, nothing that is asked through any of them, then or
later, does anything: publications and takes are refused, the counters stay where they are, and a frame
that was waiting is never handed out. Frames that were taken before read as they did, and the rest of the
table goes on as if the session had not been stopped: runs with and without the stop are compared by
`PlainTable.EqExcept`.

Main definition: `PlainTable.EqExcept`. Main statement: `HandoffTable.stop_absorbing`.
-/

namespace FramePipeline

/-! ## The rest of the table -/

namespace PlainTable

open HandoffTable (Request Answer)

/-- The tables are the same but for session `i`. -/
structure EqExcept (i : Nat) (p p₁ : PlainTable) : Prop where
  handles_eq : p.handles = p₁.handles
  held_eq : p.held = p₁.held
  length_eq : p.sessions.length = p₁.sessions.length
  session_eq : ∀ j, j ≠ i → p.sessions[j]? = p₁.sessions[j]?

variable {i j handle : Nat} {p p' p₁ : PlainTable} {s t : PlainSession} {request : Request} {answer : Answer}

theorem eqExcept_put (p : PlainTable) (i : Nat) (s : PlainSession) : (p.put i s).EqExcept i p where
  handles_eq := rfl
  held_eq := rfl
  length_eq := List.length_set
  session_eq j other := by rw [put, List.getElem?_set_ne other.symm]

namespace EqExcept

/-- Another session changes in both tables. -/
theorem put (h : p.EqExcept i p₁) (j : Nat) (t : PlainSession) : (p.put j t).EqExcept i (p₁.put j t) where
  handles_eq := h.handles_eq
  held_eq := h.held_eq
  length_eq := by simp only [PlainTable.put, List.length_set, h.length_eq]
  session_eq k other := by
    simp only [PlainTable.put, List.getElem?_set, h.session_eq k other, h.length_eq]

theorem keep (h : p.EqExcept i p₁) (name : Option String) (f : Frame) :
    (p.keep name f).EqExcept i (p₁.keep name f) := by
  cases name with
  | none => exact h
  | some name => exact ⟨h.handles_eq, by simp only [PlainTable.keep, h.held_eq], h.length_eq, h.session_eq⟩

theorem start (h : p.EqExcept i p₁) (s : PlainSession) :
    EqExcept i { p with sessions := p.sessions ++ [s], handles := p.handles ++ [p.sessions.length] }
      { p₁ with sessions := p₁.sessions ++ [s], handles := p₁.handles ++ [p₁.sessions.length] } where
  handles_eq := by rw [h.handles_eq, h.length_eq]
  held_eq := h.held_eq
  length_eq := by simp only [List.length_append, h.length_eq]
  session_eq j other := by
    simp only [List.getElem?_append, h.session_eq j other, h.length_eq]

/-- A session that a request is about is there in both tables, if it is another one. -/
theorem reached (h : p.EqExcept i p₁) (leads : p.handles[handle]? = some j) (found : p.sessions[j]? = some s)
    (elsewhere : p.handles[handle]? ≠ some i) :
    p₁.handles[handle]? = some j ∧ p₁.sessions[j]? = some s := by
  have other : j ≠ i := by
    rintro rfl
    exact elsewhere leads
  exact ⟨h.handles_eq ▸ leads, h.session_eq j other ▸ found⟩

/-- A request that is not about session `i` is answered the same. -/
theorem answerRel (h : p.EqExcept i p₁) (answers : p.AnswerRel request answer p')
    (elsewhere : ∀ handle, request.handle? = some handle → p.handles[handle]? ≠ some i) :
    ∃ p₁', p₁.AnswerRel request answer p₁' ∧ p'.EqExcept i p₁' := by
  cases answers with
  | publish leads found =>
    obtain ⟨leads₁, found₁⟩ := h.reached leads found (elsewhere _ rfl)
    exact ⟨_, .publish leads₁ found₁, h.put _ _⟩
  | publishPadded leads found =>
    obtain ⟨leads₁, found₁⟩ := h.reached leads found (elsewhere _ rfl)
    exact ⟨_, .publishPadded leads₁ found₁, h.put _ _⟩
  | takeSome leads found taken =>
    obtain ⟨leads₁, found₁⟩ := h.reached leads found (elsewhere _ rfl)
    exact ⟨_, .takeSome leads₁ found₁ taken, (h.put _ _).keep _ _⟩
  | takeNone leads found taken nothing =>
    obtain ⟨leads₁, found₁⟩ := h.reached leads found (elsewhere _ rfl)
    exact ⟨_, .takeNone leads₁ found₁ taken nothing, h.put _ _⟩
  | read => exact ⟨p₁, h.held_eq ▸ .read, h⟩
  | shareNone absent => exact ⟨p₁, .shareNone (h.held_eq ▸ absent), h⟩
  | shareSome found => exact ⟨_, .shareSome (h.held_eq ▸ found), h.keep _ _⟩
  | @release name =>
    refine ⟨{ p₁ with held := p₁.held.erase name }, ?_, h.handles_eq, ?_, h.length_eq, h.session_eq⟩
    · rw [h.held_eq]
      exact .release
    · rw [h.held_eq]
  | stop leads found =>
    obtain ⟨leads₁, found₁⟩ := h.reached leads found (elsewhere _ rfl)
    exact ⟨_, .stop leads₁ found₁, h.put _ _⟩
  | @clone handle j leads =>
    refine ⟨{ p₁ with handles := p₁.handles ++ [j] }, ?_, ?_, h.held_eq, h.length_eq, h.session_eq⟩
    · rw [h.handles_eq]
      exact .clone (h.handles_eq ▸ leads)
    · rw [h.handles_eq]
  | startRefused refused => exact ⟨p₁, .startRefused refused, h⟩
  | start started =>
    refine ⟨_, ?_, h.start _⟩
    rw [h.handles_eq]
    exact .start started
  | @inspect handle s found =>
    obtain ⟨j, leads, found'⟩ := Option.bind_eq_some_iff.mp found
    obtain ⟨leads₁, found₁⟩ := h.reached leads found' (elsewhere handle rfl)
    exact ⟨p₁, .inspect (by simp [session?, leads₁, found₁]), h⟩

theorem run (h : p.EqExcept i p₁) {requests : List Request} {answers : List Answer}
    (result : p.run requests = .ok (answers, p'))
    (elsewhere : ∀ r ∈ requests, ∀ handle, r.handle? = some handle → p'.handles[handle]? ≠ some i) :
    ∃ p₁', p₁.run requests = .ok (answers, p₁') ∧ p'.EqExcept i p₁' := by
  induction requests generalizing p p₁ answers with
  | nil =>
    obtain ⟨rfl, rfl⟩ := Prod.mk.inj (Except.ok.inj result)
    exact ⟨p₁, rfl, h⟩
  | cons request rest ih =>
    obtain ⟨answer, p₂, answers', first, others, rfl⟩ := exists_of_run_cons result
    have keeps := first.extension.trans (extension_run others)
    obtain ⟨q, first₁, h'⟩ := h.answerRel first fun handle is leads =>
      elsewhere request (List.mem_cons_self ..) handle is (keeps.handles leads)
    obtain ⟨p₁', others₁, h''⟩ := ih h' others fun r mem => elsewhere r (List.mem_cons_of_mem _ mem)
    exact ⟨p₁', run_cons first₁ others₁, h''⟩

end EqExcept

end PlainTable

/-! ## Main statement -/

namespace HandoffTable

variable {requests later : List Request} {answers answers' : List Answer} {e e' e₁ : HandoffTable}
    {i handle : Nat}
  {s : Session}

/-- What a stop does. -/
theorem RefinementRel.stop_spec {p : PlainTable} (r : RefinementRel e p [])
    (leads : e.handles[handle]? = some i) (found : e.sessions[i]? = some s) :
    ∃ e₁ s₁, e.step (.stop handle) = .ok (.done, e₁) ∧ RefinementRel e₁ (p.put i (s.plain e.pool).stop) [] ∧
      e₁.sessions[i]? = some s₁ ∧ s₁.closed = true ∧ s₁.stats = s.stats := by
  have plainly : p.step (.stop handle) = .ok (.done, p.put i (s.plain e.pool).stop) := by
    exact (PlainTable.AnswerRel.stop (r.handles_eq ▸ leads) (r.session_eq found)).step
  obtain ⟨e₁, step, r₁⟩ := (step_refines r (.stop handle)).of_plain plainly
  obtain ⟨bound, -⟩ := List.getElem?_eq_some_iff.mp found
  cases r.changeRel step with
  | @operates handle' j t operation does leads' found' sessions =>
    obtain ⟨rfl, rfl⟩ := Prod.mk.inj (Option.some.inj does)
    obtain rfl := Option.some.inj (leads.symm.trans leads')
    obtain rfl := Option.some.inj (found.symm.trans found')
    have stopped : e₁.sessions[i]? = some (FrameHandoff.stop ⟨s, e.pool, e.metrics⟩).session := by
      rw [sessions, List.getElem?_set, if_pos rfl, if_pos bound]
    obtain ⟨others, sound⟩ := r.exists_sound found
    obtain ⟨plain, -⟩ := FrameHandoff.stop_refines sound
    exact ⟨e₁, _, step, r₁, stopped, congrArg PlainSession.closed plain,
      FrameHandoff.stats_stop ⟨s, e.pool, e.metrics⟩⟩
  | starts does | clones does | stays does => cases does

/-- **A stop is final.** After a stop through one handle, and whatever is asked from then on: the session is
closed and has all its counters as they were; through each of its handles publications and takes are
refused, and another stop changes nothing; and no frame waits. A frame that was held reads as it did for as
long as it is held. The stop itself changes no other session, nor a frame in its buffers, and as long as the
stopped session is not asked for, all others are answered, and end, as they would be without the stop. -/
theorem stop_absorbing (result : run {} requests = .ok (answers, e)) (leads : e.handles[handle]? = some i)
    (found : e.sessions[i]? = some s) (result' : e.run (.stop handle :: later) = .ok (answers', e')) :
    (∃ s', e'.sessions[i]? = some s' ∧ s'.closed = true ∧ s'.stats = s.stats ∧
      s'.waiting e'.pool = none) ∧
    (∀ handle', e'.handles[handle']? = some i → e'.IsShut handle') ∧
    (∀ name f, e.heldFrame? name = some f → (∀ r ∈ later, ¬ r.rebinds name) →
      e'.step (.read name) = .ok (.frame (.ok (some f)), e')) ∧
    (∃ e₁, e.step (.stop handle) = .ok (.done, e₁) ∧
      ∀ j t, j ≠ i → e.sessions[j]? = some t → e₁.sessions[j]? = some t ∧
        ∀ id ∈ t.buffers, e₁.pool.frame? id = e.pool.frame? id) ∧
    ((∀ r ∈ later, ∀ h, r.handle? = some h → e'.handles[h]? ≠ some i) →
      ∃ answers'' e'', e.run later = .ok (answers'', e'') ∧ answers' = .done :: answers'' ∧
        ∀ j, j ≠ i → e'.sessions[j]?.map (·.plain e'.pool) = e''.sessions[j]?.map (·.plain e''.pool)) := by
  obtain ⟨p, -, r⟩ := (run_refines refines_empty requests).of_ok result
  obtain ⟨e₁, s₁, step, r₁, stopped, closed, stats⟩ := r.stop_spec leads found
  obtain ⟨answer, e₂, answers₁, first, others, rfl⟩ := exists_of_run_cons result'
  obtain ⟨rfl, rfl⟩ := Prod.mk.inj (Except.ok.inj (step.symm.trans first))
  obtain ⟨p', plainly, r'⟩ := (run_refines r₁ later).of_ok others
  have last : e'.sessions[i]? = some s₁ := r₁.session_run_of_closed others closed stopped
  refine ⟨⟨s₁, last, closed, stats, ?_⟩, fun handle' leads' => r'.isShut leads' last closed, ?_, ?_, ?_⟩
  · obtain ⟨others, sound⟩ := r'.exists_sound last
    obtain ⟨-, -, waiting⟩ | ⟨_, -, isOpen, -⟩ | ⟨_, _, -, isOpen, -⟩ := sound.front_cases
    · exact waiting
    · cases closed.symm.trans isOpen
    · cases closed.symm.trans isOpen
  · intro name f held free
    have same : (p.put i (s.plain e.pool).stop).held = p.held := rfl
    have reads : e'.heldFrame? name = some f := by
      rw [r'.heldFrame?_eq, PlainTable.lookup_held_run plainly free, same, ← r.heldFrame?_eq, held]
    simp only [HandoffTable.step, reads]
  · refine ⟨e₁, step, fun j t other there => (r.changeRel step).elsewhere there fun handle' is leads' => ?_⟩
    obtain rfl := Option.some.inj is
    exact other (Option.some.inj (leads'.symm.trans leads))
  · intro elsewhere
    have agrees := PlainTable.eqExcept_put p i (s.plain e.pool).stop
    obtain ⟨p'', plainly', agrees'⟩ := agrees.run plainly (r'.handles_eq ▸ elsewhere)
    obtain ⟨e'', run, r''⟩ := (run_refines r later).of_plain plainly'
    refine ⟨answers₁, e'', run, rfl, fun j other => ?_⟩
    rw [← List.getElem?_map, ← List.getElem?_map, ← r'.sessions_eq, ← r''.sessions_eq,
      agrees'.session_eq j other]

/-- A session is stopped through a clone while a frame is held and another one is waiting. Both are asked
for afterwards, and a second session goes on. -/
theorem stop_absorbing_frame_waiting :
    let before : List Request :=
      [.start ⟨1, 1, .gray8⟩, .clone 0, .start ⟨1, 1, .gray8⟩, .publish 0 [1], .tryTake 1 (some "held"),
        .publish 0 [2], .publish 2 [7]]
    let after : List Request := [.publish 2 [8], .tryTake 2 none]
    ∃ answers e e' s s', run {} before = .ok (answers, e) ∧ e.sessions[0]? = some s ∧
      s.waiting e.pool = some ⟨⟨2, ⟨1, 1, .gray8⟩⟩, [2]⟩ ∧
      e.run (.stop 1 :: after) = .ok ([.done, .number (.ok 2),
        .frame (.ok (some ⟨⟨2, ⟨1, 1, .gray8⟩⟩, [8]⟩))], e') ∧
      e'.sessions[0]? = some s' ∧ s'.stats = s.stats ∧
      e'.step (.tryTake 0 none) = .ok (.frame (.error .sessionClosed), e') ∧
      e'.step (.publish 1 []) = .ok (.number (.error .sessionClosed), e') ∧
      e'.step (.read "held") = .ok (.frame (.ok (some ⟨⟨1, ⟨1, 1, .gray8⟩⟩, [1]⟩)), e') ∧
      ∃ e'', e.run after = .ok ([.number (.ok 2), .frame (.ok (some ⟨⟨2, ⟨1, 1, .gray8⟩⟩, [8]⟩))], e'') := by
  intro before after
  obtain ⟨answers, e, s, result, leads, found, waiting, held, e', result', leads', leads'', other⟩ :
      ∃ answers e s, run {} before = .ok (answers, e) ∧ e.handles[1]? = some 0 ∧
        e.sessions[0]? = some s ∧ s.waiting e.pool = some ⟨⟨2, ⟨1, 1, .gray8⟩⟩, [2]⟩ ∧
        e.heldFrame? "held" = some ⟨⟨1, ⟨1, 1, .gray8⟩⟩, [1]⟩ ∧ ∃ e',
        e.run (.stop 1 :: after) = .ok ([.done, .number (.ok 2),
          .frame (.ok (some ⟨⟨2, ⟨1, 1, .gray8⟩⟩, [8]⟩))], e') ∧ e'.handles[0]? = some 0 ∧
        e'.handles[1]? = some 0 ∧ e'.handles[2]? = some 1 :=
    ⟨_, _, _, rfl, rfl, rfl, rfl, rfl, _, rfl, rfl, rfl, rfl⟩
  obtain ⟨⟨s', found', -, stats, -⟩, shut, reads, -, goes_on⟩ := stop_absorbing result leads found result'
  obtain ⟨answers'', e'', run, eq, -⟩ := goes_on (by simp [after, Request.handle?, other])
  obtain rfl := (List.cons.inj eq).2
  exact ⟨answers, e, e', s, s', result, found, waiting, result', found', stats, (shut 0 leads').tryTake none,
    (shut 1 leads'').publish [], reads "held" _ held (by simp [after, Request.rebinds]), e'', run⟩

end HandoffTable

end FramePipeline
