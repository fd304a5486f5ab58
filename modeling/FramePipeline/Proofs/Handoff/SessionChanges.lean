import FramePipeline.Proofs.Capture.Turns
import FramePipeline.Proofs.Handoff.LatestPublication

/-!
# What a request changes

A request does something to the one session that its handle leads to, or starts a session, or leaves all
sessions alone. That is said once and for all here, for sessions with their buffers: what becomes of the
session, of the metrics and of the handles, and that the buffers of all other sessions keep their frames.

Main definitions: `HandoffTable.Request.handle?`, `HandoffTable.Request.operation?` (what is done to a
session, and through which handle), `HandoffTable.ChangeRel`, `HandoffTable.IsShut` (all that is asked through
a handle to a closed session). Main statements: `HandoffTable.RefinementRel.changeRel`,
`HandoffTable.RefinementRel.isShut` and `HandoffTable.RefinementRel.session_run_of_closed`.
-/

namespace FramePipeline.HandoffTable

/-- The handle through which a request looks at a session, or does something to it. -/
def Request.handle? : Request → Option Nat
  | publish handle _ | publishPadded handle _ _ | tryTake handle _ | stop handle | inspect handle =>
    some handle
  | _ => none

/-- The handle through which a request does something to a session, and what it does. -/
def Request.operation? : Request → Option (Nat × (FrameHandoff → FrameHandoff))
  | publish handle bytes => some (handle, fun c => (c.publish bytes).2)
  | publishPadded handle src stride => some (handle, fun c => (HandoffTable.publishPadded src stride c).2)
  | tryTake handle _ => some (handle, fun c => c.tryTake.2)
  | stop handle => some (handle, FrameHandoff.stop)
  | _ => none

/-- What a request does to sessions, metrics and handles. -/
inductive ChangeRel (e : HandoffTable) (request : Request) (e' : HandoffTable) : Prop
  /-- One session changes, and the buffers of the others keep their frames. -/
  | operates {handle i : Nat} {s : Session} {operation : FrameHandoff → FrameHandoff}
      (does : request.operation? = some (handle, operation)) (leads : e.handles[handle]? = some i)
      (found : e.sessions[i]? = some s)
      (sessions : e'.sessions = e.sessions.set i (operation ⟨s, e.pool, e.metrics⟩).session)
      (metrics : e'.metrics = (operation ⟨s, e.pool, e.metrics⟩).metrics)
      (handles : e'.handles = e.handles)
      (frames : ∀ {j : Nat} {t : Session}, j ≠ i → e.sessions[j]? = some t →
        ∀ id ∈ t.buffers, e'.pool.frame? id = e.pool.frame? id)
  /-- A session is started. -/
  | starts {stream : StreamFormat} {s : Session} (does : request.operation? = none)
      (started : Session.start stream e.pool = .ok (s, e'.pool)) (sessions : e'.sessions = e.sessions ++ [s])
      (metrics : e'.metrics = e.metrics) (handles : e'.handles = e.handles ++ [e.sessions.length])
      (frames : ∀ t ∈ e.sessions, ∀ id ∈ t.buffers, e'.pool.frame? id = e.pool.frame? id)
  /-- A session has one more handle. -/
  | clones {handle i : Nat} (does : request.operation? = none) (leads : e.handles[handle]? = some i)
      (rest : e' = { e with handles := e.handles ++ [i] })
  /-- No session changes. -/
  | stays (does : request.operation? = none) (sessions : e'.sessions = e.sessions)
      (metrics : e'.metrics = e.metrics) (handles : e'.handles = e.handles)
      (frames : ∀ id, e'.pool.frame? id = e.pool.frame? id)

variable {e e' : HandoffTable} {p : PlainTable} {request : Request} {answer : Answer} {handle i j : Nat}
  {s : Session}

/-! ## Frames stay where they are -/

theorem frame?_releaseName (e : HandoffTable) (name : String) (id : CellId) :
    (e.releaseName name).pool.frame? id = e.pool.frame? id := by
  unfold releaseName
  split
  · rfl
  · exact Pool.frame?_release ..

theorem sessions_releaseName (e : HandoffTable) (name : String) :
    (e.releaseName name).sessions = e.sessions ∧ (e.releaseName name).metrics = e.metrics ∧
      (e.releaseName name).handles = e.handles := by
  unfold releaseName
  split <;> exact ⟨rfl, rfl, rfl⟩

theorem frame?_keep (e : HandoffTable) (name : Option String) (id other : CellId) :
    (e.keep name id).pool.frame? other = e.pool.frame? other := by
  cases name with
  | none => exact Pool.frame?_release ..
  | some name => exact e.frame?_releaseName name other

theorem sessions_keep (e : HandoffTable) (name : Option String) (id : CellId) :
    (e.keep name id).sessions = e.sessions ∧ (e.keep name id).metrics = e.metrics ∧
      (e.keep name id).handles = e.handles := by
  cases name with
  | none => exact ⟨rfl, rfl, rfl⟩
  | some name => exact e.sessions_releaseName name

/-! ## Through a handle -/

namespace RefinementRel

/-- What is done through a handle, for an operation that leaves the frames of others alone. -/
theorem changeRel_withHandoff (r : RefinementRel e p []) {α : Type} {f : FrameHandoff → α × FrameHandoff}
    {a : α} (kept : ∀ ⦃c : FrameHandoff⦄ ⦃others : List CellId⦄, c.Sound others →
      ∀ id ∈ others, (f c).2.frame? id = c.frame? id)
    (does : request.operation? = some (handle, fun c => (f c).2))
    (result : e.withHandoff handle f = .ok (a, e')) : e.ChangeRel request e' := by
  obtain ⟨nowhere, -⟩ | ⟨before, s, after, leads, eq⟩ := r.reach handle
  · rw [withHandoff_of_none nowhere] at result
    cases result
  · have ran : f ⟨s, e.pool, e.metrics⟩ =
        ((f ⟨s, e.pool, e.metrics⟩).1, (f ⟨s, e.pool, e.metrics⟩).2) := rfl
    rw [withHandoff_of_some leads eq ran] at result
    obtain ⟨-, rfl⟩ := Prod.mk.inj (Except.ok.inj result)
    have found : e.sessions[before.length]? = some s := by simp [eq]
    refine .operates does leads found ?_ rfl rfl ?_
    · simp [eq]
    · intro j t other there id mem
      refine kept (r.sound_handoff eq) id (List.mem_append_right _ (List.mem_flatMap.mpr ⟨t, ?_, mem⟩))
      rw [eq] at there
      obtain lt | same | gt := Nat.lt_trichotomy j before.length
      · rw [List.getElem?_append_left lt] at there
        exact List.mem_append_left _ (List.mem_of_getElem? there)
      · exact absurd same other
      · obtain ⟨k, rfl⟩ := Nat.exists_eq_add_of_lt gt
        rw [List.getElem?_append_right (Nat.le_of_lt gt),
          show before.length + k + 1 - before.length = k + 1 by omega, List.getElem?_cons_succ] at there
        exact List.mem_append_right _ (List.mem_of_getElem? there)

theorem kept_of_refines {α : Type} {f : FrameHandoff → α × FrameHandoff} {g : PlainSession → α × PlainSession}
    (refines : FrameHandoff.RefinementRel f g) ⦃c : FrameHandoff⦄ ⦃others : List CellId⦄
    (sound : c.Sound others) :
    ∀ id ∈ others, (f c).2.frame? id = c.frame? id := by
  obtain ⟨c', eq, -, -, kept⟩ := refines sound
  rw [eq]
  exact kept

theorem kept_tryTake ⦃c : FrameHandoff⦄ ⦃others : List CellId⦄ (sound : c.Sound others) :
    ∀ id ∈ others, c.tryTake.2.frame? id = c.frame? id := by
  obtain ⟨-, eq, -⟩ | ⟨eq, -⟩ | ⟨id, f, c', eq, -, -, -, kept⟩ := FrameHandoff.tryTake_cases sound
  · rw [eq]
    exact fun _ _ => rfl
  · rw [eq]
    exact fun _ _ => rfl
  · rw [eq]
    exact fun id _ => kept id

/-- What a step does that does one thing through a handle and tells the result. -/
theorem changeRel_bind (r : RefinementRel e p []) {α : Type} {f : FrameHandoff → α × FrameHandoff}
    {g : PlainSession → α × PlainSession} (refines : FrameHandoff.RefinementRel f g) (tell : α → Answer)
    (does : request.operation? = some (handle, fun c => (f c).2))
    (result : (do let (a, e) ← e.withHandoff handle f; .ok (tell a, e)) = .ok (answer, e')) :
    e.ChangeRel request e' := by
  cases changed : e.withHandoff handle f with
  | error failure =>
    rw [changed] at result
    cases result
  | ok one =>
    obtain ⟨a, e₁⟩ := one
    rw [changed] at result
    obtain ⟨-, rfl⟩ := Prod.mk.inj (Except.ok.inj result)
    exact r.changeRel_withHandoff (kept_of_refines refines) does changed

theorem changeRel_tryTake (r : RefinementRel e p []) {name : Option String}
    (result : e.step (.tryTake handle name) = .ok (answer, e')) : e.ChangeRel (.tryTake handle name) e' := by
  simp only [step] at result
  cases changed : e.withHandoff handle (·.tryTake) with
  | error failure =>
    rw [changed] at result
    cases result
  | ok one =>
    obtain ⟨taken, e₁⟩ := one
    have changes : e.ChangeRel (.tryTake handle name) e₁ := r.changeRel_withHandoff kept_tryTake rfl changed
    rw [changed] at result
    obtain refusal | ⟨- | id⟩ := taken
    · obtain ⟨-, rfl⟩ := Prod.mk.inj (Except.ok.inj result)
      exact changes
    · obtain ⟨-, rfl⟩ := Prod.mk.inj (Except.ok.inj result)
      exact changes
    · -- the caller's reference goes under a name, or is given up; both are beside the sessions
      obtain ⟨-, rfl⟩ := Prod.mk.inj (Except.ok.inj result)
      obtain ⟨same_sessions, same_metrics, same_handles⟩ := e₁.sessions_keep name id
      cases changes with
      | operates does leads found sessions metrics handles frames =>
        refine .operates does leads found (same_sessions.trans sessions) (same_metrics.trans metrics)
          (same_handles.trans handles) fun other there id' mem => ?_
        rw [frame?_keep, frames other there id' mem]
      | starts does | clones does | stays does => cases does

/-- What an answered request does. -/
theorem changeRel (r : RefinementRel e p []) (result : e.step request = .ok (answer, e')) :
    e.ChangeRel request e' := by
  cases request with
  | publish handle bytes => exact r.changeRel_bind (FrameHandoff.publish_refines bytes) .number rfl result
  | publishPadded handle src stride =>
    exact r.changeRel_bind (publishPadded_refines src stride) .number rfl result
  | tryTake handle name => exact r.changeRel_tryTake result
  | stop handle => exact r.changeRel_bind stop_refines (fun _ => .done) rfl result
  | read name =>
    obtain ⟨-, rfl⟩ := Prod.mk.inj (Except.ok.inj result)
    exact .stays rfl rfl rfl rfl fun _ => rfl
  | share name second =>
    simp only [step] at result
    split at result
    · obtain ⟨-, rfl⟩ := Prod.mk.inj (Except.ok.inj result)
      exact .stays rfl rfl rfl rfl fun _ => rfl
    · next id found =>
      obtain ⟨-, rfl⟩ := Prod.mk.inj (Except.ok.inj result)
      obtain ⟨sessions, metrics, handles⟩ :=
        sessions_releaseName { e with pool := e.pool.retain id } second
      refine .stays rfl sessions metrics handles fun other => ?_
      exact (frame?_releaseName _ second other).trans (Pool.frame?_retain ..)
  | release name =>
    obtain ⟨-, rfl⟩ := Prod.mk.inj (Except.ok.inj result)
    obtain ⟨sessions, metrics, handles⟩ := e.sessions_releaseName name
    exact .stays rfl sessions metrics handles (e.frame?_releaseName name)
  | clone handle =>
    simp only [step] at result
    split at result
    · cases result
    · next i leads =>
      obtain ⟨-, rfl⟩ := Prod.mk.inj (Except.ok.inj result)
      exact .clones rfl leads rfl
  | start stream =>
    simp only [step] at result
    split at result
    · obtain ⟨-, rfl⟩ := Prod.mk.inj (Except.ok.inj result)
      exact .stays rfl rfl rfl rfl fun _ => rfl
    · cases result
    · next s pool started =>
      obtain ⟨-, rfl⟩ := Prod.mk.inj (Except.ok.inj result)
      obtain ⟨-, -, kept⟩ := FrameHandoff.sound_start r.owned e.metrics started
      refine .starts rfl started rfl rfl rfl fun t mem id there => kept id ?_
      exact List.mem_append_right _ (List.mem_flatMap.mpr ⟨t, mem, there⟩)
  | inspect handle =>
    simp only [step] at result
    split at result
    · cases result
    · obtain ⟨-, rfl⟩ := Prod.mk.inj (Except.ok.inj result)
      exact .stays rfl rfl rfl rfl fun _ => rfl

end RefinementRel

/-! ## Elsewhere -/

theorem Request.handle?_of_operation {operation : FrameHandoff → FrameHandoff}
    (does : request.operation? = some (handle, operation)) : request.handle? = some handle := by
  cases request with
  | publish | publishPadded | tryTake | stop =>
    obtain ⟨rfl, -⟩ := Prod.mk.inj (Option.some.inj does)
    rfl
  | read | share | release | clone | start | inspect => cases does

/-- A session to which the handle of a request does not lead stays as it is, and so do the frames in its
buffers. -/
theorem ChangeRel.elsewhere (changes : e.ChangeRel request e') (found : e.sessions[j]? = some s)
    (apart : ∀ handle, request.handle? = some handle → e.handles[handle]? ≠ some j) :
    e'.sessions[j]? = some s ∧ ∀ id ∈ s.buffers, e'.pool.frame? id = e.pool.frame? id := by
  cases changes with
  | operates does leads there sessions metrics handles frames =>
    have other : j ≠ _ := fun same => apart _ (Request.handle?_of_operation does) (same ▸ leads)
    exact ⟨by rw [sessions, List.getElem?_set_ne other.symm, found], frames other found⟩
  | starts does started sessions metrics handles frames =>
    obtain ⟨bound, -⟩ := List.getElem?_eq_some_iff.mp found
    exact ⟨by rw [sessions, List.getElem?_append_left bound, found], frames s (List.mem_of_getElem? found)⟩
  | clones does leads rest =>
    subst rest
    exact ⟨found, fun _ _ => rfl⟩
  | stays does sessions metrics handles frames => exact ⟨by rw [sessions, found], fun id _ => frames id⟩

/-! ## Handles -/

/-- Handles go on leading where they led. -/
theorem ChangeRel.handles_extend (changes : e.ChangeRel request e') : e.handles <+: e'.handles := by
  cases changes with
  | operates does leads found sessions metrics handles => exact ⟨[], by rw [List.append_nil, handles]⟩
  | starts does started sessions metrics handles => exact ⟨_, handles.symm⟩
  | clones does leads rest => exact ⟨_, congrArg HandoffTable.handles rest.symm⟩
  | stays does sessions metrics handles => exact ⟨[], by rw [List.append_nil, handles]⟩

/-- What every request keeps holds after a run. -/
theorem RefinementRel.run_induction {motive : HandoffTable → Prop} {requests : List Request}
    {answers : List Answer}
    (r : RefinementRel e p []) (result : e.run requests = .ok (answers, e')) (start : motive e)
    (step : ∀ {e p request answer e'}, RefinementRel e p [] → e.step request = .ok (answer, e') →
      motive e → motive e') : motive e' := by
  induction requests generalizing e p answers with
  | nil =>
    obtain ⟨-, rfl⟩ := Prod.mk.inj (Except.ok.inj result)
    exact start
  | cons request rest ih =>
    obtain ⟨answer, e₁, answers', first, others, -⟩ := exists_of_run_cons result
    obtain ⟨p₁, -, r₁⟩ := (step_refines r request).of_ok first
    exact ih r₁ others (step r first start)

theorem RefinementRel.handles_run (r : RefinementRel e p []) {requests : List Request} {answers : List Answer}
    (result : e.run requests = .ok (answers, e')) : e.handles <+: e'.handles :=
  r.run_induction (motive := fun e' => e.handles <+: e'.handles) result (List.prefix_refl _)
    fun r step grown => grown.trans (r.changeRel step).handles_extend

/-! ## Closed sessions -/

/-- All that is asked through a handle is refused, or tells that the session is closed, and nothing
changes. -/
structure IsShut (e : HandoffTable) (handle : Nat) : Prop where
  publish : ∀ bytes, e.step (.publish handle bytes) = .ok (.number (.error .sessionClosed), e)
  publishPadded : ∀ src stride, ∃ error,
    e.step (.publishPadded handle src stride) = .ok (.number (.error error), e)
  tryTake : ∀ name, e.step (.tryTake handle name) = .ok (.frame (.error .sessionClosed), e)
  inspect : ∃ view : Session.View, view.closed = true ∧ e.step (.inspect handle) = .ok (.session view, e)
  stop : e.step (.stop handle) = .ok (.done, e)

/-- Nothing that is done through a handle changes a closed session. -/
theorem operation_of_closed {c : FrameHandoff} {others : List CellId} (sound : c.Sound others)
    (closed : c.session.closed = true) {operation : FrameHandoff → FrameHandoff}
    (does : request.operation? = some (handle, operation)) : operation c = c := by
  cases request with
  | publish handle bytes =>
    obtain ⟨-, rfl⟩ := Prod.mk.inj (Option.some.inj does)
    exact congrArg Prod.snd (FrameHandoff.publish_of_closed closed bytes)
  | publishPadded handle src stride =>
    obtain ⟨-, rfl⟩ := Prod.mk.inj (Option.some.inj does)
    dsimp only
    unfold HandoffTable.publishPadded
    split
    · rfl
    · exact congrArg Prod.snd (FrameHandoff.publish_of_closed closed _)
  | tryTake handle name =>
    obtain ⟨-, rfl⟩ := Prod.mk.inj (Option.some.inj does)
    exact congrArg Prod.snd (FrameHandoff.tryTake_of_closed sound closed)
  | stop handle =>
    obtain ⟨-, rfl⟩ := Prod.mk.inj (Option.some.inj does)
    exact FrameHandoff.stop_of_closed closed
  | read | share | release | clone | start | inspect => cases does

/-- A stopped session refuses a publication of any length, and nothing changes. -/
theorem step_publish_of_closed {s : Session} (leads : e.handles[handle]? = some i)
    (found : e.sessions[i]? = some s) (closed : s.closed = true) (bytes : Bytes) :
    e.step (.publish handle bytes) = .ok (.number (.error .sessionClosed), e) := by
  have refused := FrameHandoff.publish_of_closed (c := ⟨s, e.pool, e.metrics⟩) closed bytes
  have still := RefinementRel.withHandoff_of_still leads found (f := (·.publish bytes)) refused
  simp only [step, still]
  rfl

namespace RefinementRel

/-- The session, with the pool and the metrics, as a handoff. -/
theorem exists_sound (r : RefinementRel e p []) (found : e.sessions[i]? = some s) :
    ∃ others, FrameHandoff.Sound ⟨s, e.pool, e.metrics⟩ others := by
  obtain ⟨bound, there⟩ := List.getElem?_eq_some_iff.mp found
  have eq : e.sessions = e.sessions.take i ++ s :: e.sessions.drop (i + 1) := by
    rw [← there, ← List.drop_eq_getElem_cons, List.take_append_drop]
  exact ⟨_, r.sound_handoff eq⟩

/-- An open session accepts a publication as long as its frames. -/
theorem step_publish_of_fits (r : RefinementRel e p []) (leads : e.handles[handle]? = some i)
    (found : e.sessions[i]? = some s) (isOpen : s.closed = false) {bytes : Bytes}
    (len : bytes.length = s.frameLen) :
    ∃ e', e.step (.publish handle bytes) = .ok (.number (.ok (s.sequence + 1)), e') := by
  obtain ⟨others, sound⟩ := r.exists_sound found
  obtain ⟨_, _, _, c, accepted, -⟩ := FrameHandoff.publish_of_fits sound isOpen len
  have through : e.withHandoff handle (·.publish bytes) =
      .ok (.ok (s.sequence + 1), e.putHandoff handle c) := by
    simp [HandoffTable.withHandoff, handoff?, session?, leads, found, accepted]
  refine ⟨e.putHandoff handle c, ?_⟩
  rw [HandoffTable.step, through]
  rfl

theorem isShut (r : RefinementRel e p []) (leads : e.handles[handle]? = some i)
    (found : e.sessions[i]? = some s) (closed : s.closed = true) : e.IsShut handle := by
  obtain ⟨others, sound⟩ := r.exists_sound found
  refine ⟨step_publish_of_closed leads found closed, fun src stride => ?_, fun name => ?_,
    ⟨s.view, closed, ?_⟩, ?_⟩
  · obtain ⟨error, refused⟩ : ∃ error, HandoffTable.publishPadded src stride ⟨s, e.pool, e.metrics⟩ =
        (.error error, ⟨s, e.pool, e.metrics⟩) := by
      unfold HandoffTable.publishPadded
      split
      · exact ⟨_, rfl⟩
      · exact ⟨_, FrameHandoff.publish_of_closed closed _⟩
    have still := withHandoff_of_still leads found refused
    refine ⟨error, ?_⟩
    simp only [step, still]
    rfl
  · have refused := FrameHandoff.tryTake_of_closed sound closed
    have still := withHandoff_of_still leads found (f := (·.tryTake)) refused
    simp only [step, still]
    rfl
  · have reached : e.session? handle = some s := by simp [session?, leads, found]
    simp only [step, reached]
  · have stopped : (⟨s, e.pool, e.metrics⟩ : FrameHandoff).stop = ⟨s, e.pool, e.metrics⟩ :=
      FrameHandoff.stop_of_closed closed
    have still := withHandoff_of_still leads found (f := fun c => ((), c.stop))
      (show ((), _) = ((), _) by rw [stopped])
    simp only [step, still]
    rfl

/-- A closed session stays as it is. -/
theorem session_step_of_closed (r : RefinementRel e p []) (result : e.step request = .ok (answer, e'))
    (closed : s.closed = true) (found : e.sessions[i]? = some s) : e'.sessions[i]? = some s := by
  obtain ⟨bound, there⟩ := List.getElem?_eq_some_iff.mp found
  cases r.changeRel result with
  | @operates handle j t operation does leads found' sessions =>
    by_cases here : j = i
    · subst here
      obtain rfl := Option.some.inj (found.symm.trans found')
      obtain ⟨others, sound⟩ := r.exists_sound found
      rw [sessions, operation_of_closed sound closed does, List.getElem?_set, if_pos rfl, if_pos bound]
    · rw [sessions, List.getElem?_set_ne here, found]
  | starts does started sessions => rw [sessions, List.getElem?_append_left bound, found]
  | clones does leads rest => exact rest ▸ found
  | stays does sessions => rw [sessions, found]

theorem session_run_of_closed (r : RefinementRel e p []) {requests : List Request} {answers : List Answer}
    (result : e.run requests = .ok (answers, e')) (closed : s.closed = true)
    (found : e.sessions[i]? = some s) : e'.sessions[i]? = some s :=
  r.run_induction (motive := fun e' => e'.sessions[i]? = some s) result found
    fun r step => r.session_step_of_closed step closed

end RefinementRel

end FramePipeline.HandoffTable
