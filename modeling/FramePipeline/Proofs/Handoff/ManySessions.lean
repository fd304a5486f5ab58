import Mathlib.Algebra.Ring.Nat
import FramePipeline.Proofs.Handoff.SessionChanges

/-!
# Sessions side by side

Any number of sessions run in one table, each with any number of handles. All handles of a session show
the same session and do the same to it, and what is done to one session leaves the others as they are. What
the sessions have in common are the metrics: these are at all times what the sessions counted together.

Main definitions: `HandoffTable.total`, `HandoffTable.IsTallied`, `HandoffTable.Request.through`. Main
statement: `HandoffTable.run_sessions_independent`.
-/

namespace FramePipeline

namespace HandoffTable

variable {requests : List Request} {request : Request} {answers : List Answer} {answer : Answer}
  {e e' : HandoffTable} {p : PlainTable} {handle handle' i j : Nat} {s : Session} {m : Metric}

/-! ## What sessions count together -/

theorem tallyRel_publishPadded (src : Bytes) (stride : Nat) (c : FrameHandoff) :
    c.TallyRel (publishPadded src stride c).2 := by
  unfold publishPadded
  split
  · exact .refl c
  · exact c.tallyRel_publish _

theorem Request.tallyRel {operation : FrameHandoff → FrameHandoff}
    (does : request.operation? = some (handle, operation)) (c : FrameHandoff) : c.TallyRel (operation c) := by
  cases request with
  | publish handle bytes =>
    obtain ⟨-, rfl⟩ := Prod.mk.inj (Option.some.inj does)
    exact c.tallyRel_publish bytes
  | publishPadded handle src stride =>
    obtain ⟨-, rfl⟩ := Prod.mk.inj (Option.some.inj does)
    exact tallyRel_publishPadded src stride c
  | tryTake handle name =>
    obtain ⟨-, rfl⟩ := Prod.mk.inj (Option.some.inj does)
    exact c.tallyRel_tryTake
  | stop handle =>
    obtain ⟨-, rfl⟩ := Prod.mk.inj (Option.some.inj does)
    exact c.tallyRel_stop
  | read | share | release | clone | start | inspect => cases does

/-- What all sessions together counted of a metric. -/
def total (e : HandoffTable) (m : Metric) : Nat :=
  (e.sessions.map (·.stats.counted m)).sum

/-- The metrics are what the sessions counted. -/
structure IsTallied (e : HandoffTable) : Prop where
  value_eq : ∀ m, e.metrics.value m = e.total m
  positive : ∀ m, e.metrics.get? m ≠ some 0

theorem sum_set {sessions : List Session} (found : sessions[i]? = some s) (t : Session) (f : Session → Nat) :
    ((sessions.set i t).map f).sum + f s = (sessions.map f).sum + f t := by
  induction sessions generalizing i with
  | nil => cases found
  | cons first rest ih =>
    cases i with
    | zero =>
      obtain rfl := Option.some.inj found
      simp only [List.set_cons_zero, List.map_cons, List.sum_cons]
      omega
    | succ i =>
      have others := ih found
      simp only [List.set_cons_succ, List.map_cons, List.sum_cons]
      omega

namespace IsTallied

theorem of_empty : IsTallied {} where
  value_eq _ := rfl
  positive _ := nofun

theorem step (h : e.IsTallied) (changes : e.ChangeRel request e') : e'.IsTallied := by
  cases changes with
  | @operates handle i s operation does leads found sessions metrics =>
    have tallies := Request.tallyRel does ⟨s, e.pool, e.metrics⟩
    refine ⟨fun m => ?_, fun m zero => ?_⟩
    · have grown : e'.metrics.value m + s.stats.counted m =
          e.metrics.value m + (operation ⟨s, e.pool, e.metrics⟩).session.stats.counted m := by
        rw [metrics]
        exact tallies.value_eq m
      have summed := sum_set found (operation ⟨s, e.pool, e.metrics⟩).session (·.stats.counted m)
      rw [← sessions] at summed
      have counted := h.value_eq m
      simp only [total] at counted ⊢
      omega
    · rw [metrics] at zero
      exact h.positive m (tallies.of_zero m zero)
  | @starts stream s does started sessions metrics =>
    obtain ⟨-, fresh⟩ := FrameHandoff.session_fresh_of_start started
    refine ⟨fun m => ?_, metrics ▸ h.positive⟩
    have nothing : s.stats.counted m = 0 := by
      rw [fresh]
      cases m <;> rfl
    rw [metrics, h.value_eq, total, total, sessions, List.map_append, List.sum_append]
    simp [nothing]
  | clones does leads rest =>
    subst rest
    exact ⟨h.value_eq, h.positive⟩
  | stays does sessions metrics =>
    exact ⟨fun m => by rw [metrics, h.value_eq, total, total, sessions], metrics ▸ h.positive⟩

theorem get?_eq (h : e.IsTallied) (m : Metric) :
    e.metrics.get? m = if e.total m = 0 then none else some (e.total m) := by
  have counted := h.value_eq m
  have positive := h.positive m
  unfold Metrics.value at counted
  cases value : e.metrics.get? m with
  | none =>
    rw [value] at counted
    have nothing : 0 = e.total m := counted
    rw [if_pos nothing.symm]
  | some n =>
    rw [value] at counted positive
    obtain rfl : n = e.total m := counted
    rw [if_neg fun zero => positive (congrArg some zero)]

end IsTallied

/-! ## Handles of one session -/

/-- Every handle leads to a session. -/
def HandlesInv (e : HandoffTable) : Prop :=
  ∀ i ∈ e.handles, i < e.sessions.length

theorem HandlesInv.step (h : e.HandlesInv) (changes : e.ChangeRel request e') : e'.HandlesInv := by
  intro i mem
  cases changes with
  | operates does leads found sessions metrics handles =>
    rw [handles] at mem
    rw [sessions, List.length_set]
    exact h i mem
  | starts does started sessions metrics handles =>
    rw [handles, List.mem_append, List.mem_singleton] at mem
    rw [sessions, List.length_append, List.length_singleton]
    obtain mem | rfl := mem
    · exact Nat.lt_succ_of_lt (h i mem)
    · exact Nat.lt_succ_self _
  | clones does leads rest =>
    subst rest
    obtain mem | rfl := List.mem_append.mp mem |>.imp_right List.mem_singleton.mp
    · exact h i mem
    · exact h i (List.mem_of_getElem? leads)
  | stays does sessions metrics handles =>
    rw [handles] at mem
    rw [sessions]
    exact h i mem

/-- The same request, through another handle. -/
def Request.through (handle : Nat) : Request → Request
  | publish _ bytes => .publish handle bytes
  | publishPadded _ src stride => .publishPadded handle src stride
  | tryTake _ name => .tryTake handle name
  | stop _ => .stop handle
  | clone _ => .clone handle
  | inspect _ => .inspect handle
  | request => request

theorem session?_eq (same : e.handles[handle]? = e.handles[handle']?) :
    e.session? handle = e.session? handle' := by
  simp only [session?, same]

theorem HandlesInv.exists_session (h : e.HandlesInv) (leads : e.handles[handle]? = some i) :
    ∃ s, e.session? handle = some s := by
  have bound := h i (List.mem_of_getElem? leads)
  exact ⟨e.sessions[i], by simp [session?, leads, bound]⟩

theorem withHandoff_eq (same : e.handles[handle]? = e.handles[handle']?) (found : e.session? handle = some s)
    {α : Type} (f : FrameHandoff → α × FrameHandoff) : e.withHandoff handle f = e.withHandoff handle' f := by
  have found' := (session?_eq same).symm.trans found
  simp [withHandoff, handoff?, putHandoff, found, found', same]

/-- What is asked through one handle is asked through all handles of the session. -/
theorem HandlesInv.step_through (h : e.HandlesInv) (leads : e.handles[handle]? = some i)
    (leads' : e.handles[handle']? = some i) (request : Request) :
    e.step (request.through handle) = e.step (request.through handle') := by
  have same : e.handles[handle]? = e.handles[handle']? := leads.trans leads'.symm
  obtain ⟨s, found⟩ := h.exists_session leads
  have found' := (session?_eq same).symm.trans found
  cases request with
  | publish | publishPadded | tryTake | stop => simp only [Request.through, HandoffTable.step,
    withHandoff_eq same found]
  | clone => simp only [Request.through, HandoffTable.step, leads, leads']
  | inspect => simp only [Request.through, HandoffTable.step, found, found']
  | read | share | release | start => rfl

/-! ## Main statement -/

/-- A started session is led to by its own handle, and by no other. -/
theorem HandlesInv.step_start (h : e.HandlesInv) {stream : StreamFormat}
    (started : e.step (.start stream) = .ok (.number (.ok handle), e')) :
    ∃ i, e'.handles[handle]? = some i ∧ ∀ handle' : Nat, e.handles[handle']? ≠ some i := by
  simp only [HandoffTable.step] at started
  split at started
  · cases (Prod.mk.inj (Except.ok.inj started)).1
  · cases started
  · obtain ⟨number, rfl⟩ := Prod.mk.inj (Except.ok.inj started)
    obtain rfl := Except.ok.inj (Answer.number.inj number)
    refine ⟨e.sessions.length, by simp, fun handle' leads => ?_⟩
    exact Nat.lt_irrefl _ (h _ (List.mem_of_getElem? leads))

/-- **Sessions side by side.** After every run: all handles of a session, that is the one that its start
gave and the clones of its handles, then or later, show the same session, and every request is answered the
same and does the same through each of them. A request that is not made through a handle of a session
leaves all of that session, its slot with the waiting frame included, as it is. And each metric is what all
sessions counted together; it is absent if they counted nothing. -/
theorem run_sessions_independent (result : run {} requests = .ok (answers, e)) :
    ((∀ stream handle e', e.step (.start stream) = .ok (.number (.ok handle), e') →
        ∃ i, e'.handles[handle]? = some i ∧ ∀ handle' : Nat, e.handles[handle']? ≠ some i) ∧
      (∀ (handle i : Nat), e.handles[handle]? = some i → ∃ handle' e',
        e.step (.clone handle) = .ok (.number (.ok handle'), e') ∧ e'.handles[handle']? = some i) ∧
      ∀ later answers' e' (handle i : Nat), e.run later = .ok (answers', e') →
        e.handles[handle]? = some i → e'.handles[handle]? = some i) ∧
    (∀ i handle handle' : Nat, e.handles[handle]? = some i → e.handles[handle']? = some i →
      (∃ s, e.sessions[i]? = some s ∧ e.session? handle = some s ∧ e.session? handle' = some s) ∧
      ∀ request : Request, e.step (request.through handle) = e.step (request.through handle')) ∧
    (∀ (request : Request) answer e' (j : Nat) s, e.step request = .ok (answer, e') →
      e.sessions[j]? = some s →
      (∀ handle, request.handle? = some handle → e.handles[handle]? ≠ some j) →
      e'.sessions[j]? = some s ∧ s.waiting e'.pool = s.waiting e.pool) ∧
    ∀ m, e.metrics.get? m = if e.total m = 0 then none else some (e.total m) := by
  obtain ⟨p, -, r⟩ := (run_refines refines_empty requests).of_ok result
  have leadsSomewhere : e.HandlesInv :=
    refines_empty.run_induction result nofun fun r step h => h.step (r.changeRel step)
  have tallied : e.IsTallied :=
    refines_empty.run_induction result IsTallied.of_empty fun r step h => h.step (r.changeRel step)
  refine ⟨⟨fun stream handle e' => leadsSomewhere.step_start, ?_, ?_⟩, ?_, ?_, tallied.get?_eq⟩
  · intro handle i leads
    exact ⟨e.handles.length, { e with handles := e.handles ++ [i] }, by simp only [HandoffTable.step, leads],
      by simp⟩
  · intro later answers' e' handle i result' leads
    obtain ⟨more, grown⟩ := r.handles_run result'
    obtain ⟨bound, -⟩ := List.getElem?_eq_some_iff.mp leads
    rw [← grown, List.getElem?_append_left bound, leads]
  · intro i handle handle' leads leads'
    obtain ⟨s, found⟩ := leadsSomewhere.exists_session leads
    have there : e.sessions[i]? = some s := by simpa [session?, leads] using found
    exact ⟨⟨s, there, found, by simp [session?, leads', there]⟩, leadsSomewhere.step_through leads leads'⟩
  · intro request answer e' j s step found apart
    obtain ⟨stays, frames⟩ := (r.changeRel step).elsewhere found apart
    exact ⟨stays, congrArg PlainSession.waiting (Session.plain_congr frames)⟩

/-- Two sessions, one of them with two handles. A frame is held for long, one publication has the wrong
length, and one comes after the stop. -/
theorem run_sessions_independent_clone :
    let requests : List Request :=
      [.start ⟨1, 1, .gray8⟩, .start ⟨1, 1, .gray8⟩, .clone 0, .publish 0 [1], .publish 2 [2], .publish 1 [],
        .tryTake 2 (some "held"), .publish 0 [3], .publish 2 [4], .publish 1 [7], .stop 0, .publish 2 [9]]
    ∃ answers e, run {} requests = .ok (answers, e) ∧ e.session? 0 = e.session? 2 ∧
      e.step (.inspect 0) = e.step (.inspect 2) ∧
      e.metrics.get? .published = some 5 ∧ e.metrics.get? .dropped = some 2 ∧
      e.metrics.get? .sizeMismatches = some 1 ∧ e.metrics.get? .reallocations = some 1 ∧
      ∃ e' s, e.step (.tryTake 1 none) = .ok (.frame (.ok (some ⟨⟨1, ⟨1, 1, .gray8⟩⟩, [7]⟩)), e') ∧
        e.sessions[0]? = some s ∧ e'.sessions[0]? = some s ∧ s.closed = true := by
  intro requests
  obtain ⟨answers, e, e', s, result, leads, other, clone, published, dropped, mismatches, reallocations,
      step, found, closed⟩ :
      ∃ answers e e' s, run {} requests = .ok (answers, e) ∧ e.handles[0]? = some 0 ∧ e.handles[1]? = some 1 ∧
        e.handles[2]? = some 0 ∧ e.total .published = 5 ∧ e.total .dropped = 2 ∧
        e.total .sizeMismatches = 1 ∧ e.total .reallocations = 1 ∧
        e.step (.tryTake 1 none) = .ok (.frame (.ok (some ⟨⟨1, ⟨1, 1, .gray8⟩⟩, [7]⟩)), e') ∧
        e.sessions[0]? = some s ∧ s.closed = true :=
    ⟨_, _, _, _, rfl, rfl, rfl, rfl, rfl, rfl, rfl, rfl, rfl, rfl, rfl⟩
  obtain ⟨-, alike, elsewhere, metrics⟩ := run_sessions_independent result
  obtain ⟨⟨_, -, shown, shown'⟩, answered⟩ := alike 0 0 2 leads clone
  obtain ⟨stays, -⟩ := elsewhere (.tryTake 1 none) _ e' 0 s step found (by simp [Request.handle?, other])
  refine ⟨answers, e, result, shown.trans shown'.symm, answered (.inspect 0), ?_, ?_, ?_, ?_, e', s, step,
    found, stays, closed⟩
  · rw [metrics, published, if_neg (by decide)]
  · rw [metrics, dropped, if_neg (by decide)]
  · rw [metrics, mismatches, if_neg (by decide)]
  · rw [metrics, reallocations, if_neg (by decide)]

end HandoffTable

end FramePipeline
