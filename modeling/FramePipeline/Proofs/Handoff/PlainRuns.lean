import FramePipeline.Handoff.Plain

/-!
# Runs of plain tables

What a request does to a plain table when it is answered, in one place, and what a run of requests
is made of. Properties of runs are proved from these by one case for each kind of request.

Main definitions: `PlainTable.put`, `PlainTable.AnswerRel`. Main statements:
`PlainTable.answerRel_of_step`, with its converse `PlainTable.AnswerRel.step`, and
`PlainTable.exists_of_run_cons`.
-/

namespace FramePipeline.PlainTable

open HandoffTable (Request Answer Failure)

variable {p p' : PlainTable}

/-- Replaces a session. -/
def put (p : PlainTable) (i : Nat) (s : PlainSession) : PlainTable :=
  { p with sessions := p.sessions.set i s }

/-- What a request does when it is answered, and what the answer is. -/
inductive AnswerRel (p : PlainTable) : Request → Answer → PlainTable → Prop
  | publish {handle i : Nat} {s : PlainSession} {bytes : Bytes}
      (leads : p.handles[handle]? = some i) (found : p.sessions[i]? = some s) :
      AnswerRel p (.publish handle bytes) (.number (s.publish bytes).1) (p.put i (s.publish bytes).2)
  | publishPadded {handle i : Nat} {s : PlainSession} {src : Bytes} {stride : Nat}
      (leads : p.handles[handle]? = some i) (found : p.sessions[i]? = some s) :
      AnswerRel p (.publishPadded handle src stride)
        (.number (PlainTable.publishPadded src stride s).1)
        (p.put i (PlainTable.publishPadded src stride s).2)
  | takeSome {handle i : Nat} {s s' : PlainSession} {name : Option String} {f : Frame}
      (leads : p.handles[handle]? = some i) (found : p.sessions[i]? = some s)
      (taken : s.tryTake = (.ok (some f), s')) :
      AnswerRel p (.tryTake handle name) (.frame (.ok (some f))) ((p.put i s').keep name f)
  | takeNone {handle i : Nat} {s s' : PlainSession} {name : Option String}
      {result : Except HandoffError (Option Frame)} (leads : p.handles[handle]? = some i)
      (found : p.sessions[i]? = some s) (taken : s.tryTake = (result, s'))
      (nothing : ∀ f, result ≠ .ok (some f)) :
      AnswerRel p (.tryTake handle name) (.frame result) (p.put i s')
  | read {name : String} : AnswerRel p (.read name) (.frame (.ok (p.held.lookup name))) p
  | shareNone {name second : String} (absent : p.held.lookup name = none) :
      AnswerRel p (.share name second) (.wasHeld false) p
  | shareSome {name second : String} {f : Frame} (found : p.held.lookup name = some f) :
      AnswerRel p (.share name second) (.wasHeld true) (p.keep (some second) f)
  | release {name : String} :
      AnswerRel p (.release name) (.wasHeld (p.held.lookup name).isSome)
        { p with held := p.held.erase name }
  | stop {handle i : Nat} {s : PlainSession} (leads : p.handles[handle]? = some i)
      (found : p.sessions[i]? = some s) : AnswerRel p (.stop handle) .done (p.put i s.stop)
  | clone {handle i : Nat} (leads : p.handles[handle]? = some i) :
      AnswerRel p (.clone handle) (.number (.ok p.handles.length))
        { p with handles := p.handles ++ [i] }
  | startRefused {stream : StreamFormat} {e : HandoffError}
      (refused : PlainSession.start stream = .error (.refused e)) :
      AnswerRel p (.start stream) (.number (.error e)) p
  | start {stream : StreamFormat} {s : PlainSession} (started : PlainSession.start stream = .ok s) :
      AnswerRel p (.start stream) (.number (.ok p.handles.length))
        { p with sessions := p.sessions ++ [s], handles := p.handles ++ [p.sessions.length] }
  | inspect {handle : Nat} {s : PlainSession} (found : p.session? handle = some s) :
      AnswerRel p (.inspect handle) (.session s.view) p

theorem exists_of_withSession {handle : Nat} {α : Type} {f : PlainSession → α × PlainSession} {a : α}
    (result : p.withSession handle f = .ok (a, p')) :
    ∃ i s, p.handles[handle]? = some i ∧ p.sessions[i]? = some s ∧ a = (f s).1 ∧
      p' = p.put i (f s).2 := by
  unfold withSession at result
  split at result
  · next i s leads found =>
    obtain ⟨rfl, rfl⟩ := Prod.mk.inj (Except.ok.inj result)
    refine ⟨i, s, leads, ?_, rfl, rfl⟩
    simpa [session?, leads] using found
  · cases result

/-- Only what is done through a handle can fail before it is answered. -/
theorem exists_of_bind {handle : Nat} {α β : Type} {f : PlainSession → α × PlainSession}
    {next : α × PlainTable → Except Failure β} {b : β}
    (result : p.withSession handle f >>= next = .ok b) :
    ∃ i s, p.handles[handle]? = some i ∧ p.sessions[i]? = some s ∧
      next ((f s).1, p.put i (f s).2) = .ok b := by
  cases put : p.withSession handle f with
  | error failure =>
    rw [put] at result
    cases result
  | ok changed =>
    obtain ⟨a, p₁⟩ := changed
    obtain ⟨i, s, leads, found, rfl, rfl⟩ := exists_of_withSession put
    rw [put] at result
    exact ⟨i, s, leads, found, result⟩

theorem answerRel_of_step {request : Request} {answer : Answer}
    (result : p.step request = .ok (answer, p')) : p.AnswerRel request answer p' := by
  cases request with
  | publish handle bytes =>
    obtain ⟨i, s, leads, found, result⟩ := exists_of_bind result
    obtain ⟨rfl, rfl⟩ := Prod.mk.inj (Except.ok.inj result)
    exact .publish leads found
  | publishPadded handle src stride =>
    obtain ⟨i, s, leads, found, result⟩ := exists_of_bind result
    obtain ⟨rfl, rfl⟩ := Prod.mk.inj (Except.ok.inj result)
    exact .publishPadded leads found
  | tryTake handle name =>
    obtain ⟨i, s, leads, found, result⟩ := exists_of_bind result
    obtain ⟨taken, s', eq⟩ : ∃ taken s', s.tryTake = (taken, s') := ⟨_, _, rfl⟩
    rw [eq] at result
    rcases taken with refusal | ⟨- | f⟩
    · obtain ⟨rfl, rfl⟩ := Prod.mk.inj (Except.ok.inj result)
      exact .takeNone leads found eq (by simp)
    · obtain ⟨rfl, rfl⟩ := Prod.mk.inj (Except.ok.inj result)
      exact .takeNone leads found eq (by simp)
    · obtain ⟨rfl, rfl⟩ := Prod.mk.inj (Except.ok.inj result)
      exact .takeSome leads found eq
  | read name =>
    obtain ⟨rfl, rfl⟩ := Prod.mk.inj (Except.ok.inj result)
    exact .read
  | share name second =>
    simp only [step] at result
    split at result
    · next absent =>
      obtain ⟨rfl, rfl⟩ := Prod.mk.inj (Except.ok.inj result)
      exact .shareNone absent
    · next f found =>
      obtain ⟨rfl, rfl⟩ := Prod.mk.inj (Except.ok.inj result)
      exact .shareSome found
  | release name =>
    obtain ⟨rfl, rfl⟩ := Prod.mk.inj (Except.ok.inj result)
    exact .release
  | stop handle =>
    obtain ⟨i, s, leads, found, result⟩ := exists_of_bind result
    obtain ⟨rfl, rfl⟩ := Prod.mk.inj (Except.ok.inj result)
    exact .stop leads found
  | clone handle =>
    simp only [step] at result
    split at result
    · cases result
    · next i leads =>
      obtain ⟨rfl, rfl⟩ := Prod.mk.inj (Except.ok.inj result)
      exact .clone leads
  | start stream =>
    simp only [step] at result
    split at result
    · next e refused =>
      obtain ⟨rfl, rfl⟩ := Prod.mk.inj (Except.ok.inj result)
      exact .startRefused refused
    · cases result
    · next s started =>
      obtain ⟨rfl, rfl⟩ := Prod.mk.inj (Except.ok.inj result)
      exact .start started
  | inspect handle =>
    simp only [step] at result
    split at result
    · cases result
    · next s found =>
      obtain ⟨rfl, rfl⟩ := Prod.mk.inj (Except.ok.inj result)
      exact .inspect found

theorem withSession_of_leads {handle i : Nat} {s : PlainSession} (leads : p.handles[handle]? = some i)
    (found : p.sessions[i]? = some s) {α : Type} (f : PlainSession → α × PlainSession) :
    p.withSession handle f = .ok ((f s).1, p.put i (f s).2) := by
  have reached : p.session? handle = some s := by simp [session?, leads, found]
  unfold withSession
  rw [leads, reached]
  rfl

/-- Where nothing is missing, a request is answered. -/
theorem AnswerRel.step {request : Request} {answer : Answer} (h : p.AnswerRel request answer p') :
    p.step request = .ok (answer, p') := by
  cases h with
  | publish leads found | publishPadded leads found | stop leads found =>
    simp only [PlainTable.step, withSession_of_leads leads found]
    rfl
  | takeSome leads found taken =>
    simp only [PlainTable.step, withSession_of_leads leads found, taken]
    rfl
  | @takeNone handle i s s' name result leads found taken nothing =>
    simp only [PlainTable.step, withSession_of_leads leads found, taken]
    obtain refusal | ⟨- | f⟩ := result
    · rfl
    · rfl
    · exact absurd rfl (nothing f)
  | read | release => rfl
  | shareNone found | shareSome found => simp only [PlainTable.step, found]
  | clone leads => simp only [PlainTable.step, leads]
  | startRefused started | start started => simp only [PlainTable.step, started]
  | inspect found => simp only [PlainTable.step, found]

theorem step_tryTake_of_open {handle i : Nat} {s : PlainSession} (leads : p.handles[handle]? = some i)
    (found : p.sessions[i]? = some s) (isOpen : s.closed = false) (name : Option String) :
    ∃ p', p.step (.tryTake handle name) = .ok (.frame (.ok s.waiting), p') := by
  have taken : s.tryTake = (.ok s.waiting, s.tryTake.2) := Prod.ext (PlainSession.tryTake_of_open isOpen) rfl
  cases waiting : s.waiting with
  | none =>
    rw [waiting] at taken
    exact ⟨_, (AnswerRel.takeNone leads found taken (by simp)).step⟩
  | some f =>
    rw [waiting] at taken
    exact ⟨_, (AnswerRel.takeSome leads found taken).step⟩

theorem run_cons {request : Request} {rest : List Request} {answer : Answer} {answers : List Answer}
    {p₁ : PlainTable} (first : p.AnswerRel request answer p₁) (others : p₁.run rest = .ok (answers, p')) :
    p.run (request :: rest) = .ok (answer :: answers, p') := by
  simp only [run, first.step, bind, Except.bind, others]

theorem exists_of_run_cons {request : Request} {rest : List Request} {answers : List Answer}
    (result : p.run (request :: rest) = .ok (answers, p')) :
    ∃ answer p₁ answers', p.AnswerRel request answer p₁ ∧ p₁.run rest = .ok (answers', p') ∧
      answers = answer :: answers' := by
  simp only [run] at result
  cases first : p.step request with
  | error failure =>
    rw [first] at result
    cases result
  | ok one =>
    obtain ⟨answer, p₁⟩ := one
    rw [first] at result
    simp only [bind, Except.bind] at result
    cases others : p₁.run rest with
    | error failure =>
      rw [others] at result
      cases result
    | ok last =>
      obtain ⟨answers', p₂⟩ := last
      rw [others] at result
      obtain ⟨rfl, rfl⟩ := Prod.mk.inj (Except.ok.inj result)
      exact ⟨answer, p₁, answers', answerRel_of_step first, others, rfl⟩

/-! ## What stays -/

/-- Handles go on leading where they led, and sessions go on being of their streams. -/
structure Extension (p p' : PlainTable) : Prop where
  handles : ∀ {handle i : Nat}, p.handles[handle]? = some i → p'.handles[handle]? = some i
  sessions : ∀ {i : Nat} {s : PlainSession}, p.sessions[i]? = some s →
    ∃ s', p'.sessions[i]? = some s' ∧ s'.stream = s.stream

theorem Extension.refl (p : PlainTable) : p.Extension p :=
  ⟨id, fun found => ⟨_, found, rfl⟩⟩

theorem Extension.trans {p₁ : PlainTable} (h : p.Extension p₁) (h' : p₁.Extension p') : p.Extension p' where
  handles leads := h'.handles (h.handles leads)
  sessions found := by
    obtain ⟨s₁, found₁, eq₁⟩ := h.sessions found
    obtain ⟨s', found', eq'⟩ := h'.sessions found₁
    exact ⟨s', found', eq'.trans eq₁⟩

theorem Extension.length_le (h : p.Extension p') : p.sessions.length ≤ p'.sessions.length := by
  refine Nat.le_of_not_lt fun fewer => ?_
  obtain ⟨s', found', -⟩ := h.sessions (List.getElem?_eq_getElem fewer)
  rw [List.getElem?_eq_none (Nat.le_refl _)] at found'
  cases found'

/-- What a put session is found as. -/
theorem getElem?_put {i j : Nat} {s s₁ : PlainSession} (found : p.sessions[i]? = some s) :
    (p.put i s₁).sessions[j]? = if i = j then some s₁ else p.sessions[j]? := by
  obtain ⟨bound, -⟩ := List.getElem?_eq_some_iff.mp found
  rw [put, List.getElem?_set, if_pos bound]

theorem extension_put {i : Nat} {s s₁ : PlainSession} (found : p.sessions[i]? = some s)
    (same : s₁.stream = s.stream) : p.Extension (p.put i s₁) where
  handles leads := leads
  sessions {j t} found' := by
    rw [getElem?_put found]
    split
    · next eq =>
      subst eq
      obtain rfl := Option.some.inj (found.symm.trans found')
      exact ⟨s₁, rfl, same⟩
    · exact ⟨t, found', rfl⟩

theorem extension_append (sessions : List PlainSession) (handles : List Nat) :
    p.Extension { p with sessions := p.sessions ++ sessions, handles := p.handles ++ handles } where
  handles leads := by
    obtain ⟨bound, -⟩ := List.getElem?_eq_some_iff.mp leads
    rw [List.getElem?_append_left bound, leads]
  sessions found := by
    obtain ⟨bound, -⟩ := List.getElem?_eq_some_iff.mp found
    exact ⟨_, (List.getElem?_append_left bound).trans found, rfl⟩

theorem extension_keep (name : Option String) (f : Frame) : p.Extension (p.keep name f) := by
  cases name <;> exact ⟨id, fun found => ⟨_, found, rfl⟩⟩

theorem AnswerRel.extension {request : Request} {answer : Answer} (h : p.AnswerRel request answer p') :
    p.Extension p' := by
  cases h with
  | publish leads found => exact extension_put found (PlainSession.stream_publish ..)
  | publishPadded leads found => exact extension_put found (stream_publishPadded ..)
  | @takeSome _ _ s _ _ _ leads found taken =>
    have same := s.stream_take
    rw [taken] at same
    exact (extension_put found same).trans (extension_keep ..)
  | @takeNone _ _ s _ _ _ leads found taken =>
    have same := s.stream_take
    rw [taken] at same
    exact extension_put found same
  | shareSome found => exact extension_keep ..
  | stop leads found => exact extension_put found rfl
  | clone leads => simpa using p.extension_append [] [_]
  | start started => exact p.extension_append ..
  | _ => exact ⟨id, fun found => ⟨_, found, rfl⟩⟩

theorem extension_run {requests : List Request} {answers : List Answer}
    (result : p.run requests = .ok (answers, p')) : p.Extension p' := by
  induction requests generalizing p answers with
  | nil =>
    obtain ⟨-, rfl⟩ := Prod.mk.inj (Except.ok.inj result)
    exact .refl p
  | cons request rest ih =>
    obtain ⟨answer, p₁, answers', first, others, -⟩ := exists_of_run_cons result
    exact first.extension.trans (ih others)

end FramePipeline.PlainTable
