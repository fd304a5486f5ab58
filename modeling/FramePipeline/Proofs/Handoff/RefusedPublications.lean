import FramePipeline.Proofs.Handoff.SessionChanges

/-!
# Publications that are refused

A publication that is refused is counted, if its length was wrong, and does nothing else: neither the counter
nor the metrics are looked at by any request. So publications that are refused can be put anywhere between
the requests of a run, or left out, and all others are answered the same.

Main definitions: `Session.raise` (a session that has counted more mismatches), `FrameHandoff.IsBlind`,
`HandoffTable.raise`, `HandoffTable.Item` (a request, or a publication that was put in),
`HandoffTable.insertedMismatches`. Main statements: `HandoffTable.step_raise`,
`HandoffTable.publish_refused_unchanged`.
-/

namespace FramePipeline

/-! ## Handoffs -/

/-- The length was wrong. -/
def HandoffError.isMismatch : HandoffError → Bool
  | sizeMismatch .. => true
  | _ => false

/-- The session, had it counted `n` mismatches more. -/
def Session.raise (s : Session) (n : Nat) : Session :=
  { s with stats.sizeMismatches := s.stats.sizeMismatches + n }

theorem Session.raise_zero (s : Session) : s.raise 0 = s :=
  rfl

theorem Session.raise_raise (s : Session) (n k : Nat) : (s.raise n).raise k = s.raise (n + k) := by
  simp [raise, Nat.add_assoc]

namespace FrameHandoff

variable {c : FrameHandoff} {n : Nat} {metrics : Metrics}

/-- The handoff, had its session counted `n` mismatches more, with other metrics. -/
def raise (c : FrameHandoff) (n : Nat) (metrics : Metrics) : FrameHandoff :=
  { c with session := c.session.raise n, metrics }

/-- What is done does not depend on how many mismatches were counted, nor on the metrics. -/
def IsBlind {α : Type} (f : FrameHandoff → α × FrameHandoff) : Prop :=
  ∀ c n metrics, ∃ metrics', f (raise c n metrics) = ((f c).1, (f c).2.raise n metrics')

theorem copy_raise (c : FrameHandoff) (n : Nat) (metrics : Metrics) (spare : CellId) (bytes : Bytes)
    (number : Nat) :
    ∃ metrics', (c.raise n metrics).copy spare bytes number =
      ((c.copy spare bytes number).1, (c.copy spare bytes number).2.raise n metrics') := by
  by_cases own : c.pool.refs spare = 1
  · have own' : (c.raise n metrics).pool.refs spare = 1 := own
    rw [copy, copy, if_pos own, if_pos own']
    exact ⟨metrics, rfl⟩
  · have own' : (c.raise n metrics).pool.refs spare ≠ 1 := own
    rw [copy, copy, if_neg own, if_neg own']
    exact ⟨_, rfl⟩

theorem isBlind_fill (bytes : Bytes) : IsBlind (·.fill bytes) := by
  intro c n metrics
  cases there : c.session.spare with
  | none =>
    have there' : (c.raise n metrics).session.spare = none := there
    dsimp only [fill]
    rw [there, there']
    exact ⟨metrics, rfl⟩
  | some spare =>
    have there' : (c.raise n metrics).session.spare = some spare := there
    obtain ⟨metrics', copied⟩ := copy_raise
      { c with session.spare := none, session.sequence := c.session.sequence + 1 } n metrics spare bytes
        (c.session.sequence + 1)
    refine ⟨metrics', ?_⟩
    dsimp only [fill]
    rw [there, there']
    dsimp only [raise, Session.raise] at copied ⊢
    rw [copied]

theorem isBlind_install (fresh : CellId) : IsBlind (·.install fresh) := by
  intro c n metrics
  cases there : c.session.front with
  | none =>
    have there' : (c.raise n metrics).session.front = none := there
    dsimp only [install]
    rw [there, there']
    exact ⟨metrics, rfl⟩
  | some front =>
    have there' : (c.raise n metrics).session.front = some front := there
    dsimp only [install]
    rw [there, there']
    exact ⟨metrics, rfl⟩

theorem countMismatch_raise (c : FrameHandoff) (n : Nat) (metrics : Metrics) :
    (c.raise n metrics).countMismatch = c.countMismatch.raise n (metrics.count .sizeMismatches) := by
  simp only [countMismatch, raise, Session.raise, Nat.add_right_comm]

theorem isBlind_publish (bytes : Bytes) : IsBlind (·.publish bytes) := by
  intro c n metrics
  dsimp only [publish]
  have checked : (c.raise n metrics).check bytes.length = c.check bytes.length := rfl
  rw [checked, countMismatch_raise]
  split
  · exact ⟨metrics, rfl⟩
  · exact ⟨_, rfl⟩
  · obtain ⟨metrics₁, filled⟩ := isBlind_fill bytes c n metrics
    obtain ⟨⟨result, c₁⟩, fill_eq⟩ : ∃ p, c.fill bytes = p := ⟨_, rfl⟩
    simp only [fill_eq] at filled ⊢
    rw [filled]
    cases result with
    | error e => exact ⟨metrics₁, rfl⟩
    | ok copied =>
      obtain ⟨metrics₂, installed⟩ := isBlind_install copied.1 c₁ n metrics₁
      obtain ⟨⟨result', c₂⟩, install_eq⟩ : ∃ p, c₁.install copied.1 = p := ⟨_, rfl⟩
      simp only [install_eq] at installed ⊢
      rw [installed]
      cases result' with
      | error e => exact ⟨metrics₂, rfl⟩
      | ok previous =>
        dsimp only
        split
        · exact ⟨_, rfl⟩
        · exact ⟨_, rfl⟩

theorem isBlind_publishPadded (src : Bytes) (stride : Nat) :
    IsBlind (HandoffTable.publishPadded src stride) := by
  intro c n metrics
  unfold HandoffTable.publishPadded
  have stream : (c.raise n metrics).session.stream = c.session.stream := rfl
  rw [stream]
  split
  · exact ⟨metrics, rfl⟩
  · exact isBlind_publish _ c n metrics

theorem isBlind_tryTake : IsBlind (·.tryTake) := by
  intro c n metrics
  match there : c.session.front with
  | none =>
    have there' : (c.raise n metrics).session.front = none := there
    exact ⟨metrics, by simp only [tryTake, takeFront, there, there']⟩
  | some ⟨id, false⟩ =>
    have there' : (c.raise n metrics).session.front = some ⟨id, false⟩ := there
    exact ⟨metrics, by simp [tryTake, takeFront, there, there']⟩
  | some ⟨id, true⟩ =>
    have there' : (c.raise n metrics).session.front = some ⟨id, true⟩ := there
    exact ⟨metrics, by simp [tryTake, takeFront, there, there']; rfl⟩

theorem emptyFront_raise (c : FrameHandoff) (n : Nat) (metrics : Metrics) :
    (c.raise n metrics).emptyFront = c.emptyFront.raise n metrics := by
  cases there : c.session.front with
  | none =>
    have there' : (c.raise n metrics).session.front = none := there
    rw [emptyFront, emptyFront, there, there']
  | some front =>
    have there' : (c.raise n metrics).session.front = some front := there
    rw [emptyFront, emptyFront, there, there']
    rfl

theorem emptySpare_raise (c : FrameHandoff) (n : Nat) (metrics : Metrics) :
    (c.raise n metrics).emptySpare = c.emptySpare.raise n metrics := by
  cases there : c.session.spare with
  | none =>
    have there' : (c.raise n metrics).session.spare = none := there
    rw [emptySpare, emptySpare, there, there']
  | some spare =>
    have there' : (c.raise n metrics).session.spare = some spare := there
    rw [emptySpare, emptySpare, there, there']
    rfl

theorem isBlind_stop : IsBlind fun c => ((), c.stop) := by
  intro c n metrics
  refine ⟨metrics, Prod.ext rfl ?_⟩
  show (c.raise n metrics).stop = c.stop.raise n metrics
  have closes : (c.raise n metrics).close = (c.close.1, c.close.2.raise n metrics) := rfl
  obtain ⟨⟨was, c'⟩, close_eq⟩ : ∃ p, c.close = p := ⟨_, rfl⟩
  rw [close_eq] at closes
  unfold stop
  rw [closes, close_eq]
  cases was with
  | true => rfl
  | false =>
    show (c'.raise n metrics).emptyFront.emptySpare = c'.emptyFront.emptySpare.raise n metrics
    rw [emptyFront_raise, emptySpare_raise]

/-- A publication that is refused counts a mismatch, or nothing. -/
theorem publish_of_refused {others : List CellId} (sound : c.Sound others) {bytes : Bytes} {e : HandoffError}
    (refused : (c.publish bytes).1 = .error e) :
    ∃ metrics, (c.publish bytes).2 = c.raise e.isMismatch.toNat metrics := by
  cases closed : c.session.closed with
  | true =>
    rw [publish_of_closed closed] at refused ⊢
    obtain rfl := Except.error.inj refused
    exact ⟨c.metrics, rfl⟩
  | false =>
    by_cases fits : bytes.length = c.session.frameLen
    · obtain ⟨front, spare, fresh, c', published, -⟩ := publish_of_fits sound closed fits
      rw [published] at refused
      cases refused
    · rw [publish_of_mismatch closed fits] at refused ⊢
      obtain rfl := Except.error.inj refused
      exact ⟨_, rfl⟩

end FrameHandoff

/-! ## Tables -/

namespace HandoffTable

variable {e e' : HandoffTable} {extra : Nat → Nat} {metrics : Metrics}

/-- The table, had each session counted so many mismatches more, with other metrics. -/
def raise (e : HandoffTable) (extra : Nat → Nat) (metrics : Metrics) : HandoffTable :=
  { e with sessions := e.sessions.mapIdx fun i s => s.raise (extra i), metrics }

/-- The result comes with the raised table. -/
def raised {α : Type} (extra : Nat → Nat) (metrics : Metrics) (result : Except Failure (α × HandoffTable)) :
    Except Failure (α × HandoffTable) :=
  result.map fun (a, e) => (a, e.raise extra metrics)

theorem withHandoff_raise (e : HandoffTable) (extra : Nat → Nat) (metrics : Metrics) (handle : Nat) {α : Type}
    {f : FrameHandoff → α × FrameHandoff} (blind : FrameHandoff.IsBlind f) :
    ∃ metrics', (e.raise extra metrics).withHandoff handle f =
      raised extra metrics' (e.withHandoff handle f) := by
  unfold withHandoff
  cases leads : e.handles[handle]? with
  | none =>
    have nowhere : e.handoff? handle = none := by simp [handoff?, session?, leads]
    have nowhere' : (e.raise extra metrics).handoff? handle = none := by
      simp [handoff?, session?, raise, leads]
    rw [nowhere, nowhere']
    exact ⟨metrics, rfl⟩
  | some i =>
    cases found : e.sessions[i]? with
    | none =>
      have nowhere : e.handoff? handle = none := by simp [handoff?, session?, leads, found]
      have nowhere' : (e.raise extra metrics).handoff? handle = none := by
        simp [handoff?, session?, raise, leads, found]
      rw [nowhere, nowhere']
      exact ⟨metrics, rfl⟩
    | some s =>
      have there : e.handoff? handle = some ⟨s, e.pool, e.metrics⟩ := by
        simp [handoff?, session?, leads, found]
      have there' : (e.raise extra metrics).handoff? handle =
          some (FrameHandoff.raise ⟨s, e.pool, e.metrics⟩ (extra i) metrics) := by
        simp [handoff?, session?, raise, leads, found, FrameHandoff.raise]
      obtain ⟨metrics', result⟩ := blind ⟨s, e.pool, e.metrics⟩ (extra i) metrics
      refine ⟨metrics', ?_⟩
      rw [there, there']
      dsimp only
      rw [result]
      simp only [putHandoff, leads, raised, Except.map, raise, List.mapIdx_set, FrameHandoff.raise]

theorem bind_raise (e : HandoffTable) (extra : Nat → Nat) (metrics : Metrics) (handle : Nat) {α : Type}
    {f : FrameHandoff → α × FrameHandoff} (blind : FrameHandoff.IsBlind f) (answer : α → Answer) :
    ∃ metrics', (do let (a, e) ← (e.raise extra metrics).withHandoff handle f; .ok (answer a, e)) =
      raised extra metrics' (do let (a, e) ← e.withHandoff handle f; .ok (answer a, e)) := by
  obtain ⟨metrics', result⟩ := e.withHandoff_raise extra metrics handle blind
  refine ⟨metrics', ?_⟩
  rw [result]
  cases e.withHandoff handle f <;> rfl

theorem releaseName_raise (e : HandoffTable) (extra : Nat → Nat) (metrics : Metrics) (name : String) :
    (e.raise extra metrics).releaseName name = (e.releaseName name).raise extra metrics := by
  have held : (e.raise extra metrics).held.lookup name = e.held.lookup name := rfl
  unfold releaseName
  rw [held]
  cases e.held.lookup name <;> rfl

theorem hold_raise (e : HandoffTable) (extra : Nat → Nat) (metrics : Metrics) (name : String) (id : CellId) :
    (e.raise extra metrics).hold name id = (e.hold name id).raise extra metrics := by
  unfold hold
  rw [releaseName_raise]
  rfl

theorem keep_raise (e : HandoffTable) (extra : Nat → Nat) (metrics : Metrics) (name : Option String)
    (id : CellId) : (e.raise extra metrics).keep name id = (e.keep name id).raise extra metrics := by
  cases name with
  | none => rfl
  | some name => exact hold_raise e extra metrics name id

theorem tryTake_raise (e : HandoffTable) (extra : Nat → Nat) (metrics : Metrics) (handle : Nat)
    (name : Option String) :
    ∃ metrics', (e.raise extra metrics).step (.tryTake handle name) =
      raised extra metrics' (e.step (.tryTake handle name)) := by
  obtain ⟨metrics', result⟩ := e.withHandoff_raise extra metrics handle FrameHandoff.isBlind_tryTake
  refine ⟨metrics', ?_⟩
  simp only [step]
  rw [result]
  cases e.withHandoff handle (·.tryTake) with
  | error failure => rfl
  | ok taken =>
    obtain ⟨refusal | ⟨- | id⟩, e'⟩ := taken
    · rfl
    · rfl
    · show Except.ok (Answer.frame (.ok (e'.pool.frame? id)), (e'.raise extra metrics').keep name id) = _
      rw [keep_raise]
      rfl

theorem start_raise (e : HandoffTable) (extra : Nat → Nat) (metrics : Metrics) (stream : StreamFormat)
    (unborn : ∀ i, e.sessions.length ≤ i → extra i = 0) :
    (e.raise extra metrics).step (.start stream) = raised extra metrics (e.step (.start stream)) := by
  have pool : (e.raise extra metrics).pool = e.pool := rfl
  simp only [step, pool]
  cases Session.start stream e.pool with
  | error refusal => cases refusal <;> rfl
  | ok result =>
    obtain ⟨s, pool'⟩ := result
    simp only [raised, Except.map, raise, List.mapIdx_concat, List.length_mapIdx,
      unborn _ (Nat.le_refl _), Session.raise_zero]

/-- Every request is answered as it was, and leaves the sessions as they would be. -/
theorem step_raise (e : HandoffTable) (extra : Nat → Nat) (metrics : Metrics) (request : Request)
    (unborn : ∀ i, e.sessions.length ≤ i → extra i = 0) :
    ∃ metrics', (e.raise extra metrics).step request = raised extra metrics' (e.step request) := by
  cases request with
  | publish handle bytes =>
    exact bind_raise e extra metrics handle (FrameHandoff.isBlind_publish bytes) .number
  | publishPadded handle src stride =>
    exact bind_raise e extra metrics handle (FrameHandoff.isBlind_publishPadded src stride) .number
  | tryTake handle name => exact tryTake_raise e extra metrics handle name
  | read name => exact ⟨metrics, rfl⟩
  | share name second =>
    refine ⟨metrics, ?_⟩
    have held : (e.raise extra metrics).held.lookup name = e.held.lookup name := rfl
    simp only [step, held]
    cases e.held.lookup name with
    | none => rfl
    | some id =>
      have retained := hold_raise { e with pool := e.pool.retain id } extra metrics second id
      exact congrArg (fun e => Except.ok (Answer.wasHeld true, e)) retained
  | release name =>
    refine ⟨metrics, ?_⟩
    simp only [step, releaseName_raise]
    rfl
  | stop handle => exact bind_raise e extra metrics handle FrameHandoff.isBlind_stop fun _ => .done
  | clone handle =>
    refine ⟨metrics, ?_⟩
    have handles : (e.raise extra metrics).handles = e.handles := rfl
    simp only [step, handles]
    cases e.handles[handle]? <;> rfl
  | start stream => exact ⟨metrics, start_raise e extra metrics stream unborn⟩
  | inspect handle =>
    refine ⟨metrics, ?_⟩
    simp only [step, session?, raise]
    cases leads : e.handles[handle]? with
    | none => rfl
    | some i => cases found : e.sessions[i]? <;> simp [found] <;> rfl

theorem raise_raise (e : HandoffTable) (extra extra' : Nat → Nat) (metrics metrics' : Metrics) :
    (e.raise extra metrics).raise extra' metrics' = e.raise (fun i => extra i + extra' i) metrics' := by
  simp only [raise, List.mapIdx_mapIdx, Function.comp_def, Session.raise_raise]

/-! ## Refused publications -/

/-- To raise the count of one session is to raise those of all others by nothing. -/
theorem mapIdx_raise (before after : List Session) (s : Session) (n : Nat) :
    (before ++ s :: after).mapIdx (fun i s => s.raise (if i = before.length then n else 0)) =
      before ++ s.raise n :: after := by
  refine List.ext_getElem? fun i => ?_
  rw [List.getElem?_mapIdx]
  obtain lt | rfl | gt := Nat.lt_trichotomy i before.length
  · rw [List.getElem?_append_left lt, List.getElem?_append_left lt, if_neg (Nat.ne_of_lt lt)]
    cases before[i]? <;> rfl
  · simp
  · obtain ⟨j, rfl⟩ := Nat.exists_eq_add_of_lt gt
    rw [if_neg (Nat.ne_of_gt gt), List.getElem?_append_right (Nat.le_of_lt gt),
      List.getElem?_append_right (Nat.le_of_lt gt)]
    have index : before.length + j + 1 - before.length = j + 1 := by omega
    rw [index, List.getElem?_cons_succ, List.getElem?_cons_succ]
    cases after[j]? <;> rfl

/-- A publication that is refused raises the count of one session, or none. -/
theorem step_publish_of_refused {p : PlainTable} (r : RefinementRel e p []) {handle : Nat} {bytes : Bytes}
    {error : HandoffError} (result : e.step (.publish handle bytes) = .ok (.number (.error error), e')) :
    ∃ i metrics, e.handles[handle]? = some i ∧ i < e.sessions.length ∧
      e' = e.raise (fun j => if j = i then error.isMismatch.toNat else 0) metrics := by
  simp only [step] at result
  obtain ⟨nowhere, -⟩ | ⟨before, s, after, leads, eq⟩ := r.reach handle
  · rw [RefinementRel.withHandoff_of_none nowhere] at result
    cases result
  · obtain ⟨⟨answer, c⟩, published⟩ : ∃ q, (⟨s, e.pool, e.metrics⟩ : FrameHandoff).publish bytes = q :=
      ⟨_, rfl⟩
    rw [RefinementRel.withHandoff_of_some leads eq published] at result
    obtain ⟨same, rfl⟩ := Prod.mk.inj (Except.ok.inj result)
    obtain rfl := Answer.number.inj same
    obtain ⟨metrics, raised⟩ :=
      FrameHandoff.publish_of_refused (r.sound_handoff eq) (congrArg Prod.fst published)
    rw [published] at raised
    obtain rfl : c = FrameHandoff.raise ⟨s, e.pool, e.metrics⟩ error.isMismatch.toNat metrics := raised
    refine ⟨before.length, metrics, leads, by simp [eq], ?_⟩
    rw [raise, eq, mapIdx_raise]
    rfl

/-- A request of a run, or a publication that is inserted. -/
inductive Item where
  | asked (request : Request)
  | inserted (handle : Nat) (bytes : Bytes)
  deriving DecidableEq, Repr

namespace Item

/-- The request that is made. -/
def request : Item → Request
  | asked request => request
  | inserted handle bytes => .publish handle bytes

/-- The request, if it was not inserted. -/
def asked? : Item → Option Request
  | asked request => some request
  | inserted .. => none

/-- The answer, if the request was not inserted. -/
def answer? : Item → Answer → Option Answer
  | asked _, answer => some answer
  | inserted .., _ => none

/-- An inserted publication is refused. -/
def admits : Item → Answer → Bool
  | inserted .., .number (.error _) => true
  | inserted .., _ => false
  | asked _, _ => true

/-- An inserted publication is answered that its length is wrong for session `i`. -/
def isMismatch (handles : List Nat) (i : Nat) : Item → Answer → Bool
  | inserted handle _, .number (.error e) => decide (handles[handle]? = some i) && e.isMismatch
  | _, _ => false

end Item

/-- The answers to the requests that were not inserted. -/
def askedAnswers (items : List Item) (answers : List Answer) : List Answer :=
  (items.zip answers).filterMap fun (item, answer) => item.answer? answer

/-- How many inserted publications are answered that their length is wrong for session `i`. -/
def insertedMismatches (handles : List Nat) (i : Nat) (items : List Item) (answers : List Answer) : Nat :=
  (items.zip answers).countP fun (item, answer) => item.isMismatch handles i answer

/-- Every inserted publication is refused. -/
def InsertedRefused (items : List Item) (answers : List Answer) : Prop :=
  ∀ x ∈ items.zip answers, x.1.admits x.2 = true

instance (items : List Item) (answers : List Answer) : Decidable (InsertedRefused items answers) :=
  inferInstanceAs (Decidable (∀ x ∈ items.zip answers, x.1.admits x.2 = true))

theorem InsertedRefused.head {handle : Nat} {bytes : Bytes} {items : List Item} {answer : Answer}
    {answers : List Answer} (h : InsertedRefused (.inserted handle bytes :: items) (answer :: answers)) :
    ∃ error, answer = .number (.error error) := by
  have admitted : (Item.inserted handle bytes).admits answer = true :=
    h (.inserted handle bytes, answer) (List.mem_cons_self ..)
  cases answer with
  | number result =>
    cases result with
    | error error => exact ⟨error, rfl⟩
    | ok => cases admitted
  | _ => cases admitted

theorem InsertedRefused.tail {item : Item} {items : List Item} {answer : Answer} {answers : List Answer}
    (h : InsertedRefused (item :: items) (answer :: answers)) : InsertedRefused items answers :=
  fun x mem => h x (List.mem_cons_of_mem _ mem)

theorem insertedMismatches_asked (handles : List Nat) (i : Nat) (request : Request) (items : List Item)
    (answer : Answer) (answers : List Answer) :
    insertedMismatches handles i (.asked request :: items) (answer :: answers) =
      insertedMismatches handles i items answers :=
  List.countP_cons_of_neg Bool.false_ne_true

theorem insertedMismatches_inserted {handles : List Nat} {handle j : Nat}
    (leads : handles[handle]? = some j) (i : Nat) (bytes : Bytes) (items : List Item) (error : HandoffError)
    (answers : List Answer) :
    insertedMismatches handles i (.inserted handle bytes :: items) (.number (.error error) :: answers) =
      (if i = j then error.isMismatch.toNat else 0) + insertedMismatches handles i items answers := by
  have flag : Item.isMismatch handles i (.inserted handle bytes) (.number (.error error)) =
      (decide (i = j) && error.isMismatch) := by
    simp only [Item.isMismatch, leads, Option.some.injEq, eq_comm]
  unfold insertedMismatches
  rw [List.zip_cons_cons, List.countP_cons, Nat.add_comm]
  simp only [flag]
  by_cases same : i = j
  · cases error.isMismatch <;> simp [same]
  · simp [same]

/-- Without what was inserted, the run comes to the same, but for the counts. -/
theorem run_asked {p : PlainTable} {items : List Item} {answers : List Answer} {e final : HandoffTable}
    {extra : Nat → Nat} {metrics : Metrics} (r : RefinementRel (e.raise extra metrics) p [])
    (unborn : ∀ i, e.sessions.length ≤ i → extra i = 0)
    (result : (e.raise extra metrics).run (items.map Item.request) = .ok (answers, final))
    (refused : InsertedRefused items answers) :
    ∃ e' metrics', e.run (items.filterMap Item.asked?) = .ok (askedAnswers items answers, e') ∧
      final = e'.raise (fun i => extra i + insertedMismatches final.handles i items answers) metrics' := by
  induction items generalizing p answers e extra metrics with
  | nil =>
    obtain ⟨rfl, rfl⟩ := Prod.mk.inj (Except.ok.inj result)
    exact ⟨e, metrics, rfl, rfl⟩
  | cons item rest ih =>
    obtain ⟨answer, wide, answers', first, others, rfl⟩ := exists_of_run_cons result
    obtain ⟨p₁, plainly, r₁⟩ := (step_refines r item.request).of_ok first
    have keeps := (PlainTable.answerRel_of_step plainly).extension
    cases item with
    | asked request =>
      obtain ⟨metrics₁, law⟩ := e.step_raise extra metrics request unborn
      have first : (e.raise extra metrics).step request = .ok (answer, wide) := first
      rw [law] at first
      cases step : e.step request with
      | error failure =>
        rw [step] at first
        cases first
      | ok narrow =>
        obtain ⟨answer₁, e₁⟩ := narrow
        rw [step] at first
        obtain ⟨rfl, rfl⟩ := Prod.mk.inj (Except.ok.inj first)
        have longer : e.sessions.length ≤ e₁.sessions.length := by
          have le := keeps.length_le
          rw [r.sessions_eq, r₁.sessions_eq] at le
          simpa [raise] using le
        obtain ⟨e', metrics', ran, final_eq⟩ :=
          ih r₁ (fun i beyond => unborn i (Nat.le_trans longer beyond)) others refused.tail
        refine ⟨e', metrics', run_cons step ran, ?_⟩
        simp only [insertedMismatches_asked]
        exact final_eq
    | inserted handle bytes =>
      obtain ⟨error, rfl⟩ := refused.head
      obtain ⟨i, metrics₁, leads, bound, rfl⟩ := step_publish_of_refused r first
      rw [raise_raise] at others r₁
      have bound : i < e.sessions.length := by simpa [raise] using bound
      have leads' : final.handles[handle]? = some i := by
        obtain ⟨p', plainly', r'⟩ := (run_refines r₁ _).of_ok others
        rw [← r'.handles_eq]
        refine (PlainTable.extension_run plainly').handles ?_
        rw [r₁.handles_eq]
        exact leads
      obtain ⟨e', metrics', ran, final_eq⟩ := ih r₁ (fun j beyond => by
        rw [unborn j beyond, if_neg (by omega)]) others refused.tail
      refine ⟨e', metrics', ran, ?_⟩
      simp only [insertedMismatches_inserted leads', ← Nat.add_assoc]
      exact final_eq

/-! ## Main statement -/

/-- **Refused publications change nothing.** In a run into which publications were inserted that are all
refused, every other request is answered as it is in the run without them. In the end the same frames are in
the same buffers, the same are held, and the sessions are the same but for the mismatches they counted, which
are more by those among the inserted publications. A publication to a stopped session is not even counted,
whatever its length. -/
theorem publish_refused_unchanged {items : List Item} {answers : List Answer}
    (result : run {} (items.map Item.request) = .ok (answers, e)) (refused : InsertedRefused items answers) :
    (∃ e', run {} (items.filterMap Item.asked?) = .ok (askedAnswers items answers, e') ∧
      e'.pool = e.pool ∧ e'.handles = e.handles ∧ e'.held = e.held ∧
      e'.sessions.length = e.sessions.length ∧
      ∀ (i : Nat) (s' : Session), e'.sessions[i]? = some s' →
        e.sessions[i]? = some (s'.raise (insertedMismatches e.handles i items answers))) ∧
    ∀ handle i s bytes, e.handles[handle]? = some i → e.sessions[i]? = some s → s.closed = true →
      e.step (.publish handle bytes) = .ok (.number (.error .sessionClosed), e) := by
  refine ⟨?_, fun handle i s bytes leads found closed => step_publish_of_closed leads found closed bytes⟩
  have start : RefinementRel (raise {} (fun _ => 0) []) {} [] := refines_empty
  obtain ⟨e', metrics, ran, final_eq⟩ := run_asked start (fun _ _ => rfl) result refused
  have sessions : e.sessions =
      e'.sessions.mapIdx fun i s => s.raise (insertedMismatches e.handles i items answers) := by
    simpa [raise] using congrArg HandoffTable.sessions final_eq
  refine ⟨e', ran, ?_, ?_, ?_, ?_, fun i s' found => ?_⟩
  · rw [final_eq]
    rfl
  · rw [final_eq]
    rfl
  · rw [final_eq]
    rfl
  · rw [sessions, List.length_mapIdx]
  · rw [sessions, List.getElem?_mapIdx, found]
    rfl

/-- A frame is held while others are published, with two publications of a wrong length between them and two
more after the session is stopped. -/
theorem publish_refused_unchanged_between :
    let items : List Item :=
      [.asked (.start ⟨2, 1, .gray8⟩), .asked (.publish 0 [1, 1]), .inserted 0 [9],
        .asked (.tryTake 0 (some "first")), .asked (.publish 0 [2, 2]), .inserted 0 [1, 2, 3],
        .asked (.publish 0 [3, 3]), .asked (.stop 0), .inserted 0 [4], .inserted 0 [5, 5],
        .asked (.read "first")]
    ∃ answers e e' s, run {} (items.map Item.request) = .ok (answers, e) ∧ InsertedRefused items answers ∧
      run {} (items.filterMap Item.asked?) = .ok (askedAnswers items answers, e') ∧
      e'.sessions[0]? = some s ∧ s.stats.reallocations = 1 ∧ s.stats.sizeMismatches = 0 ∧
      e.sessions[0]? = some (s.raise 2) ∧
      e.step (.publish 0 [6]) = .ok (.number (.error .sessionClosed), e) := by
  intro items
  obtain ⟨answers, e, result, refused, mismatches, s₁, there, closed, leads⟩ : ∃ answers e,
      run {} (items.map Item.request) = .ok (answers, e) ∧ InsertedRefused items answers ∧
      insertedMismatches e.handles 0 items answers = 2 ∧ ∃ s₁, e.sessions[0]? = some s₁ ∧
      s₁.closed = true ∧ e.handles[0]? = some 0 :=
    ⟨_, _, rfl, by decide, rfl, _, rfl, rfl, rfl⟩
  obtain ⟨answers', e', s, result', found, reallocations, none⟩ : ∃ answers' e' s,
      run {} (items.filterMap Item.asked?) = .ok (answers', e') ∧ e'.sessions[0]? = some s ∧
      s.stats.reallocations = 1 ∧ s.stats.sizeMismatches = 0 := ⟨_, _, _, rfl, rfl, rfl, rfl⟩
  obtain ⟨⟨e₁, ran, -, -, -, -, raised⟩, later⟩ := publish_refused_unchanged result refused
  obtain ⟨rfl, rfl⟩ := Prod.mk.inj (Except.ok.inj (result'.symm.trans ran))
  have counted := raised 0 s found
  rw [mismatches] at counted
  exact ⟨answers, e, e', s, result, refused, ran, found, reallocations, none, counted,
    later 0 0 s₁ [6] leads there closed⟩

end HandoffTable

end FramePipeline
