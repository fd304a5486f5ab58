import Mathlib.Data.List.Nodup
import FramePipeline.Proofs.Handoff.ManySessions

/-!
# When a publication needs a new buffer

The two buffers of a session change places with every publication, so the spare one is at all times the
buffer of the publication before the latest one. The next publication is copied into it, unless somebody
still holds the frame that it contains; then a new buffer takes its place, and the session counts a
reallocation. Here the cells that are held are told apart by the publications in them: which publication is
held under which name can be read off the requests and answers alone, without any buffers.

Main definitions: `Publication`, `HandoffTable.holdings` (the publications that are held after a run),
`Session.BufferRel` (what an operation does to the two buffers), `HandoffTable.IsAt` (a cell has a publication
in it), `HandoffTable.HoldingsInv` (the invariant). Main statement: `HandoffTable.publish_reallocates_iff`.
-/

namespace FramePipeline

open SlotEvent (takings)

/-! ## What is held -/

/-- A publication: the session that made it, and its number. -/
structure Publication where
  session : Nat
  number : Nat
  deriving DecidableEq, Repr

namespace HandoffTable

/-- What is held under each name once a request is answered. -/
def Request.holdings (handles : List Nat) (held : Entries Publication) :
    Request → Answer → Entries Publication
  | tryTake handle (some name), .frame (.ok (some f)) =>
    match handles[handle]? with
    | some i => held.put name ⟨i, f.sequence⟩
    | none => held
  | share name second, _ =>
    match held.lookup name with
    | some q => held.put second q
    | none => held
  | release name, _ => held.erase name
  | _, _ => held

/-- What is held under each name once requests are answered. -/
def holdings (handles : List Nat) (held : Entries Publication) (requests : List Request)
    (answers : List Answer) : Entries Publication :=
  (requests.zip answers).foldl (fun held (request, answer) => request.holdings handles held answer) held

theorem holdings_cons (handles : List Nat) (held : Entries Publication) (request : Request)
    (requests : List Request) (answer : Answer) (answers : List Answer) :
    holdings handles held (request :: requests) (answer :: answers) =
      holdings handles (request.holdings handles held answer) requests answers :=
  rfl

end HandoffTable

/-! ## What becomes of the two buffers -/

namespace Session

/-- What an operation does to the buffers of a session, and whether it counts a reallocation. The number is
that of a publication, if one was made. -/
inductive BufferRel (s : Session) (p : Pool) (s' : Session) : Option Nat → Prop
  /-- The buffers stay where they are. -/
  | stays (front_eq : s'.front.map (·.current) = s.front.map (·.current)) (spare_eq : s'.spare = s.spare)
      (sequence_eq : s'.sequence = s.sequence)
      (reallocations_eq : s'.stats.reallocations = s.stats.reallocations) : BufferRel s p s' none
  /-- A publication is copied into the spare buffer, or into a new one if somebody else refers to that. Then
  the buffers change places. -/
  | publishes {front : Front} {spare fresh : CellId} (front_was : s.front = some front)
      (spare_was : s.spare = some spare) (fresh_eq : fresh = if p.refs spare = 1 then spare else p.size)
      (front_eq : s'.front = some ⟨fresh, true⟩) (spare_eq : s'.spare = some front.current)
      (sequence_eq : s'.sequence = s.sequence + 1)
      (reallocations_eq : s'.stats.reallocations =
        s.stats.reallocations + if p.refs spare = 1 then 0 else 1) :
      BufferRel s p s' (some (s.sequence + 1))
  /-- Both buffers are given up. -/
  | stops (front_eq : s'.front = none) (spare_eq : s'.spare = none) (sequence_eq : s'.sequence = s.sequence)
      (reallocations_eq : s'.stats.reallocations = s.stats.reallocations) : BufferRel s p s' none

theorem BufferRel.refl (s : Session) (p : Pool) : s.BufferRel p s none :=
  .stays rfl rfl rfl rfl

/-- A publication has the next number, and counts a reallocation if the spare buffer is in use. -/
theorem BufferRel.of_some {s s' : Session} {p : Pool} {n : Nat} (turns : s.BufferRel p s' (some n)) :
    n = s.sequence + 1 ∧ ∃ spare, s.spare = some spare ∧
      s'.stats.reallocations = s.stats.reallocations + if p.refs spare = 1 then 0 else 1 := by
  cases turns with
  | publishes _ spare_was _ _ _ _ reallocations_eq => exact ⟨rfl, _, spare_was, reallocations_eq⟩

/-- Only publications are numbered, and only they count reallocations. -/
theorem BufferRel.of_none {s s' : Session} {p : Pool} (turns : s.BufferRel p s' none) :
    s'.sequence = s.sequence ∧ s'.stats.reallocations = s.stats.reallocations := by
  cases turns with
  | stays _ _ sequence_eq reallocations_eq | stops _ _ sequence_eq reallocations_eq =>
    exact ⟨sequence_eq, reallocations_eq⟩

end Session

namespace FrameHandoff

variable {c : FrameHandoff} {others : List CellId}

/-- The buffer that the consumer sees after a publication. -/
theorem front_publish {bytes : Bytes} {front : Session.Front} {spare : CellId}
    (isOpen : c.session.closed = false) (len : bytes.length = c.session.frameLen)
    (hfront : c.session.front = some front) (hspare : c.session.spare = some spare) :
    (c.publish bytes).2.session.front =
      some ⟨if c.pool.refs spare = 1 then spare else c.pool.size, true⟩ := by
  by_cases one : c.pool.refs spare = 1 <;> cases ready : front.ready <;>
    simp [publish, check, isOpen, len, fill, hspare, copy, one, Pool.alloc, countReallocation, install,
      hfront, returnSpare, countPublished, ready, countDropped]

theorem bufferRel_publish (sound : c.Sound others) (bytes : Bytes) :
    c.session.BufferRel c.pool (c.publish bytes).2.session (c.publish bytes).1.toOption := by
  cases isOpen : c.session.closed with
  | true =>
    rw [publish_of_closed isOpen]
    exact .refl ..
  | false =>
    by_cases len : bytes.length = c.session.frameLen
    · obtain ⟨front, spare, fresh, c', eq, into⟩ := publish_of_fits sound isOpen len
      have shown := front_publish isOpen len into.front_eq into.spare_eq
      rw [eq] at shown ⊢
      have session_eq := into.session_eq
      have fresh_eq : fresh = if c.pool.refs spare = 1 then spare else c.pool.size := by
        rw [session_eq] at shown
        exact congrArg Session.Front.current (Option.some.inj shown)
      refine .publishes into.front_eq into.spare_eq fresh_eq ?_ ?_ ?_ ?_ <;> rw [session_eq]
    · rw [publish_of_mismatch isOpen len]
      exact .stays rfl rfl rfl rfl

theorem bufferRel_publishPadded (sound : c.Sound others) (src : Bytes) (stride : Nat) :
    c.session.BufferRel c.pool (HandoffTable.publishPadded src stride c).2.session
      (HandoffTable.publishPadded src stride c).1.toOption := by
  unfold HandoffTable.publishPadded
  split
  · exact .refl ..
  · exact bufferRel_publish sound _

theorem bufferRel_stop (sound : c.Sound others) : c.session.BufferRel c.pool c.stop.session none := by
  obtain ⟨closed, -, -⟩ | ⟨front, spare, isOpen, hfront, hspare⟩ := sound.session.sides
  · rw [stop_of_closed closed]
    exact .refl ..
  · have eq : c.stop.session = { c.session with closed := true, front := none, spare := none } := by
      simp [stop, close, isOpen, emptyFront, emptySpare, hfront, hspare]
    rw [eq]
    exact .stops rfl rfl rfl rfl

/-- A take leaves the buffers, and gives the front one if there is a frame that waits. -/
theorem bufferRel_tryTake (sound : c.Sound others) :
    c.session.BufferRel c.pool c.tryTake.2.session none ∧
      ∀ id, c.tryTake.1 = .ok (some id) → ∃ f, c.session.closed = false ∧ c.plain.waiting = some f ∧
        c.tryTake.2.session.front = some ⟨id, false⟩ ∧ c.tryTake.2.pool.frame? id = some f := by
  obtain ⟨hfront, -, -⟩ | ⟨id, hfront, -, -⟩ | ⟨id, f, hfront, isOpen, waiting⟩ := sound.front_cases
  · simp [tryTake, takeFront, hfront, Session.BufferRel.refl]
  · simp [tryTake, takeFront, hfront, Session.BufferRel.refl]
  · have eq : c.tryTake = (.ok (some id),
        { c with session.front := some ⟨id, false⟩, pool := c.pool.retain id }.countTaken) := by
      simp [tryTake, takeFront, hfront]
    have frame : c.pool.frame? id = some f := by
      simpa [plain, Session.plain, Session.waiting, hfront] using waiting
    rw [eq]
    refine ⟨.stays (by rw [hfront]; rfl) rfl rfl rfl, fun other same => ?_⟩
    obtain rfl : id = other := Option.some.inj (Except.ok.inj same)
    exact ⟨f, isOpen, waiting, rfl, (Pool.frame?_retain ..).trans frame⟩

end FrameHandoff

/-! ## Where publications are -/

/-- Whether a cell is one of the buffers of session `i` says whether a publication is one of its last two:
the publication that is in the cell. -/
structure Session.LocationInv (s : Session) (i : Nat) (id : CellId) (q : Publication) : Prop where
  front_iff : ∀ {front}, s.front = some front → (id = front.current ↔ q.session = i ∧ q.number = s.sequence)
  spare_iff : ∀ {spare}, s.spare = some spare → (id = spare ↔ q.session = i ∧ q.number + 1 = s.sequence)

/-- What is held stays where it is when the buffers change places. -/
theorem Session.LocationInv.turn {s s' : Session} {i : Nat} {id : CellId} {q : Publication} {p : Pool}
    {number : Option Nat} (h : s.LocationInv i id q) (turns : s.BufferRel p s' number)
    (other : ∀ {spare}, s.spare = some spare → id ≠ if p.refs spare = 1 then spare else p.size)
    (made : q.session = i → q.number ≤ s.sequence) : s'.LocationInv i id q := by
  cases turns with
  | stays front_eq spare_eq sequence_eq =>
    refine ⟨fun {front'} hfront' => ?_, fun hspare' => ?_⟩
    · rw [hfront'] at front_eq
      obtain ⟨front, hfront, same⟩ := Option.map_eq_some_iff.mp front_eq.symm
      have current_eq : front'.current = front.current := same.symm
      rw [sequence_eq, current_eq]
      exact h.front_iff hfront
    · rw [sequence_eq]
      exact h.spare_iff (spare_eq.symm.trans hspare')
  | publishes front_was spare_was fresh_eq front_eq spare_eq sequence_eq =>
    refine ⟨fun hfront' => ?_, fun hspare' => ?_⟩
    · -- the latest publication is held by nobody yet
      obtain rfl := Option.some.inj (front_eq.symm.trans hfront')
      refine iff_of_false (fresh_eq ▸ other spare_was) fun ⟨here, latest⟩ => ?_
      have le := made here
      omega
    · obtain rfl := Option.some.inj (spare_eq.symm.trans hspare')
      rw [sequence_eq, Nat.succ_inj]
      exact h.front_iff front_was
  | stops front_eq spare_eq =>
    refine ⟨fun hfront' => ?_, fun hspare' => ?_⟩
    · cases front_eq.symm.trans hfront'
    · cases spare_eq.symm.trans hspare'

namespace HandoffTable

variable {e e' : HandoffTable} {p : PlainTable} {sessions : List Session} {s s' t : Session}
  {i j : Nat} {id : CellId} {q : Publication} {number : Option Nat} {held : Entries Publication}
  {request : Request} {requests : List Request} {answer : Answer} {answers : List Answer}

/-- A publication was made, and is in a cell. -/
structure IsAt (sessions : List Session) (id : CellId) (q : Publication) : Prop where
  made : ∃ s, sessions[q.session]? = some s ∧ 0 < q.number ∧ q.number ≤ s.sequence
  located : ∀ {i : Nat} {s : Session}, sessions[i]? = some s → s.LocationInv i id q

/-- The publications that are held are in the cells that are held, name by name, and no two buffers of
sessions are in one cell. -/
structure HoldingsInv (e : HandoffTable) (held : Entries Publication) : Prop where
  apart : (e.sessions.flatMap (·.buffers)).Nodup
  names : (held.map (·.1)).Nodup
  holds : ∀ name, Option.Rel (IsAt e.sessions) (e.held.lookup name) (held.lookup name)

/-! ### Buffers are apart -/

theorem eq_of_mem_buffers (apart : (sessions.flatMap (·.buffers)).Nodup) (found : sessions[i]? = some s)
    (found' : sessions[j]? = some t) (mem : id ∈ s.buffers) (mem' : id ∈ t.buffers) : i = j := by
  obtain ⟨-, disjoint⟩ := List.nodup_flatMap.mp apart
  obtain ⟨bound, rfl⟩ := List.getElem?_eq_some_iff.mp found
  obtain ⟨bound', rfl⟩ := List.getElem?_eq_some_iff.mp found'
  rw [List.pairwise_iff_getElem] at disjoint
  obtain before | same | after := Nat.lt_trichotomy i j
  · exact absurd mem' (disjoint i j bound bound' before mem)
  · exact same
  · exact absurd mem (disjoint j i bound' bound after mem')

theorem count_buffers_set (found : sessions[i]? = some s) (s' : Session) (id : CellId) :
    ((sessions.set i s').flatMap (·.buffers)).count id + s.buffers.count id =
      (sessions.flatMap (·.buffers)).count id + s'.buffers.count id := by
  rw [List.count_flatMap, List.count_flatMap]
  exact sum_set found s' fun t => t.buffers.count id

/-- The latest publication is in the front buffer. -/
theorem isAt_front {front : Session.Front} (apart : (sessions.flatMap (·.buffers)).Nodup)
    (found : sessions[i]? = some s) (hfront : s.front = some front) (some_made : 0 < s.sequence) :
    IsAt sessions front.current ⟨i, s.sequence⟩ := by
  have mem : front.current ∈ s.buffers := by simp [Session.buffers, hfront]
  refine ⟨⟨s, found, some_made, Nat.le_refl _⟩, fun {j t} found' => ?_⟩
  by_cases here : i = j
  · subst here
    obtain rfl := Option.some.inj (found.symm.trans found')
    refine ⟨fun hfront' => ?_, fun {spare} hspare => ?_⟩
    · exact iff_of_true (congrArg _ (Option.some.inj (hfront.symm.trans hfront'))) ⟨rfl, rfl⟩
    · have two := (List.nodup_flatMap.mp apart).1 s (List.mem_of_getElem? found)
      have differ : front.current ≠ spare := by simpa [Session.buffers, hfront, hspare] using two
      exact iff_of_false differ fun at_i => Nat.succ_ne_self _ at_i.2
  · have elsewhere : front.current ∉ t.buffers := fun mem' =>
      here (eq_of_mem_buffers apart found found' mem mem')
    refine ⟨fun hfront' => iff_of_false ?_ fun at_j => here at_j.1,
      fun hspare => iff_of_false ?_ fun at_j => here at_j.1⟩
    · rintro same
      exact elsewhere (by simp [Session.buffers, hfront', same])
    · rintro rfl
      exact elsewhere (by simp [Session.buffers, hspare])

theorem IsAt.set (h : IsAt sessions id q) {p : Pool} (found : sessions[i]? = some s)
    (turns : s.BufferRel p s' number)
    (other : ∀ {spare}, s.spare = some spare → id ≠ if p.refs spare = 1 then spare else p.size) :
    IsAt (sessions.set i s') id q := by
  obtain ⟨bound, -⟩ := List.getElem?_eq_some_iff.mp found
  have here : (sessions.set i s')[i]? = some s' := by rw [List.getElem?_set, if_pos rfl, if_pos bound]
  have grows : s.sequence ≤ s'.sequence := by
    cases turns with
    | stays _ _ sequence_eq | stops _ _ sequence_eq => omega
    | publishes _ _ _ _ _ sequence_eq => omega
  obtain ⟨t, found', pos, le⟩ := h.made
  refine ⟨?_, fun {j t'} there => ?_⟩
  · by_cases same : i = q.session
    · subst same
      obtain rfl := Option.some.inj (found.symm.trans found')
      exact ⟨s', here, pos, Nat.le_trans le grows⟩
    · exact ⟨t, by rw [List.getElem?_set_ne same, found'], pos, le⟩
  · by_cases same : i = j
    · subst same
      obtain rfl := Option.some.inj (here.symm.trans there)
      refine (h.located found).turn turns other fun own => ?_
      rw [own, found] at found'
      rwa [Option.some.inj found']
    · rw [List.getElem?_set_ne same] at there
      exact h.located there

/-! ### Operations on sessions -/

theorem rel_mono {α β : Type} {R S : α → β → Prop} {o : Option α} {o' : Option β} (h : Option.Rel R o o')
    (weaker : ∀ {a b}, o = some a → R a b → S a b) : Option.Rel S o o' := by
  cases h with
  | none => exact .none
  | some related => exact .some (weaker rfl related)

namespace RefinementRel

theorem refs_eq (r : RefinementRel e p []) (id : CellId) :
    e.pool.refs id = (e.held.map (·.2)).count id + (e.sessions.flatMap (·.buffers)).count id := by
  rw [r.owned id, List.nil_append, List.count_append]

theorem lt_size_of_held (r : RefinementRel e p []) (mem : id ∈ e.held.map (·.2)) : id < e.pool.size :=
  r.owned.lt_size (List.mem_append_left _ mem)

theorem lt_size_of_buffer (r : RefinementRel e p []) (mem : id ∈ e.sessions.flatMap (·.buffers)) :
    id < e.pool.size :=
  r.owned.lt_size (List.mem_append_right _ mem)

end RefinementRel

theorem mem_buffers_of_spare {spare : CellId} (found : e.sessions[i]? = some s)
    (hspare : s.spare = some spare) : spare ∈ e.sessions.flatMap (·.buffers) :=
  List.mem_flatMap.mpr ⟨s, List.mem_of_getElem? found, by simp [Session.buffers, hspare]⟩

/-- Only a frame that is held keeps the spare buffer from being used again. -/
theorem HoldingsInv.refs_spare_eq_one_iff (h : e.HoldingsInv held) (r : RefinementRel e p []) {spare : CellId}
    (found : e.sessions[i]? = some s) (hspare : s.spare = some spare) :
    e.pool.refs spare = 1 ↔ spare ∉ e.held.map (·.2) := by
  have once : (e.sessions.flatMap (·.buffers)).count spare = 1 := by
    rw [h.apart.count, if_pos (mem_buffers_of_spare found hspare)]
  rw [r.refs_eq, once, ← List.count_eq_zero]
  omega

/-- A publication is copied where nobody holds anything. -/
theorem HoldingsInv.ne_of_held (h : e.HoldingsInv held) (r : RefinementRel e p []) {spare : CellId}
    (found : e.sessions[i]? = some s) (hspare : s.spare = some spare) (mem : id ∈ e.held.map (·.2)) :
    id ≠ if e.pool.refs spare = 1 then spare else e.pool.size := by
  split
  · next one =>
    rintro rfl
    exact (h.refs_spare_eq_one_iff r found hspare).mp one mem
  · exact Nat.ne_of_lt (r.lt_size_of_held mem)

theorem nodup_set_of_bufferRel (apart : (e.sessions.flatMap (·.buffers)).Nodup) (r : RefinementRel e p [])
    (found : e.sessions[i]? = some s) (turns : s.BufferRel e.pool s' number) :
    ((e.sessions.set i s').flatMap (·.buffers)).Nodup := by
  rw [List.nodup_iff_count] at apart ⊢
  intro id
  have most := apart id
  have counted := count_buffers_set found s' id
  cases turns with
  | stays front_eq spare_eq =>
    have same : s'.buffers = s.buffers := by rw [Session.buffers, front_eq, spare_eq, Session.buffers]
    rw [same] at counted
    omega
  | @publishes front spare fresh front_was spare_was fresh_eq front_eq spare_eq =>
    have before : s.buffers = [front.current, spare] := by simp [Session.buffers, front_was, spare_was]
    have after : s'.buffers = [fresh, front.current] := by simp [Session.buffers, front_eq, spare_eq]
    rw [before, after] at counted
    simp only [List.count_cons, List.count_nil] at counted
    split at fresh_eq
    · subst fresh_eq
      omega
    · -- a new cell is none of the buffers that there are
      by_cases new : id = fresh
      · have absent : id ∉ e.sessions.flatMap (·.buffers) := fun mem =>
          Nat.ne_of_lt (r.lt_size_of_buffer mem) (new.trans fresh_eq)
        rw [List.count_eq_zero.mpr absent] at counted
        simp only [new, beq_self_eq_true, if_true] at counted ⊢
        omega
      · simp only [beq_eq_false_iff_ne.mpr (Ne.symm new), Bool.false_eq_true, if_false] at counted
        omega
  | stops front_eq spare_eq =>
    have gone : s'.buffers = [] := by simp [Session.buffers, front_eq, spare_eq]
    rw [gone, List.count_nil] at counted
    omega

theorem HoldingsInv.operates (h : e.HoldingsInv held) (r : RefinementRel e p [])
    (found : e.sessions[i]? = some s)
    (turns : s.BufferRel e.pool s' number) (sessions_eq : e'.sessions = e.sessions.set i s')
    (held_eq : e'.held = e.held) : e'.HoldingsInv held where
  apart := sessions_eq ▸ nodup_set_of_bufferRel h.apart r found turns
  names := h.names
  holds name := by
    rw [sessions_eq, held_eq]
    exact rel_mono (h.holds name) fun cell at_id =>
      at_id.set found turns fun hspare => h.ne_of_held r found hspare (Entries.mem_values_of_lookup cell)

/-- Under a name either both nothing is held, or a publication is held and is in the cell. -/
theorem HoldingsInv.lookup_cases (h : e.HoldingsInv held) (name : String) :
    (e.held.lookup name = none ∧ held.lookup name = none) ∨
      ∃ id q, e.held.lookup name = some id ∧ held.lookup name = some q ∧ IsAt e.sessions id q := by
  have holds := h.holds name
  generalize e.held.lookup name = cell at holds ⊢
  generalize held.lookup name = publication at holds ⊢
  cases holds with
  | none => exact .inl ⟨rfl, rfl⟩
  | some at_id => exact .inr ⟨_, _, rfl, rfl, at_id⟩

/-! ### New sessions -/

theorem session_of_start {stream : StreamFormat} {pool pool' : Pool}
    (started : Session.start stream pool = .ok (s, pool')) :
    s.front = some ⟨pool.size + 1, false⟩ ∧ s.spare = some pool.size ∧ s.sequence = 0 := by
  unfold Session.start at started
  split at started
  · cases started
  · obtain ⟨rfl, -⟩ := Prod.mk.inj (Except.ok.inj started)
    exact ⟨by simp [Pool.size], rfl, rfl⟩

/-- A new session has new buffers, and made no publication yet. -/
theorem HoldingsInv.starts (h : e.HoldingsInv held) (r : RefinementRel e p []) {stream : StreamFormat}
    {pool : Pool}
    (started : Session.start stream e.pool = .ok (s, pool)) (sessions_eq : e'.sessions = e.sessions ++ [s])
    (held_eq : e'.held = e.held) : e'.HoldingsInv held := by
  obtain ⟨hfront, hspare, unused⟩ := session_of_start started
  have buffers_eq : s.buffers = [e.pool.size + 1, e.pool.size] := by simp [Session.buffers, hfront, hspare]
  refine ⟨?_, h.names, fun name => ?_⟩
  · rw [sessions_eq, List.flatMap_append, List.flatMap_singleton, List.nodup_append, buffers_eq]
    refine ⟨h.apart, by simp, fun id mem id' new => ?_⟩
    have old := r.lt_size_of_buffer mem
    simp only [List.mem_cons, List.not_mem_nil, or_false] at new
    obtain rfl | rfl := new
    · exact Nat.ne_of_lt (Nat.lt_succ_of_lt old)
    · exact Nat.ne_of_lt old
  · rw [sessions_eq, held_eq]
    refine rel_mono (h.holds name) fun {id q} cell at_id => ?_
    have old := r.lt_size_of_held (Entries.mem_values_of_lookup cell)
    obtain ⟨t, found, pos, le⟩ := at_id.made
    refine ⟨⟨t, ?_, pos, le⟩, fun {j t'} there => ?_⟩
    · rw [List.getElem?_append_left (List.getElem?_eq_some_iff.mp found).1, found]
    · by_cases bound : j < e.sessions.length
      · rw [List.getElem?_append_left bound] at there
        exact at_id.located there
      · have last : s = t' := by
          rw [List.getElem?_append_right (Nat.le_of_not_lt bound)] at there
          exact (List.mem_singleton.mp (List.mem_of_getElem? there)).symm
        subst last
        refine ⟨fun hfront' => iff_of_false ?_ (by omega), fun hspare' => iff_of_false ?_ (by omega)⟩
        · obtain rfl := Option.some.inj (hfront.symm.trans hfront')
          exact Nat.ne_of_lt (Nat.lt_succ_of_lt old)
        · obtain rfl := Option.some.inj (hspare.symm.trans hspare')
          exact Nat.ne_of_lt old

/-! ### Names -/

theorem lookup_releaseName (e : HandoffTable) (name other : String) :
    (e.releaseName name).held.lookup other = if other = name then none else e.held.lookup other := by
  unfold releaseName
  split
  · next absent =>
    split
    · next same => rw [same, absent]
    · rfl
  · exact Entries.lookup_erase name other e.held

theorem lookup_hold (e : HandoffTable) (name : String) (id : CellId) (other : String) :
    (e.hold name id).held.lookup other = if other = name then some id else e.held.lookup other := by
  show List.lookup other (Entries.put name id (e.releaseName name).held) = _
  rw [Entries.lookup_put, lookup_releaseName]
  split <;> rfl

namespace HoldingsInv

/-- The references that are counted say nothing about who holds what. -/
theorem with_pool (h : e.HoldingsInv held) (pool : Pool) : { e with pool }.HoldingsInv held :=
  ⟨h.apart, h.names, h.holds⟩

theorem hold (h : e.HoldingsInv held) (at_id : IsAt e.sessions id q) (name : String) :
    (e.hold name id).HoldingsInv (held.put name q) := by
  have sessions_eq : (e.hold name id).sessions = e.sessions := (e.sessions_keep (some name) id).1
  refine ⟨sessions_eq ▸ h.apart, Entries.nodup_put h.names name q, fun other => ?_⟩
  rw [sessions_eq, lookup_hold, Entries.lookup_put]
  split
  · exact .some at_id
  · exact h.holds other

theorem releaseName (h : e.HoldingsInv held) (name : String) :
    (e.releaseName name).HoldingsInv (held.erase name) := by
  have sessions_eq : (e.releaseName name).sessions = e.sessions := (e.sessions_releaseName name).1
  refine ⟨sessions_eq ▸ h.apart, Entries.nodup_erase h.names name, fun other => ?_⟩
  rw [sessions_eq, lookup_releaseName, Entries.lookup_erase]
  split
  · exact .none
  · exact h.holds other

end HoldingsInv

end HandoffTable

/-! ## Requests -/

/-- The frame that waits in an open session is the latest publication. -/
theorem PlainSession.HistoryInv.sequence_of_waiting {s : PlainSession} {events : List SlotEvent} {f : Frame}
    (h : s.HistoryInv events) (isOpen : s.closed = false) (waiting : s.waiting = some f) :
    f.sequence = s.sequence ∧ 0 < s.sequence := by
  have latest := h.getLast?_publications ((h.waiting_eq isOpen).symm.trans waiting)
  have number : ((SlotEvent.publications events).map Frame.sequence).getLast? = some f.sequence := by
    rw [List.getLast?_map, latest, Option.map_some]
  rw [h.numbers, List.getLast?_range'] at number
  split at number
  · cases number
  · have last := Option.some.inj number
    omega

/-- Every session follows a history. -/
def PlainTable.HistoriesInv (p : PlainTable) : Prop :=
  ∀ i, ∃ events, p.SessionHistoryInv i events

theorem PlainTable.historiesInv_empty : HistoriesInv {} :=
  fun _ => ⟨[], fun found => (nomatch found), fun _ => rfl⟩

theorem PlainTable.HistoriesInv.step {p p' : PlainTable} {request : HandoffTable.Request}
    {answer : HandoffTable.Answer} (h : p.HistoriesInv) (answers : p.AnswerRel request answer p') :
      p'.HistoriesInv := by
  intro i
  obtain ⟨events, tracks⟩ := h i
  cases found : p.sessions[i]? with
  | none =>
    -- a session that there is not yet follows the empty history, whatever its stream will be
    refine ⟨_, answers.sessionHistoryInv tracks p'.handles ⟨0, 0, .gray8⟩ answers.extension.handles
      fun found' => ?_⟩
    cases found.symm.trans found'
  | some s =>
    refine ⟨_, answers.sessionHistoryInv tracks p'.handles s.stream answers.extension.handles
      fun found' => ?_⟩
    rw [Option.some.inj (found.symm.trans found')]

namespace HandoffTable

variable {e e' e₁ : HandoffTable} {p p' : PlainTable} {s : Session} {i handle : Nat}
  {handles : List Nat} {held : Entries Publication}
  {request : Request} {requests : List Request} {answer : Answer} {answers : List Answer}

/-- What is done through a handle is done to the session that it leads to. -/
theorem bufferRel_of_withHandoff (r : RefinementRel e p []) {α β : Type} {f : FrameHandoff → α × FrameHandoff}
    {next : α × HandoffTable → Except Failure β} {b : β} (number : α → Option Nat)
    (turns : ∀ {c : FrameHandoff} {others : List CellId}, c.Sound others →
      c.session.BufferRel c.pool (f c).2.session (number (f c).1))
    (result : e.withHandoff handle f >>= next = .ok b) :
    ∃ i s a c, e.handles[handle]? = some i ∧ e.sessions[i]? = some s ∧ f ⟨s, e.pool, e.metrics⟩ = (a, c) ∧
      s.BufferRel e.pool c.session (number a) ∧
      next (a, { e with sessions := e.sessions.set i c.session, pool := c.pool, metrics := c.metrics }) =
        .ok b := by
  unfold withHandoff putHandoff at result
  cases reached : e.handoff? handle with
  | none =>
    rw [reached] at result
    cases result
  | some c =>
    obtain ⟨s, session, same⟩ := Option.bind_eq_some_iff.mp reached
    obtain rfl := Option.some.inj same
    obtain ⟨i, leads, found⟩ := Option.bind_eq_some_iff.mp session
    obtain ⟨others, sound⟩ := r.exists_sound found
    simp only [reached, leads] at result
    exact ⟨i, s, _, _, leads, found, rfl, turns sound, result⟩

/-- A taken frame is the latest publication of its session, and is in the front buffer. -/
theorem HoldingsInv.takes (h : e₁.HoldingsInv held) (r : RefinementRel e p []) (follow : p.HistoriesInv)
    {name : Option String}
    (leads : handles[handle]? = some i) (found : e.sessions[i]? = some s) {c : FrameHandoff} {id : CellId}
    (taken : FrameHandoff.tryTake ⟨s, e.pool, e.metrics⟩ = (.ok (some id), c))
    (e₁_eq : e₁ = { e with sessions := e.sessions.set i c.session, pool := c.pool, metrics := c.metrics }) :
    (e₁.keep name id).HoldingsInv
      (Request.holdings handles held (.tryTake handle name) (.frame (.ok (e₁.pool.frame? id)))) := by
  obtain ⟨others, sound⟩ := r.exists_sound found
  obtain ⟨turns, gives⟩ := FrameHandoff.bufferRel_tryTake sound
  rw [taken] at turns gives
  obtain ⟨f, isOpen, waiting, hfront, frame⟩ := gives id rfl
  have pool_eq : e₁.pool = c.pool := by rw [e₁_eq]
  rw [pool_eq, frame]
  cases name with
  | none => exact h.with_pool _
  | some name =>
    have holdings_eq : Request.holdings handles held (.tryTake handle (some name)) (.frame (.ok (some f))) =
        held.put name ⟨i, f.sequence⟩ := by
      simp only [Request.holdings, leads]
    obtain ⟨events, tracks⟩ := follow i
    obtain ⟨latest, some_made⟩ := (tracks.follows (r.session_eq found)).sequence_of_waiting isOpen waiting
    obtain ⟨same, -⟩ := turns.of_none
    have number_eq : f.sequence = c.session.sequence := latest.trans same.symm
    obtain ⟨bound, -⟩ := List.getElem?_eq_some_iff.mp found
    have found₁ : e₁.sessions[i]? = some c.session := by
      rw [e₁_eq, List.getElem?_set, if_pos rfl, if_pos bound]
    rw [holdings_eq, number_eq]
    exact h.hold (isAt_front h.apart found₁ hfront (same ▸ some_made)) name

/-- What is held after an answered request can be read off the answer. -/
theorem HoldingsInv.step (h : e.HoldingsInv held) (r : RefinementRel e p []) (follow : p.HistoriesInv)
    (result : e.step request = .ok (answer, e'))
    (lasting : ∀ {handle i : Nat}, e.handles[handle]? = some i → handles[handle]? = some i) :
    e'.HoldingsInv (request.holdings handles held answer) := by
  cases request with
  | publish handle bytes =>
    obtain ⟨i, s, a, c, -, found, -, turns, result⟩ :=
      bufferRel_of_withHandoff r Except.toOption (FrameHandoff.bufferRel_publish · bytes) result
    obtain ⟨rfl, rfl⟩ := Prod.mk.inj (Except.ok.inj result)
    exact h.operates r found turns rfl rfl
  | publishPadded handle src stride =>
    obtain ⟨i, s, a, c, -, found, -, turns, result⟩ :=
      bufferRel_of_withHandoff r Except.toOption (FrameHandoff.bufferRel_publishPadded · src stride) result
    obtain ⟨rfl, rfl⟩ := Prod.mk.inj (Except.ok.inj result)
    exact h.operates r found turns rfl rfl
  | tryTake handle name =>
    obtain ⟨i, s, a, c, leads, found, taken, turns, result⟩ :=
      bufferRel_of_withHandoff r (fun _ => none)
        (fun sound => (FrameHandoff.bufferRel_tryTake sound).1) result
    have inv : HoldingsInv { e with
        sessions := e.sessions.set i c.session, pool := c.pool, metrics := c.metrics } held :=
      h.operates r found turns rfl rfl
    cases a with
    | error refusal =>
      obtain ⟨rfl, rfl⟩ := Prod.mk.inj (Except.ok.inj result)
      cases name <;> exact inv
    | ok given =>
      cases given with
      | none =>
        obtain ⟨rfl, rfl⟩ := Prod.mk.inj (Except.ok.inj result)
        cases name <;> exact inv
      | some id =>
        obtain ⟨rfl, rfl⟩ := Prod.mk.inj (Except.ok.inj result)
        exact inv.takes r follow (lasting leads) found taken rfl
  | stop handle =>
    obtain ⟨i, s, a, c, -, found, -, turns, result⟩ :=
      bufferRel_of_withHandoff r (fun _ => none) FrameHandoff.bufferRel_stop result
    obtain ⟨rfl, rfl⟩ := Prod.mk.inj (Except.ok.inj result)
    exact h.operates r found turns rfl rfl
  | read name =>
    obtain ⟨-, rfl⟩ := Prod.mk.inj (Except.ok.inj result)
    exact h
  | share name second =>
    obtain ⟨absent, nothing⟩ | ⟨id, q, cell, publication, at_id⟩ := h.lookup_cases name
    · simp only [HandoffTable.step, absent] at result
      obtain ⟨-, rfl⟩ := Prod.mk.inj (Except.ok.inj result)
      simpa only [Request.holdings, nothing] using h
    · simp only [HandoffTable.step, cell] at result
      obtain ⟨-, rfl⟩ := Prod.mk.inj (Except.ok.inj result)
      simpa only [Request.holdings, publication] using (h.with_pool (e.pool.retain id)).hold at_id second
  | release name =>
    obtain ⟨-, rfl⟩ := Prod.mk.inj (Except.ok.inj result)
    exact h.releaseName name
  | clone handle =>
    simp only [HandoffTable.step] at result
    split at result
    · cases result
    · obtain ⟨-, rfl⟩ := Prod.mk.inj (Except.ok.inj result)
      exact ⟨h.apart, h.names, h.holds⟩
  | start stream =>
    simp only [HandoffTable.step] at result
    split at result
    · obtain ⟨-, rfl⟩ := Prod.mk.inj (Except.ok.inj result)
      exact h
    · cases result
    · next s pool started =>
      obtain ⟨-, rfl⟩ := Prod.mk.inj (Except.ok.inj result)
      exact h.starts r started rfl rfl
  | inspect handle =>
    simp only [HandoffTable.step] at result
    split at result
    · cases result
    · obtain ⟨-, rfl⟩ := Prod.mk.inj (Except.ok.inj result)
      exact h

theorem holdingsInv_empty : HoldingsInv {} [] :=
  ⟨List.nodup_nil, List.nodup_nil, fun _ => .none⟩

theorem holdingsInv_run (result : e.run requests = .ok (answers, e')) (r : RefinementRel e p [])
    (follow : p.HistoriesInv)
    (h : e.HoldingsInv held) : e'.HoldingsInv (holdings e'.handles held requests answers) := by
  induction requests generalizing e p held answers with
  | nil =>
    obtain ⟨rfl, rfl⟩ := Prod.mk.inj (Except.ok.inj result)
    exact h
  | cons request rest ih =>
    obtain ⟨answer, e₁, answers', first, others, rfl⟩ := exists_of_run_cons result
    obtain ⟨p₁, plainly, r₁⟩ := (step_refines r request).of_ok first
    -- handles are only added, so at the end of the run each leads where it led when this request was answered
    obtain ⟨more, grown⟩ := (r.changeRel first).handles_extend.trans (r₁.handles_run others)
    have lasting {handle i : Nat} (leads : e.handles[handle]? = some i) : e'.handles[handle]? = some i := by
      obtain ⟨bound, -⟩ := List.getElem?_eq_some_iff.mp leads
      rw [← grown, List.getElem?_append_left bound, leads]
    rw [holdings_cons]
    exact ih others r₁ (follow.step (PlainTable.answerRel_of_step plainly)) (h.step r follow first lasting)

/-- What is held once a request is answered was held before, or was taken by the request. -/
theorem Request.holds_of_mem {q : Publication} (stream : StreamFormat)
    (mem : q ∈ (request.holdings handles held answer).map (·.2)) :
    q ∈ held.map (·.2) ∨ ∃ f, slotEventAt? handles q.session stream request answer = some (.took f) ∧
      f.sequence = q.number := by
  unfold Request.holdings at mem
  split at mem
  · next handle name f =>
    split at mem
    · next i leads =>
      obtain rfl | mem := Entries.mem_values_put mem
      · exact .inr ⟨f, by simp [slotEventAt?, Request.slotEvent?, leads], rfl⟩
      · exact .inl mem
    · exact .inl mem
  · split at mem
    · next found =>
      obtain rfl | mem := Entries.mem_values_put mem
      · exact .inl (Entries.mem_values_of_lookup found)
      · exact .inl mem
    · exact .inl mem
  · exact .inl ((List.filter_sublist.map _).mem mem)
  · exact .inl mem

/-- What is held was taken, unless it was held before. -/
theorem holds_of_mem_holdings {q : Publication} (stream : StreamFormat)
    (mem : q ∈ (holdings handles held requests answers).map (·.2)) :
    q ∈ held.map (·.2) ∨
      q.number ∈ (takings (slotEvents handles q.session stream requests answers)).map Frame.sequence := by
  induction requests generalizing held answers with
  | nil => exact .inl mem
  | cons request rest ih =>
    cases answers with
    | nil => exact .inl mem
    | cons answer answers =>
      rw [slotEvents_cons, SlotEvent.takings_append, List.map_append, List.mem_append]
      obtain before | taken := ih mem
      · refine (Request.holds_of_mem stream before).imp_right fun ⟨f, event, number⟩ => .inl ?_
        simp [event, takings, SlotEvent.took?, number]
      · exact .inr (.inr taken)

/-! ## Main statement -/

/-- What is done to one session is nothing to the others. -/
theorem bufferRel_set {t t' : Session} {j : Nat} {number : Option Nat} (there : e.sessions[j]? = some t)
    (turns : t.BufferRel e.pool t' number) (found : e.sessions[i]? = some s) :
    ∃ s', (e.sessions.set j t')[i]? = some s' ∧ s.BufferRel e.pool s' (if j = i then number else none) := by
  by_cases here : j = i
  · subst here
    obtain rfl := Option.some.inj (found.symm.trans there)
    obtain ⟨bound, -⟩ := List.getElem?_eq_some_iff.mp found
    exact ⟨t', by rw [List.getElem?_set, if_pos rfl, if_pos bound], by rwa [if_pos rfl]⟩
  · exact ⟨s, by rw [List.getElem?_set_ne here, found], by rw [if_neg here]; exact .refl ..⟩

/-- The number that an answered request gives to a publication of session `i`, which is of the stream. -/
def numberAt? (handles : List Nat) (i : Nat) (stream : StreamFormat) (request : Request) (answer : Answer) :
    Option Nat :=
  ((slotEventAt? handles i stream request answer).bind SlotEvent.published?).map Frame.sequence

theorem numberAt?_eq_none_iff {stream : StreamFormat} :
    numberAt? handles i stream request answer = none ↔
      ∀ f, slotEventAt? handles i stream request answer ≠ some (.published f) := by
  rw [numberAt?, Option.map_eq_none_iff, Option.bind_eq_none_iff]
  constructor
  · intro unnumbered f published
    cases unnumbered _ published
  · intro unpublished event same
    cases event with
    | published f => exact absurd same (unpublished f)
    | took f => rfl
    | stopped => rfl

theorem numberAt?_of_publishes {j : Nat} (leads : handles[handle]? = some j) {stream : StreamFormat}
    {bytes : Bytes} {number : Option Nat}
    (acts : request.slotEvent? stream answer =
      number.map fun n => (handle, .published ⟨⟨n, stream⟩, bytes⟩)) :
    numberAt? handles i stream request answer = if j = i then number else none := by
  cases number with
  | none => simp [numberAt?, slotEventAt?, acts]
  | some n =>
    by_cases here : j = i <;>
      simp [numberAt?, slotEventAt?, acts, leads, here, SlotEvent.published?, Frame.sequence]

theorem numberAt?_of_silent {stream : StreamFormat}
    (silent : ∀ handle f, request.slotEvent? stream answer ≠ some (handle, .published f)) :
    numberAt? handles i stream request answer = none := by
  refine numberAt?_eq_none_iff.mpr fun f published => ?_
  unfold slotEventAt? at published
  split at published
  · next handle event acts =>
    split at published
    · obtain rfl := Option.some.inj published
      exact silent handle f acts
    · cases published
  · cases published

/-- What is not done to a session leaves all of them. -/
theorem ChangeRel.session_eq_of_elsewhere (changes : e.ChangeRel request e') (elsewhere : request.operation? = none)
    (found : e.sessions[i]? = some s) : e'.sessions[i]? = some s := by
  cases changes with
  | operates does => cases elsewhere.symm.trans does
  | starts does started sessions_eq =>
    rw [sessions_eq, List.getElem?_append_left (List.getElem?_eq_some_iff.mp found).1, found]
  | clones does leads rest => exact rest ▸ found
  | stays does sessions_eq => rw [sessions_eq, found]

/-- What an answered request does to the buffers of a session. -/
theorem bufferRel_step (r : RefinementRel e p []) (result : e.step request = .ok (answer, e'))
    (found : e.sessions[i]? = some s) :
    ∃ s', e'.sessions[i]? = some s' ∧
      s.BufferRel e.pool s' (numberAt? e.handles i s.stream request answer) := by
  have stays (elsewhere : request.operation? = none)
      (silent : ∀ handle f, request.slotEvent? s.stream answer ≠ some (handle, .published f)) :
      ∃ s', e'.sessions[i]? = some s' ∧
        s.BufferRel e.pool s' (numberAt? e.handles i s.stream request answer) :=
    ⟨s, (r.changeRel result).session_eq_of_elsewhere elsewhere found, numberAt?_of_silent silent ▸ .refl ..⟩
  cases request with
  | publish handle bytes =>
    obtain ⟨j, t, a, c, leads, there, -, turns, result⟩ :=
      bufferRel_of_withHandoff r Except.toOption (FrameHandoff.bufferRel_publish · bytes) result
    obtain ⟨rfl, rfl⟩ := Prod.mk.inj (Except.ok.inj result)
    have numbered : numberAt? e.handles i s.stream (.publish handle bytes) (.number a) =
        if j = i then a.toOption else none :=
      numberAt?_of_publishes leads (by cases a <;> rfl)
    exact numbered ▸ bufferRel_set there turns found
  | publishPadded handle src stride =>
    obtain ⟨j, t, a, c, leads, there, -, turns, result⟩ :=
      bufferRel_of_withHandoff r Except.toOption (FrameHandoff.bufferRel_publishPadded · src stride) result
    obtain ⟨rfl, rfl⟩ := Prod.mk.inj (Except.ok.inj result)
    have numbered : numberAt? e.handles i s.stream (.publishPadded handle src stride) (.number a) =
        if j = i then a.toOption else none :=
      numberAt?_of_publishes leads (by cases a <;> rfl)
    exact numbered ▸ bufferRel_set there turns found
  | tryTake handle name =>
    obtain ⟨j, t, a, c, leads, there, -, turns, result⟩ :=
      bufferRel_of_withHandoff r (fun _ => none)
        (fun sound => (FrameHandoff.bufferRel_tryTake sound).1) result
    have sessions_eq : e'.sessions = e.sessions.set j c.session := by
      obtain refusal | _ | id := a <;> obtain ⟨-, rfl⟩ := Prod.mk.inj (Except.ok.inj result)
      · rfl
      · rfl
      · exact (sessions_keep _ name id).1
    have unnumbered : numberAt? e.handles i s.stream (.tryTake handle name) answer = none := by
      refine numberAt?_of_silent fun _ _ acts => ?_
      obtain refusal | _ | id := a <;> obtain ⟨rfl, -⟩ := Prod.mk.inj (Except.ok.inj result)
      · cases acts
      · cases acts
      · cases waits : c.pool.frame? id <;> simp [Request.slotEvent?, waits] at acts
    have turned := bufferRel_set there turns found
    rwa [← sessions_eq, ite_self, ← unnumbered] at turned
  | stop handle =>
    obtain ⟨j, t, a, c, leads, there, -, turns, result⟩ :=
      bufferRel_of_withHandoff r (fun _ => none) FrameHandoff.bufferRel_stop result
    obtain ⟨-, rfl⟩ := Prod.mk.inj (Except.ok.inj result)
    have unnumbered : numberAt? e.handles i s.stream (.stop handle) answer = none :=
      numberAt?_of_silent (by simp [Request.slotEvent?])
    have turned := bufferRel_set there turns found
    rwa [ite_self, ← unnumbered] at turned
  | read | share | release | clone | start | inspect => exact stays rfl (by simp [Request.slotEvent?])

/-- The spare buffer is held exactly if somebody holds the publication before the latest one. -/
theorem HoldingsInv.spare_held_iff (h : e.HoldingsInv held) (r : RefinementRel e p []) {spare : CellId}
    (found : e.sessions[i]? = some s) (hspare : s.spare = some spare) :
    spare ∈ e.held.map (·.2) ↔ 2 ≤ s.sequence ∧ ⟨i, s.sequence - 1⟩ ∈ held.map (·.2) := by
  rw [Entries.mem_values_iff r.names, Entries.mem_values_iff h.names]
  constructor
  · rintro ⟨name, cell⟩
    obtain ⟨absent, -⟩ | ⟨id, q, cell', publication, at_id⟩ := h.lookup_cases name
    · cases absent.symm.trans cell
    · obtain rfl := Option.some.inj (cell'.symm.trans cell)
      obtain ⟨_, -, pos, -⟩ := at_id.made
      obtain ⟨here, next⟩ := ((at_id.located found).spare_iff hspare).mp rfl
      refine ⟨by omega, name, ?_⟩
      rw [publication, ← here, show s.sequence - 1 = q.number by omega]
  · rintro ⟨some_made, name, publication⟩
    obtain ⟨-, absent⟩ | ⟨id, q, cell, publication', at_id⟩ := h.lookup_cases name
    · cases absent.symm.trans publication
    · obtain rfl := Option.some.inj (publication'.symm.trans publication)
      have next : s.sequence - 1 + 1 = s.sequence := by omega
      obtain rfl := ((at_id.located found).spare_iff hspare).mpr ⟨rfl, next⟩
      exact ⟨name, cell⟩

/-- **A frame that is held for long costs one buffer.** After any requests, an answered request counts a
reallocation in a session exactly if it makes a publication there, and the publication two before that
was taken and is still held, under whatever name. -/
theorem publish_reallocates_iff (result : run {} requests = .ok (answers, e))
    (found : e.sessions[i]? = some s) (step : e.step request = .ok (answer, e')) :
    let events := slotEvents e.handles i s.stream requests answers
    let held := holdings e.handles [] requests answers
    let event := slotEventAt? e.handles i s.stream request answer
    ∃ s', e'.sessions[i]? = some s' ∧
      (∀ f, event = some (.published f) →
        s'.stats.reallocations = s.stats.reallocations +
          if 3 ≤ f.sequence ∧ f.sequence - 2 ∈ (takings events).map Frame.sequence ∧
            ⟨i, f.sequence - 2⟩ ∈ held.map (·.2) then 1 else 0) ∧
      ((∀ f, event ≠ some (.published f)) → s'.stats.reallocations = s.stats.reallocations) := by
  intro events held event
  obtain ⟨p, -, r⟩ := (run_refines refines_empty requests).of_ok result
  have inv : e.HoldingsInv held :=
    holdingsInv_run result refines_empty PlainTable.historiesInv_empty holdingsInv_empty
  obtain ⟨s', found', turns⟩ := bufferRel_step r step found
  refine ⟨s', found', fun f published => ?_, fun unpublished => ?_⟩
  · have numbered : numberAt? e.handles i s.stream request answer = some f.sequence :=
      congrArg (fun event => (event.bind SlotEvent.published?).map Frame.sequence) published
    rw [numbered] at turns
    obtain ⟨number_eq, spare, hspare, counted⟩ := turns.of_some
    have before : f.sequence - 2 = s.sequence - 1 := by omega
    have in_use : (3 ≤ f.sequence ∧ f.sequence - 2 ∈ (takings events).map Frame.sequence ∧
        ⟨i, f.sequence - 2⟩ ∈ held.map (·.2)) ↔ ¬e.pool.refs spare = 1 := by
      rw [inv.refs_spare_eq_one_iff r found hspare, not_not, inv.spare_held_iff r found hspare, before]
      constructor
      · exact fun ⟨three, _, mem⟩ => ⟨by omega, mem⟩
      · intro ⟨two, mem⟩
        exact ⟨by omega, (holds_of_mem_holdings s.stream mem).resolve_left List.not_mem_nil, mem⟩
    rw [counted]
    by_cases one : e.pool.refs spare = 1
    · rw [if_pos one, if_neg (mt in_use.mp (not_not.mpr one))]
    · rw [if_neg one, if_pos (in_use.mpr one)]
  · rw [numberAt?_eq_none_iff.mpr unpublished] at turns
    exact turns.of_none.2

/-- Publication 1 is still held under the second of its names, and publication 2 under its only one. So the
fourth publication needs a new buffer; the fifth does not, since nobody took the third. -/
theorem publish_reallocates_iff_fourth :
    let requests : List Request :=
      [.start ⟨1, 1, .gray8⟩, .publish 0 [1], .tryTake 0 (some "a"), .share "a" "b", .publish 0 [2],
        .tryTake 0 (some "c"), .release "a", .publish 0 [3]]
    ∃ answers e e₁ e₂ s s₁ s₂, run {} requests = .ok (answers, e) ∧
      holdings e.handles [] requests answers = [("b", ⟨0, 1⟩), ("c", ⟨0, 2⟩)] ∧
      e.step (.publish 0 [4]) = .ok (.number (.ok 4), e₁) ∧
      e₁.step (.publish 0 [5]) = .ok (.number (.ok 5), e₂) ∧
      e.sessions[0]? = some s ∧ e₁.sessions[0]? = some s₁ ∧ e₂.sessions[0]? = some s₂ ∧
      s.stats.reallocations = 1 ∧ s₁.stats.reallocations = 2 ∧ s₂.stats.reallocations = 2 := by
  intro requests
  obtain ⟨answers, e, e₁, e₂, s, s₁, result, result₁, fourth, fifth, found, found₁, held, held₁, taken,
    taken₁, published, published₁, one⟩ :
      ∃ answers e e₁ e₂ s s₁, run {} requests = .ok (answers, e) ∧
        run {} (requests ++ [.publish 0 [4]]) = .ok (answers ++ [.number (.ok 4)], e₁) ∧
        e.step (.publish 0 [4]) = .ok (.number (.ok 4), e₁) ∧
        e₁.step (.publish 0 [5]) = .ok (.number (.ok 5), e₂) ∧
        e.sessions[0]? = some s ∧ e₁.sessions[0]? = some s₁ ∧
        holdings e.handles [] requests answers = [("b", ⟨0, 1⟩), ("c", ⟨0, 2⟩)] ∧
        holdings e₁.handles [] (requests ++ [.publish 0 [4]]) (answers ++ [.number (.ok 4)]) =
          [("b", ⟨0, 1⟩), ("c", ⟨0, 2⟩)] ∧
        (takings (slotEvents e.handles 0 s.stream requests answers)).map Frame.sequence = [1, 2] ∧
        (takings (slotEvents e₁.handles 0 s₁.stream (requests ++ [.publish 0 [4]])
          (answers ++ [.number (.ok 4)]))).map Frame.sequence = [1, 2] ∧
        slotEventAt? e.handles 0 s.stream (.publish 0 [4]) (.number (.ok 4)) =
          some (.published ⟨⟨4, ⟨1, 1, .gray8⟩⟩, [4]⟩) ∧
        slotEventAt? e₁.handles 0 s₁.stream (.publish 0 [5]) (.number (.ok 5)) =
          some (.published ⟨⟨5, ⟨1, 1, .gray8⟩⟩, [5]⟩) ∧
        s.stats.reallocations = 1 :=
    ⟨_, _, _, _, _, _, rfl, rfl, rfl, rfl, rfl, rfl, rfl, rfl, rfl, rfl, rfl, rfl, rfl⟩
  obtain ⟨s₁', found₁', counts, -⟩ := publish_reallocates_iff result found fourth
  obtain rfl := Option.some.inj (found₁.symm.trans found₁')
  obtain ⟨s₂, found₂, counts₁, -⟩ := publish_reallocates_iff result₁ found₁ fifth
  have two := counts _ published
  have still := counts₁ _ published₁
  rw [taken, held, if_pos (by decide), one] at two
  rw [taken₁, held₁, if_neg (by decide), two] at still
  exact ⟨answers, e, e₁, e₂, s, s₁, s₂, result, held, fourth, fifth, found, found₁, found₂, one, two, still⟩

end HandoffTable

end FramePipeline
