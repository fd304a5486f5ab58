import FramePipeline.Proofs.Handoff.SessionRefinement

/-!
# Tables without their buffers

A table answers every request as a plain table does, in which a frame is made for each publication and never
changes. The relation between the two states, `HandoffTable.RefinementRel`, is kept by every request: all
references to buffers are accounted for by the sessions, the names under which frames are held, and the frames
that a step has *in hand* while it goes on.

Main definition: `HandoffTable.RefinementRel`. Main statements: `HandoffTable.step_refines` and
`HandoffTable.run_refines`.
-/

namespace FramePipeline.HandoffTable

/-- The plain table shows what the table shows. -/
structure RefinementRel (e : HandoffTable) (p : PlainTable) (inHand : List CellId) : Prop where
  owned : e.pool.IsOwnedBy (inHand ++ e.held.map (·.2) ++ e.sessions.flatMap (·.buffers))
  sound : ∀ s ∈ e.sessions, s.Sound e.pool
  sessions_eq : p.sessions = e.sessions.map (·.plain e.pool)
  handles_eq : p.handles = e.handles
  names : (e.held.map (·.1)).Nodup
  held_eq : ∀ name, (e.held.lookup name).map e.pool.frame? = (p.held.lookup name).map some

/-- Both tables fail for the same reason, or come to the same result and stay related. -/
def SameResult {α : Type} (first : Except Failure (α × HandoffTable))
    (second : Except Failure (α × PlainTable)) : Prop :=
  (∃ failure, first = .error failure ∧ second = .error failure) ∨
    ∃ a e' p', first = .ok (a, e') ∧ second = .ok (a, p') ∧ RefinementRel e' p' []

theorem SameResult.of_ok {α : Type} {first : Except Failure (α × HandoffTable)}
    {second : Except Failure (α × PlainTable)} {a : α} {e' : HandoffTable}
    (h : SameResult first second) (result : first = .ok (a, e')) :
    ∃ p', second = .ok (a, p') ∧ RefinementRel e' p' [] := by
  obtain ⟨failure, failed, -⟩ | ⟨b, e₁, p', result', plainly, r⟩ := h
  · rw [result] at failed
    cases failed
  · obtain ⟨rfl, rfl⟩ := Prod.mk.inj (Except.ok.inj (result.symm.trans result'))
    exact ⟨p', plainly, r⟩

theorem SameResult.of_plain {α : Type} {first : Except Failure (α × HandoffTable)}
    {second : Except Failure (α × PlainTable)} {a : α} {p' : PlainTable}
    (h : SameResult first second) (result : second = .ok (a, p')) :
    ∃ e', first = .ok (a, e') ∧ RefinementRel e' p' [] := by
  obtain ⟨failure, -, failed⟩ | ⟨b, e', p₁, result', plainly, r⟩ := h
  · rw [result] at failed
    cases failed
  · obtain ⟨rfl, rfl⟩ := Prod.mk.inj (Except.ok.inj (result.symm.trans plainly))
    exact ⟨e', result', r⟩

theorem refines_empty : RefinementRel {} {} [] where
  owned := Pool.isOwnedBy_empty
  sound _ mem := nomatch mem
  sessions_eq := rfl
  handles_eq := rfl
  names := List.nodup_nil
  held_eq _ := rfl

namespace RefinementRel

variable {e : HandoffTable} {p : PlainTable} {inHand : List CellId} {name : String} {id : CellId}

/-! ## Held frames -/

/-- References and names may change as long as all frames stay. -/
theorem change (r : RefinementRel e p inHand) {pool : Pool} {held : Entries CellId} {inHand' : List CellId}
    {held' : Entries Frame} (same : ∀ id, pool.frame? id = e.pool.frame? id)
    (owned : pool.IsOwnedBy (inHand' ++ held.map (·.2) ++ e.sessions.flatMap (·.buffers)))
    (names : (held.map (·.1)).Nodup)
    (held_eq : ∀ name, (held.lookup name).map e.pool.frame? = (held'.lookup name).map some) :
    RefinementRel { e with pool, held } { p with held := held' } inHand' where
  owned := owned
  sound s mem := (r.sound s mem).congr fun id _ => same id
  sessions_eq := by
    rw [r.sessions_eq]
    exact List.map_congr_left fun s _ => (Session.plain_congr fun id _ => same id).symm
  handles_eq := r.handles_eq
  names := names
  held_eq := by
    rw [funext same]
    exact held_eq

theorem heldFrame?_eq (r : RefinementRel e p inHand) (name : String) :
    e.heldFrame? name = p.held.lookup name := by
  have held := r.held_eq name
  unfold heldFrame?
  cases he : e.held.lookup name <;> cases hp : p.held.lookup name <;> simp_all

theorem held_congr (r : RefinementRel e p inHand) {pool : Pool}
    (kept : ∀ id ∈ e.held.map (·.2), pool.frame? id = e.pool.frame? id) (name : String) :
    (e.held.lookup name).map pool.frame? = (p.held.lookup name).map some := by
  rw [← r.held_eq name]
  cases found : e.held.lookup name with
  | none => rfl
  | some id =>
    obtain ⟨front, back, held, -⟩ := List.lookup_eq_some_iff.mp found
    rw [Option.map_some, Option.map_some, kept id (by simp [held])]

theorem isSome_held (r : RefinementRel e p inHand) (name : String) :
    (e.held.lookup name).isSome = (p.held.lookup name).isSome := by
  have held := congrArg Option.isSome (r.held_eq name)
  simpa using held

theorem release (r : RefinementRel e p (id :: inHand)) :
    RefinementRel { e with pool := e.pool.release id } p inHand :=
  r.change (fun _ => Pool.frame?_release ..) (Pool.IsOwnedBy.release r.owned) r.names r.held_eq

theorem releaseName (r : RefinementRel e p inHand) (name : String) :
    RefinementRel (e.releaseName name) { p with held := p.held.erase name } inHand := by
  have held_eq : ∀ other, ((e.held.erase name).lookup other).map e.pool.frame? =
      ((p.held.erase name).lookup other).map some := by
    intro other
    by_cases same : other = name
    · subst same
      rw [Entries.lookup_erase_self, Entries.lookup_erase_self]
      rfl
    · rw [Entries.lookup_erase_of_ne same, Entries.lookup_erase_of_ne same]
      exact r.held_eq other
  have names : ((e.held.erase name).map (·.1)).Nodup :=
    r.names.sublist (List.filter_sublist.map _)
  unfold HandoffTable.releaseName
  cases found : e.held.lookup name with
  | none =>
    have gone : e.held.erase name = e.held := by
      refine Entries.erase_of_not_mem fun mem => ?_
      obtain ⟨entry, there, rfl⟩ := List.mem_map.mp mem
      simpa using List.lookup_eq_none_iff.mp found entry there
    refine r.change (fun _ => rfl) r.owned r.names fun other => ?_
    rw [← held_eq, gone]
  | some id =>
    have held_perm : (e.held.map (·.2)).Perm (id :: (e.held.erase name).map (·.2)) :=
      (Entries.perm_erase r.names found).map _
    refine r.change (fun _ => Pool.frame?_release ..) (Pool.IsOwnedBy.release ?_) names held_eq
    refine r.owned.perm (List.perm_iff_count.mpr fun other => ?_)
    simp only [List.count_append, List.count_cons, held_perm.count_eq]
    omega

/-- A frame in hand is held under a name. -/
theorem hold (r : RefinementRel e p (id :: inHand)) {f : Frame} (frame : e.pool.frame? id = some f)
    (name : String) : RefinementRel (e.hold name id) { p with held := p.held.put name f } inHand := by
  have released := r.releaseName name
  have frames : ∀ other, (e.releaseName name).pool.frame? other = e.pool.frame? other := by
    intro other
    unfold HandoffTable.releaseName
    split
    · rfl
    · exact Pool.frame?_release ..
  have absent : (e.releaseName name).held.lookup name = none := by
    have gone := released.isSome_held name
    rw [Entries.lookup_erase_self] at gone
    simpa using gone
  have new : name ∉ (e.releaseName name).held.map (·.1) := by
    intro mem
    obtain ⟨entry, there, rfl⟩ := List.mem_map.mp mem
    simpa using List.lookup_eq_none_iff.mp absent entry there
  have put_eq := Entries.put_of_not_mem new id
  refine released.change (fun _ => rfl) (released.owned.perm (List.perm_iff_count.mpr ?_)) ?_
    fun other => ?_
  · intro other
    rw [put_eq]
    simp only [List.map_append, List.map_singleton, List.count_append, List.count_cons,
      List.count_nil]
    omega
  · rw [put_eq, List.map_append, List.map_singleton, List.nodup_append]
    refine ⟨released.names, by simp, ?_⟩
    intro a ha b hb
    obtain rfl := List.mem_singleton.mp hb
    exact fun same => new (same ▸ ha)
  · by_cases same : other = name
    · subst same
      rw [Entries.lookup_put_self, Entries.lookup_put_self, Option.map_some, Option.map_some, frames,
        frame]
    · rw [Entries.lookup_put_of_ne same, Entries.lookup_put_of_ne same, released.held_eq,
        Entries.lookup_erase_of_ne same]

theorem keep (r : RefinementRel e p (id :: inHand)) {f : Frame} (frame : e.pool.frame? id = some f)
    (name : Option String) : RefinementRel (e.keep name id) (p.keep name f) inHand := by
  cases name with
  | none => exact r.release
  | some name => exact r.hold frame name

theorem share (r : RefinementRel e p []) {name : String} (found : e.held.lookup name = some id) :
    RefinementRel { e with pool := e.pool.retain id } p [id] := by
  refine r.change (fun _ => Pool.frame?_retain ..) (r.owned.retain ?_) r.names r.held_eq
  obtain ⟨before, after, eq, -⟩ := List.lookup_eq_some_iff.mp found
  simp [eq]

/-! ## Sessions -/

variable {before after : List Session} {s : Session} {handle : Nat}

/-- A handle leads nowhere in both tables, or to the session at the same place. -/
theorem reach (r : RefinementRel e p inHand) (handle : Nat) :
    (e.session? handle = none ∧ p.session? handle = none) ∨
      ∃ before s after, e.handles[handle]? = some before.length ∧
        e.sessions = before ++ s :: after := by
  have plain_eq : p.session? handle = (e.session? handle).map (·.plain e.pool) := by
    unfold HandoffTable.session? PlainTable.session?
    rw [r.handles_eq, r.sessions_eq]
    cases e.handles[handle]? <;> simp
  cases found : e.session? handle with
  | none => exact .inl ⟨rfl, by rw [plain_eq, found, Option.map_none]⟩
  | some s =>
    obtain ⟨i, hi, hs⟩ := Option.bind_eq_some_iff.mp found
    obtain ⟨inside, hs⟩ := List.getElem?_eq_some_iff.mp hs
    refine .inr ⟨e.sessions.take i, s, e.sessions.drop (i + 1), ?_, ?_⟩
    · rw [hi, List.length_take_of_le (Nat.le_of_lt inside)]
    · rw [← hs, ← List.drop_eq_getElem_cons, List.take_append_drop]

/-- Everything that the references to buffers come from, one session left out. -/
def besides (e : HandoffTable) (before after : List Session) : List CellId :=
  e.held.map (·.2) ++ (before ++ after).flatMap (·.buffers)

theorem sound_handoff (r : RefinementRel e p []) (eq : e.sessions = before ++ s :: after) :
    FrameHandoff.Sound ⟨s, e.pool, e.metrics⟩ (besides e before after) := by
  refine ⟨r.owned.perm ?_, r.sound s (by simp [eq])⟩
  refine List.perm_iff_count.mpr fun id => ?_
  simp only [eq, besides, List.flatMap_append, List.flatMap_cons, List.count_append, List.nil_append]
  omega

/-- One session changes, and with it the references that a step has in hand. -/
theorem putSession (r : RefinementRel e p []) (eq : e.sessions = before ++ s :: after) {c : FrameHandoff}
    (inHand : List CellId) (sound : c.Sound (inHand ++ besides e before after))
    (kept : ∀ id ∈ besides e before after, c.frame? id = e.pool.frame? id) :
    RefinementRel
      { e with sessions := before ++ c.session :: after, pool := c.pool, metrics := c.metrics }
      { p with sessions := p.sessions.set before.length c.plain } inHand := by
  have same : ∀ t ∈ before ++ after, ∀ id ∈ t.buffers, c.pool.frame? id = e.pool.frame? id :=
    fun t mem id there => kept id (List.mem_append_right _ (List.mem_flatMap.mpr ⟨t, mem, there⟩))
  have old : ∀ t ∈ before ++ after, t.Sound e.pool := by
    intro t mem
    refine r.sound t ?_
    rw [eq]
    simp only [List.mem_append, List.mem_cons] at mem ⊢
    exact mem.imp_right .inr
  refine ⟨sound.owned.perm (List.perm_iff_count.mpr fun id => ?_), ?_, ?_, r.handles_eq, r.names, ?_⟩
  · simp only [besides, List.flatMap_append, List.flatMap_cons, List.count_append]
    omega
  · intro t mem
    simp only [List.mem_append, List.mem_cons] at mem
    obtain mem | rfl | mem := mem
    · exact (old t (by simp [mem])).congr (same t (by simp [mem]))
    · exact sound.session
    · exact (old t (by simp [mem])).congr (same t (by simp [mem]))
  · simp only [r.sessions_eq, eq, List.map_append, List.map_cons]
    rw [List.set_append_right _ _ (by simp), List.length_map, Nat.sub_self, List.set_cons_zero]
    rw [List.map_congr_left fun t mem => Session.plain_congr (same t (List.mem_append_left _ mem)),
      List.map_congr_left fun t mem => Session.plain_congr (same t (List.mem_append_right _ mem))]
    rfl
  · exact r.held_congr fun id mem => kept id (List.mem_append_left _ mem)

/-- A session is added, and a handle that leads to it. -/
theorem addSession (r : RefinementRel e p []) {pool : Pool} {metrics : Metrics}
    (sound : FrameHandoff.Sound ⟨s, pool, metrics⟩
      ([] ++ e.held.map (·.2) ++ e.sessions.flatMap (·.buffers)))
    (kept : ∀ id ∈ [] ++ e.held.map (·.2) ++ e.sessions.flatMap (·.buffers),
      pool.frame? id = e.pool.frame? id) :
    RefinementRel
      { e with
        pool
        sessions := e.sessions ++ [s]
        handles := e.handles ++ [e.sessions.length] }
      { p with
        sessions := p.sessions ++ [s.plain pool]
        handles := e.handles ++ [e.sessions.length] } [] := by
  have same : ∀ t ∈ e.sessions, ∀ id ∈ t.buffers, pool.frame? id = e.pool.frame? id :=
    fun t mem id there => kept id (List.mem_append_right _ (List.mem_flatMap.mpr ⟨t, mem, there⟩))
  refine ⟨sound.owned.perm (List.perm_iff_count.mpr fun id => ?_), ?_, ?_, rfl, r.names, ?_⟩
  · simp only [List.flatMap_append, List.flatMap_cons, List.flatMap_nil, List.count_append,
      List.append_nil]
    omega
  · intro t mem
    rw [List.mem_append, List.mem_singleton] at mem
    obtain mem | rfl := mem
    · exact (r.sound t mem).congr (same t mem)
    · exact sound.session
  · rw [r.sessions_eq, List.map_append, List.map_singleton]
    exact congrArg (· ++ _) (List.map_congr_left fun t mem => (Session.plain_congr (same t mem)).symm)
  · exact r.held_congr fun id mem => kept id (List.mem_append_left _ mem)

theorem withHandoff_of_none (found : e.session? handle = none) {α : Type}
    (f : FrameHandoff → α × FrameHandoff) : e.withHandoff handle f = .error (.noHandle handle) := by
  simp [withHandoff, handoff?, found]

theorem withSession_of_none (found : p.session? handle = none) {α : Type}
    (f : PlainSession → α × PlainSession) :
    p.withSession handle f = .error (.noHandle handle) := by
  unfold PlainTable.withSession
  rw [found]
  cases p.handles[handle]? <;> rfl

theorem withHandoff_of_some (leads : e.handles[handle]? = some before.length)
    (eq : e.sessions = before ++ s :: after) {α : Type} {f : FrameHandoff → α × FrameHandoff} {a : α}
    {c : FrameHandoff} (result : f ⟨s, e.pool, e.metrics⟩ = (a, c)) :
    e.withHandoff handle f = .ok (a,
      { e with sessions := before ++ c.session :: after, pool := c.pool, metrics := c.metrics }) := by
  have found : e.handoff? handle = some ⟨s, e.pool, e.metrics⟩ := by
    simp [handoff?, session?, leads, eq]
  simp [withHandoff, found, result, putHandoff, leads, eq]

/-- What tells something of a session and leaves it as it is. -/
theorem withHandoff_of_still {i : Nat} (leads : e.handles[handle]? = some i)
    (found : e.sessions[i]? = some s) {α : Type} {f : FrameHandoff → α × FrameHandoff} {a : α}
    (still : f ⟨s, e.pool, e.metrics⟩ = (a, ⟨s, e.pool, e.metrics⟩)) :
    e.withHandoff handle f = .ok (a, e) := by
  obtain ⟨bound, there⟩ := List.getElem?_eq_some_iff.mp found
  have handoff : e.handoff? handle = some ⟨s, e.pool, e.metrics⟩ := by
    simp [handoff?, session?, leads, found]
  unfold withHandoff putHandoff
  rw [handoff, leads]
  dsimp only
  rw [still]
  dsimp only
  rw [← there, List.set_getElem_self]

theorem withSession_of_some (r : RefinementRel e p inHand)
    (leads : e.handles[handle]? = some before.length) (eq : e.sessions = before ++ s :: after)
    {α : Type} (f : PlainSession → α × PlainSession) :
    p.withSession handle f = .ok ((f (s.plain e.pool)).1,
      { p with sessions := p.sessions.set before.length (f (s.plain e.pool)).2 }) := by
  have there : p.handles[handle]? = some before.length := by rw [r.handles_eq, leads]
  have found : p.session? handle = some (s.plain e.pool) := by
    simp [PlainTable.session?, there, r.sessions_eq, eq]
  simp [PlainTable.withSession, there, found]

/-- What can be done to a session and to its plain view can be done to both through a handle. -/
theorem withHandoff (r : RefinementRel e p []) (handle : Nat) {α : Type} {f : FrameHandoff → α × FrameHandoff}
    {g : PlainSession → α × PlainSession} (refines : FrameHandoff.RefinementRel f g) :
    SameResult (e.withHandoff handle f) (p.withSession handle g) := by
  obtain ⟨he, hp⟩ | ⟨before, s, after, leads, eq⟩ := r.reach handle
  · exact .inl ⟨_, withHandoff_of_none he f, withSession_of_none hp g⟩
  · obtain ⟨c', result, plain_eq, sound, kept⟩ := refines (r.sound_handoff eq)
    refine .inr ⟨_, _, _, withHandoff_of_some leads eq result, r.withSession_of_some leads eq g, ?_⟩
    have refined := r.putSession eq [] sound kept
    rw [plain_eq] at refined
    exact refined

end RefinementRel

/-! ## Requests -/

variable {e : HandoffTable} {p : PlainTable}

theorem publishPadded_refines (src : Bytes) (stride : Nat) :
    FrameHandoff.RefinementRel (publishPadded src stride) (PlainTable.publishPadded src stride) := by
  intro c others sound
  unfold publishPadded PlainTable.publishPadded
  have stream_eq : c.plain.stream = c.session.stream := rfl
  rw [stream_eq]
  obtain ⟨result, bytes⟩ := c.session.stream.copyUnpadded src stride []
  cases result with
  | error refusal => exact ⟨c, rfl, rfl, sound, fun _ _ => rfl⟩
  | ok => exact FrameHandoff.publish_refines bytes sound

theorem stop_refines : FrameHandoff.RefinementRel (fun c => ((), c.stop)) (fun s => ((), s.stop)) := by
  intro c others sound
  obtain ⟨plain_eq, sound', frames⟩ := FrameHandoff.stop_refines sound
  exact ⟨c.stop, rfl, plain_eq, sound', fun id _ => frames id⟩

/-- A step that does one thing through a handle and tells the result. -/
theorem sameResult_bind (r : RefinementRel e p []) (handle : Nat) {α : Type}
    {f : FrameHandoff → α × FrameHandoff}
    {g : PlainSession → α × PlainSession} (refines : FrameHandoff.RefinementRel f g) (answer : α → Answer) :
    SameResult (do let (a, e) ← e.withHandoff handle f; .ok (answer a, e))
      (do let (a, p) ← p.withSession handle g; .ok (answer a, p)) := by
  obtain ⟨failure, he, hp⟩ | ⟨a, e', p', he, hp, r'⟩ := r.withHandoff handle refines
  · rw [he, hp]
    exact .inl ⟨_, rfl, rfl⟩
  · rw [he, hp]
    exact .inr ⟨answer a, e', p', rfl, rfl, r'⟩

theorem tryTake_refines (r : RefinementRel e p []) (handle : Nat) (name : Option String) :
    SameResult (e.step (.tryTake handle name)) (p.step (.tryTake handle name)) := by
  simp only [step, PlainTable.step]
  obtain ⟨he, hp⟩ | ⟨before, s, after, leads, eq⟩ := r.reach handle
  · rw [RefinementRel.withHandoff_of_none he, RefinementRel.withSession_of_none hp]
    exact .inl ⟨_, rfl, rfl⟩
  · have sound := r.sound_handoff eq
    have plainly := r.withSession_of_some leads eq (·.tryTake)
    obtain ⟨-, result, plain⟩ | ⟨result, plain⟩ | ⟨id, f, c', result, plain, frame, sound', kept⟩ :=
      FrameHandoff.tryTake_cases sound
    · rw [show (s.plain e.pool).tryTake = _ from plain] at plainly
      rw [RefinementRel.withHandoff_of_some leads eq result, plainly]
      exact .inr ⟨_, _, _, rfl, rfl, r.putSession eq [] sound fun _ _ => rfl⟩
    · rw [show (s.plain e.pool).tryTake = _ from plain] at plainly
      rw [RefinementRel.withHandoff_of_some leads eq result, plainly]
      exact .inr ⟨_, _, _, rfl, rfl, r.putSession eq [] sound fun _ _ => rfl⟩
    · rw [show (s.plain e.pool).tryTake = _ from plain] at plainly
      rw [RefinementRel.withHandoff_of_some leads eq result, plainly]
      have put := r.putSession eq [id] sound' fun id _ => kept id
      refine .inr ⟨.frame (.ok (some f)), _, _, ?_, rfl, put.keep frame name⟩
      rw [← frame]
      rfl

theorem share_refines (r : RefinementRel e p []) (name second : String) :
    SameResult (e.step (.share name second)) (p.step (.share name second)) := by
  simp only [step, PlainTable.step]
  have held := r.held_eq name
  cases he : e.held.lookup name with
  | none =>
    cases hp : p.held.lookup name with
    | none => exact .inr ⟨_, e, p, rfl, rfl, r⟩
    | some f => simp [he, hp] at held
  | some id =>
    cases hp : p.held.lookup name with
    | none => simp [he, hp] at held
    | some f =>
      have frame : (e.pool.retain id).frame? id = some f := by
        rw [Pool.frame?_retain]
        simpa [he, hp] using held
      exact .inr ⟨_, _, _, rfl, rfl, (r.share he).hold frame second⟩

theorem start_refines (r : RefinementRel e p []) (stream : StreamFormat) :
    SameResult (e.step (.start stream)) (p.step (.start stream)) := by
  simp only [step, PlainTable.step]
  cases started : Session.start stream e.pool with
  | error refusal =>
    have plainly : PlainSession.start stream = .error refusal := by
      unfold Session.start at started
      unfold PlainSession.start
      cases len : stream.bufferLen <;> simp_all
    rw [plainly]
    cases refusal with
    | refused why => exact .inr ⟨_, e, p, rfl, rfl, r⟩
    | overload o => exact .inl ⟨_, rfl, rfl⟩
  | ok result =>
    obtain ⟨session, pool⟩ := result
    obtain ⟨sound, plainly, kept⟩ := FrameHandoff.sound_start r.owned e.metrics started
    rw [plainly]
    have length_eq : p.sessions.length = e.sessions.length := by simp [r.sessions_eq]
    refine .inr ⟨.number (.ok e.handles.length), _, _, rfl, ?_, r.addSession sound kept⟩
    rw [r.handles_eq, length_eq]

theorem step_refines (r : RefinementRel e p []) (request : Request) :
    SameResult (e.step request) (p.step request) := by
  cases request with
  | publish handle bytes => exact sameResult_bind r handle (FrameHandoff.publish_refines bytes) .number
  | publishPadded handle src stride =>
    exact sameResult_bind r handle (publishPadded_refines src stride) .number
  | tryTake handle name => exact tryTake_refines r handle name
  | read name => exact .inr ⟨_, e, p, rfl, by rw [r.heldFrame?_eq]; rfl, r⟩
  | share name second => exact share_refines r name second
  | release name =>
    exact .inr ⟨_, _, _, rfl, by rw [r.isSome_held]; rfl, r.releaseName name⟩
  | stop handle => exact sameResult_bind r handle stop_refines fun _ => .done
  | clone handle =>
    simp only [step, PlainTable.step, r.handles_eq]
    cases e.handles[handle]? with
    | none => exact .inl ⟨_, rfl, rfl⟩
    | some i => exact .inr ⟨_, _, _, rfl, rfl, { r with handles_eq := rfl }⟩
  | start stream => exact start_refines r stream
  | inspect handle =>
    simp only [step, PlainTable.step]
    obtain ⟨he, hp⟩ | ⟨before, s, after, leads, eq⟩ := r.reach handle
    · rw [he, hp]
      exact .inl ⟨_, rfl, rfl⟩
    · have found : e.session? handle = some s := by simp [session?, leads, eq]
      have plainly : p.session? handle = some (s.plain e.pool) := by
        simp [PlainTable.session?, r.handles_eq, leads, r.sessions_eq, eq]
      rw [found, plainly]
      exact .inr ⟨_, e, p, rfl, rfl, r⟩

theorem run_refines (r : RefinementRel e p []) (requests : List Request) :
    SameResult (e.run requests) (p.run requests) := by
  induction requests generalizing e p with
  | nil => exact .inr ⟨[], e, p, rfl, rfl, r⟩
  | cons request rest ih =>
    simp only [run, PlainTable.run]
    obtain ⟨failure, he, hp⟩ | ⟨answer, e₁, p₁, he, hp, r₁⟩ := step_refines r request
    · rw [he, hp]
      exact .inl ⟨failure, rfl, rfl⟩
    · obtain ⟨failure, he', hp'⟩ | ⟨answers, e₂, p₂, he', hp', r₂⟩ := ih r₁
      · rw [he, hp]
        simp only [bind, Except.bind, he', hp']
        exact .inl ⟨failure, rfl, rfl⟩
      · rw [he, hp]
        simp only [bind, Except.bind, he', hp']
        exact .inr ⟨answer :: answers, e₂, p₂, rfl, rfl, r₂⟩

/-! ## What a run is made of -/

variable {e₁ e' : HandoffTable} {request : Request} {rest : List Request} {answer : Answer}
    {answers : List Answer}

theorem exists_of_run_cons (result : e.run (request :: rest) = .ok (answers, e')) :
    ∃ answer e₁ answers', e.step request = .ok (answer, e₁) ∧ e₁.run rest = .ok (answers', e') ∧
      answers = answer :: answers' := by
  simp only [run] at result
  cases first : e.step request with
  | error failure =>
    rw [first] at result
    cases result
  | ok one =>
    obtain ⟨answer, e₁⟩ := one
    rw [first] at result
    simp only [bind, Except.bind] at result
    cases others : e₁.run rest with
    | error failure =>
      rw [others] at result
      cases result
    | ok last =>
      obtain ⟨answers', e₂⟩ := last
      rw [others] at result
      obtain ⟨rfl, rfl⟩ := Prod.mk.inj (Except.ok.inj result)
      exact ⟨answer, e₁, answers', rfl, others, rfl⟩

theorem run_cons (first : e.step request = .ok (answer, e₁)) (others : e₁.run rest = .ok (answers, e')) :
    e.run (request :: rest) = .ok (answer :: answers, e') := by
  simp only [run, first, bind, Except.bind, others]

end FramePipeline.HandoffTable
