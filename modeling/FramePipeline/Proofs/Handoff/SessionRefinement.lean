import FramePipeline.Handoff.Plain
import FramePipeline.Proofs.Handoff.Ownership

/-!
# Sessions without their buffers

A session whose buffers are accounted for behaves like a plain session, which makes a frame of its own
for every publication. The account lists the two buffers of the session and, behind them, the references
that *others* have to cells of the same pool: frames that were taken and are held, and the buffers of
other sessions. No operation of the session changes a frame that others refer to, because the one cell
that is written to is the spare one, and only if the account shows a single reference to it.

Main definitions: `Session.plain` (the plain session that a session stands for), `FrameHandoff.Sound` (the
invariant), `FrameHandoff.RefinementRel`, `FrameHandoff.PublicationRel` (all that a successful publication
does).

Main statements: `FrameHandoff.publish_refines`, `FrameHandoff.tryTake_cases`, `FrameHandoff.stop_refines`,
`FrameHandoff.release_refines` and `FrameHandoff.start_refines`.
-/

namespace FramePipeline

/-! ## The plain view -/

/-- The counters that do not depend on buffers. -/
def HandoffStats.visible (st : HandoffStats) : HandoffStats :=
  { st with reallocations := 0 }

namespace Session

/-- The buffers that the session refers to. -/
def buffers (s : Session) : List CellId :=
  (s.front.map (·.current)).toList ++ s.spare.toList

/-- The frame that waits to be taken. -/
def waiting (s : Session) (p : Pool) : Option Frame :=
  match s.front with
  | some ⟨id, true⟩ => p.frame? id
  | _ => none

/-- The plain session that a session stands for. -/
def plain (s : Session) (p : Pool) : PlainSession where
  stream := s.stream
  frameLen := s.frameLen
  closed := s.closed
  sequence := s.sequence
  waiting := s.waiting p
  stats := s.stats.visible

/-- Both sides are there until the session is closed and gone from then on, and buffers are of the
session's stream. -/
structure Sound (s : Session) (p : Pool) : Prop where
  sides : (s.closed = true ∧ s.front = none ∧ s.spare = none) ∨
    ∃ front spare, s.closed = false ∧ s.front = some front ∧ s.spare = some spare
  stream_eq : ∀ id ∈ s.buffers, ∀ f, p.frame? id = some f → f.metadata.stream = s.stream

variable {s : Session} {p p' : Pool}

/-- The plain view depends on the session's own buffers only. -/
theorem plain_congr (same : ∀ id ∈ s.buffers, p'.frame? id = p.frame? id) :
    s.plain p' = s.plain p := by
  have waits : s.waiting p' = s.waiting p := by
    unfold waiting
    split
    · next id front => exact same id (by simp [buffers, front])
    · rfl
  simp only [plain, waits]

theorem Sound.congr (h : s.Sound p) (same : ∀ id ∈ s.buffers, p'.frame? id = p.frame? id) :
    s.Sound p' :=
  ⟨h.sides, fun id mem f hf => h.stream_eq id mem f (same id mem ▸ hf)⟩

end Session

namespace FrameHandoff

variable {c : FrameHandoff} {others : List CellId}

/-- The plain session that a handoff stands for. -/
def plain (c : FrameHandoff) : PlainSession :=
  c.session.plain c.pool

/-- The references to cells are those of the session and those of others. -/
structure Sound (c : FrameHandoff) (others : List CellId) : Prop where
  owned : c.pool.IsOwnedBy (c.session.buffers ++ others)
  session : c.session.Sound c.pool

/-! The metrics are beside all this. -/

@[simp] theorem plain_with_metrics (c : FrameHandoff) (metrics : Metrics) :
    { c with metrics }.plain = c.plain :=
  rfl

theorem Sound.with_metrics (sound : c.Sound others) (metrics : Metrics) :
    { c with metrics }.Sound others :=
  ⟨sound.owned, sound.session⟩

/-- The slot of a handoff, and what the plain session says of it. -/
theorem Sound.front_cases (sound : c.Sound others) :
    (c.session.front = none ∧ c.plain.closed = true ∧ c.plain.waiting = none) ∨
      (∃ id, c.session.front = some ⟨id, false⟩ ∧ c.plain.closed = false ∧ c.plain.waiting = none) ∨
      ∃ id f, c.session.front = some ⟨id, true⟩ ∧ c.plain.closed = false ∧
        c.plain.waiting = some f := by
  obtain ⟨closed, front, -⟩ | ⟨⟨id, ready⟩, spare, isOpen, front, -⟩ := sound.session.sides
  · exact .inl ⟨front, closed, by simp [plain, Session.plain, Session.waiting, front]⟩
  · cases ready with
    | false =>
      exact .inr (.inl ⟨id, front, isOpen, by simp [plain, Session.plain, Session.waiting, front]⟩)
    | true =>
      have mem : id ∈ c.session.buffers ++ others := by simp [Session.buffers, front]
      obtain ⟨f, frame⟩ := sound.owned.exists_frame mem
      exact .inr (.inr ⟨id, f, front, isOpen,
        by simpa [plain, Session.plain, Session.waiting, front] using frame⟩)

/-- What is done to a handoff gives the result that it gives for the plain session, leaves the plain
session that is left there, and changes no frame of others. -/
def RefinementRel {α : Type} (f : FrameHandoff → α × FrameHandoff) (g : PlainSession → α × PlainSession) :
    Prop :=
  ∀ ⦃c : FrameHandoff⦄ ⦃others : List CellId⦄, c.Sound others →
    ∃ c', f c = ((g c.plain).1, c') ∧ c'.plain = (g c.plain).2 ∧ c'.Sound others ∧
      ∀ id ∈ others, c'.frame? id = c.frame? id

/-! ## Copying -/

theorem session_copy (c : FrameHandoff) (spare : CellId) (bytes : Bytes) (n : Nat) :
    (c.copy spare bytes n).2.session =
      if c.pool.refs spare = 1 then c.session else c.countReallocation.session := by
  unfold copy
  split <;> rfl

/-- A copy goes into a cell that nobody else refers to, whether it was there before or not. -/
theorem copy_owned {spare : CellId} {rest : List CellId} (owned : c.pool.IsOwnedBy (spare :: rest))
    (stream_eq : ∀ f, c.pool.frame? spare = some f → f.metadata.stream = c.session.stream)
    (bytes : Bytes) (n : Nat) :
    (c.copy spare bytes n).2.pool.IsOwnedBy ((c.copy spare bytes n).1 :: rest) ∧
      (c.copy spare bytes n).2.pool.frame? (c.copy spare bytes n).1 =
        some ⟨⟨n, c.session.stream⟩, bytes⟩ ∧
      ∀ id ∈ rest, (c.copy spare bytes n).2.pool.frame? id = c.pool.frame? id := by
  unfold copy
  split
  · next one =>
    obtain ⟨f, hf⟩ := owned.exists_frame (List.mem_cons_self ..)
    refine ⟨owned.overwrite spare bytes n, ?_, fun id mem => ?_⟩
    · rw [Pool.frame?_overwrite, if_pos rfl, hf]
      simp [Frame.overwrite, stream_eq f hf]
    · have other : id ≠ spare := by
        rintro rfl
        exact owned.not_mem_of_refs_eq_one one mem
      rw [Pool.frame?_overwrite, if_neg other]
  · have released : (c.pool.release spare).IsOwnedBy rest := owned.release
    have fresh : (c.pool.release spare).size ∉ rest := released.size_not_mem
    refine ⟨released.alloc _, ?_, fun id mem => ?_⟩
    · show ((c.pool.release spare).alloc _).2.frame? (c.pool.release spare).size = _
      rw [Pool.frame?_alloc, if_pos rfl]
      simp [Frame.overwrite, Frame.blank]
    · have other : id ≠ (c.pool.release spare).size := fun same => fresh (same ▸ mem)
      show ((c.pool.release spare).alloc _).2.frame? id = _
      rw [Pool.frame?_alloc, if_neg other, Pool.frame?_release]

/-! ## Publishing -/

/-- What a publication that goes through does: the copied frame is the new front buffer, and the old
one is the spare buffer of the next publication. -/
structure PublicationRel (c : FrameHandoff) (others : List CellId) (bytes : Bytes) (front : Session.Front)
    (spare fresh : CellId) (c' : FrameHandoff) : Prop where
  front_eq : c.session.front = some front
  spare_eq : c.session.spare = some spare
  session_eq : c'.session =
    { c.session with
      sequence := c.session.sequence + 1
      front := some ⟨fresh, true⟩
      spare := some front.current
      stats :=
        { c.session.stats with
          published := c.session.stats.published + 1
          dropped := c.session.stats.dropped + front.ready.toNat
          reallocations :=
            c.session.stats.reallocations + if c.pool.refs spare = 1 then 0 else 1 } }
  owned : c'.pool.IsOwnedBy (fresh :: front.current :: others)
  frame_eq : c'.pool.frame? fresh = some ⟨⟨c.session.sequence + 1, c.session.stream⟩, bytes⟩
  kept : ∀ id ∈ front.current :: others, c'.pool.frame? id = c.pool.frame? id

theorem publish_of_closed (closed : c.session.closed = true) (bytes : Bytes) :
    c.publish bytes = (.error .sessionClosed, c) := by
  simp [publish, check, closed]

theorem publish_of_mismatch (isOpen : c.session.closed = false) {bytes : Bytes}
    (len : bytes.length ≠ c.session.frameLen) :
    c.publish bytes =
      (.error (.sizeMismatch c.session.frameLen bytes.length), c.countMismatch) := by
  simp [publish, check, isOpen, len]

theorem publish_of_fits (sound : c.Sound others) (isOpen : c.session.closed = false) {bytes : Bytes}
    (len : bytes.length = c.session.frameLen) :
    ∃ front spare fresh c', c.publish bytes = (.ok (c.session.sequence + 1), c') ∧
      c.PublicationRel others bytes front spare fresh c' := by
  obtain ⟨closed, -, -⟩ | ⟨front, spare, -, hfront, hspare⟩ := sound.session.sides
  · rw [isOpen] at closed
    cases closed
  · -- the handoff from which the copy starts: the spare buffer is checked out
    let start : FrameHandoff :=
      { c with session.spare := none, session.sequence := c.session.sequence + 1 }
    have owned : start.pool.IsOwnedBy (spare :: front.current :: others) := by
      refine sound.owned.perm ?_
      simp only [Session.buffers, hfront, hspare, Option.map_some, Option.toList_some]
      exact List.Perm.swap ..
    have stream_eq : ∀ f, start.pool.frame? spare = some f → f.metadata.stream = start.session.stream :=
      sound.session.stream_eq spare (by simp [Session.buffers, hspare])
    obtain ⟨copied, frame_eq, kept⟩ := copy_owned owned stream_eq bytes (c.session.sequence + 1)
    have session := session_copy start spare bytes (c.session.sequence + 1)
    have filled : c.fill bytes =
        (.ok ((start.copy spare bytes (c.session.sequence + 1)).1, c.session.sequence + 1),
          (start.copy spare bytes (c.session.sequence + 1)).2) := by
      simp [fill, hspare, start]
    generalize start.copy spare bytes (c.session.sequence + 1) = copy at *
    obtain ⟨fresh, c₁⟩ := copy
    have front₁ : c₁.session.front = some front := by
      rw [session]
      split <;> exact hfront
    let shown : FrameHandoff :=
      ({ c₁ with session.front := some ⟨fresh, true⟩ }.returnSpare front.current).countPublished
    have pool_eq : (if front.ready then shown.countDropped else shown).pool = c₁.pool := by
      split <;> rfl
    refine ⟨front, spare, fresh, if front.ready then shown.countDropped else shown, ?_,
      hfront, hspare, ?_, ?_, ?_, ?_⟩
    · simp only [publish, check, isOpen, len, filled, install, front₁, Bool.false_eq_true, if_false,
        if_true]
      rfl
    · have session₁ : c₁.session = { start.session with
          stats.reallocations := c.session.stats.reallocations +
            if c.pool.refs spare = 1 then 0 else 1 } := by
        rw [session]
        split <;> rfl
      cases hready : front.ready <;>
        simp [shown, returnSpare, countPublished, countDropped, session₁, start]
    · rw [pool_eq]
      exact copied
    · rw [pool_eq]
      exact frame_eq
    · rw [pool_eq]
      exact kept

namespace PublicationRel

variable {bytes : Bytes} {front : Session.Front} {spare fresh : CellId} {c' : FrameHandoff}

theorem buffers_eq (h : c.PublicationRel others bytes front spare fresh c') :
    c'.session.buffers = [fresh, front.current] := by
  simp [Session.buffers, h.session_eq]

theorem sound (h : c.PublicationRel others bytes front spare fresh c') (sound : c.Sound others)
    (isOpen : c.session.closed = false) : c'.Sound others := by
  refine ⟨?_, .inr ⟨⟨fresh, true⟩, front.current, ?_⟩, ?_⟩
  · rw [h.buffers_eq]
    exact h.owned
  · rw [h.session_eq]
    exact ⟨isOpen, rfl, rfl⟩
  · intro id mem f hf
    rw [h.buffers_eq, List.mem_cons, List.mem_singleton] at mem
    rw [h.session_eq]
    obtain rfl | rfl := mem
    · rw [h.frame_eq] at hf
      obtain rfl := Option.some.inj hf
      rfl
    · rw [h.kept _ (List.mem_cons_self ..)] at hf
      exact sound.session.stream_eq _ (by simp [Session.buffers, h.front_eq]) f hf

theorem plain_eq (h : c.PublicationRel others bytes front spare fresh c') (sound : c.Sound others)
    (isOpen : c.session.closed = false) (len : bytes.length = c.session.frameLen) :
    c'.plain = (c.plain.publish bytes).2 := by
  have waits : (c.session.waiting c.pool).isSome = front.ready := by
    have mem : front.current ∈ c.session.buffers ++ others := by
      simp [Session.buffers, h.front_eq]
    obtain ⟨f, hf⟩ := sound.owned.exists_frame mem
    obtain ⟨id, ready⟩ := front
    cases ready <;> simp_all [Session.waiting, h.front_eq]
  have waits' : c'.session.waiting c'.pool =
      some ⟨⟨c.session.sequence + 1, c.session.stream⟩, bytes⟩ := by
    simp [Session.waiting, h.session_eq, h.frame_eq]
  rw [plain, Session.plain, waits']
  simp [plain, Session.plain, PlainSession.publish, isOpen, len, waits, h.session_eq,
    HandoffStats.visible]

end PublicationRel

theorem publish_refines (bytes : Bytes) : RefinementRel (·.publish bytes) (·.publish bytes) := by
  intro c others sound
  show ∃ c', c.publish bytes = _ ∧ _
  cases hclosed : c.session.closed with
  | true =>
    refine ⟨c, ?_, ?_, sound, fun _ _ => rfl⟩
    · rw [publish_of_closed hclosed]
      simp [PlainSession.publish, plain, Session.plain, hclosed]
    · simp [PlainSession.publish, plain, Session.plain, hclosed]
  | false =>
    by_cases len : bytes.length = c.session.frameLen
    · obtain ⟨front, spare, fresh, c', eq, into⟩ := publish_of_fits sound hclosed len
      refine ⟨c', ?_, into.plain_eq sound hclosed len, into.sound sound hclosed,
        fun id mem => into.kept id (List.mem_cons_of_mem _ mem)⟩
      rw [eq]
      simp [PlainSession.publish, plain, Session.plain, hclosed, len]
    · refine ⟨c.countMismatch, ?_, ?_, ⟨sound.owned, sound.session.sides, sound.session.stream_eq⟩,
        fun _ _ => rfl⟩
      · rw [publish_of_mismatch hclosed len]
        simp [PlainSession.publish, plain, Session.plain, hclosed, len]
      · simp [PlainSession.publish, plain, Session.plain, hclosed, len, countMismatch,
          Session.waiting, HandoffStats.visible]

/-! ## Taking -/

/-- A closed session gives nothing and says so; otherwise the consumer gets the frame that waits, and
a reference to its buffer. -/
theorem tryTake_cases (sound : c.Sound others) :
    (c.session.closed = true ∧ c.tryTake = (.error .sessionClosed, c) ∧
        c.plain.tryTake = (.error .sessionClosed, c.plain)) ∨
      (c.tryTake = (.ok none, c) ∧ c.plain.tryTake = (.ok none, c.plain)) ∨
      ∃ id f c', c.tryTake = (.ok (some id), c') ∧ c.plain.tryTake = (.ok (some f), c'.plain) ∧
        c'.frame? id = some f ∧ c'.Sound (id :: others) ∧ ∀ other, c'.frame? other = c.frame? other := by
  obtain ⟨closed, hfront, hspare⟩ | ⟨⟨id, ready⟩, spare, isOpen, hfront, hspare⟩ := sound.session.sides
  · refine .inl ⟨closed, ?_, ?_⟩
    · simp [tryTake, takeFront, hfront]
    · simp [PlainSession.tryTake, plain, Session.plain, closed]
  · right
    cases ready with
    | false =>
      refine .inl ⟨?_, ?_⟩
      · simp [tryTake, takeFront, hfront]
      · simp [PlainSession.tryTake, plain, Session.plain, isOpen, Session.waiting, hfront]
    | true =>
      have mem : id ∈ c.session.buffers ++ others := by simp [Session.buffers, hfront]
      obtain ⟨f, hf⟩ := sound.owned.exists_frame mem
      let taken : FrameHandoff :=
        { c with session.front := some ⟨id, false⟩, pool := c.pool.retain id }.countTaken
      have same : ∀ other, taken.frame? other = c.frame? other := Pool.frame?_retain c.pool id
      have buffers_eq : taken.session.buffers = c.session.buffers := by
        simp [taken, Session.buffers, hfront, countTaken]
      refine .inr ⟨id, f, taken, ?_, ?_, (same id).trans hf, ⟨?_, ?_, ?_⟩, same⟩
      · simp [tryTake, takeFront, hfront, taken]
      · simp [PlainSession.tryTake, plain, Session.plain, isOpen, Session.waiting, hfront, hf, taken,
          countTaken, HandoffStats.visible]
      · rw [buffers_eq]
        exact (sound.owned.retain mem).perm List.perm_middle.symm
      · exact .inr ⟨⟨id, false⟩, spare, isOpen, rfl, hspare⟩
      · rw [buffers_eq]
        intro other there g hg
        exact sound.session.stream_eq other there g ((same other).symm.trans hg)

/-! ## Giving up -/

@[simp] theorem plain_release (c : FrameHandoff) (id : CellId) : (c.release id).plain = c.plain :=
  Session.plain_congr fun _ _ => Pool.frame?_release ..

theorem release_refines {id : CellId} (sound : c.Sound (id :: others)) :
    (c.release id).plain = c.plain ∧ (c.release id).Sound others ∧
      ∀ other, (c.release id).frame? other = c.frame? other := by
  refine ⟨plain_release c id, ⟨?_, ?_⟩, fun other => Pool.frame?_release ..⟩
  · exact Pool.IsOwnedBy.release (sound.owned.perm List.perm_middle)
  · exact sound.session.congr fun _ _ => Pool.frame?_release ..

/-- A session gives up both its buffers when it is stopped, and others keep theirs. -/
theorem stop_refines (sound : c.Sound others) :
    c.stop.plain = c.plain.stop ∧ c.stop.Sound others ∧
      ∀ id, c.stop.frame? id = c.frame? id := by
  obtain ⟨closed, hfront, hspare⟩ | ⟨front, spare, isOpen, hfront, hspare⟩ := sound.session.sides
  · have eq : c.stop = c := by
      obtain ⟨⟨⟩, pool, metrics⟩ := c
      simp_all [stop, close]
    rw [eq]
    refine ⟨?_, sound, fun _ => rfl⟩
    simp [plain, Session.plain, PlainSession.stop, closed, Session.waiting, hfront]
  · have eq : c.stop =
        { c with
          session := { c.session with closed := true, front := none, spare := none }
          pool := (c.pool.release front.current).release spare } := by
      simp [stop, close, isOpen, emptyFront, emptySpare, hfront, hspare]
    have frames : ∀ id, c.stop.frame? id = c.frame? id := by
      intro id
      simp [eq, frame?]
    refine ⟨?_, ⟨?_, ?_, ?_⟩, frames⟩
    · simp [eq, plain, Session.plain, PlainSession.stop, Session.waiting]
    · have owned : c.pool.IsOwnedBy (front.current :: spare :: others) := by
        simpa [Session.buffers, hfront, hspare] using sound.owned
      rw [eq]
      exact owned.release.release
    · rw [eq]
      exact .inl ⟨rfl, rfl, rfl⟩
    · rw [eq]
      simp [Session.buffers]

/-! ## Starting -/

/-- A new session is sound, whatever others hold in its pool, and stands for a new plain session. -/
theorem sound_start {stream : StreamFormat} {pool pool' : Pool} {session : Session}
    (owned : pool.IsOwnedBy others) (metrics : Metrics)
    (start : Session.start stream pool = .ok (session, pool')) :
    Sound ⟨session, pool', metrics⟩ others ∧
      PlainSession.start stream = .ok (session.plain pool') ∧
      ∀ id ∈ others, pool'.frame? id = pool.frame? id := by
  unfold Session.start at start
  split at start
  · cases start
  · next frameLen len =>
    obtain ⟨rfl, rfl⟩ := Prod.mk.inj (Except.ok.inj start)
    let blank := Frame.blank stream frameLen
    let first := (pool.alloc blank).2
    have owned₁ : first.IsOwnedBy (pool.size :: others) := owned.alloc blank
    have owned₂ : (first.alloc blank).2.IsOwnedBy (first.size :: pool.size :: others) :=
      owned₁.alloc blank
    have kept : ∀ id ∈ others, (first.alloc blank).2.frame? id = pool.frame? id := by
      intro id mem
      have other₁ : id ≠ pool.size := fun same => owned.size_not_mem (same ▸ mem)
      have other₂ : id ≠ first.size :=
        fun same => owned₁.size_not_mem (same ▸ List.mem_cons_of_mem _ mem)
      rw [Pool.frame?_alloc, if_neg other₂, Pool.frame?_alloc, if_neg other₁]
    have blank_eq : ∀ id ∈ [first.size, pool.size], (first.alloc blank).2.frame? id = some blank := by
      intro id mem
      have differ : pool.size ≠ first.size := by simp [first]
      simp only [List.mem_cons, List.not_mem_nil, or_false] at mem
      obtain rfl | rfl := mem
      · rw [Pool.frame?_alloc, if_pos rfl]
      · rw [Pool.frame?_alloc, if_neg differ, Pool.frame?_alloc, if_pos rfl]
    refine ⟨⟨owned₂, .inr ⟨_, _, rfl, rfl, rfl⟩, ?_⟩, ?_, kept⟩
    · intro id mem f hf
      have eq := (blank_eq id mem).symm.trans hf
      obtain rfl := Option.some.inj eq
      rfl
    · simp [PlainSession.start, len, Session.plain, Session.waiting, HandoffStats.visible]

/-- A new handoff is sound and stands for a new plain session. -/
theorem start_refines {stream : StreamFormat} {c : FrameHandoff} (started : start stream = .ok c) :
    c.Sound [] ∧ PlainSession.start stream = .ok c.plain := by
  unfold start at started
  split at started
  · next session pool eq =>
    obtain rfl := Except.ok.inj started
    obtain ⟨sound, plain, -⟩ := sound_start Pool.isOwnedBy_empty [] eq
    exact ⟨sound, plain⟩
  · cases started

end FrameHandoff

end FramePipeline
