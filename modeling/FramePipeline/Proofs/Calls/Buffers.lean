import FramePipeline.Proofs.Calls.Sections
import FramePipeline.Proofs.Handoff.SessionRefinement

/-!
# Buffers that calls have in their hands

While calls are under way, the references to buffers are those of the session and those that calls have in
their hands: a publication has the buffer that it filled, then the one that the consumer saw before, and a
take has the one that it took, until its caller gives it up. A section passes buffers between the session and
the call that it belongs to, and changes no frame that anybody else refers to.

Main definitions: `CallStage.inHand`, `Calls.inHand`, `Calls.Sound` (the invariant). Main statements:
`CallStage.StageRel.owned`, `CallStage.StopStageRel.owned`, `Calls.sound_run`.
-/

namespace FramePipeline

namespace CallStage

/-- The buffers to which the call refers. -/
def inHand : CallStage → List CellId
  | lockingConsumer fresh _ | installing fresh _ => [fresh]
  | returningSpare previous _ => [previous.current]
  | countingTaken id _ | returned (.took (some (id, _))) => [id]
  | _ => []

/-- The call took the spare buffer, or a new one for it, and did not put one back yet. -/
def hasSpare : CallStage → Bool
  | lockingConsumer .. | installing .. | returningSpare .. => true
  | _ => false

/-- The frame that the call took, and its buffer. -/
def took? : CallStage → Option (CellId × Frame)
  | countingTaken id f => some (id, f)
  | returned (.took taken) => taken
  | _ => none

theorem mem_inHand_of_took {stage : CallStage} {id : CellId} {f : Frame}
    (took : stage.took? = some (id, f)) : id ∈ stage.inHand := by
  unfold took? at took
  split at took
  · obtain ⟨rfl, rfl⟩ := Prod.mk.inj (Option.some.inj took)
    exact List.mem_singleton_self _
  · rw [took]
    exact List.mem_singleton_self _
  · cases took

theorem locksProducer_of_hasSpare {stage : CallStage} (out : stage.hasSpare = true) :
    stage.locksProducer = true := by
  cases stage <;> first | rfl | cases out

end CallStage

/-! ## Sections -/

namespace FrameHandoff

/-- Every buffer is one for the frames of the session's stream. -/
def OfStream (c : FrameHandoff) : Prop :=
  ∀ id f, c.frame? id = some f → f.metadata.stream = c.session.stream

theorem stream_copy (c : FrameHandoff) (spare : CellId) (bytes : Bytes) (n : Nat) :
    (c.copy spare bytes n).2.session.stream = c.session.stream := by
  rw [session_copy]
  split <;> rfl

/-- A copy into the spare buffer changes no more of the session than the spare buffer, the number and a
counter. -/
theorem session_of_copy {c c' : FrameHandoff} {spare fresh : CellId} {bytes : Bytes} {n : Nat}
    (copied : c.checkOut.copy spare bytes n = (fresh, c')) :
    ∃ k, c'.session = { c.checkOut.session with stats.reallocations := k } := by
  have session := c.checkOut.session_copy spare bytes n
  rw [copied] at session
  split at session <;> exact ⟨_, session⟩

/-- A new handoff, with the two blank buffers of its session. -/
theorem start_eq {stream : StreamFormat} {c : FrameHandoff} (started : start stream = .ok c) :
    ∃ frameLen, c =
      { session := { stream, frameLen, front := some ⟨1, false⟩, spare := some 0 }
        pool := ((Pool.alloc {} (.blank stream frameLen)).2.alloc (.blank stream frameLen)).2 } := by
  unfold start Session.start at started
  cases len : stream.bufferLen with
  | error e =>
    rw [len] at started
    cases started
  | ok frameLen =>
    rw [len] at started
    exact ⟨frameLen, (Except.ok.inj started).symm⟩

theorem ofStream_start {stream : StreamFormat} {c : FrameHandoff} (started : start stream = .ok c) :
    c.OfStream := by
  obtain ⟨frameLen, rfl⟩ := start_eq started
  intro id f frame
  have blank : (Frame.blank stream frameLen).metadata.stream = stream := rfl
  rw [FrameHandoff.frame?, Pool.frame?_alloc, Pool.frame?_alloc] at frame
  split at frame
  · rwa [Option.some.inj frame] at blank
  · split at frame
    · rwa [Option.some.inj frame] at blank
    · cases frame

theorem OfStream.copy {c : FrameHandoff} (h : c.OfStream) (spare : CellId) (bytes : Bytes) (n : Nat) :
    (c.copy spare bytes n).2.OfStream := by
  intro id f frame
  rw [stream_copy]
  unfold FrameHandoff.copy at frame
  split at frame
  · have frame : (c.pool.overwrite spare bytes n).frame? id = some f := frame
    rw [Pool.frame?_overwrite] at frame
    split at frame
    · obtain ⟨old, there, rfl⟩ := Option.map_eq_some_iff.mp frame
      exact h spare old there
    · exact h id f frame
  · have frame : ((c.pool.release spare).alloc
      ((Frame.blank c.session.stream c.session.frameLen).overwrite bytes n)).2.frame? id = some f := frame
    rw [Pool.frame?_alloc] at frame
    split at frame
    · obtain rfl := Option.some.inj frame
      rfl
    · rw [Pool.frame?_release] at frame
      exact h id f frame

end FrameHandoff

namespace CallStage

variable {c c' : FrameHandoff} {stage stage' : CallStage} {others : List CellId}

theorem StageRel.stream_eq (l : stage.StageRel c stage' c') : c'.session.stream = c.session.stream := by
  cases l with
  | @filled bytes spare fresh c' there copied =>
    have stream := c.checkOut.stream_copy spare bytes (c.session.sequence + 1)
    rwa [copied] at stream
  | _ => rfl

theorem StopStageRel.stream_eq (l : stage.StopStageRel c stage' c') :
    c'.session.stream = c.session.stream := by
  cases l with
  | emptiedFront =>
    unfold FrameHandoff.emptyFront
    split <;> rfl
  | emptiedSpare =>
    unfold FrameHandoff.emptySpare
    split <;> rfl
  | _ => rfl

theorem StopStageRel.frame?_eq (l : stage.StopStageRel c stage' c') (id : CellId) :
    c'.frame? id = c.frame? id := by
  cases l with
  | frontGone => exact Pool.frame?_release ..
  | noFrame => exact Pool.frame?_retain ..
  | emptiedFront =>
    unfold FrameHandoff.emptyFront
    split
    · rfl
    · exact Pool.frame?_release ..
  | emptiedSpare =>
    unfold FrameHandoff.emptySpare
    split
    · rfl
    · exact Pool.frame?_release ..
  | _ => rfl

theorem StageRel.ofStream (l : stage.StageRel c stage' c') (h : c.OfStream) : c'.OfStream := by
  cases l with
  | @filled bytes spare fresh c' there copied =>
    have start : c.checkOut.OfStream := h
    have result := start.copy spare bytes (c.session.sequence + 1)
    rwa [copied] at result
  | took => exact fun id f frame => h id f ((Pool.frame?_retain ..).symm.trans frame)
  | _ => exact h

theorem StopStageRel.ofStream (l : stage.StopStageRel c stage' c') (h : c.OfStream) : c'.OfStream := by
  intro id f frame
  rw [l.frame?_eq] at frame
  rw [l.stream_eq]
  exact h id f frame

/-- What a publication does when it takes the spare buffer and copies. -/
theorem filled_spec {bytes : Bytes} {spare fresh : CellId} (there : c.session.spare = some spare)
    (copied : c.checkOut.copy spare bytes (c.session.sequence + 1) = (fresh, c'))
    (ofStream : c.OfStream) (owned : c.pool.IsOwnedBy (c.session.buffers ++ others)) :
    c'.pool.IsOwnedBy (c'.session.buffers ++ fresh :: others) ∧
      c'.frame? fresh = some ⟨⟨c.session.sequence + 1, c.session.stream⟩, bytes⟩ ∧
      (∀ id ∈ c'.session.buffers ++ others, c'.frame? id = c.frame? id) ∧
      ∃ n, c'.session = { c.checkOut.session with stats.reallocations := n } := by
  have session := FrameHandoff.session_of_copy copied
  have buffers : c'.session.buffers = (c.session.front.map (·.current)).toList := by
    obtain ⟨n, session⟩ := session
    simp [session, FrameHandoff.checkOut, Session.buffers]
  have owned : c.checkOut.pool.IsOwnedBy (spare :: (c'.session.buffers ++ others)) := by
    refine owned.perm ?_
    rw [buffers, Session.buffers, there, List.append_assoc]
    exact List.perm_middle
  obtain ⟨copied_owned, frame, kept⟩ := FrameHandoff.copy_owned owned (ofStream spare) bytes
    (c.session.sequence + 1)
  rw [copied] at copied_owned frame kept
  exact ⟨copied_owned.perm List.perm_middle.symm, frame, kept, session⟩

/-- A section of an open session passes buffers between the session and the call. -/
theorem StageRel.owned (l : stage.StageRel c stage' c') (ofStream : c.OfStream)
    (out : stage.hasSpare = true → c.session.spare = none)
    (owned : c.pool.IsOwnedBy (c.session.buffers ++ (stage.inHand ++ others))) :
    c'.pool.IsOwnedBy (c'.session.buffers ++ (stage'.inHand ++ others)) ∧
      ∀ id ∈ others, c'.frame? id = c.frame? id := by
  cases l with
  | filled there copied =>
    obtain ⟨owned', -, kept, -⟩ := filled_spec there copied ofStream owned
    exact ⟨owned', fun id mem => kept id (List.mem_append_right _ mem)⟩
  | @installed fresh n previous there =>
    refine ⟨owned.perm ?_, fun _ _ => rfl⟩
    -- The two buffers change places.
    simp only [Session.buffers, there, inHand, Option.map_some, Option.toList_some, List.cons_append]
    exact (List.Perm.cons _ List.perm_middle).trans ((List.Perm.swap ..).trans
      (List.Perm.cons _ List.perm_middle.symm))
  | returnedSpare =>
    refine ⟨?_, fun _ _ => rfl⟩
    rw [Session.buffers, out rfl] at owned
    simpa [Session.buffers, FrameHandoff.returnSpare, inHand] using owned
  | @took id f there frame =>
    have mem : id ∈ c.session.buffers ++ others := by simp [Session.buffers, there]
    refine ⟨?_, fun _ _ => Pool.frame?_retain ..⟩
    have buffers : c.session.buffers =
        { c.session with front := some (⟨id, false⟩ : Session.Front) }.buffers := by
      simp [Session.buffers, there]
    rw [← buffers]
    exact (owned.retain mem).perm List.perm_middle.symm
  | _ => exact ⟨owned, fun _ _ => rfl⟩

/-- A section of a stop, or what a stop has left, gives buffers up. -/
theorem StopStageRel.owned (l : stage.StopStageRel c stage' c')
    (owned : c.pool.IsOwnedBy (c.session.buffers ++ (stage.inHand ++ others))) :
    c'.pool.IsOwnedBy (c'.session.buffers ++ (stage'.inHand ++ others)) := by
  cases l with
  | frontGone gone => exact Pool.IsOwnedBy.release (owned.perm List.perm_middle)
  | @noFrame id there blank =>
    have mem : id ∈ c.session.buffers := by simp [Session.buffers, there]
    obtain ⟨f, frame⟩ := owned.exists_frame (List.mem_append_left _ mem)
    cases blank.symm.trans frame
  | emptiedFront =>
    unfold FrameHandoff.emptyFront
    split
    · exact owned
    · next front there =>
      refine Pool.IsOwnedBy.release (owned.perm ?_)
      simp [Session.buffers, there, inHand]
  | emptiedSpare =>
    unfold FrameHandoff.emptySpare
    split
    · exact owned
    · next spare there =>
      refine Pool.IsOwnedBy.release (owned.perm ?_)
      simp only [Session.buffers, there, Option.toList_some, Option.toList_none, List.append_nil,
        List.append_assoc]
      exact List.perm_middle
  | _ => exact owned

/-- The spare buffer is out as long as a publication has it. -/
theorem StageRel.out (l : stage.StageRel c stage' c')
    (out : stage.hasSpare = true → c.session.spare = none) (has : stage'.hasSpare = true) :
    c'.session.spare = none := by
  cases l with
  | @filled bytes spare fresh c' there copied =>
    obtain ⟨k, session⟩ := FrameHandoff.session_of_copy copied
    rw [session]
    rfl
  | lockedConsumer => exact out rfl
  | installed => exact out rfl
  | _ => cases has

/-- Nobody else puts a spare buffer back. -/
theorem StageRel.spare_none (l : stage.StageRel c stage' c') (other : stage.hasSpare = false)
    (gone : c.session.spare = none) : c'.session.spare = none := by
  cases l with
  | filled there => cases gone.symm.trans there
  | returnedSpare => cases other
  | _ => exact gone

theorem StopStageRel.spare_none (l : stage.StopStageRel c stage' c') (gone : c.session.spare = none) :
    c'.session.spare = none := by
  cases l with
  | emptiedFront =>
    unfold FrameHandoff.emptyFront
    split <;> exact gone
  | emptiedSpare =>
    unfold FrameHandoff.emptySpare
    split
    · exact gone
    · rfl
  | _ => exact gone

theorem StopStageRel.hasSpare (l : stage.StopStageRel c stage' c') : stage'.hasSpare = false := by
  cases l <;> rfl

/-- What the call took stays what it was. -/
theorem StageRel.taken (l : stage.StageRel c stage' c') {id : CellId} {f : Frame}
    (taken : ∀ id f, stage.took? = some (id, f) → c.frame? id = some f)
    (took : stage'.took? = some (id, f)) : c'.frame? id = some f := by
  cases l with
  | took there frame =>
    obtain ⟨rfl, rfl⟩ := Prod.mk.inj (Option.some.inj took)
    exact (Pool.frame?_retain ..).trans frame
  | countedTaken => exact taken id f took
  | _ => cases took

theorem StopStageRel.took? (l : stage.StopStageRel c stage' c') : stage'.took? = none := by
  cases l <;> rfl

end CallStage

/-! ## All calls -/

namespace Calls

variable {s s' : Calls} {i j : Nat} {stage stage' : CallStage}

/-- The buffers that call `i` has in its hands; none once its caller gave the frame up. -/
def hand (s : Calls) (i : Nat) : List CellId :=
  if i ∈ s.released then [] else (s.stages[i]?.map CallStage.inHand).getD []

/-- The buffers that calls have in their hands. -/
def inHand (s : Calls) : List CellId :=
  (List.range s.stages.length).flatMap s.hand

/-- The buffers that calls other than `i` have in their hands. -/
def othersInHand (s : Calls) (i : Nat) : List CellId :=
  ((List.range s.stages.length).erase i).flatMap s.hand

theorem inHand_perm (s : Calls) (bound : i < s.stages.length) :
    s.inHand.Perm (s.hand i ++ s.othersInHand i) :=
  (List.perm_cons_erase (List.mem_range.mpr bound)).flatMap_right s.hand

theorem hand_eq (found : s.stages[i]? = some stage) (kept : i ∉ s.released) :
    s.hand i = stage.inHand := by
  rw [hand, if_neg kept, found]
  rfl

/-- The hands of others are those of their stages. -/
theorem othersInHand_congr (length : s'.stages.length = s.stages.length)
    (same : ∀ j, j ≠ i → s'.hand j = s.hand j) : s'.othersInHand i = s.othersInHand i := by
  unfold othersInHand
  rw [length, List.flatMap_def, List.flatMap_def]
  refine congrArg List.flatten (List.map_congr_left fun j mem => same j ?_)
  exact ((List.nodup_range.mem_erase_iff).mp mem).1

theorem mem_othersInHand {id : CellId} (ne : j ≠ i) (mem : id ∈ s.hand j) : id ∈ s.othersInHand i := by
  have bound : j < s.stages.length := by
    refine Nat.lt_of_not_le fun beyond => ?_
    rw [hand, List.getElem?_eq_none beyond] at mem
    split at mem <;> cases mem
  refine List.mem_flatMap.mpr ⟨j, ?_, mem⟩
  exact List.nodup_range.mem_erase_iff.mpr ⟨ne, List.mem_range.mpr bound⟩

/-- The references to buffers are those of the session and of calls, and what a call took stays what it
was. -/
structure Sound (s : Calls) : Prop where
  exclusive : s.Exclusive
  ofStream : s.handoff.OfStream
  owned : s.handoff.pool.IsOwnedBy (s.handoff.session.buffers ++ s.inHand)
  out : ∀ (i : Nat) (stage : CallStage), s.stages[i]? = some stage → stage.hasSpare = true →
    s.handoff.session.spare = none
  released : ∀ i ∈ s.released, ∃ r, s.stages[i]? = some (.returned r)
  taken : ∀ (i : Nat) (stage : CallStage), s.stages[i]? = some stage → i ∉ s.released →
    ∀ id f, stage.took? = some (id, f) → s.handoff.frame? id = some f

theorem sound_start {stream : StreamFormat} {c : FrameHandoff} (started : FrameHandoff.start stream = .ok c) :
    Sound { handoff := c } where
  exclusive := exclusive_start c
  ofStream := FrameHandoff.ofStream_start started
  owned := (FrameHandoff.start_refines started).1.owned
  out := nofun
  released := nofun
  taken := nofun

theorem StageMove.hand_ne (m : s.StageMove i stage stage' s') (ne : j ≠ i) : s'.hand j = s.hand j := by
  rw [hand, hand, m.released_eq, m.stages_eq, List.getElem?_set_ne (Ne.symm ne)]

/-- A call that can move was not given up. -/
theorem StageMove.not_released (m : s.StageMove i stage stage' s') (h : s.Sound) : i ∉ s.released := by
  intro mem
  obtain ⟨r, found⟩ := h.released i mem
  obtain rfl := Option.some.inj (m.found.symm.trans found)
  obtain leads | closes := m.does
  · cases leads
  · cases closes

theorem StageMove.found' (m : s.StageMove i stage stage' s') : s'.stages[i]? = some stage' := by
  rw [m.stages_eq, List.getElem?_set_self (List.getElem?_eq_some_iff.mp m.found).1]

theorem StageMove.found_ne (m : s.StageMove i stage stage' s') (ne : j ≠ i) :
    s'.stages[j]? = s.stages[j]? := by
  rw [m.stages_eq, List.getElem?_set_ne (Ne.symm ne)]

/-- A stage is the one that the call moved to, or that of another call. -/
theorem StageMove.found_cases (m : s.StageMove i stage stage' s') {other : CallStage}
    (found : s'.stages[j]? = some other) :
    j = i ∧ other = stage' ∨ j ≠ i ∧ s.stages[j]? = some other := by
  by_cases same : j = i
  · subst same
    exact .inl ⟨rfl, (Option.some.inj (m.found'.symm.trans found)).symm⟩
  · exact .inr ⟨same, (m.found_ne same).symm.trans found⟩

/-- The references are those of the session, of call `i` and of others. -/
theorem Sound.owned_split (h : s.Sound) (found : s.stages[i]? = some stage) (kept : i ∉ s.released) :
    s.handoff.pool.IsOwnedBy (s.handoff.session.buffers ++ (stage.inHand ++ s.othersInHand i)) := by
  have perm := s.inHand_perm (List.getElem?_eq_some_iff.mp found).1
  rw [hand_eq found kept] at perm
  exact h.owned.perm (perm.append_left _)

/-- A section passes buffers between the session and its call, and leaves alone what others have in their
hands. -/
theorem StageMove.owned (m : s.StageMove i stage stage' s') (h : s.Sound) :
    s'.handoff.pool.IsOwnedBy (s'.handoff.session.buffers ++ (stage'.inHand ++ s.othersInHand i)) ∧
      ∀ id ∈ s.othersInHand i, s'.handoff.frame? id = s.handoff.frame? id := by
  have owned := h.owned_split m.found (m.not_released h)
  obtain leads | closes := m.does
  · exact leads.owned h.ofStream (h.out i stage m.found) owned
  · exact ⟨closes.owned owned, fun id _ => closes.frame?_eq id⟩

theorem StageMove.sound (m : s.StageMove i stage stage' s') (h : s.Sound) : s'.Sound where
  exclusive := m.exclusive h.exclusive
  ofStream := by
    obtain leads | closes := m.does
    · exact leads.ofStream h.ofStream
    · exact closes.ofStream h.ofStream
  owned := by
    have kept : i ∉ s'.released := m.released_eq ▸ m.not_released h
    have length : s'.stages.length = s.stages.length := by rw [m.stages_eq, List.length_set]
    have mine : s'.hand i = stage'.inHand := hand_eq m.found' kept
    have others : s'.othersInHand i = s.othersInHand i :=
      othersInHand_congr length fun j ne => m.hand_ne ne
    refine (m.owned h).1.perm (List.Perm.append_left _ ?_)
    rw [← mine, ← others]
    exact (s'.inHand_perm (List.getElem?_eq_some_iff.mp m.found').1).symm
  out := by
    intro j other found has
    obtain ⟨rfl, rfl⟩ | ⟨ne, found⟩ := m.found_cases found
    · obtain leads | closes := m.does
      · exact leads.out (h.out j stage m.found) has
      · rw [closes.hasSpare] at has
        cases has
    · have gone := h.out j other found has
      obtain leads | closes := m.does
      · refine leads.spare_none ?_ gone
        -- The producer's lock is with call `j`.
        have free := h.exclusive.producer.needs_eq_false found
          (CallStage.locksProducer_of_hasSpare has) (Ne.symm ne) m.found
        rw [← Bool.not_eq_true]
        exact fun mine => by simp [CallStage.locksProducer_of_hasSpare mine] at free
      · exact closes.spare_none gone
  released := by
    intro j mem
    rw [m.released_eq] at mem
    have ne : j ≠ i := fun same => m.not_released h (same ▸ mem)
    rw [m.found_ne ne]
    exact h.released j mem
  taken := by
    intro j other found kept id f took
    rw [m.released_eq] at kept
    obtain ⟨rfl, rfl⟩ | ⟨ne, found⟩ := m.found_cases found
    · obtain leads | closes := m.does
      · exact leads.taken (h.taken j stage m.found kept) took
      · rw [closes.took?] at took
        cases took
    · have mem : id ∈ s.othersInHand i :=
        mem_othersInHand ne (by rw [hand_eq found kept]; exact CallStage.mem_inHand_of_took took)
      rw [(m.owned h).2 id mem]
      exact h.taken j other found kept id f took

theorem inHand_invoke (s : Calls) (call : Call) : (s.invoke call).inHand = s.inHand := by
  have length : (s.invoke call).stages.length = s.stages.length + 1 := by simp [invoke]
  have last : (s.invoke call).hand s.stages.length = [] := by
    unfold hand invoke
    split
    · rfl
    · rw [List.getElem?_concat_length]
      cases call <;> rfl
  unfold inHand
  rw [length, List.range_succ, List.flatMap_append, List.flatMap_singleton, last, List.append_nil,
    List.flatMap_def, List.flatMap_def]
  refine congrArg List.flatten (List.map_congr_left fun j mem => ?_)
  show (s.invoke call).hand j = s.hand j
  unfold hand invoke
  rw [List.getElem?_append_left (List.mem_range.mp mem)]

theorem found_invoke (found : s.stages[j]? = some stage) (call : Call) :
    (s.invoke call).stages[j]? = some stage := by
  show (s.stages ++ [call.firstStage])[j]? = some stage
  rw [List.getElem?_append_left (List.getElem?_eq_some_iff.mp found).1, found]

/-- The stage of a call, or of a new one. -/
theorem found_invoke_cases {call : Call} (found : (s.invoke call).stages[j]? = some stage) :
    s.stages[j]? = some stage ∨ j = s.stages.length ∧ stage = call.firstStage := by
  have found : (s.stages ++ [call.firstStage])[j]? = some stage := found
  rw [List.getElem?_append] at found
  split at found
  · exact .inl found
  · rw [List.getElem?_singleton] at found
    split at found
    · exact .inr ⟨by omega, (Option.some.inj found).symm⟩
    · cases found

/-- A new call has nothing in its hands. -/
theorem sound_invoke (h : s.Sound) (call : Call) : (s.invoke call).Sound where
  exclusive := ActionRel.exclusive .invoked h.exclusive
  ofStream := h.ofStream
  owned := by
    rw [inHand_invoke]
    exact h.owned
  out := by
    intro j stage found has
    obtain found | ⟨-, rfl⟩ := found_invoke_cases found
    · exact h.out j stage found has
    · cases call <;> cases has
  released := by
    intro j mem
    obtain ⟨r, found⟩ := h.released j mem
    exact ⟨r, found_invoke found call⟩
  taken := by
    intro j stage found kept id f took
    obtain found | ⟨-, rfl⟩ := found_invoke_cases found
    · exact h.taken j stage found kept id f took
    · cases call <;> cases took

/-- A caller gives up what it took. -/
theorem sound_release {id : CellId} {f : Frame} (h : s.Sound)
    (found : s.stages[i]? = some (.returned (.took (some (id, f))))) (kept : i ∉ s.released) :
    Sound { s with handoff := s.handoff.release id, released := i :: s.released } where
  exclusive := ⟨h.exclusive.producer, h.exclusive.consumer⟩
  ofStream := fun id f frame => h.ofStream id f ((Pool.frame?_release ..).symm.trans frame)
  owned := by
    have bound : i < s.stages.length := (List.getElem?_eq_some_iff.mp found).1
    let given : Calls := { s with handoff := s.handoff.release id, released := i :: s.released }
    have others : given.othersInHand i = s.othersInHand i :=
      othersInHand_congr rfl fun j ne => by simp [hand, given, ne]
    have nothing : given.hand i = [] := if_pos (List.mem_cons_self ..)
    have perm := given.inHand_perm bound
    rw [nothing, others, List.nil_append] at perm
    have owned := h.owned_split found kept
    exact (Pool.IsOwnedBy.release (owned.perm List.perm_middle)).perm (perm.symm.append_left _)
  out := h.out
  released := by
    intro j mem
    obtain rfl | mem := List.mem_cons.mp mem
    · exact ⟨_, found⟩
    · exact h.released j mem
  taken := by
    intro j stage found' kept' id' f' took
    have kept' : j ∉ s.released := fun mem => kept' (List.mem_cons_of_mem _ mem)
    exact (Pool.frame?_release ..).trans (h.taken j stage found' kept' id' f' took)

theorem ActionRel.sound {action : Action} (acts : s.ActionRel action s') (h : s.Sound) : s'.Sound := by
  cases acts with
  | invoked => exact sound_invoke h _
  | moved m => exact m.sound h
  | released found kept => exact sound_release h found kept

theorem sound_run {stream : StreamFormat} {c : FrameHandoff} (started : FrameHandoff.start stream = .ok c)
    {actions : List Action} {e : Calls} (ran : run? { handoff := c } actions = some e) : e.Sound :=
  run?_induction ActionRel.sound ran (sound_start started)

end Calls

end FramePipeline
