import FramePipeline.Handoff.Calls

/-!
# Sections of calls

All that a step of a call can do, in one place: to which stage a stage leads, what it does to the session,
and which locks change hands. The sections of an open session are told apart from those of a stop, and of
calls that find what a stop has left.

Main definitions: `CallStage.StageRel`, `CallStage.StopStageRel`, `Calls.StageMove`, `Calls.Exclusive` (a lock
is held by the call in a stage that needs it, and by no other). Main statements: `Calls.stageMove_of_step`,
`Calls.exclusive_run`.
-/

namespace FramePipeline

/-- The handoff into which a publication copies: the spare buffer and the next number are its own. -/
def FrameHandoff.checkOut (c : FrameHandoff) : FrameHandoff :=
  { c with session.spare := none, session.sequence := c.session.sequence + 1 }

namespace CallStage

/-- The call holds the producer's lock. -/
def locksProducer : CallStage → Bool
  | filling _ | lockingConsumer .. | installing .. | returningSpare .. | emptyingSpare => true
  | _ => false

/-- The call holds the consumer's lock. -/
def locksConsumer : CallStage → Bool
  | installing .. | taking | emptyingFront => true
  | _ => false

/-- What the call came to. -/
def result? : CallStage → Option CallResult
  | returned r => some r
  | _ => none

/-- What a stage of a publication or a take does in an open session, and the stage that it leads to. -/
inductive StageRel (c : FrameHandoff) : CallStage → CallStage → FrameHandoff → Prop
  | misfits {bytes : Bytes} (isOpen : c.session.closed = false)
      (differs : bytes.length ≠ c.session.frameLen) :
      StageRel c (.checking bytes) (.countingMismatch (.sizeMismatch c.session.frameLen bytes.length)) c
  | fits {bytes : Bytes} (isOpen : c.session.closed = false) (eq : bytes.length = c.session.frameLen) :
      StageRel c (.checking bytes) (.lockingProducer bytes) c
  | countedMismatch {e : HandoffError} :
      StageRel c (.countingMismatch e) (.returned (.refused e)) c.countMismatch
  | lockedProducer {bytes : Bytes} : StageRel c (.lockingProducer bytes) (.filling bytes) c
  | filled {bytes : Bytes} {spare fresh : CellId} {c' : FrameHandoff} (there : c.session.spare = some spare)
      (copied : c.checkOut.copy spare bytes (c.session.sequence + 1) = (fresh, c')) :
      StageRel c (.filling bytes) (.lockingConsumer fresh (c.session.sequence + 1)) c'
  | lockedConsumer {fresh : CellId} {n : Nat} :
      StageRel c (.lockingConsumer fresh n) (.installing fresh n) c
  | installed {fresh : CellId} {n : Nat} {previous : Session.Front}
      (there : c.session.front = some previous) :
      StageRel c (.installing fresh n) (.returningSpare previous n)
        { c with session.front := some ⟨fresh, true⟩ }
  | returnedSpare {previous : Session.Front} {n : Nat} :
      StageRel c (.returningSpare previous n) (.countingPublished previous.ready n)
        (c.returnSpare previous.current)
  | countedPublished {n : Nat} :
      StageRel c (.countingPublished false n) (.returned (.published n)) c.countPublished
  | countedReplacing {n : Nat} :
      StageRel c (.countingPublished true n) (.countingDropped n) c.countPublished
  | countedDropped {n : Nat} : StageRel c (.countingDropped n) (.returned (.published n)) c.countDropped
  | lockedToTake : StageRel c .lockingToTake .taking c
  | tookNothing {id : CellId} (there : c.session.front = some ⟨id, false⟩) :
      StageRel c .taking (.returned (.took none)) c
  | took {id : CellId} {f : Frame} (there : c.session.front = some ⟨id, true⟩)
      (frame : c.frame? id = some f) :
      StageRel c .taking (.countingTaken id f)
        { c with session.front := some ⟨id, false⟩, pool := c.pool.retain id }
  | countedTaken {id : CellId} {f : Frame} :
      StageRel c (.countingTaken id f) (.returned (.took (some (id, f)))) c.countTaken

/-- What a stage of a stop does, or one of another call that finds what a stop has left. -/
inductive StopStageRel (c : FrameHandoff) : CallStage → CallStage → FrameHandoff → Prop
  | foundClosed {bytes : Bytes} (closed : c.session.closed = true) :
      StopStageRel c (.checking bytes) (.returned (.refused .sessionClosed)) c
  | spareGone {bytes : Bytes} (gone : c.session.spare = none) :
      StopStageRel c (.filling bytes) (.returned (.refused .sessionClosed)) c
  | frontGone {fresh : CellId} {n : Nat} (gone : c.session.front = none) :
      StopStageRel c (.installing fresh n) (.returned (.refused .sessionClosed)) (c.release fresh)
  | nothingToTake (gone : c.session.front = none) :
      StopStageRel c .taking (.returned (.refused .sessionClosed)) c
  /-- There is always a frame where a buffer is referred to. -/
  | noFrame {id : CellId} (there : c.session.front = some ⟨id, true⟩) (blank : c.frame? id = none) :
      StopStageRel c .taking (.returned (.took none))
        { c with session.front := some ⟨id, false⟩, pool := c.pool.retain id }
  | wasClosed (closed : c.session.closed = true) : StopStageRel c .closing (.returned .stopped) c
  | closed (isOpen : c.session.closed = false) :
      StopStageRel c .closing .lockingToEmptyFront { c with session.closed := true }
  | lockedFront : StopStageRel c .lockingToEmptyFront .emptyingFront c
  | emptiedFront : StopStageRel c .emptyingFront .lockingToEmptySpare c.emptyFront
  | lockedSpare : StopStageRel c .lockingToEmptySpare .emptyingSpare c
  | emptiedSpare : StopStageRel c .emptyingSpare (.returned .stopped) c.emptySpare

end CallStage

namespace Calls

variable {s s' : Calls} {i j : Nat} {stage stage' : CallStage}

/-! ## Locks -/

/-- A lock is taken by call `i` when it begins to need it, and given back when it needs it no longer. -/
def LockPassing (i : Nat) (needed needs : Bool) (owner owner' : Option Nat) : Prop :=
  match needed, needs with
  | false, true => owner = none ∧ owner' = some i
  | true, false => owner' = none
  | _, _ => owner' = owner

/-- The owner of a lock is the one call in a stage that needs it. -/
def HeldBy (stages : List CallStage) (needs : CallStage → Bool) (owner : Option Nat) : Prop :=
  ∀ j, owner = some j ↔ ∃ stage, stages[j]? = some stage ∧ needs stage = true

namespace HeldBy

variable {stages : List CallStage} {needs : CallStage → Bool} {owner owner' : Option Nat}

/-- Who needs a lock is its owner. -/
theorem owner_eq (h : HeldBy stages needs owner) (found : stages[i]? = some stage)
    (needed : needs stage = true) : owner = some i :=
  (h i).mpr ⟨stage, found, needed⟩

/-- Nobody else needs it. -/
theorem needs_eq_false (h : HeldBy stages needs owner) (found : stages[i]? = some stage)
    (needed : needs stage = true) {other : CallStage} (ne : j ≠ i) (found' : stages[j]? = some other) :
    needs other = false := by
  rw [← Bool.not_eq_true]
  intro needed'
  have same := (h.owner_eq found needed).symm.trans (h.owner_eq found' needed')
  exact ne (Option.some.inj same).symm

theorem owner_eq_iff (h : HeldBy stages needs owner) (found : stages[i]? = some stage) :
    owner = some i ↔ needs stage = true := by
  rw [h i, found]
  exact ⟨fun ⟨_, eq, needed⟩ => Option.some.inj eq ▸ needed, fun needed => ⟨stage, rfl, needed⟩⟩

theorem set (h : HeldBy stages needs owner) (found : stages[i]? = some stage)
    (passes : LockPassing i (needs stage) (needs stage') owner owner') :
    HeldBy (stages.set i stage') needs owner' := by
  have bound : i < stages.length := (List.getElem?_eq_some_iff.mp found).1
  have here := h.owner_eq_iff found
  have put : (stages.set i stage')[i]? = some stage' := by rw [List.getElem?_set_self bound]
  intro j
  by_cases same : j = i
  · subst same
    rw [put]
    have single : (∃ st, some stage' = some st ∧ needs st = true) ↔ needs stage' = true :=
      ⟨fun ⟨_, eq, needed⟩ => Option.some.inj eq ▸ needed, fun needed => ⟨stage', rfl, needed⟩⟩
    rw [single]
    unfold LockPassing at passes
    cases needed : needs stage <;> cases needed' : needs stage' <;> simp_all
  · have there := h j
    rw [List.getElem?_set_ne (Ne.symm same), ← there]
    unfold LockPassing at passes
    split at passes
    · obtain ⟨free, rfl⟩ := passes
      simp [free, Ne.symm same]
    · next needed _ =>
      have held : owner = some i := here.mpr needed
      simp [passes, held, Ne.symm same]
    · rw [passes]

theorem append (h : HeldBy stages needs owner) (free : needs stage = false) :
    HeldBy (stages ++ [stage]) needs owner := by
  intro j
  rw [h j, List.getElem?_append]
  split
  · rfl
  · next beyond =>
    rw [List.getElem?_eq_none (Nat.le_of_not_lt beyond), List.getElem?_singleton]
    split <;> simp [free]

end HeldBy

/-- Each lock is held by the call that needs it. -/
structure Exclusive (s : Calls) : Prop where
  producer : HeldBy s.stages CallStage.locksProducer s.producer
  consumer : HeldBy s.stages CallStage.locksConsumer s.consumer

/-! ## Steps -/

/-- Call `i` goes from one stage to the next. -/
structure StageMove (s : Calls) (i : Nat) (stage stage' : CallStage) (s' : Calls) : Prop where
  found : s.stages[i]? = some stage
  does : stage.StageRel s.handoff stage' s'.handoff ∨ stage.StopStageRel s.handoff stage' s'.handoff
  stages_eq : s'.stages = s.stages.set i stage'
  released_eq : s'.released = s.released
  history_eq : s'.history = s.history ++ (stage'.result?.map (.returned i)).toList
  producer : LockPassing i stage.locksProducer stage'.locksProducer s.producer s'.producer
  consumer : LockPassing i stage.locksConsumer stage'.locksConsumer s.consumer s'.consumer

section

variable {c : FrameHandoff} {producer consumer : Option Nat}

theorem stageMove_goTo (found : s.stages[i]? = some stage)
    (does : stage.StageRel s.handoff stage' c ∨ stage.StopStageRel s.handoff stage' c)
    (going : stage'.result? = none)
    (producer_passes : LockPassing i stage.locksProducer stage'.locksProducer s.producer producer)
    (consumer_passes : LockPassing i stage.locksConsumer stage'.locksConsumer s.consumer consumer) :
    s.StageMove i stage stage' (({ s with handoff := c, producer, consumer } : Calls).goTo i stage') where
  found
  does
  stages_eq := rfl
  released_eq := rfl
  history_eq := by
    rw [going]
    exact (List.append_nil _).symm
  producer := producer_passes
  consumer := consumer_passes

theorem stageMove_finish {r : CallResult} (found : s.stages[i]? = some stage)
    (does : stage.StageRel s.handoff (.returned r) c ∨ stage.StopStageRel s.handoff (.returned r) c)
    (producer_passes : LockPassing i stage.locksProducer false s.producer producer)
    (consumer_passes : LockPassing i stage.locksConsumer false s.consumer consumer) :
    s.StageMove i stage (.returned r) (({ s with handoff := c, producer, consumer } : Calls).finish i r) where
  found
  does
  stages_eq := rfl
  released_eq := rfl
  history_eq := rfl
  producer := producer_passes
  consumer := consumer_passes

end

/-- A call moves to a stage. -/
def StageChange (s : Calls) (i : Nat) (stage : CallStage) (s' : Calls) : Prop :=
  ∃ stage', s.StageMove i stage stage' s'

theorem stageChange_check {bytes : Bytes} (found : s.stages[i]? = some (.checking bytes)) :
    s.StageChange i (.checking bytes) (s.check i bytes) := by
  unfold check FrameHandoff.check
  cases closed : s.handoff.session.closed with
  | true => exact ⟨_, stageMove_finish found (.inr (.foundClosed closed)) rfl rfl⟩
  | false =>
    by_cases fits : bytes.length = s.handoff.session.frameLen
    · simp only [Bool.false_eq_true, if_false, if_pos fits]
      exact ⟨_, stageMove_goTo found (.inl (.fits closed fits)) rfl rfl rfl⟩
    · simp only [Bool.false_eq_true, if_false, if_neg fits]
      exact ⟨_, stageMove_goTo found (.inl (.misfits closed fits)) rfl rfl rfl⟩

theorem stageChange_fill {bytes : Bytes} (found : s.stages[i]? = some (.filling bytes)) :
    s.StageChange i (.filling bytes) (s.fill i bytes) := by
  unfold fill FrameHandoff.fill
  cases there : s.handoff.session.spare with
  | none => exact ⟨_, stageMove_finish found (.inr (.spareGone there)) rfl rfl⟩
  | some spare => exact ⟨_, stageMove_goTo found (.inl (.filled there rfl)) rfl rfl rfl⟩

theorem stageChange_install {fresh : CellId} {n : Nat} (found : s.stages[i]? = some (.installing fresh n)) :
    s.StageChange i (.installing fresh n) (s.install i fresh n) := by
  unfold install FrameHandoff.install
  cases there : s.handoff.session.front with
  | none => exact ⟨_, stageMove_finish found (.inr (.frontGone there)) rfl rfl⟩
  | some previous => exact ⟨_, stageMove_goTo found (.inl (.installed there)) rfl rfl rfl⟩

theorem stageChange_tryTake (found : s.stages[i]? = some .taking) :
    s.StageChange i .taking (s.takeFront i) := by
  unfold takeFront FrameHandoff.takeFront
  match there : s.handoff.session.front with
  | none => exact ⟨_, stageMove_finish found (.inr (.nothingToTake there)) rfl rfl⟩
  | some ⟨id, false⟩ => exact ⟨_, stageMove_finish found (.inl (.tookNothing there)) rfl rfl⟩
  | some ⟨id, true⟩ =>
    have same : FrameHandoff.frame? { s.handoff with
        session.front := some ⟨id, false⟩
        pool := s.handoff.pool.retain id } id = s.handoff.frame? id := Pool.frame?_retain ..
    cases frame : s.handoff.frame? id with
    | none =>
      simp only [if_true, same, frame]
      exact ⟨_, stageMove_finish found (.inr (.noFrame there frame)) rfl rfl⟩
    | some f =>
      simp only [if_true, same, frame]
      exact ⟨_, stageMove_goTo found (.inl (.took there frame)) rfl rfl rfl⟩

theorem stageChange_close (found : s.stages[i]? = some .closing) : s.StageChange i .closing (s.close i) := by
  unfold close FrameHandoff.close
  cases closed : s.handoff.session.closed with
  | true =>
    have same : ({ s.handoff with session.closed := true } : FrameHandoff) = s.handoff := by rw [← closed]
    simp only [same]
    exact ⟨_, stageMove_finish found (.inr (.wasClosed closed)) rfl rfl⟩
  | false => exact ⟨_, stageMove_goTo found (.inr (.closed closed)) rfl rfl rfl⟩

/-- What a lock lets through. -/
theorem stageChange_lockProducer {next : CallStage} (found : s.stages[i]? = some stage)
    (does : stage.StageRel s.handoff next s.handoff ∨ stage.StopStageRel s.handoff next s.handoff)
    (going : next.result? = none) (needs : stage.locksProducer = false ∧ next.locksProducer = true)
    (same : next.locksConsumer = stage.locksConsumer) (locked : s.lockProducer? i next = some s') :
    s.StageChange i stage s' := by
  unfold lockProducer? at locked
  split at locked
  · next free =>
    obtain rfl := Option.some.inj locked
    refine ⟨_, stageMove_goTo found does going ?_ ?_⟩
    · rw [needs.1, needs.2]
      exact ⟨free, rfl⟩
    · rw [same]
      cases stage.locksConsumer <;> rfl
  · cases locked

theorem stageChange_lockConsumer {next : CallStage} (found : s.stages[i]? = some stage)
    (does : stage.StageRel s.handoff next s.handoff ∨ stage.StopStageRel s.handoff next s.handoff)
    (going : next.result? = none) (needs : stage.locksConsumer = false ∧ next.locksConsumer = true)
    (same : next.locksProducer = stage.locksProducer) (locked : s.lockConsumer? i next = some s') :
    s.StageChange i stage s' := by
  unfold lockConsumer? at locked
  split at locked
  · next free =>
    obtain rfl := Option.some.inj locked
    refine ⟨_, stageMove_goTo found does going ?_ ?_⟩
    · rw [same]
      cases stage.locksProducer <;> rfl
    · rw [needs.1, needs.2]
      exact ⟨free, rfl⟩
  · cases locked

/-- A step does one of these things. -/
theorem stageMove_of_step (step : s.step? i = some s') : ∃ stage stage', s.StageMove i stage stage' s' := by
  unfold step? at step
  split at step
  · cases step
  · next stage found =>
    refine ⟨stage, ?_⟩
    show s.StageChange i stage s'
    cases stage with
    | checking bytes =>
      obtain rfl := Option.some.inj step
      exact stageChange_check found
    | countingMismatch e =>
      obtain rfl := Option.some.inj step
      exact ⟨_, stageMove_finish found (.inl .countedMismatch) rfl rfl⟩
    | lockingProducer bytes =>
      exact stageChange_lockProducer found (.inl .lockedProducer) rfl ⟨rfl, rfl⟩ rfl step
    | filling bytes =>
      obtain rfl := Option.some.inj step
      exact stageChange_fill found
    | lockingConsumer fresh n =>
      exact stageChange_lockConsumer found (.inl .lockedConsumer) rfl ⟨rfl, rfl⟩ rfl step
    | installing fresh n =>
      obtain rfl := Option.some.inj step
      exact stageChange_install found
    | returningSpare previous n =>
      obtain rfl := Option.some.inj step
      exact ⟨_, stageMove_goTo found (.inl .returnedSpare) rfl rfl rfl⟩
    | countingPublished superseded n =>
      obtain rfl := Option.some.inj step
      cases superseded with
      | true => exact ⟨_, stageMove_goTo found (.inl .countedReplacing) rfl rfl rfl⟩
      | false => exact ⟨_, stageMove_finish found (.inl .countedPublished) rfl rfl⟩
    | countingDropped n =>
      obtain rfl := Option.some.inj step
      exact ⟨_, stageMove_finish found (.inl .countedDropped) rfl rfl⟩
    | lockingToTake => exact stageChange_lockConsumer found (.inl .lockedToTake) rfl ⟨rfl, rfl⟩ rfl step
    | taking =>
      obtain rfl := Option.some.inj step
      exact stageChange_tryTake found
    | countingTaken id f =>
      obtain rfl := Option.some.inj step
      exact ⟨_, stageMove_finish found (.inl .countedTaken) rfl rfl⟩
    | closing =>
      obtain rfl := Option.some.inj step
      exact stageChange_close found
    | lockingToEmptyFront =>
      exact stageChange_lockConsumer found (.inr .lockedFront) rfl ⟨rfl, rfl⟩ rfl step
    | emptyingFront =>
      obtain rfl := Option.some.inj step
      exact ⟨_, stageMove_goTo found (.inr .emptiedFront) rfl rfl rfl⟩
    | lockingToEmptySpare =>
      exact stageChange_lockProducer found (.inr .lockedSpare) rfl ⟨rfl, rfl⟩ rfl step
    | emptyingSpare =>
      obtain rfl := Option.some.inj step
      exact ⟨_, stageMove_finish found (.inr .emptiedSpare) rfl rfl⟩
    | returned r => cases step

/-! ## Actions -/

/-- What an action does. -/
inductive ActionRel (s : Calls) : Action → Calls → Prop
  | invoked {call : Call} : ActionRel s (.invoke call) (s.invoke call)
  | moved {i : Nat} {stage stage' : CallStage} {s' : Calls} (m : s.StageMove i stage stage' s') :
      ActionRel s (.step i) s'
  | released {i : Nat} {id : CellId} {f : Frame}
      (found : s.stages[i]? = some (.returned (.took (some (id, f))))) (kept : i ∉ s.released) :
      ActionRel s (.release i) { s with handoff := s.handoff.release id, released := i :: s.released }

theorem actionRel_of_act {action : Action} (acted : s.act? action = some s') : s.ActionRel action s' := by
  cases action with
  | invoke call =>
    obtain rfl := Option.some.inj acted
    exact .invoked
  | step i =>
    obtain ⟨stage, stage', m⟩ := stageMove_of_step acted
    exact .moved m
  | release i =>
    have acted : s.release? i = some s' := acted
    unfold release? at acted
    split at acted
    · next id f found =>
      split at acted
      · cases acted
      · next kept =>
        obtain rfl := Option.some.inj acted
        exact .released found kept
    · cases acted

theorem run?_cons {action : Action} {actions : List Action} {e : Calls}
    (ran : s.run? (action :: actions) = some e) :
    ∃ s', s.act? action = some s' ∧ s'.run? actions = some e := by
  unfold run? at ran
  rw [List.foldlM_cons] at ran
  exact Option.bind_eq_some_iff.mp ran

theorem run?_of_act {action : Action} {actions : List Action} {e : Calls}
    (acted : s.act? action = some s') (ran : s'.run? actions = some e) :
    s.run? (action :: actions) = some e := by
  unfold run? at ran ⊢
  rw [List.foldlM_cons, acted]
  exact ran

theorem run?_append {earlier later : List Action} {e : Calls}
    (ran : s.run? (earlier ++ later) = some e) :
    ∃ t, s.run? earlier = some t ∧ t.run? later = some e := by
  unfold run? at ran
  rw [List.foldlM_append] at ran
  exact Option.bind_eq_some_iff.mp ran

/-- What every action keeps, a run keeps. -/
theorem run?_induction {P : Calls → Prop} (keeps : ∀ {s s' action}, s.ActionRel action s' → P s → P s')
    {actions : List Action} {e : Calls} (ran : s.run? actions = some e) (h : P s) : P e := by
  induction actions generalizing s with
  | nil =>
    obtain rfl := Option.some.inj ran
    exact h
  | cons action rest ih =>
    obtain ⟨s', acted, others⟩ := run?_cons ran
    exact ih others (keeps (actionRel_of_act acted) h)

/-! ## Exclusion -/

theorem exclusive_start (c : FrameHandoff) : Exclusive { handoff := c } := by
  constructor <;> intro j <;> simp

theorem StageMove.exclusive (m : s.StageMove i stage stage' s') (h : s.Exclusive) : s'.Exclusive := by
  constructor
  · rw [m.stages_eq]
    exact h.producer.set m.found m.producer
  · rw [m.stages_eq]
    exact h.consumer.set m.found m.consumer

theorem ActionRel.exclusive {action : Action} (acts : s.ActionRel action s') (h : s.Exclusive) :
    s'.Exclusive := by
  cases acts with
  | @invoked call =>
    constructor
    · exact h.producer.append (by cases call <;> rfl)
    · exact h.consumer.append (by cases call <;> rfl)
  | moved m => exact m.exclusive h
  | released => exact ⟨h.producer, h.consumer⟩

theorem exclusive_run {c : FrameHandoff} {actions : List Action} {e : Calls}
    (ran : run? { handoff := c } actions = some e) : e.Exclusive :=
  run?_induction ActionRel.exclusive ran (exclusive_start c)

end Calls

end FramePipeline
