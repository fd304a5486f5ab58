import FramePipeline.Proofs.Calls.Effects
import FramePipeline.Proofs.Calls.Progress

/-!
# Stopping while publications are under way

A publication shows its frame in one section, and only where there is a front to put it in. A stop empties
the front first, so every publication has shown its frame by then or never does; one that never does gives
up its buffer and counts nothing. The place of the spare buffer is emptied under the producer's lock, when no
publication has the buffer out, so none puts one back later.

Main definitions: `CallStage.shown?`, `Calls.SwapInTime`, `Calls.IsWithoutEffect` (what becomes of a
publication), `Calls.Emptied` (what a stop leaves). Main statement: `Calls.stop_publish_outcome`.
-/

namespace FramePipeline

/-! ## Sections -/

namespace CallStage

variable {c c' : FrameHandoff} {stage stage' : CallStage} {n : Nat}

/-- The number of the frame that the call has shown to the consumer. -/
def shown? : CallStage → Option Nat
  | returningSpare _ n | countingPublished _ n | countingDropped n | returned (.published n) => some n
  | _ => none

/-- Where a publication of the right length can be. -/
def FittingPublication (frameLen : Nat) : CallStage → Prop
  | checking bytes | lockingProducer bytes | filling bytes => bytes.length = frameLen
  | lockingConsumer .. | installing .. | returningSpare .. | countingPublished .. | countingDropped _
  | returned (.published _) | returned (.refused .sessionClosed) => True
  | _ => False

theorem StageRel.shown?_of (l : stage.StageRel c stage' c') (shown : stage.shown? = some n) :
    stage'.shown? = some n := by
  cases l <;> first | exact shown | cases shown

theorem StopStageRel.shown?_eq (l : stage.StopStageRel c stage' c') : stage.shown? = none ∧
    stage'.shown? = none := by
  cases l <;> exact ⟨rfl, rfl⟩

/-- A frame is shown in the one section that puts it in the place of the front. -/
theorem StageRel.installs (l : stage.StageRel c stage' c') (hidden : stage.shown? ≠ some n)
    (shown : stage'.shown? = some n) :
    ∃ fresh previous, stage = .installing fresh n ∧ c.session.front = some previous := by
  cases l with
  | installed there =>
    obtain rfl := Option.some.inj shown
    exact ⟨_, _, rfl, there⟩
  | returnedSpare | countedPublished | countedReplacing | countedDropped => exact absurd shown hidden
  | _ => cases shown

theorem StageRel.shown?_of_installing {fresh : CellId} (l : (installing fresh n).StageRel c stage' c') :
    stage'.shown? = some n := by
  cases l
  rfl

theorem StopStageRel.front_none_of_installing {fresh : CellId}
    (l : (installing fresh n).StopStageRel c stage' c') :
    c.session.front = none := by
  cases l
  assumption

theorem StageRel.fittingPublication (l : stage.StageRel c stage' c')
    (h : stage.FittingPublication c.session.frameLen) : stage'.FittingPublication c.session.frameLen := by
  cases l with
  | misfits isOpen differs => exact absurd h differs
  | fits | lockedProducer => exact h
  | filled | lockedConsumer | installed | returnedSpare | countedPublished | countedReplacing
  | countedDropped => trivial
  | _ => exact h.elim

theorem StopStageRel.frameLen_eq (l : stage.StopStageRel c stage' c') :
    c'.session.frameLen = c.session.frameLen := by
  cases l with
  | emptiedFront =>
    unfold FrameHandoff.emptyFront
    split <;> rfl
  | emptiedSpare =>
    unfold FrameHandoff.emptySpare
    split <;> rfl
  | _ => rfl

theorem StopStageRel.fittingPublication (l : stage.StopStageRel c stage' c')
    (h : stage.FittingPublication c.session.frameLen) : stage'.FittingPublication c.session.frameLen := by
  cases l with
  | foundClosed | spareGone | frontGone => trivial
  | _ => exact h.elim

/-- A publication is counted after its frame was shown. -/
theorem StageRel.published_eq (l : stage.StageRel c stage' c') (hidden : stage'.shown? = none) :
    c'.session.stats.published = c.session.stats.published := by
  cases l with
  | filled there copied =>
    obtain ⟨k, session⟩ := FrameHandoff.session_of_copy copied
    rw [session]
    rfl
  | countedPublished | countedReplacing => cases hidden
  | _ => rfl

theorem StopStageRel.stats_eq (l : stage.StopStageRel c stage' c') : c'.session.stats = c.session.stats := by
  cases l with
  | emptiedFront =>
    unfold FrameHandoff.emptyFront
    split <;> rfl
  | emptiedSpare =>
    unfold FrameHandoff.emptySpare
    split <;> rfl
  | _ => rfl

/-- Where both places are empty and the spare buffer is not out, nothing of the session changes but its
counters. -/
theorem StageRel.session_of_empty (l : stage.StageRel c stage' c') (front : c.session.front = none)
    (spare : c.session.spare = none) (back : stage.hasSpare = false) :
    stage'.hasSpare = false ∧ ∃ stats, c'.session = { c.session with stats } := by
  cases l with
  | filled there => cases spare.symm.trans there
  | lockedConsumer | installed | returnedSpare => cases back
  | tookNothing there | took there => cases front.symm.trans there
  | _ => exact ⟨rfl, _, rfl⟩

theorem StopStageRel.session_of_empty (l : stage.StopStageRel c stage' c') (closed : c.session.closed = true)
    (front : c.session.front = none) (spare : c.session.spare = none) : c'.session = c.session := by
  cases l with
  | noFrame there => cases front.symm.trans there
  | closed isOpen => cases closed.symm.trans isOpen
  | emptiedFront => rw [FrameHandoff.emptyFront, front]
  | emptiedSpare => rw [FrameHandoff.emptySpare, spare]
  | _ => rfl

end CallStage

/-! ## What becomes of a publication -/

namespace Calls

variable {s s' e : Calls} {i j k n : Nat} {stage stage' : CallStage} {actions : List Action}

/-- Call `i` has shown a frame to the consumer, number `n`. -/
def HasShown (s : Calls) (i n : Nat) : Prop :=
  ∃ stage, s.stages[i]? = some stage ∧ stage.shown? = some n

/-- The next step of call `i` shows its frame to the consumer, number `n`. -/
def SwapNext (s : Calls) (i n : Nat) : Prop :=
  ∃ fresh previous, s.stages[i]? = some (.installing fresh n) ∧ s.handoff.session.front = some previous

/-- In the run of `actions`, call `i` shows frame number `n` before the front is emptied. -/
def SwapInTime (s : Calls) (actions : List Action) (i n : Nat) : Prop :=
  ∃ before after t, actions = before ++ .step i :: after ∧ s.run? before = some t ∧ t.SwapNext i n ∧
    ∀ earlier rest t', before = earlier ++ rest → s.run? earlier = some t' →
      t'.handoff.session.front ≠ none

/-- In the run of `actions`, no step of call `i` shows a frame or counts one. -/
def IsWithoutEffect (s : Calls) (actions : List Action) (i : Nat) : Prop :=
  ∀ before after t t', actions = before ++ .step i :: after → s.run? before = some t →
    t.step? i = some t' →
    (∀ n, ¬ t.SwapNext i n) ∧ t'.handoff.session.stats.published = t.handoff.session.stats.published

/-- What becomes of call `i`, a publication of the right length: its frame is shown before the front is
emptied, or it is refused without an effect. -/
inductive PublicationOutcome (s : Calls) (actions : List Action) (i : Nat) : CallResult → Prop
  | inTime {n : Nat} (swaps : s.SwapInTime actions i n) : PublicationOutcome s actions i (.published n)
  | tooLate (without : s.IsWithoutEffect actions i) : PublicationOutcome s actions i (.refused .sessionClosed)

theorem ActionRel.hasShown_of {action : Action} (acts : s.ActionRel action s') (h : s.HasShown i n) :
    s'.HasShown i n := by
  obtain ⟨stage, found, shown⟩ := h
  cases acts with
  | invoked => exact ⟨stage, found_invoke found _, shown⟩
  | @moved j before after _ m =>
    by_cases same : i = j
    · subst same
      obtain rfl := Option.some.inj (m.found.symm.trans found)
      obtain leads | closes := m.does
      · exact ⟨after, m.found', leads.shown?_of shown⟩
      · rw [closes.shown?_eq.1] at shown
        cases shown
    · exact ⟨stage, (m.found_ne same).trans found, shown⟩
  | released => exact ⟨stage, found, shown⟩

/-- A frame is shown by a step of its own call, where there is a front. -/
theorem ActionRel.swapNext_of {action : Action} (acts : s.ActionRel action s') (before : ¬ s.HasShown i n)
    (h : s'.HasShown i n) : action = .step i ∧ s.SwapNext i n := by
  obtain ⟨other, found, shown⟩ := h
  cases acts with
  | @invoked call =>
    obtain found | ⟨-, rfl⟩ := found_invoke_cases found
    · exact absurd ⟨other, found, shown⟩ before
    · cases call <;> cases shown
  | @moved j stage stage' _ m =>
    obtain ⟨rfl, rfl⟩ | ⟨-, found⟩ := m.found_cases found
    · obtain leads | closes := m.does
      · have hidden : stage.shown? ≠ some n := fun same => before ⟨stage, m.found, same⟩
        obtain ⟨fresh, previous, rfl, there⟩ := leads.installs hidden shown
        exact ⟨rfl, fresh, previous, m.found, there⟩
      · rw [closes.shown?_eq.2] at shown
        cases shown
    · exact absurd ⟨other, found, shown⟩ before
  | released => exact absurd ⟨other, found, shown⟩ before

theorem ActionRel.front_none {action : Action} (acts : s.ActionRel action s')
    (gone : s.handoff.session.front = none) : s'.handoff.session.front = none := by
  cases acts with
  | invoked | released => exact gone
  | moved m => exact m.front_none gone

/-- What becomes true in a run does so at one of its actions. -/
theorem exists_step_of_run? {P : Calls → Prop} (ran : s.run? actions = some e) (before : ¬ P s) (after : P e) :
    ∃ earlier action later t t', actions = earlier ++ action :: later ∧ s.run? earlier = some t ∧
      t.act? action = some t' ∧ ¬ P t ∧ P t' := by
  induction actions generalizing s with
  | nil =>
    obtain rfl := Option.some.inj ran
    exact absurd after before
  | cons action rest ih =>
    obtain ⟨s', acted, ran'⟩ := run?_cons ran
    by_cases now : P s'
    · exact ⟨[], action, rest, s, s', rfl, rfl, acted, before, now⟩
    · obtain ⟨earlier, action', later, t, t', rfl, ran₁, acted', found⟩ := ih ran' now
      exact ⟨action :: earlier, action', later, t, t', rfl, run?_of_act acted ran₁, acted', found⟩

/-- A frame that was shown was shown in time. -/
theorem swapInTime (ran : s.run? actions = some e) (before : ¬ s.HasShown i n)
    (shown : e.HasShown i n) : s.SwapInTime actions i n := by
  obtain ⟨earlier, action, later, t, t', rfl, ran₁, acted, hidden, shown'⟩ :=
    exists_step_of_run? (P := (HasShown · i n)) ran before shown
  obtain ⟨rfl, swaps⟩ := (actionRel_of_act acted).swapNext_of hidden shown'
  refine ⟨earlier, later, t, rfl, ran₁, swaps, ?_⟩
  rintro first rest t₀ rfl ran₀ gone
  obtain ⟨-, previous, -, there⟩ := swaps
  obtain ⟨t₀', ran₀', ran₁⟩ := run?_append ran₁
  obtain rfl := Option.some.inj (ran₀.symm.trans ran₀')
  cases (run?_induction ActionRel.front_none ran₁ gone).symm.trans there

theorem StageMove.published_eq (m : s.StageMove i stage stage' s') (hidden : stage'.shown? = none) :
    s'.handoff.session.stats.published = s.handoff.session.stats.published := by
  obtain leads | closes := m.does
  · exact leads.published_eq hidden
  · rw [closes.stats_eq]

/-- A step that shows a frame leaves it shown. -/
theorem SwapNext.shown? (swaps : s.SwapNext i n) (m : s.StageMove i stage stage' s') :
    stage'.shown? = some n := by
  obtain ⟨fresh, previous, found, there⟩ := swaps
  obtain rfl := Option.some.inj (m.found.symm.trans found)
  obtain leads | closes := m.does
  · exact leads.shown?_of_installing
  · cases closes.front_none_of_installing.symm.trans there

/-- A call that has shown nothing in the end has had no effect. -/
theorem isWithoutEffect (ran : s.run? actions = some e) (hidden : ∀ n, ¬ e.HasShown i n) :
    s.IsWithoutEffect actions i := by
  rintro before after t t' rfl ran₁ step
  obtain ⟨t₀, ran₀, ran'⟩ := run?_append ran
  obtain rfl := Option.some.inj (ran₁.symm.trans ran₀)
  obtain ⟨t₀', step', ran''⟩ := run?_cons ran'
  obtain rfl := Option.some.inj (step.symm.trans step')
  obtain ⟨stage, stage', m⟩ := stageMove_of_step step
  have hidden' : stage'.shown? = none := by
    refine Option.eq_none_iff_forall_ne_some.mpr fun n shown => hidden n ?_
    exact run?_induction ActionRel.hasShown_of ran'' ⟨stage', m.found', shown⟩
  refine ⟨fun n swaps => ?_, m.published_eq hidden'⟩
  cases hidden'.symm.trans (swaps.shown? m)

/-- Call `i` is a publication of the right length. -/
def FittingPublication (s : Calls) (i : Nat) : Prop :=
  ∃ stage, s.stages[i]? = some stage ∧ stage.FittingPublication s.handoff.session.frameLen

theorem StageMove.frameLen_eq (m : s.StageMove i stage stage' s') :
    s'.handoff.session.frameLen = s.handoff.session.frameLen := by
  obtain leads | closes := m.does
  · exact leads.frameLen_eq
  · exact closes.frameLen_eq

theorem ActionRel.frameLen_eq {action : Action} (acts : s.ActionRel action s') :
    s'.handoff.session.frameLen = s.handoff.session.frameLen := by
  cases acts with
  | invoked | released => rfl
  | moved m => exact m.frameLen_eq

theorem ActionRel.fittingPublication {action : Action} (acts : s.ActionRel action s')
    (h : s.FittingPublication i) :
    s'.FittingPublication i := by
  obtain ⟨stage, found, fitting⟩ := h
  cases acts with
  | invoked => exact ⟨stage, found_invoke found _, fitting⟩
  | @moved j before after _ m =>
    by_cases same : i = j
    · subst same
      obtain rfl := Option.some.inj (m.found.symm.trans found)
      refine ⟨after, m.found', ?_⟩
      rw [m.frameLen_eq]
      obtain leads | closes := m.does
      · exact leads.fittingPublication fitting
      · exact closes.fittingPublication fitting
    · exact ⟨stage, (m.found_ne same).trans found, by rwa [m.frameLen_eq]⟩
  | released => exact ⟨stage, found, fitting⟩

/-- A publication of the right length that has returned was in time, or was refused. -/
theorem FittingPublication.publicationOutcome {r : CallResult} (h : e.FittingPublication i)
    (ran : s.run? actions = some e) (before : ∀ n, ¬ s.HasShown i n)
    (returned : e.stages[i]? = some (.returned r)) : s.PublicationOutcome actions i r := by
  obtain ⟨stage, found, fitting⟩ := h
  obtain rfl := Option.some.inj (returned.symm.trans found)
  cases r with
  | published n => exact .inTime (swapInTime ran (before n) ⟨_, returned, rfl⟩)
  | refused e' =>
    cases e' with
    | sessionClosed =>
      refine .tooLate (isWithoutEffect ran ?_)
      rintro n ⟨other, found', shown⟩
      obtain rfl := Option.some.inj (returned.symm.trans found')
      cases shown
    | _ => exact fitting.elim
  | _ => exact fitting.elim

/-! ## What a stop leaves -/

/-- The session is closed, and no buffer is in it, nor will one be put back. -/
structure Emptied (s : Calls) : Prop where
  closed : s.handoff.session.closed = true
  front : s.handoff.session.front = none
  spare : s.handoff.session.spare = none
  back : ∀ (j : Nat) (stage : CallStage), s.stages[j]? = some stage → stage.hasSpare = false

/-- Nothing of the session has changed but its counters, and no frame was shown. -/
structure CountersOnly (s s' : Calls) : Prop where
  session : ∃ stats, s'.handoff.session = { s.handoff.session with stats }
  shown : ∀ i n, s'.HasShown i n → s.HasShown i n

theorem StageMove.emptied (m : s.StageMove i stage stage' s') (h : s.Emptied) :
    s'.Emptied ∧ ∃ stats, s'.handoff.session = { s.handoff.session with stats } := by
  obtain ⟨back, stats, session⟩ : stage'.hasSpare = false ∧
      ∃ stats, s'.handoff.session = { s.handoff.session with stats } := by
    obtain leads | closes := m.does
    · exact leads.session_of_empty h.front h.spare (h.back i stage m.found)
    · exact ⟨closes.hasSpare, _, closes.session_of_empty h.closed h.front h.spare⟩
  refine ⟨⟨?_, ?_, ?_, fun j other found => ?_⟩, stats, session⟩
  · rw [session]
    exact h.closed
  · rw [session]
    exact h.front
  · rw [session]
    exact h.spare
  · obtain ⟨rfl, rfl⟩ | ⟨-, found⟩ := m.found_cases found
    · exact back
    · exact h.back j other found

theorem ActionRel.emptied {action : Action} (acts : s.ActionRel action s') (h : s.Emptied) :
    s'.Emptied ∧ ∃ stats, s'.handoff.session = { s.handoff.session with stats } := by
  cases acts with
  | @invoked call =>
    refine ⟨⟨h.closed, h.front, h.spare, fun j stage found => ?_⟩, _, rfl⟩
    obtain found | ⟨-, rfl⟩ := found_invoke_cases found
    · exact h.back j stage found
    · cases call <;> rfl
  | moved m => exact m.emptied h
  | released => exact ⟨⟨h.closed, h.front, h.spare, h.back⟩, _, rfl⟩

theorem Emptied.run (h : s.Emptied) (ran : s.run? actions = some e) : e.Emptied ∧ s.CountersOnly e := by
  refine run?_induction (P := fun t => t.Emptied ∧ s.CountersOnly t) ?_ ran ⟨h, ⟨_, rfl⟩, fun _ _ shown => shown⟩
  rintro t t' action acts ⟨emptied, ⟨stats, same⟩, shown⟩
  obtain ⟨emptied', stats', same'⟩ := acts.emptied emptied
  refine ⟨emptied', ⟨stats', ?_⟩, fun i n shown' => ?_⟩
  · rw [same', same]
  · refine Classical.byContradiction fun hidden => ?_
    obtain ⟨-, _, previous, -, there⟩ := acts.swapNext_of (fun h => hidden (shown i n h)) shown'
    cases emptied.front.symm.trans there

/-- How far the stop that has set the flag has come, by its stage. -/
def EmptiedUpTo (s : Calls) : CallStage → Prop
  | .lockingToEmptyFront | .emptyingFront => True
  | .lockingToEmptySpare | .emptyingSpare => s.handoff.session.front = none
  | .returned .stopped => s.Emptied
  | _ => False

/-- Call `k` is the stop that has set the flag. -/
structure StopInv (s : Calls) (k : Nat) : Prop where
  closed : s.handoff.session.closed = true
  sofar : ∃ stage, s.stages[k]? = some stage ∧ s.EmptiedUpTo stage

/-- Others do not undo what the stop has done. -/
theorem ActionRel.emptiedUpTo {action : Action} (acts : s.ActionRel action s') (h : s.EmptiedUpTo stage) :
    s'.EmptiedUpTo stage := by
  unfold EmptiedUpTo at h ⊢
  split at h
  · trivial
  · trivial
  · exact acts.front_none h
  · exact acts.front_none h
  · exact (acts.emptied h).1
  · cases h

/-- The stop goes on: when the place of the spare buffer is emptied, no publication has the buffer out. -/
theorem StageMove.emptiedUpTo (m : s.StageMove k stage stage' s') (exclusive : s.Exclusive)
    (closed : s.handoff.session.closed = true) (h : s.EmptiedUpTo stage) : s'.EmptiedUpTo stage' := by
  have closed' := m.closed_of closed
  have gone := m.front_none
  have others : ∀ (j : Nat) (other : CallStage), s'.stages[j]? = some other → j ≠ k →
      stage.locksProducer = true → other.hasSpare = false := by
    intro j other found ne locks
    rw [m.found_ne ne] at found
    have free := exclusive.producer.needs_eq_false m.found locks ne found
    rw [← Bool.not_eq_true]
    exact fun out => by simp [CallStage.locksProducer_of_hasSpare out] at free
  have does := m.does
  generalize handoff : s'.handoff = c' at does
  obtain leads | closes := does
  · cases leads <;> exact h.elim
  · cases closes with
    | lockedFront => trivial
    | emptiedFront =>
      show s'.handoff.session.front = none
      rw [handoff, FrameHandoff.emptyFront]
      split
      · assumption
      · rfl
    | lockedSpare => exact gone h
    | emptiedSpare =>
      refine ⟨closed', gone h, ?_, fun j other found => ?_⟩
      · rw [handoff, FrameHandoff.emptySpare]
        split
        · assumption
        · rfl
      · by_cases same : j = k
        · subst same
          obtain rfl := Option.some.inj (m.found'.symm.trans found)
          rfl
        · exact others j other found same rfl
    | _ => exact h.elim

theorem ActionRel.stopInv {action : Action} (acts : s.ActionRel action s') (exclusive : s.Exclusive)
    (h : s.StopInv k) : s'.StopInv k := by
  obtain ⟨closed, stage, found, sofar⟩ := h
  have same := acts.emptiedUpTo sofar
  cases acts with
  | invoked => exact ⟨closed, stage, found_invoke found _, same⟩
  | @moved j before after _ m =>
    refine ⟨m.closed_of closed, ?_⟩
    by_cases mine : k = j
    · subst mine
      obtain rfl := Option.some.inj (m.found.symm.trans found)
      exact ⟨after, m.found', m.emptiedUpTo exclusive closed sofar⟩
    · exact ⟨stage, (m.found_ne mine).trans found, same⟩
  | released => exact ⟨closed, stage, found, same⟩

/-- The stop that finds the flag unset sets it. -/
theorem stopInv_of_step (found : s.stages[k]? = some .closing) (isOpen : s.handoff.session.closed = false)
    (step : s.step? k = some s') : s'.StopInv k := by
  have step : s.step? k = some s' := step
  have closing :
    s.step? k = some ({ s with handoff.session.closed := true }.goTo k .lockingToEmptyFront) := by
    simp [step?, found, close, FrameHandoff.close, isOpen]
  obtain rfl := Option.some.inj (closing.symm.trans step)
  exact ⟨rfl, .lockingToEmptyFront, List.getElem?_set_self (List.getElem?_eq_some_iff.mp found).1, trivial⟩

theorem StopInv.emptied (h : s.StopInv k) (returned : s.hasReturned k = true) : s.Emptied := by
  obtain ⟨-, stage, found, sofar⟩ := h
  rw [hasReturned_eq found] at returned
  unfold EmptiedUpTo at sofar
  split at sofar <;> first | exact sofar | cases returned | cases sofar

/-! ## Main statement -/

/-- The run of a publication of the right length, from when it is made. -/
theorem fittingPublication_run {bytes : Bytes} {later : List Action}
    (fits : bytes.length = s.handoff.session.frameLen)
    (ran : s.run? (.invoke (.publish bytes) :: later) = some e) : e.FittingPublication s.stages.length := by
  obtain ⟨s', invoked, others⟩ := run?_cons ran
  obtain rfl := Option.some.inj invoked
  exact run?_induction ActionRel.fittingPublication others ⟨.checking bytes, List.getElem?_concat_length .., fits⟩

/-- The run of the stop that sets the flag, from when it does so. -/
theorem stopInv_run {between : List Action} (exclusive : s.Exclusive)
    (found : s.stages[k]? = some .closing) (isOpen : s.handoff.session.closed = false)
    (ran : s.run? (.step k :: between) = some e) : e.StopInv k := by
  obtain ⟨s', step, others⟩ := run?_cons ran
  have start : s'.Exclusive ∧ s'.StopInv k :=
    ⟨(actionRel_of_act step).exclusive exclusive, stopInv_of_step found isOpen step⟩
  exact (run?_induction (P := fun t => t.Exclusive ∧ t.StopInv k)
    (fun acts h => ⟨acts.exclusive h.1, acts.stopInv h.1 h.2⟩) others start).2

/-- **Stopping while publications are under way**, over all interleavings of calls to a session. No call
waits forever. A publication of the right length shows its frame before the front is emptied and answers its
number, or is refused without an effect. Once the stop that has set the flag has returned, both places are
empty, nothing of the session changes any more but its counters, and no further frame is shown. -/
theorem stop_publish_outcome {c : FrameHandoff} (ran : run? { handoff := c } actions = some e) :
    e.Progress ∧
    (∀ earlier bytes later s r, actions = earlier ++ .invoke (.publish bytes) :: later →
      run? { handoff := c } earlier = some s → bytes.length = c.session.frameLen →
      e.stages[s.stages.length]? = some (.returned r) →
      PublicationOutcome { handoff := c } actions s.stages.length r) ∧
    ∀ earlier k between later s t, actions = earlier ++ .step k :: between ++ later →
      run? { handoff := c } earlier = some s → s.stages[k]? = some .closing →
      s.handoff.session.closed = false → s.run? (.step k :: between) = some t →
      t.hasReturned k = true →
      e.handoff.session.front = none ∧ e.handoff.session.spare = none ∧ t.CountersOnly e := by
  refine ⟨(exclusive_run ran).progress, ?_, ?_⟩
  · rintro earlier bytes later s r rfl ran₁ fits returned
    obtain ⟨s', ran₁', ran₂⟩ := run?_append ran
    obtain rfl := Option.some.inj (ran₁.symm.trans ran₁')
    have same : s.handoff.session.frameLen = c.session.frameLen :=
      run?_induction (P := fun t => t.handoff.session.frameLen = c.session.frameLen)
        (fun acts same => acts.frameLen_eq.trans same) ran₁ rfl
    exact (fittingPublication_run (fits.trans same.symm) ran₂).publicationOutcome ran nofun returned
  · rintro earlier k between later s t rfl ran₁ found isOpen ran₂ returned
    obtain ⟨t', upto, ran₃⟩ := run?_append ran
    obtain ⟨s', ran₁', ran₂'⟩ := run?_append upto
    obtain rfl := Option.some.inj (ran₁.symm.trans ran₁')
    obtain rfl := Option.some.inj (ran₂.symm.trans ran₂')
    have emptied := (stopInv_run (exclusive_run ran₁) found isOpen ran₂).emptied returned
    obtain ⟨emptied', stays⟩ := emptied.run ran₃
    exact ⟨emptied'.front, emptied'.spare, stays⟩

/-- A stop empties the front when one publication has shown its frame and holds the spare buffer, and another
waits for the producer's lock. The second still fills the spare buffer, finds no front and is refused. -/
theorem stop_publish_outcome_between :
    let before : List Action :=
      [.invoke (.publish [7]), .invoke (.publish [8]), .invoke .stop, .step 0, .step 0, .step 0, .step 0,
        .step 0, .step 1]
    let between : List Action :=
      [.step 2, .step 2, .step 0, .step 0, .step 1, .step 1, .step 1, .step 1, .step 2, .step 2]
    let actions := before ++ .step 2 :: between ++ [.invoke (.publish [9]), .step 3]
    ∃ c e, FrameHandoff.start ⟨1, 1, .gray8⟩ = .ok c ∧ run? { handoff := c } actions = some e ∧
      e.Progress ∧ PublicationOutcome { handoff := c } actions 0 (.published 1) ∧
      PublicationOutcome { handoff := c } actions 1 (.refused .sessionClosed) ∧
      PublicationOutcome { handoff := c } actions 3 (.refused .sessionClosed) ∧
      e.handoff.session.front = none ∧ e.handoff.session.spare = none := by
  intro before between actions
  obtain ⟨c, started, fits, e, ran, first, second, third, s₁, ran₁, length₁, s₂, ran₂, closing, isOpen,
      t, ran₃, returned, s₃, upto, length₃⟩ :
      ∃ c, FrameHandoff.start ⟨1, 1, .gray8⟩ = .ok c ∧ 1 = c.session.frameLen ∧
        ∃ e, run? { handoff := c } actions = some e ∧
        e.stages[0]? = some (.returned (.published 1)) ∧
        e.stages[1]? = some (.returned (.refused .sessionClosed)) ∧
        e.stages[3]? = some (.returned (.refused .sessionClosed)) ∧
        ∃ s₁, run? { handoff := c } [.invoke (.publish [7])] = some s₁ ∧ s₁.stages.length = 1 ∧
        ∃ s₂, run? { handoff := c } before = some s₂ ∧ s₂.stages[2]? = some .closing ∧
        s₂.handoff.session.closed = false ∧
        ∃ t, s₂.run? (.step 2 :: between) = some t ∧ t.hasReturned 2 = true ∧
        ∃ s₃, run? { handoff := c } (before ++ .step 2 :: between) = some s₃ ∧ s₃.stages.length = 3 :=
    ⟨_, rfl, rfl, _, rfl, rfl, rfl, rfl, _, rfl, rfl, _, rfl, rfl, rfl, _, rfl, rfl, _, rfl, rfl⟩
  obtain ⟨progress, publications, stops⟩ := stop_publish_outcome ran
  obtain ⟨front, spare, -⟩ := stops before 2 between _ s₂ t rfl ran₂ closing isOpen ran₃ returned
  refine ⟨c, e, started, ran, progress, ?_, ?_, ?_, front, spare⟩
  · exact publications [] [7] _ { handoff := c } _ rfl rfl fits first
  · have out := publications [.invoke (.publish [7])] [8] _ s₁ _ rfl ran₁ fits (length₁ ▸ second)
    rwa [length₁] at out
  · have out := publications (before ++ .step 2 :: between) [9] _ s₃ _ rfl upto fits (length₃ ▸ third)
    rwa [length₃] at out

end Calls

end FramePipeline
