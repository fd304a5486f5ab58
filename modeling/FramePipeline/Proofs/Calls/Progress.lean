import FramePipeline.Proofs.Calls.StoppedCalls

/-!
# Calls come to an end

Who waits for a lock waits for a call that can go on: the one that holds the consumer's lock gives it back
with its next step, and the one that holds the producer's lock waits for the consumer's lock at most. Each
step brings its call nearer to its end, so calls that go on for long enough all return.

Main definitions: `CallStage.awaitsProducer`, `CallStage.awaitsConsumer`, `CallStage.stepsLeft`,
`Calls.stepsLeft`, `Calls.Progress`. Main statements: `Calls.exists_step` (no deadlock),
`Calls.StageMove.stepsLeft_lt`, `Calls.exists_run_returned`, `Calls.Exclusive.progress`.
-/

namespace FramePipeline

/-! ## Stages -/

namespace CallStage

variable {c c' : FrameHandoff} {stage stage' : CallStage}

/-- The largest number of steps that the call can still take. -/
def stepsLeft : CallStage → Nat
  | checking _ => 8
  | lockingProducer _ => 7
  | filling _ => 6
  | lockingConsumer .. => 5
  | installing .. => 4
  | returningSpare .. => 3
  | countingPublished .. => 2
  | countingMismatch _ | countingDropped _ => 1
  | lockingToTake => 3
  | taking => 2
  | countingTaken .. => 1
  | closing => 5
  | lockingToEmptyFront => 4
  | emptyingFront => 3
  | lockingToEmptySpare => 2
  | emptyingSpare => 1
  | returned _ => 0

theorem StageRel.stepsLeft_lt (l : stage.StageRel c stage' c') : stage'.stepsLeft < stage.stepsLeft := by
  cases l <;> simp only [stepsLeft] <;> omega

theorem StopStageRel.stepsLeft_lt (l : stage.StopStageRel c stage' c') :
    stage'.stepsLeft < stage.stepsLeft := by
  cases l <;> simp only [stepsLeft] <;> omega

/-- The call waits for the producer's lock. -/
def awaitsProducer : CallStage → Bool
  | lockingProducer _ | lockingToEmptySpare => true
  | _ => false

/-- The call waits for the consumer's lock. -/
def awaitsConsumer : CallStage → Bool
  | lockingConsumer .. | lockingToTake | lockingToEmptyFront => true
  | _ => false

theorem awaitsConsumer_of_awaitsProducer (waits : stage.awaitsProducer = true) :
    stage.awaitsConsumer = false := by
  cases stage <;> first | rfl | cases waits

theorem awaitsProducer_of_locksProducer (locks : stage.locksProducer = true) :
    stage.awaitsProducer = false := by
  cases stage <;> first | rfl | cases locks

theorem result?_of_locksProducer (locks : stage.locksProducer = true) : stage.result? = none := by
  cases stage <;> first | rfl | cases locks

end CallStage

/-! ## All calls -/

namespace Calls

variable {s s' : Calls} {i : Nat} {stage stage' : CallStage}

/-- The largest number of steps that all calls together can still take. -/
def stepsLeft (s : Calls) : Nat :=
  s.stages.foldr (fun stage rest => stage.stepsLeft + rest) 0

theorem foldr_stepsLeft_set_lt {stages : List CallStage} (found : stages[i]? = some stage)
    (lt : stage'.stepsLeft < stage.stepsLeft) :
    (stages.set i stage').foldr (fun stage rest => stage.stepsLeft + rest) 0 <
      stages.foldr (fun stage rest => stage.stepsLeft + rest) 0 := by
  induction stages generalizing i with
  | nil => cases found
  | cons first others ih =>
    cases i with
    | zero =>
      obtain rfl := Option.some.inj found
      exact Nat.add_lt_add_right lt _
    | succ i => exact Nat.add_lt_add_left (ih found) _

theorem StageMove.stepsLeft_lt (m : s.StageMove i stage stage' s') : s'.stepsLeft < s.stepsLeft := by
  have lt : stage'.stepsLeft < stage.stepsLeft := by
    obtain leads | closes := m.does
    · exact leads.stepsLeft_lt
    · exact closes.stepsLeft_lt
  rw [stepsLeft, m.stages_eq]
  exact foldr_stepsLeft_set_lt m.found lt

/-! ## No deadlock -/

/-- A call goes on if nobody holds the lock that it waits for. -/
theorem exists_step_of_free (found : s.stages[i]? = some stage) (going : stage.result? = none)
    (producer : stage.awaitsProducer = true → s.producer = none)
    (consumer : stage.awaitsConsumer = true → s.consumer = none) : ∃ s', s.step? i = some s' := by
  unfold step?
  rw [found]
  cases stage with
  | lockingProducer | lockingToEmptySpare => exact ⟨_, if_pos (producer rfl)⟩
  | lockingConsumer | lockingToTake | lockingToEmptyFront => exact ⟨_, if_pos (consumer rfl)⟩
  | returned => cases going
  | _ => exact ⟨_, rfl⟩

/-- Who holds the consumer's lock waits for nobody, so who waits for no other lock goes on or waits for a
call that does. -/
theorem exists_step_of_not_awaitsProducer (exclusive : s.Exclusive) (found : s.stages[i]? = some stage)
    (going : stage.result? = none) (elsewhere : stage.awaitsProducer = false) :
    ∃ j s', s.step? j = some s' := by
  cases owner : s.consumer with
  | none =>
    obtain ⟨s', step⟩ := exists_step_of_free found going (by simp [elsewhere]) (fun _ => owner)
    exact ⟨i, s', step⟩
  | some j =>
    obtain ⟨holder, found', locks⟩ := (exclusive.consumer j).mp owner
    obtain ⟨s', step, -⟩ := step_of_locksConsumer found' locks
    exact ⟨j, s', step⟩

theorem hasReturned_eq (found : s.stages[i]? = some stage) :
    s.hasReturned i = stage.result?.isSome := by
  unfold hasReturned
  rw [found]
  cases stage <;> rfl

/-- While a call has not returned, there is a call that can go on: who holds the producer's lock does not
wait for it. -/
theorem exists_step (exclusive : s.Exclusive) (bound : i < s.stages.length)
    (unfinished : s.hasReturned i = false) : ∃ j s', s.step? j = some s' := by
  have found := List.getElem?_eq_getElem bound
  have going : s.stages[i].result? = none := by
    rwa [hasReturned_eq found, Option.isSome_eq_false_iff, Option.isNone_iff_eq_none] at unfinished
  by_cases waits : s.stages[i].awaitsProducer = true
  · cases owner : s.producer with
    | none =>
      obtain ⟨s', step⟩ := exists_step_of_free found going (fun _ => owner)
        (by simp [CallStage.awaitsConsumer_of_awaitsProducer waits])
      exact ⟨i, s', step⟩
    | some j =>
      obtain ⟨holder, found', locks⟩ := (exclusive.producer j).mp owner
      exact exists_step_of_not_awaitsProducer exclusive found'
        (CallStage.result?_of_locksProducer locks) (CallStage.awaitsProducer_of_locksProducer locks)
  · exact exists_step_of_not_awaitsProducer exclusive found going (Bool.not_eq_true _ ▸ waits)

/-! ## All calls return -/

/-- No more than `stepsLeft` steps can follow. -/
theorem length_add_stepsLeft_le {order : List Nat} {e : Calls}
    (ran : s.run? (order.map .step) = some e) : order.length + e.stepsLeft ≤ s.stepsLeft := by
  induction order generalizing s with
  | nil =>
    obtain rfl := Option.some.inj ran
    exact Nat.le_of_eq (Nat.zero_add _)
  | cons i rest ih =>
    obtain ⟨s', step, others⟩ := run?_cons ran
    obtain ⟨stage, stage', m⟩ := stageMove_of_step step
    have lt := m.stepsLeft_lt
    have le := ih others
    rw [List.length_cons]
    omega

/-- As every step brings its call nearer to its end, calls that go on come to a state in which all have
returned. -/
theorem exists_run_returned (exclusive : s.Exclusive) :
    ∃ (order : List Nat) (e : Calls), s.run? (order.map .step) = some e ∧
      e.stages.length = s.stages.length ∧ ∀ i, i < s.stages.length → e.hasReturned i = true := by
  induction left : s.stepsLeft using Nat.strongRecOn generalizing s with
  | ind n ih =>
    by_cases all : ∀ i, i < s.stages.length → s.hasReturned i = true
    · exact ⟨[], s, rfl, rfl, all⟩
    · obtain ⟨i, bound, going⟩ : ∃ i, i < s.stages.length ∧ s.hasReturned i = false := by
        simpa using all
      obtain ⟨j, s', step⟩ := exists_step exclusive bound going
      obtain ⟨stage, stage', m⟩ := stageMove_of_step step
      have lt : s'.stepsLeft < n := left ▸ m.stepsLeft_lt
      have length : s'.stages.length = s.stages.length := by rw [m.stages_eq, List.length_set]
      obtain ⟨order, e, ran, length', returned⟩ := ih _ lt (m.exclusive exclusive) rfl
      rw [length] at length' returned
      exact ⟨j :: order, e, run?_of_act step ran, length', returned⟩

/-- Nobody waits forever: while a call has not returned there is one that can go on, steps come to an end, and
they can come to a state in which all calls have returned. -/
structure Progress (s : Calls) : Prop where
  step : ∀ i, i < s.stages.length → s.hasReturned i = false → ∃ j s', s.step? j = some s'
  bounded : ∀ (order : List Nat) (e : Calls), s.run? (order.map .step) = some e →
    order.length ≤ s.stepsLeft
  returns : ∃ (order : List Nat) (e : Calls), s.run? (order.map .step) = some e ∧
    e.stages.length = s.stages.length ∧ ∀ i, i < s.stages.length → e.hasReturned i = true

theorem Exclusive.progress (exclusive : s.Exclusive) : s.Progress where
  step _ bound going := exists_step exclusive bound going
  bounded _ _ ran := Nat.le_trans (Nat.le_add_right ..) (length_add_stepsLeft_le ran)
  returns := exists_run_returned exclusive

end Calls

end FramePipeline
