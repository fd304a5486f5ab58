import FramePipeline.Proofs.Calls.Buffers

/-!
# Calls to a stopped session

A stop sets the closed flag, then empties the front, then the spare buffer's place; a stop that finds the
flag set returns at once. Publications look at the flag and takes at the front, so a stop that has returned
is enough for publications to be refused from then on, but not for takes: the stop that set the flag may
still have the front before it. Once it has emptied it, takes are refused as well.

Main definitions: `Calls.Stopping` (how far stops have come), `FrameHandoff.IsRefusing`, `Call.refusedAt`
(where a call can be that is going to be refused), `Calls.SoleResult`. Main statement:
`Calls.stop_sessionClosed`.
-/

namespace FramePipeline

/-! ## Sections -/

namespace CallStage

variable {c c' : FrameHandoff} {stage stage' : CallStage}

/-- A stop has found the flag set, or has set it. -/
def sawFlag : CallStage → Bool
  | lockingToEmptyFront | emptyingFront | lockingToEmptySpare | emptyingSpare | returned .stopped => true
  | _ => false

/-- The stop has set the flag, and is yet to empty the front. -/
def emptiesFront : CallStage → Bool
  | lockingToEmptyFront | emptyingFront => true
  | _ => false

theorem StageRel.closed_eq (l : stage.StageRel c stage' c') : c'.session.closed = c.session.closed := by
  cases l with
  | filled there copied =>
    obtain ⟨n, session⟩ := FrameHandoff.session_of_copy copied
    rw [session]
    rfl
  | _ => rfl

/-- The flag stays set. -/
theorem StopStageRel.closed_of (l : stage.StopStageRel c stage' c') (closed : c.session.closed = true) :
    c'.session.closed = true := by
  cases l with
  | closed => rfl
  | emptiedFront =>
    unfold FrameHandoff.emptyFront
    split <;> exact closed
  | emptiedSpare =>
    unfold FrameHandoff.emptySpare
    split <;> exact closed
  | _ => exact closed

/-- The front stays empty. -/
theorem StageRel.front_none (l : stage.StageRel c stage' c') (gone : c.session.front = none) :
    c'.session.front = none := by
  cases l with
  | filled there copied =>
    obtain ⟨n, session⟩ := FrameHandoff.session_of_copy copied
    rw [session]
    exact gone
  | installed there => cases gone.symm.trans there
  | took there => cases gone.symm.trans there
  | _ => exact gone

theorem StopStageRel.front_none (l : stage.StopStageRel c stage' c') (gone : c.session.front = none) :
    c'.session.front = none := by
  cases l with
  | noFrame there => cases gone.symm.trans there
  | emptiedFront =>
    unfold FrameHandoff.emptyFront
    split
    · exact gone
    · rfl
  | emptiedSpare =>
    unfold FrameHandoff.emptySpare
    split <;> exact gone
  | _ => exact gone

theorem StageRel.sawFlag_eq (l : stage.StageRel c stage' c') : stage'.sawFlag = false := by
  cases l <;> rfl

/-- Who saw the flag saw it set. -/
theorem StopStageRel.closed_of_sawFlag (l : stage.StopStageRel c stage' c')
    (before : stage.sawFlag = true → c.session.closed = true) (saw : stage'.sawFlag = true) :
    c'.session.closed = true := by
  cases l with
  | wasClosed closed => exact closed
  | closed => rfl
  | lockedFront => exact before rfl
  | emptiedFront => exact StopStageRel.emptiedFront.closed_of (before rfl)
  | lockedSpare => exact before rfl
  | emptiedSpare => exact StopStageRel.emptiedSpare.closed_of (before rfl)
  | _ => cases saw

theorem StageRel.emptiesFront_eq (l : stage.StageRel c stage' c') : stage.emptiesFront = false := by
  cases l <;> rfl

/-- The stop that sets the flag goes on to the front, and does not leave before it is empty. -/
theorem StopStageRel.front_cases (l : stage.StopStageRel c stage' c') (closed : c'.session.closed = true) :
    c'.session.front = none ∨ stage'.emptiesFront = true ∨
      c.session.closed = true ∧ stage.emptiesFront = false := by
  cases l with
  | closed => exact .inr (.inl rfl)
  | lockedFront => exact .inr (.inl rfl)
  | emptiedFront =>
    refine .inl ?_
    unfold FrameHandoff.emptyFront
    split
    · assumption
    · rfl
  | emptiedSpare =>
    refine .inr (.inr ⟨?_, rfl⟩)
    unfold FrameHandoff.emptySpare at closed
    split at closed <;> exact closed
  | _ => exact .inr (.inr ⟨closed, rfl⟩)

end CallStage

/-! ## Stops -/

namespace Calls

variable {s s' : Calls} {i : Nat} {stage stage' : CallStage} {call : Call}

/-- How far stops have come: who saw the flag saw it set, and when it is set, the front is empty or about
to be emptied. -/
structure Stopping (s : Calls) : Prop where
  closed : ∀ (j : Nat) (stage : CallStage), s.stages[j]? = some stage → stage.sawFlag = true →
    s.handoff.session.closed = true
  front : s.handoff.session.closed = true → s.handoff.session.front = none ∨
    ∃ (j : Nat) (stage : CallStage), s.stages[j]? = some stage ∧ stage.emptiesFront = true

theorem StageMove.closed_of (m : s.StageMove i stage stage' s') (closed : s.handoff.session.closed = true) :
    s'.handoff.session.closed = true := by
  obtain leads | closes := m.does
  · exact leads.closed_eq.trans closed
  · exact closes.closed_of closed

theorem StageMove.front_none (m : s.StageMove i stage stage' s') (gone : s.handoff.session.front = none) :
    s'.handoff.session.front = none := by
  obtain leads | closes := m.does
  · exact leads.front_none gone
  · exact closes.front_none gone

theorem StageMove.front_cases (m : s.StageMove i stage stage' s')
    (closed : s'.handoff.session.closed = true) :
    s'.handoff.session.front = none ∨ stage'.emptiesFront = true ∨
      s.handoff.session.closed = true ∧ stage.emptiesFront = false := by
  obtain leads | closes := m.does
  · exact .inr (.inr ⟨leads.closed_eq.symm.trans closed, leads.emptiesFront_eq⟩)
  · exact closes.front_cases closed

theorem StageMove.stopping (m : s.StageMove i stage stage' s') (h : s.Stopping) : s'.Stopping where
  closed := by
    intro j other found saw
    obtain ⟨rfl, rfl⟩ | ⟨-, found⟩ := m.found_cases found
    · obtain leads | closes := m.does
      · rw [leads.sawFlag_eq] at saw
        cases saw
      · exact closes.closed_of_sawFlag (h.closed j stage m.found) saw
    · exact m.closed_of (h.closed j other found saw)
  front := by
    intro closed
    obtain gone | empties | ⟨before, idle⟩ := m.front_cases closed
    · exact .inl gone
    · exact .inr ⟨i, stage', m.found', empties⟩
    · obtain gone | ⟨j, other, found, empties⟩ := h.front before
      · exact .inl (m.front_none gone)
      · refine .inr ⟨j, other, ?_, empties⟩
        have ne : j ≠ i := by
          rintro rfl
          obtain rfl := Option.some.inj (m.found.symm.trans found)
          rw [empties] at idle
          cases idle
        rw [m.found_ne ne, found]

theorem ActionRel.stopping {action : Action} (acts : s.ActionRel action s') (h : s.Stopping) :
    s'.Stopping := by
  cases acts with
  | @invoked call =>
    refine ⟨fun j stage found saw => ?_, fun closed => (h.front closed).imp_right ?_⟩
    · obtain found | ⟨-, rfl⟩ := found_invoke_cases found
      · exact h.closed j stage found saw
      · cases call <;> cases saw
    · rintro ⟨j, stage, found, empties⟩
      exact ⟨j, stage, found_invoke found call, empties⟩
  | moved m => exact m.stopping h
  | released => exact ⟨h.closed, h.front⟩

theorem stopping_run {stream : StreamFormat} {c : FrameHandoff} (started : FrameHandoff.start stream = .ok c)
    {actions : List Action} {e : Calls} (ran : run? { handoff := c } actions = some e) : e.Stopping := by
  refine run?_induction ActionRel.stopping ran ⟨nofun, fun closed => ?_⟩
  obtain ⟨frameLen, rfl⟩ := FrameHandoff.start_eq started
  cases closed

end Calls

/-! ## Refusals -/

/-- The session is one that refuses a call: publications find the flag set, and takes find no front. -/
def FrameHandoff.IsRefusing (c : FrameHandoff) : Call → Prop
  | .publish _ => c.session.closed = true
  | .tryTake => c.session.front = none
  | .stop => False

/-- Where a call can be that is going to be refused. -/
def Call.refusedAt : Call → CallStage → Prop
  | publish bytes, stage => stage = .checking bytes ∨ stage = .returned (.refused .sessionClosed)
  | tryTake, stage =>
    stage = .lockingToTake ∨ stage = .taking ∨ stage = .returned (.refused .sessionClosed)
  | stop, _ => False

namespace CallStage

variable {c c' : FrameHandoff} {stage stage' : CallStage} {call : Call}

theorem StageRel.refusedAt (l : stage.StageRel c stage' c') (refuses : c.IsRefusing call)
    (h : call.refusedAt stage) : call.refusedAt stage' := by
  cases call with
  | publish bytes =>
    have closed : c.session.closed = true := refuses
    obtain rfl | rfl := h
    · cases l with
      | misfits isOpen => cases closed.symm.trans isOpen
      | fits isOpen => cases closed.symm.trans isOpen
    · cases l
  | tryTake =>
    have gone : c.session.front = none := refuses
    obtain rfl | rfl | rfl := h
    · cases l
      exact .inr (.inl rfl)
    · cases l with
      | tookNothing there => cases gone.symm.trans there
      | took there => cases gone.symm.trans there
    · cases l
  | stop => cases h

theorem StopStageRel.refusedAt (l : stage.StopStageRel c stage' c') (refuses : c.IsRefusing call)
    (h : call.refusedAt stage) : call.refusedAt stage' := by
  cases call with
  | publish bytes =>
    obtain rfl | rfl := h
    · cases l
      exact .inr rfl
    · cases l
  | tryTake =>
    have gone : c.session.front = none := refuses
    obtain rfl | rfl | rfl := h
    · cases l
    · cases l with
      | nothingToTake => exact .inr (.inr rfl)
      | noFrame there => cases gone.symm.trans there
    · cases l
  | stop => cases h

end CallStage

namespace Calls

variable {s s' : Calls} {i j : Nat} {stage stage' : CallStage} {call : Call}

/-- Call `i` is on its way to be refused. -/
def Refusing (s : Calls) (i : Nat) (call : Call) : Prop :=
  s.handoff.IsRefusing call ∧ ∃ stage, s.stages[i]? = some stage ∧ call.refusedAt stage

theorem StageMove.isRefusing (m : s.StageMove j stage stage' s') (refuses : s.handoff.IsRefusing call) :
    s'.handoff.IsRefusing call := by
  cases call with
  | publish => exact m.closed_of refuses
  | tryTake => exact m.front_none refuses
  | stop => exact refuses

theorem StageMove.refusing (m : s.StageMove j stage stage' s') (h : s.Refusing i call) :
    s'.Refusing i call := by
  obtain ⟨refuses, there, found, refused⟩ := h
  refine ⟨m.isRefusing refuses, ?_⟩
  by_cases same : i = j
  · subst same
    obtain rfl := Option.some.inj (m.found.symm.trans found)
    refine ⟨stage', m.found', ?_⟩
    obtain leads | closes := m.does
    · exact leads.refusedAt refuses refused
    · exact closes.refusedAt refuses refused
  · exact ⟨there, (m.found_ne same).trans found, refused⟩

theorem ActionRel.refusing {action : Action} (acts : s.ActionRel action s') (h : s.Refusing i call) :
    s'.Refusing i call := by
  cases acts with
  | invoked =>
    obtain ⟨refuses, stage, found, refused⟩ := h
    exact ⟨refuses, stage, found_invoke found _, refused⟩
  | moved m => exact m.refusing h
  | released =>
    obtain ⟨refuses, there⟩ := h
    refine ⟨?_, there⟩
    cases call <;> exact refuses

/-! ## Returning -/

/-- Call `i` can go on to return `r`. -/
def CanReturn (s : Calls) (i : Nat) (r : CallResult) : Prop :=
  ∃ (more : List Action) (e : Calls), s.run? more = some e ∧ e.stages[i]? = some (.returned r)

/-- Call `i` can always return, and returns nothing but `r`. -/
def SoleResult (s : Calls) (i : Nat) (r : CallResult) : Prop :=
  (∀ r' : CallResult, s.stages[i]? = some (.returned r') → r' = r) ∧ s.CanReturn i r

theorem CanReturn.of_step {r : CallResult} (step : s.step? j = some s') (h : s'.CanReturn i r) :
    s.CanReturn i r := by
  obtain ⟨more, e, ran, returned⟩ := h
  exact ⟨.step j :: more, e, run?_of_act step ran, returned⟩

theorem canReturn_finish (found : s.stages[i]? = some stage) (handoff : FrameHandoff)
    (producer consumer : Option Nat) (r : CallResult) :
    ({ s with handoff, producer, consumer }.finish i r).CanReturn i r :=
  ⟨[], _, rfl, List.getElem?_set_self (List.getElem?_eq_some_iff.mp found).1⟩

/-- Who holds the consumer's lock gives it back with the next step. -/
theorem step_of_locksConsumer (found : s.stages[j]? = some stage) (locks : stage.locksConsumer = true) :
    ∃ s', s.step? j = some s' ∧ s'.consumer = none := by
  unfold step?
  rw [found]
  cases stage with
  | installing fresh n =>
    refine ⟨_, rfl, ?_⟩
    unfold install
    split <;> rfl
  | taking =>
    refine ⟨_, rfl, ?_⟩
    unfold takeFront
    split
    · rfl
    · rfl
    · split <;> rfl
  | emptyingFront => exact ⟨_, rfl, rfl⟩
  | _ => cases locks

theorem canReturn_of_taking (found : s.stages[i]? = some .taking)
    (gone : s.handoff.session.front = none) : s.CanReturn i (.refused .sessionClosed) := by
  have step : s.step? i = some ({ s with consumer := none }.finish i (.refused .sessionClosed)) := by
    simp [step?, found, takeFront, FrameHandoff.takeFront, gone]
  exact .of_step step (canReturn_finish found ..)

theorem canReturn_of_lockingToTake (found : s.stages[i]? = some .lockingToTake)
    (free : s.consumer = none) (gone : s.handoff.session.front = none) :
    s.CanReturn i (.refused .sessionClosed) := by
  have step : s.step? i = some ({ s with consumer := some i }.goTo i .taking) := by
    simp [step?, found, lockConsumer?, free]
  refine .of_step step (canReturn_of_taking ?_ gone)
  exact List.getElem?_set_self (List.getElem?_eq_some_iff.mp found).1

/-- A call that is going to be refused can be: a publication at once, and a take when the consumer's lock is
given back. -/
theorem Refusing.canReturn (h : s.Refusing i call) (exclusive : s.Exclusive) :
    s.CanReturn i (.refused .sessionClosed) := by
  obtain ⟨refuses, stage, found, refused⟩ := h
  cases call with
  | publish bytes =>
    have closed : s.handoff.session.closed = true := refuses
    obtain rfl | rfl := refused
    · have step : s.step? i = some (s.finish i (.refused .sessionClosed)) := by
        simp [step?, found, check, FrameHandoff.check, closed]
      exact .of_step step (canReturn_finish found ..)
    · exact ⟨[], s, rfl, found⟩
  | tryTake =>
    have gone : s.handoff.session.front = none := refuses
    obtain rfl | rfl | rfl := refused
    · cases owner : s.consumer with
      | none => exact canReturn_of_lockingToTake found owner gone
      | some j =>
        obtain ⟨other, found', locks⟩ := (exclusive.consumer j).mp owner
        obtain ⟨s', step, free⟩ := step_of_locksConsumer found' locks
        obtain ⟨_, _, m⟩ := stageMove_of_step step
        have ne : i ≠ j := by
          rintro rfl
          obtain rfl := Option.some.inj (found.symm.trans found')
          cases locks
        exact .of_step step
          (canReturn_of_lockingToTake ((m.found_ne ne).trans found) free (m.front_none gone))
    · exact canReturn_of_taking found gone
    · exact ⟨[], s, rfl, found⟩
  | stop => cases refused

theorem Refusing.soleResult (h : s.Refusing i call) (exclusive : s.Exclusive) :
    s.SoleResult i (.refused .sessionClosed) := by
  refine ⟨fun r returned => ?_, h.canReturn exclusive⟩
  obtain ⟨-, stage, found, refused⟩ := h
  obtain rfl := Option.some.inj (returned.symm.trans found)
  cases call with
  | publish bytes =>
    obtain same | same := refused
    · cases same
    · exact CallStage.returned.inj same
  | tryTake =>
    obtain same | same | same := refused
    · cases same
    · cases same
    · exact CallStage.returned.inj same
  | stop => cases refused

/-! ## Main statement -/

/-- **Calls after a stop.** Once a stop has returned, a publication that is made from then on is refused,
whatever other calls do. So is a take, unless another stop has set the flag and is yet to empty the front
when the take is made. -/
theorem stop_sessionClosed {stream : StreamFormat} {c : FrameHandoff}
    (started : FrameHandoff.start stream = .ok c)
    {earlier later : List Action} {s e : Calls} (ran : run? { handoff := c } earlier = some s) {k : Nat}
    (stopped : s.stages[k]? = some (.returned .stopped)) {call : Call} (other : call ≠ .stop)
    (emptied : call = .tryTake → ∀ stage ∈ s.stages, stage.emptiesFront = false)
    (ran' : s.run? (.invoke call :: later) = some e) :
    e.SoleResult s.stages.length (.refused .sessionClosed) := by
  have stopping := stopping_run started ran
  have exclusive := exclusive_run ran
  have closed : s.handoff.session.closed = true := stopping.closed k _ stopped rfl
  obtain ⟨s₁, invoked, ran₁⟩ := run?_cons ran'
  obtain rfl := Option.some.inj invoked
  have found : (s.invoke call).stages[s.stages.length]? = some call.firstStage :=
    List.getElem?_concat_length ..
  have refusing : (s.invoke call).Refusing s.stages.length call := by
    cases call with
    | publish bytes => exact ⟨closed, _, found, .inl rfl⟩
    | tryTake =>
      refine ⟨?_, _, found, .inl rfl⟩
      obtain gone | ⟨j, stage, there, empties⟩ := stopping.front closed
      · exact gone
      · rw [emptied rfl stage (List.mem_of_getElem? there)] at empties
        cases empties
    | stop => exact absurd rfl other
  have exclusive' : e.Exclusive :=
    run?_induction ActionRel.exclusive ran₁ (ActionRel.exclusive .invoked exclusive)
  exact (run?_induction ActionRel.refusing ran₁ refusing).soleResult exclusive'

/-- While a publication is copying, a stop empties the front and waits for the producer's lock, and another
stop returns. A take that is made then waits for the consumer's lock, which the publication gets first, and
is refused. -/
theorem stop_sessionClosed_while_stopping :
    let earlier : List Action :=
      [.invoke (.publish [7]), .step 0, .step 0, .step 0, .invoke .stop, .step 1, .step 1, .step 1,
        .invoke .stop, .step 2]
    ∃ c s e, FrameHandoff.start ⟨1, 1, .gray8⟩ = .ok c ∧ run? { handoff := c } earlier = some s ∧
      s.stages[1]? = some CallStage.lockingToEmptySpare ∧
      s.stages[2]? = some (CallStage.returned .stopped) ∧
      s.run? [.invoke .tryTake, .step 0] = some e ∧ e.consumer = some 0 ∧
      e.SoleResult 3 (.refused .sessionClosed) := by
  intro earlier
  obtain ⟨c, started, s, ran, waits, stopped, emptied, length, e, ran', owner⟩ :
      ∃ c, FrameHandoff.start ⟨1, 1, .gray8⟩ = .ok c ∧ ∃ s, run? { handoff := c } earlier = some s ∧
        s.stages[1]? = some CallStage.lockingToEmptySpare ∧
        s.stages[2]? = some (CallStage.returned .stopped) ∧
        (∀ stage ∈ s.stages, stage.emptiesFront = false) ∧ s.stages.length = 3 ∧ ∃ e,
        s.run? [.invoke .tryTake, .step 0] = some e ∧ e.consumer = some 0 :=
    ⟨_, rfl, _, rfl, rfl, rfl, by decide, rfl, _, rfl, rfl⟩
  have comesTo := stop_sessionClosed started ran stopped (by decide : Call.tryTake ≠ .stop)
    (fun _ => emptied) ran'
  rw [length] at comesTo
  exact ⟨c, s, e, started, ran, waits, stopped, ran', owner, comesTo⟩

/-- A take that is made after a stop has returned still gets the last frame: the stop found the flag set by
another, which has not emptied the front yet. -/
theorem stop_tryTake_frame :
    let earlier : List Action :=
      [.invoke (.publish [7]), .step 0, .step 0, .step 0, .step 0, .step 0, .step 0, .step 0,
        .invoke .stop, .step 1, .invoke .stop, .step 2]
    ∃ c s e, FrameHandoff.start ⟨1, 1, .gray8⟩ = .ok c ∧ run? { handoff := c } earlier = some s ∧
      s.stages[0]? = some (CallStage.returned (.published 1)) ∧
      s.stages[2]? = some (CallStage.returned .stopped) ∧
      s.run? [.invoke .tryTake, .step 3, .step 3, .step 3] = some e ∧
      e.stages[3]? = some (CallStage.returned (.took (some (0, ⟨⟨1, ⟨1, 1, .gray8⟩⟩, [7]⟩)))) ∧
      ¬ e.SoleResult 3 (.refused .sessionClosed) := by
  intro earlier
  refine ⟨_, _, _, rfl, rfl, rfl, rfl, rfl, rfl, fun refused => ?_⟩
  cases refused.1 _ rfl

end Calls

end FramePipeline
