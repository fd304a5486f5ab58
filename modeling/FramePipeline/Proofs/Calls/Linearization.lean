import FramePipeline.Proofs.Calls.Effects

/-!
# Linearization

Publications and takes that are under way at once come to what they would come to one at a time, in the
order in which they take effect.

Main definitions: `Calls.commits` (the order), `Calls.owed` (what calls still have to count),
`Calls.LinearizationInv` (the invariant). Main statement: `Calls.run_linearizable`.
-/

namespace FramePipeline

/-! ## All calls -/

namespace Calls

variable {s s' : Calls} {i j : Nat} {stage stage' : CallStage} {p₀ : PlainSession} {calls ordered : List Call}
  {order : List Nat}

/-- What calls still have to count. -/
def owed (stages : List CallStage) : HandoffStats :=
  stages.foldr (fun stage sum => stage.owed.plus sum) {}

/-- The part of one call can be told from that of the others. -/
theorem owed_split {stages : List CallStage} (found : stages[i]? = some stage) :
    ∃ rest, owed stages = stage.owed.plus rest ∧
      ∀ stage', owed (stages.set i stage') = stage'.owed.plus rest := by
  induction stages generalizing i with
  | nil => cases found
  | cons first others ih =>
    cases i with
    | zero =>
      obtain rfl := Option.some.inj found
      exact ⟨owed others, rfl, fun _ => rfl⟩
    | succ i =>
      obtain ⟨rest, eq, eq'⟩ := ih found
      refine ⟨first.owed.plus rest, ?_, fun stage' => ?_⟩
      · rw [HandoffStats.plus_left_comm, ← eq]
        rfl
      · rw [HandoffStats.plus_left_comm, ← eq' stage']
        rfl

/-- A new call owes nothing. -/
theorem owed_invoke (stages : List CallStage) (call : Call) :
    owed (stages ++ [call.firstStage]) = owed stages := by
  unfold owed
  rw [List.foldr_append]
  cases call <;> rfl

/-- How far the call that holds the producer's lock has come. -/
def turn (s : Calls) : Turn :=
  match s.producer with
  | some i => (s.stages[i]?.map CallStage.turn).getD .idle
  | none => .idle

theorem turn_of_holder (h : s.Exclusive) (found : s.stages[i]? = some stage)
    (locks : stage.locksProducer = true) : s.turn = stage.turn := by
  rw [turn, h.producer.owner_eq found locks]
  simp [found]

theorem turn_of_free (free : s.producer = none) : s.turn = .idle := by
  rw [turn, free]

theorem StageMove.turn_eq (m : s.StageMove i stage stage' s') (h : s.Exclusive) :
    s'.turn = CallStage.turnAfter s.turn stage stage' := by
  have passes := m.producer
  unfold CallStage.turnAfter
  cases needs : stage'.locksProducer with
  | true =>
    rw [Bool.or_true, if_pos rfl]
    exact turn_of_holder (m.exclusive h) m.found' needs
  | false =>
    rw [Bool.or_false]
    rw [needs] at passes
    cases needed : stage.locksProducer with
    | true =>
      rw [needed] at passes
      rw [if_pos rfl, turn_of_free passes, CallStage.turn_eq_idle needs]
    | false =>
      rw [needed] at passes
      have passes : s'.producer = s.producer := passes
      rw [if_neg Bool.false_ne_true, turn, turn, passes]
      split
      · next j holder =>
        have ne : j ≠ i := by
          rintro rfl
          have locks := (h.producer.owner_eq_iff m.found).mp holder
          rw [needed] at locks
          cases locks
        rw [m.found_ne ne]
      · rfl

/-- What the caller is going to learn, once the call has taken effect. -/
def reply? (s : Calls) (i : Nat) : Option Reply :=
  s.stages[i]?.bind CallStage.reply?

theorem StageMove.reply?_eq (m : s.StageMove i stage stage' s') :
    s.reply? i = stage.reply? ∧ s'.reply? i = stage'.reply? ∧
      ∀ j, j ≠ i → s'.reply? j = s.reply? j := by
  refine ⟨by rw [reply?, m.found]; rfl, by rw [reply?, m.found']; rfl, fun j ne => ?_⟩
  rw [reply?, reply?, m.found_ne ne]

theorem turn_invoke (h : s.Exclusive) (call : Call) : (s.invoke call).turn = s.turn := by
  show (match s.producer with
    | some i => ((s.stages ++ [call.firstStage])[i]?.map CallStage.turn).getD .idle
    | none => .idle) = s.turn
  unfold turn
  split
  · next i holder =>
    obtain ⟨stage, found, -⟩ := (h.producer i).mp holder
    rw [List.getElem?_append_left (List.getElem?_eq_some_iff.mp found).1]
  · rfl

theorem reply?_invoke (s : Calls) (call : Call) (j : Nat) : (s.invoke call).reply? j = s.reply? j := by
  unfold reply?
  show (s.stages ++ [call.firstStage])[j]?.bind _ = _
  rw [List.getElem?_append]
  split
  · rfl
  · next beyond =>
    rw [List.getElem?_eq_none (Nat.le_of_not_lt beyond), List.getElem?_singleton]
    split
    · cases call <;> rfl
    · rfl

/-! ## The invariant -/

/-- The calls in `order`, which are `ordered`, have taken effect: the session stands for what the plain
session `p₀` becomes when they are made one at a time, and their callers learn the same. -/
structure LinearizationInv (p₀ : PlainSession) (calls : List Call) (s : Calls) (order : List Nat)
    (ordered : List Call) : Prop where
  sound : s.Sound
  length : calls.length = s.stages.length
  serves : ∀ (i : Nat) (stage : CallStage), s.stages[i]? = some stage →
    ∃ call, calls[i]? = some call ∧ stage.StageInv s.handoff call
  agrees : s.handoff.Agreement (p₀.callAll ordered).2 s.turn
  stats : (p₀.callAll ordered).2.stats = s.handoff.session.stats.visible.plus (owed s.stages)
  ordered_eq : ordered.map some = order.map (calls[·]?)
  replies : (p₀.callAll ordered).1.map some = order.map s.reply?
  nodup : order.Nodup
  committed : ∀ i, i ∈ order ↔ (s.reply? i).isSome = true

namespace LinearizationInv

variable (h : LinearizationInv p₀ calls s order ordered)

include h

theorem lt_length (mem : i ∈ order) : i < calls.length := by
  have committed := (h.committed i).mp mem
  rw [h.length]
  refine Nat.lt_of_not_le fun beyond => ?_
  rw [reply?, List.getElem?_eq_none beyond] at committed
  cases committed

/-- A section leads on in an open session. -/
theorem stageRel (m : s.StageMove i stage stage' s') : stage.StageRel s.handoff stage' s'.handoff := by
  obtain leads | closes := m.does
  · exact leads
  · obtain ⟨call, -, serves⟩ := h.serves i stage m.found
    exact absurd h.sound.owned (closes.not_agreement h.agrees
      (turn_of_holder h.sound.exclusive m.found) serves)

theorem others_serve (m : s.StageMove i stage stage' s') {other : CallStage} {call : Call} (ne : j ≠ i)
    (found : s.stages[j]? = some other) (serves : other.StageInv s.handoff call) :
    other.StageInv s'.handoff call := by
  have leads := h.stageRel m
  refine serves.congr leads.stream_eq leads.frameLen_eq (fun has => leads.sequence_eq ?_)
    fun has id mem => (m.owned h.sound).2 id (mem_othersInHand ne ?_)
  · exact h.sound.exclusive.producer.needs_eq_false found
      (CallStage.locksProducer_of_hasSpare has) (Ne.symm ne) m.found
  · rw [hand_eq found fun mem => ?_]
    · exact mem
    · obtain ⟨r, returned⟩ := h.sound.released j mem
      obtain rfl := Option.some.inj (found.symm.trans returned)
      cases has

theorem stageInv_moved (m : s.StageMove i stage stage' s') {other : CallStage}
    (found : s'.stages[j]? = some other) :
    ∃ call, calls[j]? = some call ∧ other.StageInv s'.handoff call := by
  obtain ⟨rfl, rfl⟩ | ⟨ne, found⟩ := m.found_cases found
  · obtain ⟨call, made, serves⟩ := h.serves j stage m.found
    exact ⟨call, made, (h.stageRel m).stageInv serves h.sound.ofStream
      (h.sound.owned_split m.found (m.not_released h.sound))⟩
  · obtain ⟨call, made, serves⟩ := h.serves j other found
    exact ⟨call, made, h.others_serve m ne found serves⟩

theorem agreement_moved (m : s.StageMove i stage stage' s') {call : Call}
    (serves : stage.StageInv s.handoff call) :
    s'.handoff.Agreement (stage.after s.handoff (p₀.callAll ordered).2 call) s'.turn := by
  rw [m.turn_eq h.sound.exclusive]
  refine (h.stageRel m).agreement h.agrees (turn_of_holder h.sound.exclusive m.found) ?_ serves
    h.sound.ofStream (h.sound.owned_split m.found (m.not_released h.sound))
  intro needed needs
  have passes := m.producer
  rw [needed, needs] at passes
  exact turn_of_free passes.1

theorem stats_moved (m : s.StageMove i stage stage' s') {call : Call}
    (serves : stage.StageInv s.handoff call) :
    (stage.after s.handoff (p₀.callAll ordered).2 call).stats =
      s'.handoff.session.stats.visible.plus (owed s'.stages) := by
  obtain ⟨rest, owes, owes'⟩ := owed_split m.found
  have stats := h.stats
  rw [owes] at stats
  rw [m.stages_eq, owes']
  exact (h.stageRel m).tally h.agrees serves stats

/-- A section that commits nothing. -/
theorem moved_quietly (m : s.StageMove i stage stage' s') (quiet : stage.commits s.handoff = false) :
    LinearizationInv p₀ calls s' order ordered := by
  obtain ⟨call, -, serves⟩ := h.serves i stage m.found
  have agrees := h.agreement_moved m serves
  have stats := h.stats_moved m serves
  rw [CallStage.after, quiet, if_neg Bool.false_ne_true] at agrees stats
  have replies : ∀ j, s'.reply? j = s.reply? j := by
    obtain ⟨before, after, others⟩ := m.reply?_eq
    intro j
    by_cases same : j = i
    · rw [same, after, before, (h.stageRel m).reply_eq quiet]
    · exact others j same
  exact {
    sound := m.sound h.sound
    length := by rw [h.length, m.stages_eq, List.length_set]
    serves := fun j other found => h.stageInv_moved m found
    agrees
    stats
    ordered_eq := h.ordered_eq
    replies := h.replies.trans (List.map_congr_left fun j _ => (replies j).symm)
    nodup := h.nodup
    committed := by
      intro j
      rw [replies]
      exact h.committed j }

/-- A section that commits its call, as the last one so far. -/
theorem moved_committing (m : s.StageMove i stage stage' s') (commits : stage.commits s.handoff = true) :
    ∃ call, LinearizationInv p₀ calls s' (order ++ [i]) (ordered ++ [call]) := by
  obtain ⟨call, made, serves⟩ := h.serves i stage m.found
  have agrees := h.agreement_moved m serves
  have stats := h.stats_moved m serves
  rw [CallStage.after, commits, if_pos rfl] at agrees stats
  obtain ⟨unsettled, settled⟩ := (h.stageRel m).reply h.agrees
    (turn_of_holder h.sound.exclusive m.found) serves commits
  obtain ⟨before, after, others⟩ := m.reply?_eq
  have fresh : i ∉ order := by
    intro mem
    have committed := (h.committed i).mp mem
    rw [before, unsettled] at committed
    cases committed
  refine ⟨call, ?_⟩
  exact {
    sound := m.sound h.sound
    length := by rw [h.length, m.stages_eq, List.length_set]
    serves := fun j other found => h.stageInv_moved m found
    agrees := by
      rw [PlainSession.callAll_concat]
      exact agrees
    stats := by
      rw [PlainSession.callAll_concat]
      exact stats
    ordered_eq := by
      rw [List.map_append, List.map_append, h.ordered_eq, List.map_singleton, List.map_singleton, made]
    replies := by
      rw [PlainSession.callAll_concat, List.map_append, List.map_append, h.replies, List.map_singleton,
        List.map_singleton, after, settled]
      refine congrArg (· ++ _) (List.map_congr_left fun j mem => (others j ?_).symm)
      rintro rfl
      exact fresh mem
    nodup := by
      refine List.nodup_append.mpr ⟨h.nodup, List.pairwise_singleton .., ?_⟩
      rintro j mem _ last rfl
      rw [List.mem_singleton] at last
      exact fresh (last ▸ mem)
    committed := by
      intro j
      rw [List.mem_append, List.mem_singleton, h.committed]
      by_cases same : j = i
      · subst same
        simp [after, settled]
      · simp [same, others j same] }

/-- A new publication or take. -/
theorem invoked {call : Call} (other : call ≠ .stop) :
    LinearizationInv p₀ (calls ++ [call]) (s.invoke call) order ordered where
  sound := sound_invoke h.sound call
  length := by simp [invoke, h.length]
  serves := by
    intro j stage found
    obtain found | ⟨rfl, rfl⟩ := found_invoke_cases found
    · obtain ⟨made, there, serves⟩ := h.serves j stage found
      exact ⟨made, by rw [List.getElem?_append_left (List.getElem?_eq_some_iff.mp there).1, there], serves⟩
    · refine ⟨call, by rw [← h.length, List.getElem?_concat_length], ?_⟩
      cases call with
      | publish bytes => rfl
      | tryTake => rfl
      | stop => exact absurd rfl other
  agrees := by
    rw [turn_invoke h.sound.exclusive]
    exact h.agrees
  stats := by
    show _ = HandoffStats.plus _ (owed (s.stages ++ [call.firstStage]))
    rw [owed_invoke]
    exact h.stats
  ordered_eq := by
    refine h.ordered_eq.trans (List.map_congr_left fun j mem => ?_)
    rw [List.getElem?_append_left (h.lt_length mem)]
  replies := h.replies.trans (List.map_congr_left fun j _ => (reply?_invoke s call j).symm)
  nodup := h.nodup
  committed := by
    intro j
    rw [reply?_invoke]
    exact h.committed j

/-- A caller gives up what it took. -/
theorem released {id : CellId} {f : Frame}
    (found : s.stages[i]? = some (.returned (.took (some (id, f))))) (kept : i ∉ s.released) :
    LinearizationInv p₀ calls { s with handoff := s.handoff.release id, released := i :: s.released } order
      ordered where
  sound := sound_release h.sound found kept
  length := h.length
  serves := by
    intro j stage there
    obtain ⟨call, made, serves⟩ := h.serves j stage there
    exact ⟨call, made, serves.congr rfl rfl (fun _ => rfl) fun _ _ _ => Pool.frame?_release ..⟩
  agrees := h.agrees.congr (fun _ => Pool.frame?_release ..) rfl
  stats := h.stats
  ordered_eq := h.ordered_eq
  replies := h.replies
  nodup := h.nodup
  committed := h.committed

end LinearizationInv

theorem linearizationInv_start {stream : StreamFormat} {c : FrameHandoff}
    (started : FrameHandoff.start stream = .ok c) :
    LinearizationInv c.plain [] { handoff := c } [] [] := by
  have sound := sound_start started
  obtain ⟨frameLen, rfl⟩ := FrameHandoff.start_eq started
  exact {
    sound
    length := rfl
    serves := nofun
    agrees := ⟨rfl, rfl, rfl, rfl, ⟨1, false, rfl, rfl, nofun⟩, fun _ => nofun, rfl⟩
    stats := rfl
    ordered_eq := rfl
    replies := rfl
    nodup := List.nodup_nil
    committed := by simp [reply?] }

/-! ## Runs -/

/-- The call that is made. -/
def Action.call? : Action → Option Call
  | invoke call => some call
  | _ => none

/-- The call that takes effect. -/
def commit? (s : Calls) : Action → Option Nat
  | .step i =>
    match s.stages[i]? with
    | some stage => if stage.commits s.handoff then some i else none
    | none => none
  | _ => none

/-- The calls that take effect, in the order in which they do: a publication of a wrong length when it looks
at the length, any other when it shows its frame, and a take when it looks at the front buffer. -/
def commits : Calls → List Action → List Nat
  | _, [] => []
  | s, action :: rest =>
    match s.act? action with
    | some s' => (s.commit? action).toList ++ commits s' rest
    | none => []

theorem LinearizationInv.act (h : LinearizationInv p₀ calls s order ordered) {action : Action}
    (acted : s.act? action = some s') (other : action ≠ .invoke .stop) :
    ∃ ordered', LinearizationInv p₀ (calls ++ action.call?.toList) s' (order ++ (s.commit? action).toList)
      ordered' := by
  cases actionRel_of_act acted with
  | invoked =>
    refine ⟨ordered, ?_⟩
    simpa [Action.call?, commit?] using h.invoked fun same => other (congrArg Action.invoke same)
  | @moved i stage stage' _ m =>
    cases commits : stage.commits s.handoff with
    | false =>
      refine ⟨ordered, ?_⟩
      simpa [Action.call?, commit?, m.found, commits] using h.moved_quietly m commits
    | true =>
      obtain ⟨call, committed⟩ := h.moved_committing m commits
      refine ⟨ordered ++ [call], ?_⟩
      simpa [Action.call?, commit?, m.found, commits] using committed
  | released found kept =>
    refine ⟨ordered, ?_⟩
    simpa [Action.call?, commit?] using h.released found kept

theorem LinearizationInv.run (h : LinearizationInv p₀ calls s order ordered) {actions : List Action}
    {e : Calls} (ran : s.run? actions = some e) (nonstop : .invoke .stop ∉ actions) :
    ∃ ordered', LinearizationInv p₀ (calls ++ actions.filterMap Action.call?) e (order ++ commits s actions)
      ordered' := by
  induction actions generalizing s calls order ordered with
  | nil =>
    obtain rfl := Option.some.inj ran
    exact ⟨ordered, by simpa [commits] using h⟩
  | cons action rest ih =>
    obtain ⟨s', acted, others⟩ := run?_cons ran
    rw [List.mem_cons, not_or] at nonstop
    obtain ⟨ordered₁, first⟩ := h.act acted (Ne.symm nonstop.1)
    obtain ⟨ordered', last⟩ := ih first others nonstop.2
    refine ⟨ordered', ?_⟩
    rw [commits, acted, ← List.append_assoc]
    have calls_eq : calls ++ (action :: rest).filterMap Action.call? =
        calls ++ action.call?.toList ++ rest.filterMap Action.call? := by
      cases action <;> simp [Action.call?, List.filterMap_cons]
    rw [calls_eq]
    exact last

theorem commits_append {earlier later : List Action} {s₁ : Calls} (ran : s.run? earlier = some s₁) :
    commits s (earlier ++ later) = commits s earlier ++ commits s₁ later := by
  induction earlier generalizing s with
  | nil =>
    obtain rfl := Option.some.inj ran
    rfl
  | cons action rest ih =>
    obtain ⟨s', acted, others⟩ := run?_cons ran
    rw [List.cons_append, commits, commits, acted]
    dsimp only
    rw [ih others, List.append_assoc]

/-! ## What a run comes to -/

theorem hasReturned_iff : s.hasReturned i = true ↔ ∃ r : CallResult, s.stages[i]? = some (.returned r) := by
  unfold hasReturned
  split
  · next r found => exact ⟨fun _ => ⟨r, found⟩, fun _ => rfl⟩
  · next going =>
    refine ⟨nofun, fun ⟨r, found⟩ => ?_⟩
    exact absurd found (going r)

theorem reply?_of_returned {r : CallResult} (found : s.stages[i]? = some (.returned r)) :
    s.reply? i = some r.reply := by
  rw [reply?, found]
  rfl

/-- Calls that have returned have counted all they had to. -/
theorem owed_of_returned (returned : ∀ i, i < s.stages.length → s.hasReturned i = true) :
    owed s.stages = {} := by
  have all : ∀ stage ∈ s.stages, ∃ r : CallResult, stage = .returned r := by
    intro stage mem
    obtain ⟨i, bound, rfl⟩ := List.mem_iff_getElem.mp mem
    obtain ⟨r, found⟩ := hasReturned_iff.mp (returned i bound)
    exact ⟨r, (List.getElem?_eq_some_iff.mp found).2⟩
  clear returned
  generalize s.stages = stages at all ⊢
  induction stages with
  | nil => rfl
  | cons first others ih =>
    rw [List.forall_mem_cons] at all
    obtain ⟨⟨r, rfl⟩, all⟩ := all
    unfold owed at ih ⊢
    rw [List.foldr_cons, ih all]
    rfl

namespace LinearizationInv

variable (h : LinearizationInv p₀ calls s order ordered)

include h

theorem mem_of_returned (returned : s.hasReturned i = true) : i ∈ order := by
  obtain ⟨r, found⟩ := hasReturned_iff.mp returned
  rw [h.committed, reply?_of_returned found]
  rfl

/-- Who has an answer learned what the plain session answers. -/
theorem reply_of_returned {r : CallResult} (found : s.stages[i]? = some (.returned r)) :
    ∃ n : Nat, order[n]? = some i ∧ (p₀.callAll ordered).1[n]? = some r.reply := by
  obtain ⟨n, place⟩ := List.mem_iff_getElem?.mp (h.mem_of_returned (hasReturned_iff.mpr ⟨r, found⟩))
  refine ⟨n, place, ?_⟩
  have replies := congrArg (·[n]?) h.replies
  simp only [List.getElem?_map, place, Option.map_some, reply?_of_returned found] at replies
  obtain ⟨reply, there, eq⟩ := Option.map_eq_some_iff.mp replies
  rw [there, Option.some.inj eq]

/-- When all have returned, all are in the order. -/
theorem order_perm (returned : ∀ i, i < s.stages.length → s.hasReturned i = true) :
    order.Perm (List.range calls.length) := by
  refine (List.perm_ext_iff_of_nodup h.nodup List.nodup_range).mpr fun i => ?_
  rw [List.mem_range]
  exact ⟨h.lt_length, fun bound => h.mem_of_returned (returned i (h.length ▸ bound))⟩

/-- A call that is made later takes effect later. -/
theorem before_later {later : List Nat} {n : Nat} (returned : s.hasReturned i = true)
    (place : (order ++ later)[n]? = some s.stages.length) :
    ∃ m, m < n ∧ (order ++ later)[m]? = some i := by
  obtain ⟨m, there⟩ := List.mem_iff_getElem?.mp (h.mem_of_returned returned)
  have bound : m < order.length := (List.getElem?_eq_some_iff.mp there).1
  refine ⟨m, Nat.lt_of_lt_of_le bound (Nat.le_of_not_lt fun early => ?_), ?_⟩
  · rw [List.getElem?_append_left early] at place
    exact Nat.lt_irrefl _ (h.length ▸ h.lt_length (List.mem_of_getElem? place))
  · rw [List.getElem?_append_left bound, there]

end LinearizationInv

/-! ## Main statement -/

/-- **Calls are atomic.** Publications and takes that are under way at once, on a session that nobody stops,
come to what they come to one at a time in the order in which they take effect. Each call that has returned
is in this order, and its caller learned what it learns there; a call that had returned when another was made
comes before it; what was taken stays what it was until it is given up; and when all calls have returned,
the order has each of them once, and the session has counted what it counts there. -/
theorem run_linearizable {stream : StreamFormat} {c : FrameHandoff}
    (started : FrameHandoff.start stream = .ok c)
    {actions : List Action} {e : Calls} (ran : run? { handoff := c } actions = some e)
    (nonstop : .invoke .stop ∉ actions) :
    let order := commits { handoff := c } actions
    let calls := actions.filterMap Action.call?
    ∃ ordered : List Call, ordered.map some = order.map (calls[·]?) ∧
      let alone := c.callAll ordered
      order.Nodup ∧
      (∀ (i : Nat) (r : CallResult), e.stages[i]? = some (.returned r) →
        ∃ n : Nat, order[n]? = some i ∧ alone.1[n]? = some r.reply) ∧
      (∀ (earlier later : List Action) (call : Call) (s : Calls),
        actions = earlier ++ .invoke call :: later → run? { handoff := c } earlier = some s →
          ∀ i, s.hasReturned i = true → ∀ n : Nat, order[n]? = some s.stages.length →
            ∃ m, m < n ∧ order[m]? = some i) ∧
      (∀ (i : Nat) (id : CellId) (f : Frame), e.stages[i]? = some (.returned (.took (some (id, f)))) →
        i ∉ e.released → e.handoff.frame? id = some f) ∧
      ((∀ i, i < e.stages.length → e.hasReturned i = true) →
        order.Perm (List.range calls.length) ∧
          e.handoff.session.stats.visible = alone.2.session.stats.visible) := by
  intro order calls
  obtain ⟨sound, -⟩ := FrameHandoff.start_refines started
  obtain ⟨ordered, linear⟩ := (linearizationInv_start started).run ran nonstop
  rw [List.nil_append, List.nil_append] at linear
  obtain ⟨replies, plain⟩ := FrameHandoff.callAll_refines sound ordered
  refine ⟨ordered, linear.ordered_eq, linear.nodup, ?results, ?realTime, ?taken, ?counters⟩
  case results =>
    intro i r found
    rw [replies]
    exact linear.reply_of_returned found
  case realTime =>
    rintro earlier later call s rfl ran₁ i returned n place
    have nonstop₁ : .invoke .stop ∉ earlier := fun mem => nonstop (List.mem_append_left _ mem)
    obtain ⟨ordered₁, linear₁⟩ := (linearizationInv_start started).run ran₁ nonstop₁
    have split : order = commits { handoff := c } earlier ++ commits s (.invoke call :: later) :=
      commits_append ran₁
    rw [split] at place ⊢
    exact linear₁.before_later returned place
  case taken =>
    intro i id f found kept
    exact linear.sound.taken i _ found kept id f rfl
  case counters =>
    intro returned
    refine ⟨linear.order_perm returned, ?_⟩
    have stats := linear.stats
    rw [owed_of_returned returned, ← plain] at stats
    exact stats.symm

/-- A take looks at the front buffer while the first publication is copying, a publication of a wrong length
comes while the second one is, and each of the first two counts after another take has looked. -/
theorem run_linearizable_crossing :
    let actions : List Action :=
      [.invoke (.publish [7]), .invoke (.publish [8]), .step 0, .step 1, .step 0, .step 0, .invoke .tryTake,
        .step 2, .step 2, .step 0, .step 0, .step 0, .step 1, .step 1, .invoke (.publish [1, 2]), .step 3,
        .step 1, .step 1, .step 1, .invoke .tryTake, .step 4, .step 4, .step 0, .step 1, .step 1, .step 3,
        .step 4]
    ∃ c e, FrameHandoff.start ⟨1, 1, .gray8⟩ = .ok c ∧ run? { handoff := c } actions = some e ∧
      commits { handoff := c } actions = [2, 0, 3, 1, 4] ∧
      let alone := c.callAll [.tryTake, .publish [7], .publish [1, 2], .publish [8], .tryTake]
      alone.1 = [.took none, .published 1, .refused (.sizeMismatch 1 2), .published 2,
        .took (some ⟨⟨2, ⟨1, 1, .gray8⟩⟩, [8]⟩)] ∧
      e.handoff.session.stats.visible = alone.2.session.stats.visible := by
  intro actions
  obtain ⟨c, started, e, ran, returned, order⟩ : ∃ c, FrameHandoff.start ⟨1, 1, .gray8⟩ = .ok c ∧ ∃ e,
      run? { handoff := c } actions = some e ∧
      (∀ i, i < e.stages.length → e.hasReturned i = true) ∧
      commits { handoff := c } actions = [2, 0, 3, 1, 4] := ⟨_, rfl, _, rfl, by decide, rfl⟩
  refine ⟨c, e, started, ran, order, ?_, ?_⟩
  · obtain rfl := Except.ok.inj started
    rfl
  · obtain ⟨ordered, made, -, -, -, -, counters⟩ :=
      run_linearizable started ran (by decide)
    rw [order] at made
    have same : ordered = [.tryTake, .publish [7], .publish [1, 2], .publish [8], .tryTake] :=
      (List.map_inj_right fun _ _ => Option.some.inj).mp made
    rw [← same]
    exact (counters returned).2

end Calls

end FramePipeline
