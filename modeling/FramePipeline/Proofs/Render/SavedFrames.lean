import FramePipeline.Proofs.Render.SnapshotRequests

/-!
# Which frames are saved

A render loop saves the output for the first frame that it renders after it has read a request. This is told
in terms of what the loop does, in order, the requests that it reads included. Between two of these deeds
all that counts is the output that is due at the sink and whether a request is pending; the pending request
is one, however many were read.

Main definitions: `RenderDeed`, `RenderDeed.Asked`, `RenderLoop.deeds`, `RenderLoop.Due`, `RenderLoop.DeedRel`
(what a step does), `RenderLoop.DeedsInv` (the invariant), `RenderLoop.UnfrozenInv`. Main statement:
`RenderLoop.saveOutput_iff_requested`.
-/

namespace FramePipeline

theorem RenderEvent.saved?_eq_none {event : RenderEvent} :
    event.saved? = none ↔ ∀ output ok, event ≠ .saved output ok := by
  cases event with
  | saved => simp [saved?]
  | _ => simp [saved?]

/-- What a loop does, be it that it reads a request. -/
inductive RenderDeed where
  /-- It reads a request for a snapshot. -/
  | heard
  | did (event : RenderEvent)
  deriving DecidableEq, Repr

namespace RenderDeed

/-- The event that is in the trace. -/
def event? : RenderDeed → Option RenderEvent
  | heard => none
  | did event => some event

theorem filterMap_event? (events : List RenderEvent) : (events.map did).filterMap event? = events := by
  rw [List.filterMap_map]
  exact List.filterMap_some

/-- A request was read, and no output was given to the sink to save since. -/
def Asked (deeds : List RenderDeed) : Prop :=
  ∃ before after, deeds = before ++ heard :: after ∧ ∀ output ok, did (.saved output ok) ∉ after

theorem not_asked_nil : ¬ Asked [] := by
  rintro ⟨before, after, split, -⟩
  simp at split

theorem asked_concat {deeds : List RenderDeed} {d : RenderDeed} :
    Asked (deeds ++ [d]) ↔ d = heard ∨ Asked deeds ∧ ∀ output ok, d ≠ did (.saved output ok) := by
  constructor
  · rintro ⟨before, after, split, unspent⟩
    obtain ⟨after', rfl, earlier⟩ | ⟨-, -, last⟩ := split_concat split
    · refine .inr ⟨⟨before, after', earlier, fun output ok mem => ?_⟩, fun output ok eq => ?_⟩
      · exact unspent output ok (List.mem_append_left _ mem)
      · exact unspent output ok (by simp [eq])
    · exact .inl last
  · rintro (rfl | ⟨⟨before, after, rfl, unspent⟩, other⟩)
    · exact ⟨deeds, [], rfl, fun _ _ => List.not_mem_nil⟩
    · refine ⟨before, after ++ [d], by simp, fun output ok mem => ?_⟩
      obtain mem | mem := List.mem_append.mp mem
      · exact unspent output ok mem
      · exact other output ok (List.mem_singleton.mp mem).symm

end RenderDeed

open RenderDeed (Asked)

/-- The loop has looked at the clock in this round, and the output was not frozen. -/
def RenderPhase.isThawed : RenderPhase → Bool
  | take | drainWith _ | apply _ | present _ | save _ => true
  | drain | thaw | ended _ => false

theorem RenderPhase.isThawed_of_atHand {phase : RenderPhase} {id : CellId} (held : phase.atHand? = some id) :
    phase.isThawed = true := by
  cases phase with
  | take | drainWith | apply | present | save => rfl
  | drain | thaw | ended => cases held

namespace RenderLoop

variable {σ ρ : Type} {t : FrameTransform σ} {k : FrameSink ρ} {clock : Reading} {r r' : RenderLoop σ ρ}
  {id : CellId} {f output : Frame} {ds before after : List RenderDeed} {d : RenderDeed}

/-! ## Deeds -/

/-- The deeds of a step that leads to `r'`. -/
def deedsTo (r r' : RenderLoop σ ρ) : List RenderDeed :=
  (if r.receives then [.heard] else []) ++ (r'.trace.drop r.trace.length).map .did

/-- What the loop does itself when something happens. -/
def deedsOf (t : FrameTransform σ) (k : FrameSink ρ) (r : RenderLoop σ ρ) : RenderAction → List RenderDeed
  | .step clock => r.deedsTo (r.step t k clock)
  | .send _ | .setModes _ | .publish _ | .close => []

/-- What the loop does in the course of a schedule. -/
def deeds (t : FrameTransform σ) (k : FrameSink ρ) : RenderLoop σ ρ → List RenderAction → List RenderDeed
  | _, [] => []
  | r, action :: rest => r.deedsOf t k action ++ deeds t k (r.act t k action) rest

theorem deeds_append (t : FrameTransform σ) (k : FrameSink ρ) (r : RenderLoop σ ρ)
    (schedule rest : List RenderAction) :
    deeds t k r (schedule ++ rest) = deeds t k r schedule ++ deeds t k (r.run t k schedule) rest := by
  induction schedule generalizing r with
  | nil => rfl
  | cons action schedule ih =>
    rw [List.cons_append, deeds, ih, deeds, List.append_assoc]
    rfl

theorem deedsTo_of_silent {events : List RenderEvent} (silent : r.receives = false)
    (trace : r'.trace = r.trace ++ events) : r.deedsTo r' = events.map .did := by
  simp [deedsTo, silent, trace]

theorem drop_of_deedsTo {event : RenderEvent} (deed : r.deedsTo r' = [.did event]) :
    r'.trace.drop r.trace.length = [event] := by
  unfold deedsTo at deed
  split at deed
  · cases deed
  · have events := congrArg (List.filterMap RenderDeed.event?) deed
    rwa [List.nil_append, RenderDeed.filterMap_event?] at events

theorem deedsOf_of_other {action : RenderAction} (other : action.isStep = false) :
    r.deedsOf t k action = [] := by
  cases action with
  | step => cases other
  | _ => rfl

/-! ## What is due at the sink -/

/-- The output that the sink is given next. -/
inductive Due where
  | nothing
  | toShow (output : Frame)
  /-- It was shown, and is saved if that was requested. -/
  | toSave (output : Frame)

/-- What the loop has made of the frame at hand and not given to the sink yet. -/
def due (r : RenderLoop σ ρ) : Due :=
  match r.phase, r.frameAtHand? with
  | .present _, some f => .toShow (r.output f)
  | .save _, some f => .toSave (r.output f)
  | _, _ => .nothing

theorem due_of_present (phase : r.phase = .present id) (frame : r.handoff.frame? id = some f) :
    r.due = .toShow (r.output f) := by
  rw [due, frameAtHand?_eq (by rw [phase]; rfl) frame, phase]

theorem due_of_save (phase : r.phase = .save id) (frame : r.handoff.frame? id = some f) :
    r.due = .toSave (r.output f) := by
  rw [due, frameAtHand?_eq (by rw [phase]; rfl) frame, phase]

theorem due_ne_toShow (unshown : ∀ id, r.phase ≠ .present id) : r.due ≠ .toShow output := by
  unfold due
  split
  · next id f phase frame => exact absurd phase (unshown id)
  · exact nofun
  · exact nofun

/-- What a step does to the output that is due and to the pending request, with its deeds. -/
inductive DeedRel (r r' : RenderLoop σ ρ) : List RenderDeed → Prop
  | goesOn (unshown : ∀ output, r.due ≠ .toShow output)
      (unasked : ∀ output, r.due = .toSave output → r.pendingSave = false) (due' : r'.due = .nothing)
      (pending : r'.pendingSave = r.pendingSave) : DeedRel r r' []
  | hears (due : r.due = .nothing) (due' : r'.due = .nothing) (pending : r'.pendingSave = true) :
      DeedRel r r' [.heard]
  | fails {f : Frame} {modes : CartoonModes} {result : Applied} (due : r.due = .nothing)
      (unfit : (RenderEvent.applied f modes [] result).rendered? = none) (due' : r'.due = .nothing)
      (pending : r'.pendingSave = r.pendingSave) : DeedRel r r' [.did (.applied f modes [] result)]
  | makes {f : Frame} {modes : CartoonModes} {out : Bytes} (due : r.due = .nothing)
      (fits : out.length = f.data.length) (due' : r'.due = .toShow ⟨f.metadata, out⟩)
      (pending : r'.pendingSave = r.pendingSave) : DeedRel r r' [.did (.applied f modes [] (.done out))]
  | shows {output : Frame} {ok : Bool} (due : r.due = .toShow output) (due' : r'.due = .toSave output)
      (pending : r'.pendingSave = r.pendingSave) : DeedRel r r' [.did (.presented output ok)]
  | saves {output : Frame} {ok : Bool} (due : r.due = .toSave output) (asked : r.pendingSave = true)
      (due' : r'.due = .nothing) (spent : r'.pendingSave = false) : DeedRel r r' [.did (.saved output ok)]

/-- Where no request is read, the deeds of a step are its events. -/
theorem deedRel_of_silent {events : List RenderEvent} (silent : r.receives = false)
    (trace : r'.trace = r.trace ++ events) (does : DeedRel r r' (events.map .did)) :
    DeedRel r r' (r.deedsTo r') ∧ r.trace <+: r'.trace := by
  rw [deedsTo_of_silent silent trace, trace]
  exact ⟨does, List.prefix_append ..⟩

theorem StepRel.deedRel (s : StepRel t k clock r r') : DeedRel r r' (r.deedsTo r') ∧
    r.trace <+: r'.trace := by
  cases s with
  | readSnapshot reads first =>
    have receives : r.receives = true := by
      obtain phase | ⟨id, phase⟩ := reads <;> simp [receives, phase, first]
    have idle : r.due = .nothing := by
      obtain phase | ⟨id, phase⟩ := reads <;> simp [due, phase]
    refine ⟨?_, List.prefix_rfl⟩
    simp only [deedsTo, receives, if_true, List.drop_length, List.map_nil, List.append_nil]
    exact .hears idle idle rfl
  | panicked phase =>
    exact deedRel_of_silent (by simp [receives, phase]) rfl
      (.fails (by simp [due, phase]) rfl (by simp [due]) rfl)
  | failed phase frame applied fault =>
    refine deedRel_of_silent (by simp [receives, phase]) rfl
      (.fails (by simp [due, phase]) ?_ (by simp [due]) rfl)
    obtain ⟨e, rfl⟩ | ⟨rfl, differs⟩ := fault
    · rfl
    · exact if_neg differs
  | transformed phase frame applied fits =>
    exact deedRel_of_silent (by simp [receives, phase]) rfl
      (.makes (by simp [due, phase]) fits (due_of_present rfl frame) rfl)
  | presentFailed phase frame | presented phase frame =>
    exact deedRel_of_silent (by simp [receives, phase]) rfl
      (.shows (due_of_present phase frame) (due_of_save rfl frame) rfl)
  | saveFailed phase frame asked | saved phase frame asked | overloaded phase frame asked =>
    exact deedRel_of_silent (by simp [receives, phase]) rfl
      (.saves (due_of_save phase frame) asked (by simp [due]) rfl)
  | notSaved phase unasked =>
    have unshown (output : Frame) : r.due ≠ .toShow output := due_ne_toShow (by simp [phase])
    exact deedRel_of_silent (by simp [receives, phase]) (List.append_nil _).symm
      (.goesOn unshown (fun _ _ => unasked) (by simp [due]) rfl)
  | readShutdown phase first | readShutdownWith phase first =>
    exact deedRel_of_silent (by simp [receives, phase, first]) (List.append_nil _).symm
      (.goesOn (by simp [due, phase]) (by simp [due, phase]) (by simp [due]) rfl)
  | readNothing phase empty | readNothingWith phase empty =>
    exact deedRel_of_silent (by simp [receives, empty]) (List.append_nil _).symm
      (.goesOn (by simp [due, phase]) (by simp [due, phase]) (by simp [due]) rfl)
  | notFrozen phase | frozen phase | thawed phase | tookNothing phase | foundClosed phase | took phase =>
    exact deedRel_of_silent (by simp [receives, phase]) (List.append_nil _).symm
      (.goesOn (by simp [due, phase]) (by simp [due, phase]) (by simp [due]) rfl)
  | ended phase =>
    exact deedRel_of_silent (by simp [receives, phase]) (List.append_nil _).symm
      (.goesOn (by simp [due, phase]) (by simp [due, phase]) (by simp [due, phase]) rfl)

namespace DeedRel

variable (h : DeedRel r r' ds)

include h

theorem eq_nil_or_singleton : ds = [] ∨ ∃ d, ds = [d] := by
  cases h with
  | goesOn => exact .inl rfl
  | hears | fails | makes | shows | saves => exact .inr ⟨_, rfl⟩

/-- What is due to be shown is shown. -/
theorem of_toShow (due : r.due = .toShow output) :
    r'.due = .toSave output ∧ r'.pendingSave = r.pendingSave ∧
      ∃ ok, ds = [.did (.presented output ok)] := by
  cases h with
  | goesOn unshown => exact absurd due (unshown output)
  | shows due₁ due' pending =>
    obtain rfl := Due.toShow.inj (due.symm.trans due₁)
    exact ⟨due', pending, _, rfl⟩
  | hears due₁ | fails due₁ | makes due₁ | saves due₁ => cases due.symm.trans due₁

/-- What is due to be saved is saved, if there is a request. -/
theorem of_toSave (due : r.due = .toSave output) (asked : r.pendingSave = true) :
    ∃ ok, ds = [.did (.saved output ok)] := by
  cases h with
  | goesOn _ unasked =>
    rw [unasked output due] at asked
    cases asked
  | saves due₁ =>
    obtain rfl := Due.toSave.inj (due.symm.trans due₁)
    exact ⟨_, rfl⟩
  | hears due₁ | fails due₁ | makes due₁ | shows due₁ => cases due.symm.trans due₁

end DeedRel

/-- The loop takes a step, or others do something, which changes neither what is due nor whether a request
is pending. -/
theorem act_deedRel (sound : r.Sound) (action : RenderAction) :
    (action.isStep = true ∧ DeedRel r (r.act t k action) (r.deedsOf t k action)) ∨
      action.isStep = false ∧ (r.act t k action).due = r.due ∧
        (r.act t k action).pendingSave = r.pendingSave := by
  obtain ⟨clock, rfl, s⟩ | ⟨other, u⟩ := act_cases (t := t) (k := k) sound action
  · exact .inl ⟨rfl, s.deedRel.1⟩
  · have output : (r.act t k action).output = r.output := by
      cases action with
      | step => cases other
      | _ => rfl
    refine .inr ⟨other, ?_, u.pendingSave⟩
    unfold due
    rw [u.phase, u.frameAtHand, output]

/-- The deeds are the events of the trace, and the requests that are read. -/
theorem events_deedsOf (sound : r.Sound) (action : RenderAction) :
    r.trace ++ (r.deedsOf t k action).filterMap RenderDeed.event? = (r.act t k action).trace := by
  obtain ⟨clock, rfl, s⟩ | ⟨other, u⟩ := act_cases (t := t) (k := k) sound action
  · have silent : (if r.receives then [RenderDeed.heard] else []).filterMap RenderDeed.event? = [] := by
      split <;> rfl
    rw [deedsOf, deedsTo, List.filterMap_append, silent, RenderDeed.filterMap_event?]
    exact List.prefix_iff_eq_append.mp s.deedRel.2
  · rw [deedsOf_of_other other, u.trace, List.filterMap_nil, List.append_nil]

/-! ## Points of a run -/

section Points

variable {events : List SlotEvent} {lost : List Frame} {schedule rest : List RenderAction}

theorem events_deeds (h : r.HistoryInv events lost) (t : FrameTransform σ) (k : FrameSink ρ)
    (schedule : List RenderAction) :
    r.trace ++ (deeds t k r schedule).filterMap RenderDeed.event? = (r.run t k schedule).trace := by
  induction schedule generalizing r events lost with
  | nil => exact List.append_nil _
  | cons action rest ih =>
    obtain ⟨events₁, lost₁, history⟩ := h.act t k action
    rw [deeds, List.filterMap_append, ← List.append_assoc, events_deedsOf h.sound]
    exact ih history

/-- Every deed is that of a step, and what was done before it was done before that step. -/
theorem exists_act_of_split (h : r.HistoryInv events lost)
    (split : deeds t k r schedule = before ++ d :: after) :
    ∃ earlier action later, schedule = earlier ++ action :: later ∧ deeds t k r earlier = before ∧
      (r.run t k earlier).deedsOf t k action = [d] ∧
      DeedRel (r.run t k earlier) ((r.run t k earlier).act t k action) [d] := by
  induction schedule generalizing r before events lost with
  | nil => simp [deeds] at split
  | cons action rest ih =>
    obtain ⟨events₁, lost₁, history⟩ := h.act t k action
    obtain ⟨new, eq⟩ : ∃ new, r.deedsOf t k action = new := ⟨_, rfl⟩
    -- The first deed is that of this action; where it is in `before`, or there is none, the deed comes later.
    have later {before' : List RenderDeed} (eq' : before = new ++ before')
        (split' : deeds t k (r.act t k action) rest = before' ++ d :: after) :
        ∃ earlier action' later, action :: rest = earlier ++ action' :: later ∧
          deeds t k r earlier = before ∧ (r.run t k earlier).deedsOf t k action' = [d] ∧
          DeedRel (r.run t k earlier) ((r.run t k earlier).act t k action') [d] := by
      obtain ⟨earlier, action', later, rfl, same, deed, does⟩ := ih history split'
      exact ⟨action :: earlier, action', later, rfl, by rw [deeds, eq, same, eq'], deed, does⟩
    rw [deeds, eq] at split
    obtain ⟨-, does⟩ | ⟨other, -⟩ := act_deedRel (t := t) (k := k) h.sound action
    · rw [eq] at does
      obtain rfl | ⟨first, rfl⟩ := does.eq_nil_or_singleton
      · exact later rfl split
      · cases before with
        | nil =>
          obtain ⟨rfl, -⟩ := List.cons.inj split
          exact ⟨[], action, rest, rfl, rfl, eq, does⟩
        | cons first' before' =>
          obtain ⟨rfl, split'⟩ := List.cons.inj split
          exact later rfl split'
    · rw [deedsOf_of_other other] at eq
      subst eq
      exact later rfl split

/-- What is due to be saved is saved at the next step, if there is a request. -/
theorem deeds_of_toSave (h : r.HistoryInv events lost) (due : r.due = .toSave output)
    (asked : r.pendingSave = true) (steps : 1 ≤ rest.countP (·.isStep)) :
    ∃ ok others, deeds t k r rest = .did (.saved output ok) :: others := by
  induction rest generalizing r events lost with
  | nil => cases steps
  | cons action rest ih =>
    obtain ⟨-, does⟩ | ⟨other, due', pending⟩ := act_deedRel (t := t) (k := k) h.sound action
    · obtain ⟨ok, deed⟩ := does.of_toSave due asked
      exact ⟨ok, _, by rw [deeds, deed]; rfl⟩
    · obtain ⟨events₁, lost₁, history⟩ := h.act t k action
      rw [List.countP_cons_of_neg (by simp [other])] at steps
      rw [deeds, deedsOf_of_other other]
      exact ih history (due'.trans due) (pending.trans asked) steps

/-- What is due to be shown is shown at the next step, and saved at the one after that, if there is a
request. -/
theorem deeds_of_toShow (h : r.HistoryInv events lost) (due : r.due = .toShow output)
    (steps : 2 ≤ rest.countP (·.isStep)) :
    ∃ shown later, deeds t k r rest = .did (.presented output shown) :: later ∧
      (r.pendingSave = true → ∃ ok others, later = .did (.saved output ok) :: others) := by
  induction rest generalizing r events lost with
  | nil => cases steps
  | cons action rest ih =>
    obtain ⟨events₁, lost₁, history⟩ := h.act t k action
    obtain ⟨step, does⟩ | ⟨other, due', pending⟩ := act_deedRel (t := t) (k := k) h.sound action
    · obtain ⟨due', pending, shown, deed⟩ := does.of_toShow due
      rw [List.countP_cons_of_pos step] at steps
      refine ⟨shown, _, by rw [deeds, deed]; rfl, fun asked => ?_⟩
      exact deeds_of_toSave history due' (pending.trans asked) (Nat.le_of_succ_le_succ steps)
    · rw [List.countP_cons_of_neg (by simp [other])] at steps
      rw [deeds, deedsOf_of_other other, ← pending]
      exact ih history (due'.trans due) steps

end Points

/-! ## The invariant -/

/-- The last call of the transform made the output, and is followed by `since`. -/
def Made (output : Frame) (since ds : List RenderDeed) : Prop :=
  ∃ earlier f modes, ds = earlier ++ .did (.applied f modes [] (.done output.data)) :: since ∧
    f.metadata = output.metadata ∧ output.data.length = f.data.length

theorem Made.concat {since : List RenderDeed} (h : Made output since ds) (d : RenderDeed) :
    Made output (since ++ [d]) (ds ++ [d]) := by
  obtain ⟨earlier, f, modes, rfl, same⟩ := h
  exact ⟨earlier, f, modes, by simp, same⟩

/-- What the loop has to do next follows from what it did. -/
structure DeedsInv (r : RenderLoop σ ρ) (ds : List RenderDeed) : Prop where
  history : ∃ events lost, r.HistoryInv events lost
  asked : r.pendingSave = true ↔ Asked ds
  toShow : ∀ output, r.due = .toShow output → Made output [] ds
  toSave : ∀ output, r.due = .toSave output → ∃ shown, Made output [.did (.presented output shown)] ds

theorem deedsInv_start {stream : StreamFormat} {c : FrameHandoff}
    (started : FrameHandoff.start stream = .ok c) (settings : RenderSettings) (transform : σ) (sink : ρ) :
    (start c settings transform sink).DeedsInv [] where
  history := ⟨[], [], historyInv_start started settings transform sink⟩
  asked := by simp [start, RenderDeed.not_asked_nil]
  toShow := nofun
  toSave := nofun

namespace DeedsInv

variable (h : r.DeedsInv ds)

include h

theorem deedRel (history : ∃ events lost, r'.HistoryInv events lost) {new : List RenderDeed}
    (does : DeedRel r r' new) : r'.DeedsInv (ds ++ new) := by
  refine ⟨history, ?_, ?_, ?_⟩
  · cases does with
    | goesOn _ _ _ pending => rw [List.append_nil, pending, h.asked]
    | hears _ _ pending => simp [RenderDeed.asked_concat, pending]
    | fails _ _ _ pending | makes _ _ _ pending | shows _ _ pending =>
      simp [RenderDeed.asked_concat, pending, h.asked]
    | saves _ _ _ spent => simp [RenderDeed.asked_concat, spent]
  · intro output due
    cases does with
    | @makes f modes out _ fits due' =>
      obtain rfl := Due.toShow.inj (due'.symm.trans due)
      exact ⟨ds, f, modes, rfl, rfl, fits⟩
    | goesOn _ _ due' | hears _ due' | fails _ _ due' | shows _ due' | saves _ _ due' =>
      cases due'.symm.trans due
  · intro output due
    cases does with
    | @shows output' ok due₀ due' =>
      obtain rfl := Due.toSave.inj (due'.symm.trans due)
      exact ⟨ok, (h.toShow output' due₀).concat _⟩
    | goesOn _ _ due' | hears _ due' | fails _ _ due' | makes _ _ due' | saves _ _ due' =>
      cases due'.symm.trans due

theorem act (t : FrameTransform σ) (k : FrameSink ρ) (action : RenderAction) :
    (r.act t k action).DeedsInv (ds ++ r.deedsOf t k action) := by
  obtain ⟨events, lost, history⟩ := h.history
  obtain ⟨-, does⟩ | ⟨other, due, pending⟩ := act_deedRel (t := t) (k := k) history.sound action
  · exact h.deedRel (history.act t k action) does
  · rw [deedsOf_of_other other, List.append_nil]
    refine ⟨history.act t k action, ?_, ?_, ?_⟩
    · rw [pending, h.asked]
    · rw [due]
      exact h.toShow
    · rw [due]
      exact h.toSave

theorem run (t : FrameTransform σ) (k : FrameSink ρ) (schedule : List RenderAction) :
    (r.run t k schedule).DeedsInv (ds ++ deeds t k r schedule) := by
  induction schedule generalizing r ds with
  | nil => rwa [deeds, List.append_nil]
  | cons action rest ih =>
    rw [deeds, ← List.append_assoc]
    exact ih (h.act t k action)

end DeedsInv

/-! ## Freezing -/

/-- Frames are rendered while the output is not frozen, and `period` is how long it is going to be. -/
structure UnfrozenInv (r : RenderLoop σ ρ) (period : Duration) : Prop where
  period_eq : r.settings.freezeAfterSave = period
  free : r.phase.isThawed = true → r.frozenUntil = none

section Freezing

variable {period : Duration}

theorem StepRel.unfrozenInv (s : StepRel t k clock r r') (h : r.UnfrozenInv period) :
    r'.UnfrozenInv period := by
  obtain ⟨period_eq, free⟩ := h
  cases s with
  | notFrozen _ unfrozen => exact ⟨period_eq, fun _ => unfrozen⟩
  | thawed => exact ⟨period_eq, fun _ => rfl⟩
  | readSnapshot | ended => exact ⟨period_eq, free⟩
  | readNothingWith phase | took phase | transformed phase | presentFailed phase | presented phase =>
    exact ⟨period_eq, fun _ => free (by rw [phase]; rfl)⟩
  | readNothing | readShutdown | readShutdownWith | frozen | tookNothing | foundClosed | panicked | failed
  | notSaved | saveFailed | saved | overloaded =>
    exact ⟨period_eq, nofun⟩

theorem UnfrozenInv.act (h : r.UnfrozenInv period) (sound : r.Sound) (t : FrameTransform σ)
    (k : FrameSink ρ) (action : RenderAction) : (r.act t k action).UnfrozenInv period := by
  cases action with
  | step clock => exact (stepRel_step sound).unfrozenInv h
  | send | setModes | publish | close => exact ⟨h.period_eq, h.free⟩

theorem UnfrozenInv.run {events : List SlotEvent} {lost : List Frame} (h : r.UnfrozenInv period)
    (history : r.HistoryInv events lost) (t : FrameTransform σ) (k : FrameSink ρ)
      (schedule : List RenderAction) :
    (r.run t k schedule).UnfrozenInv period := by
  induction schedule generalizing r events lost with
  | nil => exact h
  | cons action rest ih =>
    obtain ⟨events₁, lost₁, history₁⟩ := history.act t k action
    exact ih (h.act history.sound t k action) history₁

/-- With a frame at hand, a step freezes the output if it saves it and there is a time to freeze it for, and
otherwise leaves it unfrozen. -/
theorem StepRel.frozenUntil_iff (s : StepRel t k clock r r') (h : r.UnfrozenInv period)
    (held : r.phase.atHand? = some id) (thaw : Duration) :
    r'.frozenUntil = some thaw ↔
      period.nanos ≠ 0 ∧ Clock.after clock.now period = .ok thaw ∧
        ∃ output, r.deedsTo r' = [.did (.saved output true)] := by
  obtain ⟨rfl, free⟩ := h
  have free := free (RenderPhase.isThawed_of_atHand held)
  cases s with
  | @saved _ f _ _ phase _ _ _ freezes =>
    have silent : r.receives = false := by simp [receives, phase]
    obtain ⟨zero, rfl⟩ | ⟨period, thaw', after, rfl⟩ := freezes
    · simp [zero, free]
    · rw [after]
      constructor
      · intro until_eq
        obtain rfl := Option.some.inj until_eq
        exact ⟨period, rfl, r.output f, by rw [deedsTo_of_silent silent rfl]; rfl⟩
      · rintro ⟨-, same, -⟩
        exact congrArg some (Except.ok.inj same)
  | overloaded _ _ _ _ _ beyond => simp [beyond, free]
  | readSnapshot | readNothingWith | readShutdownWith | panicked | failed | transformed | presentFailed
  | presented | notSaved | saveFailed =>
    refine iff_of_false (by simp [free]) ?_
    rintro ⟨-, -, output, deed⟩
    simpa using drop_of_deedsTo deed
  | readNothing phase | readShutdown phase | notFrozen phase | frozen phase | thawed phase | tookNothing phase
  | foundClosed phase | took phase | ended phase =>
    simp [phase, RenderPhase.atHand?] at held

/-- With a frame at hand, a step breaks down if it saves the output and the clock cannot show the end of the
time to freeze it for. -/
theorem StepRel.overloaded_iff (s : StepRel t k clock r r') (held : r.phase.atHand? = some id)
    (o : Overload) :
    r'.phase = .ended (.overloaded o) ↔
      r.settings.freezeAfterSave.nanos ≠ 0 ∧ Clock.after clock.now r.settings.freezeAfterSave = .error o ∧
        ∃ output, r.deedsTo r' = [.did (.saved output true)] := by
  cases s with
  | @overloaded _ f _ o' phase _ _ _ period beyond =>
    have silent : r.receives = false := by simp [receives, phase]
    rw [beyond]
    constructor
    · intro phase'
      obtain rfl := RenderEnd.overloaded.inj (RenderPhase.ended.inj phase')
      exact ⟨period, rfl, r.output f, by rw [deedsTo_of_silent silent rfl]; rfl⟩
    · rintro ⟨-, same, -⟩
      rw [Except.error.inj same]
  | saved _ _ _ _ freezes =>
    refine iff_of_false (fun ended => by cases ended) ?_
    rintro ⟨period, beyond, -⟩
    obtain ⟨zero, -⟩ | ⟨-, thaw, after, -⟩ := freezes
    · exact period zero
    · cases after.symm.trans beyond
  | readSnapshot reads =>
    refine iff_of_false ?_ ?_
    · obtain phase | ⟨_, phase⟩ := reads <;> simp [phase]
    · rintro ⟨-, -, output, deed⟩
      simpa using drop_of_deedsTo deed
  | readNothingWith | readShutdownWith | panicked | failed | transformed | presentFailed | presented
  | notSaved | saveFailed =>
    refine iff_of_false (by simp) ?_
    rintro ⟨-, -, output, deed⟩
    simpa using drop_of_deedsTo deed
  | readNothing phase | readShutdown phase | notFrozen phase | frozen phase | thawed phase | tookNothing phase
  | foundClosed phase | took phase | ended phase =>
    simp [phase, RenderPhase.atHand?] at held

end Freezing

/-! ## Main statement -/

/-- Outputs that were made and shown leave requests as they are. -/
theorem asked_of_output {modes : CartoonModes} {buffer : Bytes} {result : Applied} {shown : Bool} :
    Asked (ds ++ [.did (.applied f modes buffer result), .did (.presented output shown)]) ↔ Asked ds := by
  rw [List.append_cons, RenderDeed.asked_concat, RenderDeed.asked_concat]
  simp

/-- Where an output is saved, it was made and shown before, and a request was read before that. -/
theorem DeedsInv.of_saved (h : r.DeedsInv []) {schedule : List RenderAction} {ok : Bool}
    (split : deeds t k r schedule = before ++ .did (.saved output ok) :: after) :
    ∃ earlier f modes shown,
      before = earlier ++
        [.did (.applied f modes [] (.done output.data)), .did (.presented output shown)] ∧
      f.metadata = output.metadata ∧ output.data.length = f.data.length ∧ Asked earlier := by
  obtain ⟨events, lost, history⟩ := h.history
  obtain ⟨earlier, action, later, -, rfl, -, does⟩ := exists_act_of_split history split
  have records : (r.run t k earlier).DeedsInv (deeds t k r earlier) := h.run t k earlier
  cases does with
  | saves due asked =>
    obtain ⟨shown, others, f, modes, eq, metadata, fits⟩ := records.toSave output due
    have asked := records.asked.mp asked
    rw [eq] at asked ⊢
    exact ⟨others, f, modes, shown, rfl, metadata, fits, asked_of_output.mp asked⟩

/-- Where an output of the right length is made, it is due to be shown. -/
theorem DeedRel.of_made {modes : CartoonModes} {buffer out : Bytes}
    (does : DeedRel r r' [.did (.applied f modes buffer (.done out))]) (fits : out.length = f.data.length) :
    r'.due = .toShow ⟨f.metadata, out⟩ ∧ r'.pendingSave = r.pendingSave := by
  cases does with
  | fails _ unfit =>
    rw [RenderEvent.rendered?, if_pos fits] at unfit
    cases unfit
  | makes _ _ due' pending => exact ⟨due', pending⟩

/-- It is shown and, if a request was read before, saved within two steps. -/
theorem DeedsInv.deeds_of_made (h : r.DeedsInv before) {action : RenderAction} {rest : List RenderAction}
    {modes : CartoonModes} {buffer out : Bytes}
    (deed : r.deedsOf t k action = [.did (.applied f modes buffer (.done out))])
    (does : DeedRel r (r.act t k action) [.did (.applied f modes buffer (.done out))])
    (fits : out.length = f.data.length) (steps : 2 ≤ rest.countP (·.isStep)) :
    ∃ shown later, deeds t k r (action :: rest) =
        .did (.applied f modes buffer (.done out)) :: .did (.presented ⟨f.metadata, out⟩ shown) :: later ∧
      (Asked before → ∃ ok others, later = .did (.saved ⟨f.metadata, out⟩ ok) :: others) := by
  obtain ⟨events, lost, history⟩ := h.history
  obtain ⟨events', lost', history'⟩ := history.act t k action
  obtain ⟨due, pending⟩ := does.of_made fits
  obtain ⟨shown, later, deeds_eq, attempt⟩ := deeds_of_toShow history' due steps
  refine ⟨shown, later, by rw [deeds, deed, deeds_eq]; rfl, fun asked => attempt ?_⟩
  rw [pending]
  exact h.asked.mpr asked

/-- **Frames are saved when this was requested.** Whatever happens to a loop in which order, its deeds are the
events of its trace in their order, with the requests that it reads in between. After the transform has made
an output of the right length, the loop gives it to the sink to show, and right after that to save, whether or
not it was shown, if a request was read before the transform was called and not spent on an attempt since;
otherwise it does not save it. There are no other attempts. A request is pending if any number of them were
read since the last attempt, which spends them all, be it successful or not; a call of the transform leaves it
pending. With a frame at hand, a step freezes the output if it saves it and the settings say for how long, and
leaves it unfrozen otherwise; but if the clock cannot show the end of this time, the loop breaks down
there. -/
theorem saveOutput_iff_requested {stream : StreamFormat} {c : FrameHandoff}
    (started : FrameHandoff.start stream = .ok c)
    (settings : RenderSettings) (t : FrameTransform σ) (k : FrameSink ρ) (transform : σ) (sink : ρ) :
    let loop := start c settings transform sink
    (∀ schedule, (deeds t k loop schedule).filterMap RenderDeed.event? = (loop.run t k schedule).trace) ∧
      (∀ schedule before f modes buffer out after,
        deeds t k loop schedule = before ++ .did (.applied f modes buffer (.done out)) :: after →
          out.length = f.data.length → ∀ rest : List RenderAction, 2 ≤ rest.countP (·.isStep) →
            ∃ shown later, deeds t k loop (schedule ++ rest) =
                before ++ .did (.applied f modes buffer (.done out)) ::
                  .did (.presented ⟨f.metadata, out⟩ shown) :: later ∧
              (Asked before ↔ ∃ ok others, later = .did (.saved ⟨f.metadata, out⟩ ok) :: others)) ∧
      (∀ schedule before output ok after,
        deeds t k loop schedule = before ++ .did (.saved output ok) :: after →
          ∃ earlier f modes shown,
            before = earlier ++
              [.did (.applied f modes [] (.done output.data)), .did (.presented output shown)] ∧
            f.metadata = output.metadata ∧ output.data.length = f.data.length ∧ Asked earlier) ∧
      (∀ schedule, (loop.run t k schedule).pendingSave = true ↔ Asked (deeds t k loop schedule)) ∧
      (∀ schedule before event, deeds t k loop schedule = before ++ [.did event] →
        ((loop.run t k schedule).pendingSave = true ↔ Asked before ∧ event.saved? = none)) ∧
      ∀ schedule clock,
        let r := loop.run t k schedule
        r.frameAtHand? ≠ none →
          (∀ thaw, (r.step t k clock).frozenUntil = some thaw ↔
            settings.freezeAfterSave.nanos ≠ 0 ∧ Clock.after clock.now settings.freezeAfterSave = .ok thaw ∧
            ∃ output, r.deedsOf t k (.step clock) = [.did (.saved output true)]) ∧
          ∀ o, (r.step t k clock).phase = .ended (.overloaded o) ↔
            settings.freezeAfterSave.nanos ≠ 0 ∧ Clock.after clock.now settings.freezeAfterSave = .error o ∧
            ∃ output, r.deedsOf t k (.step clock) = [.did (.saved output true)] := by
  intro loop
  have history : loop.HistoryInv [] [] := historyInv_start started settings transform sink
  have start_records : loop.DeedsInv [] := deedsInv_start started settings transform sink
  have records (schedule) : (loop.run t k schedule).DeedsInv (deeds t k loop schedule) :=
    start_records.run t k schedule
  refine ⟨events_deeds history t k, ?_, fun _ _ _ _ _ => start_records.of_saved,
    fun schedule => (records schedule).asked, ?_, ?_⟩
  · intro schedule before f modes buffer out after split fits rest steps
    obtain ⟨earlier, action, others, rfl, rfl, deed, does⟩ := exists_act_of_split history split
    obtain ⟨shown, later, deeds_eq, attempt⟩ := (records earlier).deeds_of_made deed does fits
      (show 2 ≤ (others ++ rest).countP (·.isStep) by
        rw [List.countP_append]
        exact Nat.le_add_left_of_le steps)
    have whole : deeds t k loop (earlier ++ action :: others ++ rest) =
        deeds t k loop earlier ++ .did (.applied f modes buffer (.done out)) ::
          .did (.presented ⟨f.metadata, out⟩ shown) :: later := by
      rw [List.append_assoc, List.cons_append, deeds_append, deeds_eq]
    refine ⟨shown, later, whole, attempt, ?_⟩
    -- There is no attempt without a request, and none but right after the output was made and shown.
    rintro ⟨ok, after', rfl⟩
    have attempt_there : deeds t k loop (earlier ++ action :: others ++ rest) =
        (deeds t k loop earlier ++ [.did (.applied f modes buffer (.done out)),
          .did (.presented ⟨f.metadata, out⟩ shown)]) ++ .did (.saved ⟨f.metadata, out⟩ ok) :: after' := by
      rw [whole, List.append_assoc]
      rfl
    obtain ⟨before, g, modes', shown', same, -, -, asked⟩ := start_records.of_saved attempt_there
    rwa [(List.append_inj' same rfl).1]
  · intro schedule before event split
    rw [(records schedule).asked, split, RenderDeed.asked_concat, RenderEvent.saved?_eq_none]
    simp
  · intro schedule clock r held
    obtain ⟨events, lost, history₁⟩ := history.run t k schedule
    have unfrozen : r.UnfrozenInv settings.freezeAfterSave :=
      UnfrozenInv.run ⟨rfl, fun _ => rfl⟩ history t k schedule
    obtain ⟨id, atHand⟩ : ∃ id, r.phase.atHand? = some id := by
      cases eq : r.phase.atHand? with
      | none => simp [frameAtHand?, eq] at held
      | some id => exact ⟨id, rfl⟩
    have s : StepRel t k clock r (r.step t k clock) := stepRel_step history₁.sound
    refine ⟨s.frozenUntil_iff unfrozen atHand, fun o => ?_⟩
    rw [← unfrozen.period_eq]
    exact s.overloaded_iff atHand o

/-- Two requests are read before a frame is rendered: its output is saved once, and then frozen. -/
theorem saveOutput_iff_requested_twice :
    ∃ c e shown ok others, FrameHandoff.start ⟨1, 1, .gray8⟩ = .ok c ∧
      start c { freezeAfterSave := ⟨4⟩ } () {} = e ∧
      deeds .negative .memorySink e
          ([.send .snapshot, .send .snapshot, .publish [5]] ++ List.replicate 7 (.step ⟨⟨3⟩, ⟨0⟩⟩) ++
            List.replicate 2 (.step ⟨⟨3⟩, ⟨0⟩⟩)) =
        [.heard, .heard] ++ .did (.applied ⟨⟨1, ⟨1, 1, .gray8⟩⟩, [5]⟩ {} [] (.done [250])) ::
          .did (.presented ⟨⟨1, ⟨1, 1, .gray8⟩⟩, [250]⟩ shown) ::
            .did (.saved ⟨⟨1, ⟨1, 1, .gray8⟩⟩, [250]⟩ ok) :: others ∧
      (run .negative .memorySink e
        ([.send .snapshot, .send .snapshot, .publish [5]] ++
          List.replicate 9 (.step ⟨⟨3⟩, ⟨0⟩⟩))).frozenUntil = some ⟨7⟩ := by
  obtain ⟨-, rendered, -, -, -, freezes⟩ :=
    saveOutput_iff_requested (rfl : FrameHandoff.start ⟨1, 1, .gray8⟩ = .ok _)
      { freezeAfterSave := ⟨4⟩ } .negative .memorySink () {}
  obtain ⟨shown, later, deeds_eq, asked⟩ := rendered
    ([.send .snapshot, .send .snapshot, .publish [5]] ++ List.replicate 7 (.step ⟨⟨3⟩, ⟨0⟩⟩))
    [.heard, .heard] ⟨⟨1, ⟨1, 1, .gray8⟩⟩, [5]⟩ {} [] [250] [] rfl rfl
    (List.replicate 2 (.step ⟨⟨3⟩, ⟨0⟩⟩)) (Nat.le_refl 2)
  obtain ⟨ok, others, rfl⟩ := asked.mp ⟨[.heard], [], rfl, fun _ _ => List.not_mem_nil⟩
  refine ⟨_, _, shown, ok, others, rfl, rfl, deeds_eq, ?_⟩
  exact ((freezes ([.send .snapshot, .send .snapshot, .publish [5]] ++
      List.replicate 8 (.step ⟨⟨3⟩, ⟨0⟩⟩)) ⟨⟨3⟩, ⟨0⟩⟩ nofun).1 ⟨7⟩).mpr ⟨nofun, rfl, _, rfl⟩

/-- An output is saved that is to be frozen for as long as a duration can last: the loop does not freeze it,
and reports nothing. -/
theorem saveOutput_overflow_unfrozen :
    ∃ c e, FrameHandoff.start ⟨1, 1, .gray8⟩ = .ok c ∧
      let period : Duration := .ofSeconds (Word.limit - 1) 999999999
      run .negative .memorySink (start c { freezeAfterSave := period } () {})
        ([.send .snapshot, .publish [5]] ++ List.replicate 8 (.step ⟨⟨3⟩, ⟨0⟩⟩)) = e ∧
      e.trace = [.applied ⟨⟨1, ⟨1, 1, .gray8⟩⟩, [5]⟩ {} [] (.done [250]),
        .presented ⟨⟨1, ⟨1, 1, .gray8⟩⟩, [250]⟩ true, .saved ⟨⟨1, ⟨1, 1, .gray8⟩⟩, [250]⟩ true] ∧
      period.nanos ≠ 0 ∧ e.frozenUntil = none ∧ e.finalReport = .error .panicked := by
  exact ⟨_, _, rfl, rfl, rfl, nofun, rfl, rfl⟩

end RenderLoop

end FramePipeline
