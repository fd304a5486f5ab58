import FramePipeline.Proofs.Handoff.SessionRefinement
import FramePipeline.Render.Schedule

/-!
# Rendering without rounds

What a render loop makes of the frames that it is given, told without the rounds in which it does so: a
frame that is published is rendered at once, with the modes and the requests there are. A loop in the
middle of a round stands for the rendering that it comes to when it goes on and nobody interferes: it
finishes the frame at hand, and then renders the frame that waits.

Main definitions: `Rendering`, `Rendering.render`, `Rendering.control` (what a step of a script does),
`RenderLoop.settled` (the rendering that a loop comes to).
-/

namespace FramePipeline

/-- What was made of the frames so far, and what the next one meets. -/
structure Rendering (σ ρ : Type) where
  session : PlainSession
  modes : CartoonModes
  /-- The next output is to be saved. -/
  pending : Bool
  /-- A transform panicked, and nothing is rendered any more. -/
  panicked : Bool
  counts : RenderCounts
  /-- How many latencies are kept. -/
  room : Nat
  /-- How many latencies there are. -/
  samples : Nat
  transform : σ
  sink : ρ
  trace : List RenderEvent

namespace Rendering

variable {σ ρ : Type}

/-! ## One frame -/

/-- Counts a failure. -/
def countError (v : Rendering σ ρ) : Rendering σ ρ :=
  { v with counts.errors := v.counts.errors + 1 }

/-- Adds to the trace. -/
def note (v : Rendering σ ρ) (e : RenderEvent) : Rendering σ ρ :=
  { v with trace := v.trace ++ [e] }

/-- Transforms a frame; gives the output, if it is one. -/
def apply (t : FrameTransform σ) (v : Rendering σ ρ) (f : Frame) : Option Bytes × Rendering σ ρ :=
  let (result, transform) := t.apply f v.modes [] v.transform
  let v := { v with transform }.note (.applied f v.modes [] result)
  match result with
  | .panicked => (none, { v with panicked := true })
  | .failed _ _ => (none, v.countError)
  | .done out => if out.length = f.data.length then (some out, v) else (none, v.countError)

/-- Shows an output. -/
def present (k : FrameSink ρ) (v : Rendering σ ρ) (output : Frame) : Rendering σ ρ :=
  match k.present output v.sink with
  | (.error _, sink) => { v with sink }.countError.note (.presented output false)
  | (.ok (), sink) =>
    { v with
      sink
      counts.framesRendered := v.counts.framesRendered + 1
      samples := if v.samples < v.room then v.samples + 1 else v.samples }.note
        (.presented output true)

/-- Saves an output, if that was requested. -/
def save (k : FrameSink ρ) (v : Rendering σ ρ) (output : Frame) : Rendering σ ρ :=
  if v.pending then
    match k.save output v.sink with
    | (.error _, sink) => { v with sink, pending := false }.countError.note (.saved output false)
    | (.ok (), sink) =>
      { v with sink, pending := false, counts.snapshots := v.counts.snapshots + 1 }.note
        (.saved output true)
  else v

/-- Shows an output and saves it, if that was requested. -/
def putOut (k : FrameSink ρ) (v : Rendering σ ρ) (output : Frame) : Rendering σ ρ :=
  (v.present k output).save k output

/-- Renders a frame. -/
def render (t : FrameTransform σ) (k : FrameSink ρ) (v : Rendering σ ρ) (f : Frame) : Rendering σ ρ :=
  match v.apply t f with
  | (some out, v) => v.putOut k ⟨f.metadata, out⟩
  | (none, v) => v

/-- Renders the frame that waits. -/
def renderWaiting (t : FrameTransform σ) (k : FrameSink ρ) (v : Rendering σ ρ) : Rendering σ ρ :=
  if v.panicked then v
  else
    match v.session.tryTake with
    | (.ok (some f), session) => { v with session }.render t k f
    | _ => v

/-! ## Control -/

/-- Heeds the requests among commands. -/
def heed (v : Rendering σ ρ) (queue : List Command) : Rendering σ ρ :=
  { v with pending := v.pending || decide (.snapshot ∈ queue) }

/-- What a step of a script does. -/
def control (t : FrameTransform σ) (k : FrameSink ρ) (v : Rendering σ ρ) : ControlStep → Rendering σ ρ
  | .publish bytes _ =>
    { v with session := (v.session.publish bytes).2 }.renderWaiting t k
  | .requestSnapshot => { v with pending := true }
  | .setModes modes => { v with modes }
  | .close => { v with session := v.session.stop }
  | .await _ | .askModes | .awaitEnd => v

/-! ## Cases -/

section Cases

variable {t : FrameTransform σ} {k : FrameSink ρ} {v : Rendering σ ρ} {f output : Frame} {transform : σ}
  {sink : ρ} {out : Bytes}

theorem render_of_panicked (applied : t.apply f v.modes [] v.transform = (.panicked, transform)) :
    v.render t k f =
      { { v with transform }.note (.applied f v.modes [] .panicked) with panicked := true } := by
  simp only [render, apply, applied]

theorem render_of_fault {result : Applied}
    (applied : t.apply f v.modes [] v.transform = (result, transform))
    (fault : (∃ e, result = .failed e out) ∨ result = .done out ∧ out.length ≠ f.data.length) :
    v.render t k f = ({ v with transform }.note (.applied f v.modes [] result)).countError := by
  obtain ⟨e, rfl⟩ | ⟨rfl, differs⟩ := fault
  · simp only [render, apply, applied]
  · simp only [render, apply, applied, if_neg differs]

theorem render_of_output (applied : t.apply f v.modes [] v.transform = (.done out, transform))
    (fits : out.length = f.data.length) :
    v.render t k f =
      ({ v with transform }.note (.applied f v.modes [] (.done out))).putOut k ⟨f.metadata, out⟩ := by
  simp only [render, apply, applied, if_pos fits]

theorem present_of_error {e : RenderError} (presented : k.present output v.sink = (.error e, sink)) :
    v.present k output = { v with sink }.countError.note (.presented output false) := by
  simp only [present, presented]

theorem present_of_ok (presented : k.present output v.sink = (.ok (), sink)) :
    v.present k output =
      { v with
        sink
        counts.framesRendered := v.counts.framesRendered + 1
        samples := if v.samples < v.room then v.samples + 1 else v.samples }.note
          (.presented output true) := by
  simp only [present, presented]

theorem save_of_unasked (unasked : v.pending = false) : v.save k output = v := by
  unfold save
  rw [if_neg (by simp [unasked])]

theorem save_of_error {e : RenderError} (asked : v.pending = true)
    (saved : k.save output v.sink = (.error e, sink)) :
    v.save k output =
      { v with sink, pending := false }.countError.note (.saved output false) := by
  unfold save
  rw [if_pos asked, saved]

theorem save_of_ok (asked : v.pending = true) (saved : k.save output v.sink = (.ok (), sink)) :
    v.save k output =
      { v with sink, pending := false, counts.snapshots := v.counts.snapshots + 1 }.note
        (.saved output true) := by
  unfold save
  rw [if_pos asked, saved]

theorem renderWaiting_of_take {session : PlainSession} (calm : v.panicked = false)
    (taken : v.session.tryTake = (.ok (some f), session)) :
    v.renderWaiting t k = { v with session }.render t k f := by
  unfold renderWaiting
  rw [if_neg (by simp [calm]), taken]

end Cases

/-! ## What is left alone -/

variable (t : FrameTransform σ) (k : FrameSink ρ) (v : Rendering σ ρ) (f output : Frame)

/-- What is shown depends neither on the session nor on the modes. -/
theorem present_with (session : PlainSession) (modes : CartoonModes) :
    { v with session, modes }.present k output = { v.present k output with session, modes } := by
  unfold present
  dsimp only
  split <;> rfl

theorem save_with (session : PlainSession) (modes : CartoonModes) :
    { v with session, modes }.save k output = { v.save k output with session, modes } := by
  unfold save
  dsimp only
  split
  · split <;> rfl
  · rfl

theorem putOut_with (session : PlainSession) (modes : CartoonModes) :
    { v with session, modes }.putOut k output = { v.putOut k output with session, modes } := by
  unfold putOut
  rw [present_with, save_with]

theorem session_save : (v.save k output).session = v.session := by
  have same := congrArg Rendering.session (save_with k v output v.session v.modes)
  exact same

theorem session_putOut : (v.putOut k output).session = v.session := by
  have same := congrArg Rendering.session (putOut_with k v output v.session v.modes)
  exact same

theorem session_render : (v.render t k f).session = v.session := by
  have applied : (v.apply t f).2.session = v.session := by
    unfold apply
    dsimp only
    split
    · rfl
    · rfl
    · split <;> rfl
  unfold render
  split
  · next eq =>
    rw [eq] at applied
    rw [session_putOut, ← applied]
  · next eq =>
    rw [eq] at applied
    exact applied

theorem renderWaiting_of_panicked (panicked : v.panicked = true) : v.renderWaiting t k = v := by
  unfold renderWaiting
  rw [if_pos panicked]

theorem renderWaiting_of_idle (idle : v.session.waiting = none) : v.renderWaiting t k = v := by
  unfold renderWaiting
  split
  · rfl
  · have nothing : ∀ f s, v.session.tryTake ≠ (.ok (some f), s) := by
      intro f s
      unfold PlainSession.tryTake
      rw [idle]
      split <;> simp
    split
    · next f s taken => exact absurd taken (nothing f s)
    · rfl

theorem heed_nil : v.heed [] = v := by
  simp [heed]

theorem heed_append (before after : List Command) :
    v.heed (before ++ after) = (v.heed before).heed after := by
  simp [heed, Bool.or_assoc]

/-! ## Traces -/

theorem trace_prefix_present : v.trace <+: (v.present k output).trace := by
  unfold present
  split <;> exact List.prefix_append ..

theorem trace_prefix_save : v.trace <+: (v.save k output).trace := by
  unfold save
  split
  · split <;> exact List.prefix_append ..
  · exact List.prefix_rfl

theorem trace_prefix_putOut : v.trace <+: (v.putOut k output).trace :=
  (trace_prefix_present k v output).trans (trace_prefix_save k _ output)

theorem trace_prefix_render : v.trace <+: (v.render t k f).trace := by
  have applied : v.trace <+: (v.apply t f).2.trace := by
    unfold apply
    dsimp only
    split
    · exact List.prefix_append ..
    · exact List.prefix_append ..
    · split <;> exact List.prefix_append ..
  unfold render
  split
  · next eq =>
    rw [eq] at applied
    exact applied.trans (trace_prefix_putOut k _ _)
  · next eq =>
    rw [eq] at applied
    exact applied

theorem trace_prefix_renderWaiting : v.trace <+: (v.renderWaiting t k).trace := by
  unfold renderWaiting
  split
  · exact List.prefix_rfl
  · split
    · next f session _ => exact trace_prefix_render t k { v with session } f
    · exact List.prefix_rfl

/-- A step of a script adds to the trace. -/
theorem trace_prefix_control (step : ControlStep) : v.trace <+: (v.control t k step).trace := by
  cases step with
  | publish bytes waits =>
    exact trace_prefix_renderWaiting t k { v with session := (v.session.publish bytes).2 }
  | _ => exact List.prefix_rfl

theorem trace_prefix_foldl (script : List ControlStep) :
    v.trace <+: (script.foldl (control t k) v).trace := by
  induction script generalizing v with
  | nil => exact List.prefix_rfl
  | cons step rest ih => exact (trace_prefix_control t k v step).trans (ih _)

end Rendering

/-! ## What a loop comes to -/

/-- A frame is at hand that was not given to the transform yet. -/
def RenderPhase.hasInput : RenderPhase → Bool
  | drainWith _ | apply _ => true
  | _ => false

namespace RenderLoop

variable {σ ρ : Type}

/-- What the loop did so far. -/
def view (r : RenderLoop σ ρ) : Rendering σ ρ where
  session := r.handoff.plain
  modes := r.modes
  pending := r.pendingSave
  panicked := decide (r.phase = .ended .panicked)
  counts := r.counts
  room := r.window.ring.capacity
  samples := r.window.length
  transform := r.transform
  sink := r.sink
  trace := r.trace

/-- The frame at hand. -/
def frameAtHand? (r : RenderLoop σ ρ) : Option Frame :=
  r.phase.atHand?.bind r.handoff.frame?

/-- What the loop comes to when it is done with the frame at hand and has read its commands. -/
def finished (t : FrameTransform σ) (k : FrameSink ρ) (r : RenderLoop σ ρ) : Rendering σ ρ :=
  match r.phase, r.frameAtHand? with
  | .drainWith _, some f | .apply _, some f => (r.view.heed r.queue).render t k f
  | .present _, some f => (r.view.putOut k (r.output f)).heed r.queue
  | .save _, some f => (r.view.save k (r.output f)).heed r.queue
  | _, _ => r.view.heed r.queue

/-- What the loop comes to when it goes on until there is nothing to do. -/
def settled (t : FrameTransform σ) (k : FrameSink ρ) (r : RenderLoop σ ρ) : Rendering σ ρ :=
  (r.finished t k).renderWaiting t k

variable {t : FrameTransform σ} {k : FrameSink ρ} {r : RenderLoop σ ρ} {id : CellId} {f : Frame}

theorem finished_of_free (free : r.phase.atHand? = none) : r.finished t k = r.view.heed r.queue := by
  unfold finished frameAtHand?
  rw [free]
  cases r.phase <;> rfl

theorem finished_of_input (input : r.phase = .drainWith id ∨ r.phase = .apply id)
    (frame : r.handoff.frame? id = some f) :
    r.finished t k = (r.view.heed r.queue).render t k f := by
  have atHand : r.frameAtHand? = some f := by
    unfold frameAtHand?
    obtain phase | phase := input
    · rw [phase]
      exact frame
    · rw [phase]
      exact frame
  unfold finished
  rw [atHand]
  obtain phase | phase := input
  · rw [phase]
  · rw [phase]

theorem finished_of_present (phase : r.phase = .present id) (frame : r.handoff.frame? id = some f) :
    r.finished t k = (r.view.putOut k (r.output f)).heed r.queue := by
  have atHand : r.frameAtHand? = some f := by
    rw [frameAtHand?, phase]
    exact frame
  unfold finished
  rw [atHand, phase]

theorem finished_of_save (phase : r.phase = .save id) (frame : r.handoff.frame? id = some f) :
    r.finished t k = (r.view.save k (r.output f)).heed r.queue := by
  have atHand : r.frameAtHand? = some f := by
    rw [frameAtHand?, phase]
    exact frame
  unfold finished
  rw [atHand, phase]

theorem session_finished : (r.finished t k).session = r.handoff.plain := by
  unfold finished
  split
  · exact Rendering.session_render t k _ _
  · exact Rendering.session_render t k _ _
  · exact Rendering.session_putOut k _ _
  · exact Rendering.session_save k _ _
  · rfl

/-- Where nothing is waiting, the loop is done with the frame at hand. -/
theorem settled_of_idle (idle : r.handoff.plain.waiting = none) :
    r.settled t k = r.finished t k :=
  Rendering.renderWaiting_of_idle t k _ (by rw [session_finished, idle])

end RenderLoop

end FramePipeline
