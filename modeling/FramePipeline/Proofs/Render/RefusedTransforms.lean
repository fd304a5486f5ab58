import FramePipeline.Proofs.Render.Outputs

/-!
# What refused calls of the transform leave behind

A call of the transform that fails, or that writes another number of bytes than it was given, is counted, and
what it wrote stays in the buffer until the next call. Nothing else comes of it: two loops whose transforms
differ only in what such calls write do the same from beginning to end.

Main definitions: `FrameTransform.EqButRefused`, `RenderTrace.Alike`, `RenderLoop.Alike` (the relation between
two runs). Main statements: `RenderLoop.Alike.run`, `RenderLoop.outputs_eq_latest_apply`.
-/

namespace FramePipeline

/-! ## Transforms and traces -/

/-- The loop makes nothing of what the transform came to: the call failed, or what it wrote has another
length. -/
def Applied.isRefused (length : Nat) : Applied → Bool
  | done out => out.length != length
  | failed .. => true
  | panicked => false

/-- The two are the same, or both are refused. -/
inductive Applied.Alike (length : Nat) : Applied → Applied → Prop
  | same (result : Applied) : Alike length result result
  | refused {result result' : Applied} (first : result.isRefused length = true)
      (second : result'.isRefused length = true) : Alike length result result'

theorem Applied.Alike.cases {length : Nat} {result result' : Applied} (h : result.Alike length result') :
    result.isRefused length = true ∧ result'.isRefused length = true ∨
      result' = result ∧ result.isRefused length = false := by
  cases h with
  | refused first second => exact .inl ⟨first, second⟩
  | same =>
    cases refused : result.isRefused length with
    | true => exact .inl ⟨rfl, rfl⟩
    | false => exact .inr ⟨rfl, rfl⟩

/-- Two transforms keep the same state, and come to the same but for what they write in calls that are
refused. -/
def FrameTransform.EqButRefused {σ : Type} (t t' : FrameTransform σ) : Prop :=
  ∀ f modes s, (t.apply f modes [] s).1.Alike f.data.length (t'.apply f modes [] s).1 ∧
    (t'.apply f modes [] s).2 = (t.apply f modes [] s).2

/-- The two events are the same, apart from what a refused call came to. -/
inductive RenderEvent.Alike : RenderEvent → RenderEvent → Prop
  | applied {f : Frame} {modes : CartoonModes} {buffer : Bytes} {result result' : Applied}
      (results : result.Alike f.data.length result') :
      Alike (.applied f modes buffer result) (.applied f modes buffer result')
  | presented (output : Frame) (ok : Bool) : Alike (.presented output ok) (.presented output ok)
  | saved (output : Frame) (ok : Bool) : Alike (.saved output ok) (.saved output ok)

/-- So it is event by event. -/
inductive RenderTrace.Alike : List RenderEvent → List RenderEvent → Prop
  | nil : Alike [] []
  | concat {trace trace' : List RenderEvent} {event event' : RenderEvent} (traces : Alike trace trace')
      (events : event.Alike event') : Alike (trace ++ [event]) (trace' ++ [event'])

/-- What the sink was given, and whether it took it. -/
def RenderTrace.given (trace : List RenderEvent) : List RenderEvent :=
  trace.filter fun event => event.output?.isSome

theorem RenderTrace.Alike.given_eq {trace trace' : List RenderEvent} (h : Alike trace trace') :
    given trace' = given trace := by
  induction h with
  | nil => rfl
  | concat _ events ih =>
    unfold given at ih ⊢
    rw [List.filter_append, List.filter_append, ih]
    cases events <;> rfl

/-- The output for the frame at hand is in the buffer. -/
def RenderPhase.hasOutput : RenderPhase → Bool
  | present _ | save _ => true
  | _ => false

namespace RenderLoop

variable {σ ρ : Type} {t t' : FrameTransform σ} {k : FrameSink ρ} {r r' : RenderLoop σ ρ} {id : CellId}
    {f : Frame}
  {buffer : Bytes} {trace : List RenderEvent}

/-- The two loops are the same, apart from what refused calls wrote. -/
structure Alike (r r' : RenderLoop σ ρ) : Prop where
  rest : r' = { r with scratch := r'.scratch, trace := r'.trace }
  scratch : r.phase.hasOutput = true → r'.scratch = r.scratch
  trace : RenderTrace.Alike r.trace r'.trace

theorem alike_start (c : FrameHandoff) (settings : RenderSettings) (transform : σ) (sink : ρ) :
    (start c settings transform sink).Alike (start c settings transform sink) :=
  ⟨rfl, fun _ => rfl, .nil⟩

theorem Alike.finalReport_eq (h : r.Alike r') : r'.finalReport = r.finalReport := by
  rw [h.rest]
  rfl

/-! ## Parts of a round -/

theorem alike_goTo (r : RenderLoop σ ρ) (next : RenderPhase) (traces : RenderTrace.Alike r.trace trace)
    (kept : next.hasOutput = true → buffer = r.scratch) :
    (r.goTo next).Alike ({ r with scratch := buffer, trace }.goTo next) := by
  unfold goTo
  dsimp only
  split
  · exact ⟨rfl, kept, traces⟩
  · exact ⟨rfl, kept, traces⟩

/-- Without an output at hand the buffers do not matter. -/
theorem alike_goTo_blank (r : RenderLoop σ ρ) (next : RenderPhase)
    (traces : RenderTrace.Alike r.trace trace) (blank : next.hasOutput = false) :
    (r.goTo next).Alike ({ r with scratch := buffer, trace }.goTo next) := by
  refine alike_goTo r next traces fun has => ?_
  rw [blank] at has
  cases has

theorem alike_drainCommands (traces : RenderTrace.Alike r.trace trace) (next : RenderPhase)
    (noOutput : r.phase.hasOutput = false) (noOutput' : next.hasOutput = false) :
    (r.drainCommands next).Alike ({ r with scratch := buffer, trace }.drainCommands next) := by
  unfold drainCommands
  dsimp only
  split
  · exact alike_goTo_blank r next traces noOutput'
  · exact ⟨rfl, by simp [noOutput], traces⟩
  · next queue _ => exact alike_goTo_blank { r with queue } (.ended .shutdown) traces rfl

theorem alike_checkFrozenUntil (traces : RenderTrace.Alike r.trace trace) (now : Duration) :
    (r.checkFrozenUntil now).Alike ({ r with scratch := buffer, trace }.checkFrozenUntil now) := by
  unfold checkFrozenUntil
  dsimp only
  split
  · exact alike_goTo_blank r .take traces rfl
  · split
    · exact alike_goTo_blank r .drain traces rfl
    · exact alike_goTo_blank { r with frozenUntil := none } .take traces rfl

theorem alike_takeFrame (traces : RenderTrace.Alike r.trace trace) :
    r.takeFrame.Alike ({ r with scratch := buffer, trace } : RenderLoop σ ρ).takeFrame := by
  unfold takeFrame
  dsimp only
  split
  · next id handoff _ => exact alike_goTo_blank { r with handoff } (.drainWith id) traces rfl
  · next handoff _ => exact alike_goTo_blank { r with handoff } .drain traces rfl
  · next handoff _ => exact alike_goTo_blank { r with handoff } (.ended .sessionClosed) traces rfl

/-- A refused call is counted, whatever it wrote. -/
theorem applyTransform_of_refused {result : Applied} {transform : σ}
    (applied : t.apply f r.modes [] r.transform = (result, transform))
    (refused : result.isRefused f.data.length = true) (id : CellId) :
    ∃ out, r.applyTransform t id f =
      ({ r with scratch := out, transform }.note (.applied f r.modes [] result)).countFailure.goTo
        .drain := by
  simp only [applyTransform, applied]
  cases result with
  | panicked => cases refused
  | failed e out => exact ⟨out, rfl⟩
  | done out =>
    have differs : out.length ≠ f.data.length := by simpa [Applied.isRefused] using refused
    exact ⟨out, if_neg differs⟩

theorem alike_applyTransform (differs : t.EqButRefused t') (traces : RenderTrace.Alike r.trace trace) :
    (r.applyTransform t id f).Alike ({ r with scratch := buffer, trace }.applyTransform t' id f) := by
  obtain ⟨results, states⟩ := differs f r.modes r.transform
  obtain ⟨⟨result, transform⟩, applied⟩ : ∃ p, t.apply f r.modes [] r.transform = p := ⟨_, rfl⟩
  obtain ⟨⟨result', transform'⟩, applied'⟩ : ∃ p, t'.apply f r.modes [] r.transform = p := ⟨_, rfl⟩
  rw [applied, applied'] at results states
  obtain rfl : transform' = transform := states
  have traces' : RenderTrace.Alike (r.trace ++ [.applied f r.modes [] result])
      (trace ++ [.applied f r.modes [] result']) := traces.concat (.applied results)
  obtain ⟨first, second⟩ | ⟨rfl, accepted⟩ := results.cases
  · obtain ⟨out, eq⟩ := applyTransform_of_refused applied first id
    obtain ⟨out', eq'⟩ :=
      applyTransform_of_refused (r := { r with scratch := buffer, trace }) applied' second id
    rw [eq, eq']
    exact alike_goTo_blank ({ r with scratch := out, transform := transform' }.note
      (.applied f r.modes [] result)).countFailure .drain traces' rfl
  · cases result' with
    | failed => cases accepted
    | panicked =>
      simp only [applyTransform, applied, applied']
      exact alike_goTo_blank ({ r with scratch := [], transform := transform' }.note
        (.applied f r.modes [] .panicked)) (.ended .panicked) traces' rfl
    | done out =>
      have fits : out.length = f.data.length := by simpa [Applied.isRefused] using accepted
      simp only [applyTransform, applied, applied', if_pos fits]
      exact alike_goTo ({ r with scratch := out, transform := transform' }.note
        (.applied f r.modes [] (.done out))) (.present id) traces' fun _ => rfl

theorem alike_presentOutput (traces : RenderTrace.Alike r.trace trace) (latency : Duration)
    (output : Frame) :
    (r.presentOutput k latency id output).Alike ({ r with trace }.presentOutput k latency id output) := by
  have traces' := fun ok => traces.concat (.presented output ok)
  unfold presentOutput
  dsimp only
  split
  · next sink _ =>
    exact alike_goTo ({ r with sink }.countFailure.note (.presented output false)) (.save id)
      (traces' false) fun _ => rfl
  · next sink _ =>
    exact alike_goTo ({ r with
      sink
      counts.framesRendered := r.counts.framesRendered + 1
      window := r.window.record latency
      handoff.metrics := (r.handoff.metrics.count .renderFrames).count .latencies }.note
        (.presented output true)) (.save id) (traces' true) fun _ => rfl

theorem alike_freezeOutput (traces : RenderTrace.Alike r.trace trace) (now : Duration) :
    (r.freezeOutput now).Alike ({ r with trace }.freezeOutput now) := by
  unfold freezeOutput
  dsimp only
  split
  · exact alike_goTo_blank r .drain traces rfl
  · split
    · next thaw _ => exact alike_goTo_blank { r with frozenUntil := some thaw } .drain traces rfl
    · next o _ => exact alike_goTo_blank r (.ended (.overloaded o)) traces rfl

theorem alike_saveOutput (traces : RenderTrace.Alike r.trace trace) (now : Duration) (output : Frame) :
    (r.saveOutput k now output).Alike ({ r with trace }.saveOutput k now output) := by
  have traces' := fun ok => traces.concat (.saved output ok)
  unfold saveOutput
  dsimp only
  split
  · split
    · next sink _ =>
      exact alike_goTo_blank ({ r with
        sink, pendingSave := false, counts.errors := r.counts.errors + 1 }.note (.saved output false))
        .drain (traces' false) rfl
    · next sink _ =>
      exact alike_freezeOutput (r := { r with
        sink, pendingSave := false, counts.snapshots := r.counts.snapshots + 1 }.note (.saved output true))
        (traces' true) now
  · exact alike_goTo_blank r .drain traces rfl

/-! ## Runs -/

theorem Alike.step (h : r.Alike r') (differs : t.EqButRefused t') (k : FrameSink ρ) (clock : Reading) :
    (r.step t k clock).Alike (r'.step t' k clock) := by
  obtain ⟨rest, kept, traces⟩ := h
  generalize r'.scratch = buffer at rest kept
  generalize r'.trace = trace at rest traces
  subst rest
  unfold step
  dsimp only
  split
  · next phase => exact alike_drainCommands traces .thaw (by rw [phase]; rfl) rfl
  · exact alike_checkFrozenUntil traces clock.now
  · exact alike_takeFrame traces
  · next id phase => exact alike_drainCommands traces (.apply id) (by rw [phase]; rfl) rfl
  · split
    · exact alike_applyTransform differs traces
    · exact alike_goTo_blank r .drain traces rfl
  · next id phase =>
    obtain rfl : buffer = r.scratch := kept (by rw [phase]; rfl)
    split
    · exact alike_presentOutput traces ..
    · exact alike_goTo_blank r .drain traces rfl
  · next id phase =>
    obtain rfl : buffer = r.scratch := kept (by rw [phase]; rfl)
    split
    · exact alike_saveOutput traces ..
    · exact alike_goTo_blank r .drain traces rfl
  · exact ⟨rfl, kept, traces⟩

/-- What others do is done to both. -/
theorem Alike.act (h : r.Alike r') (differs : t.EqButRefused t') (k : FrameSink ρ) (action : RenderAction) :
    (r.act t k action).Alike (r'.act t' k action) := by
  cases action with
  | step clock => exact h.step differs k clock
  | send | setModes | publish | close =>
    obtain ⟨rest, kept, traces⟩ := h
    generalize r'.scratch = buffer at rest kept
    generalize r'.trace = trace at rest traces
    subst rest
    exact ⟨rfl, kept, traces⟩

theorem Alike.run (h : r.Alike r') (differs : t.EqButRefused t') (k : FrameSink ρ)
    (schedule : List RenderAction) : (r.run t k schedule).Alike (r'.run t' k schedule) := by
  induction schedule generalizing r r' with
  | nil => exact h
  | cons action rest ih => exact ih (h.act differs k action)

/-! ## Main statement -/

/-- **Outputs of a render loop**, for any transform and any sink, whatever others do between the steps. The
transform is always given an empty buffer. What the sink is given has the length of the session's frames and
is what the latest call of the transform wrote, with the number and the stream of the frame that this call
was for. A frame of which the transform made no output of that length is not given to the sink. What refused
calls write makes no difference: with a transform that differs in no more, everything but their results is
the same. -/
theorem outputs_eq_latest_apply {stream : StreamFormat} {c : FrameHandoff}
    (started : FrameHandoff.start stream = .ok c)
    (settings : RenderSettings) (t : FrameTransform σ) (k : FrameSink ρ) (transform : σ) (sink : ρ)
    (schedule : List RenderAction) {r : RenderLoop σ ρ}
    (ran : (start c settings transform sink).run t k schedule = r) :
    (∀ f modes buffer result, .applied f modes buffer result ∈ r.trace → buffer = []) ∧
    (∀ before event after output, r.trace = before ++ event :: after → event.output? = some output →
      output.data.length = c.session.frameLen ∧
        ∃ f, f.metadata = output.metadata ∧ RenderTrace.LatestIs before f output.data) ∧
    (∀ f modes buffer result event output, .applied f modes buffer result ∈ r.trace →
      (∀ out, result = .done out → out.length ≠ c.session.frameLen) → event ∈ r.trace →
      event.output? = some output → output.sequence ≠ f.sequence) ∧
    ∀ (t' : FrameTransform σ) (r' : RenderLoop σ ρ), t.EqButRefused t' →
      (start c settings transform sink).run t' k schedule = r' →
      r.Alike r' ∧ RenderTrace.given r'.trace = RenderTrace.given r.trace ∧
        r'.finalReport = r.finalReport := by
  subst ran
  have fresh := fresh_run started settings t k transform sink schedule
  obtain ⟨events, lost, history⟩ := (historyInv_start started settings transform sink).run t k schedule
  refine ⟨?_, ?_, ?_, ?_⟩
  · intro f modes buffer result mem
    obtain ⟨before, after, split⟩ := List.append_of_mem mem
    exact (fresh.trace before _ after split).1
  · intro before event after output split given
    have isFresh := fresh.trace before event after split
    cases event with
    | applied => cases given
    | presented | saved =>
      obtain rfl := Option.some.inj given
      exact isFresh
  · intro f modes buffer result event output mem refused given output_eq
    exact history.output_ne_of_refused fresh mem refused given output_eq
  · rintro t' r' differs rfl
    have alike := (alike_start c settings transform sink).run differs k schedule
    exact ⟨alike, alike.trace.given_eq, alike.finalReport_eq⟩

/-- Two transforms write differently at the first two frames, where both fail or are refused. Nothing of that
is left when the third frame is shown and saved. -/
theorem outputs_eq_latest_apply_refused :
    let t : FrameTransform Unit := FrameTransform.passthrough.withMishaps [(1, .failsLate), (2, .writesMore)]
    let t' : FrameTransform Unit := FrameTransform.passthrough.withMishaps [(1, .fails), (2, .failsLate)]
    let schedule : List RenderAction :=
      .publish [7] :: List.replicate 5 (.step ⟨⟨0⟩, ⟨0⟩⟩) ++
        .publish [8] :: List.replicate 5 (.step ⟨⟨0⟩, ⟨0⟩⟩) ++
        .send .snapshot :: .publish [9] :: List.replicate 8 (.step ⟨⟨0⟩, ⟨0⟩⟩)
    let input : Frame := ⟨⟨2, ⟨1, 1, .gray8⟩⟩, [8]⟩
    let output : Frame := ⟨⟨3, ⟨1, 1, .gray8⟩⟩, [9]⟩
    ∃ c, FrameHandoff.start ⟨1, 1, .gray8⟩ = .ok c ∧
      ∃ r r' : RenderLoop Unit Recorded,
        (start c {} () {}).run t .memorySink schedule = r ∧
          (start c {} () {}).run t' .memorySink schedule = r' ∧
        r.trace[1]? = some (.applied input {} [] (.done [8, 0])) ∧
        r'.trace[1]? = some (.applied input {} [] (.failed (.transform "scripted") [0])) ∧
        RenderTrace.given r.trace = [.presented output true, .saved output true] ∧
        r.Alike r' ∧ RenderTrace.given r'.trace = RenderTrace.given r.trace ∧
        r'.finalReport = r.finalReport := by
  intro t t' schedule input output
  have differs : t.EqButRefused t' := by
    rintro ⟨⟨n, stream⟩, data⟩ modes s
    match n with
    | 1 => exact ⟨.refused rfl rfl, rfl⟩
    | 2 =>
      have longer : (data ++ [0]).length ≠ data.length := by simp
      exact ⟨.refused (bne_iff_ne.mpr longer) rfl, rfl⟩
    | 0 | _ + 3 => exact ⟨.same _, rfl⟩
  obtain ⟨c, started, r, ran, first, given, r', ran', second⟩ :
      ∃ c, FrameHandoff.start ⟨1, 1, .gray8⟩ = .ok c ∧
        ∃ r : RenderLoop Unit Recorded, (start c {} () {}).run t .memorySink schedule = r ∧
        r.trace[1]? = some (.applied input {} [] (.done [8, 0])) ∧
        RenderTrace.given r.trace = [.presented output true, .saved output true] ∧
        ∃ r' : RenderLoop Unit Recorded, (start c {} () {}).run t' .memorySink schedule = r' ∧
        r'.trace[1]? = some (.applied input {} [] (.failed (.transform "scripted") [0])) :=
    ⟨_, rfl, _, rfl, by decide +kernel, by decide +kernel, _, rfl, by decide +kernel⟩
  obtain ⟨-, -, -, law⟩ := outputs_eq_latest_apply started {} t .memorySink () {} schedule ran
  exact ⟨c, started, r, r', ran, ran', first, second, given, law t' r' differs ran'⟩

end RenderLoop

end FramePipeline
