import FramePipeline.Proofs.Handoff.PlainRuns
import FramePipeline.Proofs.Handoff.Refinement

/-!
# Reuse of buffers cannot be seen

Sessions copy frames into buffers that were used before, and callers cannot tell: every run of requests
gets the answers, and ends with the counts, of a table that makes a frame for each publication. In
particular a frame that is held reads the same for as long as it is held.

Main definitions: `HandoffTable.shown` and `PlainTable.shown` (what sessions tell and count),
`HandoffTable.Request.rebinds`. Main statement: `HandoffTable.run_eq_plain`.
-/

namespace FramePipeline

namespace PlainTable

open HandoffTable (Request Answer)

/-- What the sessions tell about themselves, and what they count. -/
def shown (p : PlainTable) : List (Session.View × HandoffStats) :=
  p.sessions.map fun s => (s.view, s.stats)

end PlainTable

namespace HandoffTable

/-- What the sessions tell about themselves, and what they count apart from reallocations. -/
def shown (e : HandoffTable) : List (Session.View × HandoffStats) :=
  e.sessions.map fun s => (s.view, s.stats.visible)

/-- The request may put another frame under the name, or none. -/
def Request.rebinds (name : String) : Request → Prop
  | tryTake _ (some other) => other = name
  | share _ second => second = name
  | release other => other = name
  | _ => False

theorem RefinementRel.shown_eq {e : HandoffTable} {p : PlainTable} {inHand : List CellId}
    (r : RefinementRel e p inHand) : e.shown = p.shown := by
  simp only [shown, PlainTable.shown, r.sessions_eq, List.map_map]
  rfl

end HandoffTable

/-! ## Frames under a name -/

namespace PlainTable

open HandoffTable (Request Answer)

variable {p p' : PlainTable} {name : String}

theorem lookup_held_keep {f : Frame} {given : Option String} (free : given ≠ some name) :
    (p.keep given f).held.lookup name = p.held.lookup name := by
  cases given with
  | none => rfl
  | some other =>
    have differ : name ≠ other := by
      rintro rfl
      exact free rfl
    exact Entries.lookup_put_of_ne differ f p.held

theorem AnswerRel.lookup_held {request : Request} {answer : Answer}
    (h : p.AnswerRel request answer p') (free : ¬ request.rebinds name) :
    p'.held.lookup name = p.held.lookup name := by
  cases h with
  | takeSome leads found taken =>
    refine lookup_held_keep (p := p.put _ _) ?_
    rintro rfl
    exact free rfl
  | shareSome found => exact lookup_held_keep fun same => free (Option.some.inj same)
  | release => exact Entries.lookup_erase_of_ne (fun same => free same.symm) p.held
  | _ => rfl

theorem lookup_held_run {requests : List Request} {answers : List Answer}
    (result : p.run requests = .ok (answers, p')) (free : ∀ r ∈ requests, ¬ r.rebinds name) :
    p'.held.lookup name = p.held.lookup name := by
  induction requests generalizing p answers with
  | nil =>
    obtain ⟨-, rfl⟩ := Prod.mk.inj (Except.ok.inj result)
    rfl
  | cons request rest ih =>
    obtain ⟨answer, p₁, answers', first, others, -⟩ := exists_of_run_cons result
    rw [ih others fun r mem => free r (List.mem_cons_of_mem _ mem),
      first.lookup_held (free request (List.mem_cons_self ..))]

end PlainTable

namespace HandoffTable

/-- **Reuse of buffers cannot be seen.** A run of requests comes to the answers, and leaves the sessions
with the counts, that it comes to when each publication makes a frame of its own. A frame that is held
under a name after a run reads the same after any further requests that leave the name alone. -/
theorem run_eq_plain :
    (∀ requests : List Request,
      (run {} requests).map (fun (answers, e) => (answers, e.shown)) =
        (PlainTable.run {} requests).map fun (answers, p) => (answers, p.shown)) ∧
    ∀ {requests later : List Request} {answers answers' : List Answer} {e e' : HandoffTable}
      {name : String} {f : Frame}, run {} requests = .ok (answers, e) → e.heldFrame? name = some f →
      e.run later = .ok (answers', e') → (∀ r ∈ later, ¬ r.rebinds name) →
      e'.step (.read name) = .ok (.frame (.ok (some f)), e') := by
  constructor
  · intro requests
    obtain ⟨failure, he, hp⟩ | ⟨answers, e, p, he, hp, r⟩ := run_refines refines_empty requests
    · rw [he, hp]
      rfl
    · rw [he, hp]
      simp only [Except.map, r.shown_eq]
  · intro requests later answers answers' e e' name f first held second free
    obtain ⟨p, -, r⟩ := (run_refines refines_empty requests).of_ok first
    obtain ⟨p', plainly, r'⟩ := (run_refines r later).of_ok second
    have reads : e'.heldFrame? name = some f := by
      rw [r'.heldFrame?_eq, PlainTable.lookup_held_run plainly free, ← r.heldFrame?_eq, held]
    simp only [step, reads]

/-- A frame is held while its session publishes often enough to come back to its buffer, which takes a
new buffer once, and while the session is stopped. -/
theorem run_eq_plain_held_frame :
    ∃ answers answers' e e',
      run {} [.start ⟨2, 1, .gray8⟩, .publish 0 [1, 1], .tryTake 0 (some "held")] = .ok (answers, e) ∧
        e.run [.publish 0 [2, 2], .publish 0 [3, 3], .stop 0] = .ok (answers', e') ∧
        e'.sessions.map (·.stats.reallocations) = [1] ∧
        e'.step (.read "held") = .ok (.frame (.ok (some ⟨⟨1, ⟨2, 1, .gray8⟩⟩, [1, 1]⟩)), e') := by
  obtain ⟨answers, e, first, held, answers', e', second, counts⟩ : ∃ answers e,
      run {} [.start ⟨2, 1, .gray8⟩, .publish 0 [1, 1], .tryTake 0 (some "held")] = .ok (answers, e) ∧
        e.heldFrame? "held" = some ⟨⟨1, ⟨2, 1, .gray8⟩⟩, [1, 1]⟩ ∧ ∃ answers' e',
          e.run [.publish 0 [2, 2], .publish 0 [3, 3], .stop 0] = .ok (answers', e') ∧
            e'.sessions.map (·.stats.reallocations) = [1] := ⟨_, _, rfl, rfl, _, _, rfl, rfl⟩
  refine ⟨answers, answers', e, e', first, second, counts, ?_⟩
  refine run_eq_plain.2 first held second ?_
  simp [Request.rebinds]

end HandoffTable

end FramePipeline
