import FramePipeline.Proofs.Capture.Accounts

/-!
# Errors in a row

A driver gives up on its source when the last calls all failed, as many of them as its settings allow in a
row, and never otherwise. Its counter is the length of the longest row of errors that its calls end with: a
delivered frame begins a new row, whatever becomes of it, and so does a frame that the source itself refuses
for its length.

Main definitions: `ErrorRow`, `CaptureRun.deliveries` (what the calls of a script come to),
`CaptureDriver.ErrorCountInv` (the invariant). Main statement: `CaptureRun.gaveUp_iff_firstRow`.
-/

namespace FramePipeline

/-- What the calls that are asked for come to. -/
def CaptureTurn.delivery? : CaptureTurn → Option Delivery
  | call d => some d
  | _ => none

/-- The last `n` calls, one at least, all failed, the very last one with the error `e`. It is no failure that
a frame is refused for its length. -/
def ErrorRow (calls : List Delivery) (n : Nat) (e : CaptureError) : Prop :=
  ∃ earlier errors, calls = earlier ++ (errors ++ [e]).map .error ∧ errors.length + 1 = n ∧
    ∀ x ∈ errors ++ [e], ∀ expected actual, x ≠ .frame (.sizeMismatch expected actual)

section Rows

variable {calls : List Delivery} {d : Delivery} {e : CaptureError} {n : Nat}

theorem ErrorRow.pos (h : ErrorRow calls n e) : 0 < n := by
  obtain ⟨earlier, errors, -, rfl, -⟩ := h
  exact Nat.succ_pos _

theorem not_errorRow_nil : ¬ ErrorRow [] n e := by
  rintro ⟨earlier, errors, split, -⟩
  simp at split

/-- A row that is not empty ends with the last call, and its other calls end the calls before that one. -/
theorem errorRow_concat :
    ErrorRow (calls ++ [d]) (n + 1) e ↔
      d = .error e ∧ (∀ expected actual, e ≠ .frame (.sizeMismatch expected actual)) ∧
        (n = 0 ∨ ∃ before, ErrorRow calls n before) := by
  constructor
  · rintro ⟨earlier, errors, split, length, fail⟩
    rw [List.map_append, ← List.append_assoc] at split
    obtain ⟨rfl, last⟩ := List.append_inj' split rfl
    refine ⟨List.head_eq_of_cons_eq last, fail e (by simp), ?_⟩
    obtain rfl | ⟨others, before, rfl⟩ := List.eq_nil_or_concat errors
    · exact .inl (Nat.succ.inj length).symm
    · rw [List.concat_eq_append] at fail length ⊢
      refine .inr ⟨before, earlier, others, rfl, ?_, fun x mem => fail x (List.mem_append_left _ mem)⟩
      rw [List.length_append] at length
      exact Nat.succ.inj length
  · rintro ⟨rfl, fails, rfl | ⟨before, earlier, errors, rfl, rfl, fail⟩⟩
    · refine ⟨calls, [], rfl, rfl, fun x mem => ?_⟩
      rwa [List.mem_singleton.mp mem]
    · refine ⟨earlier, errors ++ [before], by simp, by simp, fun x mem => ?_⟩
      obtain mem | mem := List.mem_append.mp mem
      · exact fail x mem
      · rwa [List.mem_singleton.mp mem]

/-- A call that does not fail ends every row. -/
theorem not_errorRow_concat (sane : ∀ e, d = .error e → ∃ expected actual,
    e = .frame (.sizeMismatch expected actual)) : ¬ ErrorRow (calls ++ [d]) n e := by
  intro row
  obtain ⟨m, rfl⟩ := Nat.exists_eq_succ_of_ne_zero (Nat.ne_of_gt row.pos)
  obtain ⟨rfl, fails, -⟩ := errorRow_concat.mp row
  obtain ⟨expected, actual, eq⟩ := sane e rfl
  exact fails expected actual eq

end Rows

/-- The calls end with `n` errors in a row, and they are the first that do. -/
structure FirstRow (calls : List Delivery) (n : Nat) (e : CaptureError) : Prop where
  ends : ErrorRow calls n e
  first : ∀ earlier, earlier <+: calls → earlier ≠ calls → ∀ x, ¬ ErrorRow earlier n x

theorem FirstRow.unique {calls calls' all : List Delivery} {n : Nat} {e e' : CaptureError}
    (h : FirstRow calls n e) (h' : FirstRow calls' n e') (isPrefix : calls <+: all)
    (isPrefix' : calls' <+: all) : calls = calls' := by
  by_contra other
  obtain shorter | longer := List.prefix_or_prefix_of_prefix isPrefix isPrefix'
  · exact h'.first calls shorter other e h.ends
  · exact h.first calls' longer (Ne.symm other) e' h'.ends

/-! ## The invariant -/

namespace CaptureDriver

/-- The driver, which has given up only if the calls end with a row of `limit` errors, has counted the errors
that they end with. -/
structure ErrorCountInv (d : CaptureDriver) (limit : Nat) (calls : List Delivery) : Prop where
  limit_eq : limit = max 1 d.settings.maxConsecutiveErrors.toNat
  within : d.consecutiveErrors ≤ limit
  counted : d.ended = none → ∀ n, 0 < n → ((∃ e, ErrorRow calls n e) ↔ n ≤ d.consecutiveErrors)
  failure_iff : ∀ e, d.report.failure = some e ↔ ErrorRow calls limit e
  gaveUp_iff : d.ended = some .gaveUp ↔ d.report.failure ≠ none
  /-- There was no such row before. -/
  first : ∀ earlier, earlier <+: calls → earlier ≠ calls → ∀ e, ¬ ErrorRow earlier limit e

theorem errorCountInv_start (settings : DriverSettings) :
    ErrorCountInv { settings } (max 1 settings.maxConsecutiveErrors.toNat) [] where
  limit_eq := rfl
  within := Nat.zero_le _
  counted _ n pos := by
    constructor
    · rintro ⟨e, row⟩
      exact absurd row not_errorRow_nil
    · exact fun le => absurd le (Nat.not_le.mpr pos)
  failure_iff e := iff_of_false nofun not_errorRow_nil
  gaveUp_iff := iff_of_false nofun (fun some => some rfl)
  first earlier prefix' other := absurd (List.prefix_nil.mp prefix') other

namespace ErrorCountInv

variable {d d' : CaptureDriver} {limit : Nat} {calls : List Delivery} {delivery : Delivery}
  (h : d.ErrorCountInv limit calls)

include h

theorem failure_eq_none (other : d.ended ≠ some .gaveUp) : d.report.failure = none := by
  by_contra failed
  exact other (h.gaveUp_iff.mpr failed)

/-- No failure is lost with a report. -/
theorem failure_finalReport : d.finalReport.failure = d.report.failure := by
  unfold finalReport
  split
  · next panicked =>
    rw [h.failure_eq_none (by rw [panicked]; exact nofun)]
  · rfl

variable (going : d.ended = none)

include going

theorem failure_of_going : d.report.failure = none :=
  h.failure_eq_none (by rw [going]; exact nofun)

/-- A driver that goes on has not met a whole row of errors yet. -/
theorem not_errorRow (e : CaptureError) : ¬ ErrorRow calls limit e := by
  rw [← h.failure_iff, h.failure_of_going going]
  exact nofun

theorem first_concat : ∀ earlier, earlier <+: calls ++ [delivery] → earlier ≠ calls ++ [delivery] →
    ∀ e, ¬ ErrorRow earlier limit e := by
  intro earlier isPrefix other e row
  obtain rfl | isPrefix := List.prefix_concat_iff.mp isPrefix
  · exact other rfl
  · by_cases whole : earlier = calls
    · exact h.not_errorRow going e (whole ▸ row)
    · exact h.first earlier isPrefix whole e row

/-- After a call that does not fail the driver counts from zero, if it goes on. -/
theorem restart (sane : ∀ e, delivery = .error e → ∃ expected actual,
    e = .frame (.sizeMismatch expected actual)) (settings : d'.settings = d.settings)
    (counter : d'.consecutiveErrors = 0 ∨ d'.ended ≠ none ∧ d'.consecutiveErrors = d.consecutiveErrors)
    (ended : d'.ended ≠ some .gaveUp) (failure : d'.report.failure = d.report.failure) :
    d'.ErrorCountInv limit (calls ++ [delivery]) where
  limit_eq := by rw [settings, h.limit_eq]
  within := by
    obtain zero | ⟨-, same⟩ := counter
    · rw [zero]
      exact Nat.zero_le _
    · rw [same]
      exact h.within
  counted going' n pos := by
    obtain zero | ⟨ended', -⟩ := counter
    · rw [zero]
      refine iff_of_false ?_ (Nat.not_le.mpr pos)
      rintro ⟨e, row⟩
      exact not_errorRow_concat sane row
    · exact absurd going' ended'
  failure_iff e := by
    rw [failure, h.failure_of_going going]
    exact iff_of_false nofun (not_errorRow_concat sane)
  gaveUp_iff := by
    rw [failure, h.failure_of_going going]
    exact iff_of_false ended fun some => some rfl
  first := h.first_concat going

/-- After an error the row is one longer, and the driver gives up if it is long enough. -/
theorem fail {e : CaptureError} (other : ∀ expected actual, e ≠ .frame (.sizeMismatch expected actual)) :
    (d.countError e).ErrorCountInv limit (calls ++ [.error e]) := by
  have row (n : Nat) (x : CaptureError) : ErrorRow (calls ++ [.error e]) n x ↔
      0 < n ∧ n ≤ d.consecutiveErrors + 1 ∧ x = e := by
    cases n with
    | zero => exact iff_of_false (fun row => absurd row.pos (Nat.lt_irrefl 0)) (by simp)
    | succ n =>
      rw [errorRow_concat]
      have shorter : (n = 0 ∨ ∃ before, ErrorRow calls n before) ↔ n ≤ d.consecutiveErrors := by
        obtain rfl | pos := Nat.eq_zero_or_pos n
        · simp
        · rw [h.counted going n pos]
          simp [Nat.ne_of_gt pos]
      rw [shorter]
      constructor
      · rintro ⟨eq, -, le⟩
        exact ⟨Nat.succ_pos n, Nat.succ_le_succ le, (Delivery.error.inj eq).symm⟩
      · rintro ⟨-, le, rfl⟩
        exact ⟨rfl, other, Nat.le_of_succ_le_succ le⟩
  have below : d.consecutiveErrors < limit := by
    by_contra reached
    have pos : 0 < limit := by
      rw [h.limit_eq]
      omega
    obtain ⟨x, whole⟩ := (h.counted going limit pos).mpr (Nat.le_of_not_lt reached)
    exact h.not_errorRow going x whole
  have limit_eq := h.limit_eq
  unfold countError
  dsimp only
  split
  · next enough =>
    have reached : limit = d.consecutiveErrors + 1 := by omega
    refine ⟨limit_eq, Nat.le_of_eq reached.symm, nofun, fun x => ?_, iff_of_true rfl nofun,
      h.first_concat going⟩
    rw [row, reached]
    constructor
    · intro eq
      exact ⟨Nat.succ_pos _, Nat.le_refl _, (Option.some.inj eq).symm⟩
    · rintro ⟨-, -, rfl⟩
      rfl
  · next few =>
    have failure := h.failure_of_going going
    refine ⟨limit_eq, below, fun _ n pos => ?_, fun x => ?_, ?_, h.first_concat going⟩
    · simp [row, pos]
    · rw [row]
      refine iff_of_false ?_ (by omega)
      show d.report.failure ≠ some x
      rw [failure]
      exact nofun
    · show d.ended = some .gaveUp ↔ d.report.failure ≠ none
      exact h.gaveUp_iff

end ErrorCountInv

theorem DeliveryRel.errorCountInv {d d' : CaptureDriver} {c c' : FrameHandoff} {delivery : Delivery}
    {limit : Nat} {calls : List Delivery} (received : d.DeliveryRel c delivery d' c') (going : d.ended = none)
    (h : d.ErrorCountInv limit calls) : d'.ErrorCountInv limit (calls ++ [delivery]) := by
  have goingOn : d.ended ≠ some .gaveUp := by
    rw [going]
    exact nofun
  cases received with
  | publishes | drops => exact h.restart going nofun rfl (.inl rfl) goingOn rfl
  | ends => exact h.restart going nofun rfl (.inl rfl) nofun rfl
  | rejects expected actual =>
    refine h.restart going (fun e eq => ⟨expected, actual, ?_⟩) rfl (.inl rfl) goingOn rfl
    exact (Delivery.error.inj eq).symm
  | fails other => exact h.fail going other
  | breaks => exact h.restart going nofun rfl (.inr ⟨nofun, rfl⟩) nofun rfl

end CaptureDriver

/-! ## Runs -/

namespace CaptureRun

variable {r r' : CaptureRun} {t : CaptureTurn} {limit : Nat} {calls : List Delivery}

/-- What the calls that a driver makes in the course of a script come to. -/
def deliveries : CaptureRun → List CaptureTurn → List Delivery :=
  collect fun _ t => t.delivery?

/-- What a script has the source come to, if it is asked often enough. -/
def offers (script : List CaptureTurn) : List Delivery :=
  script.filterMap CaptureTurn.delivery?

/-- A turn that is no call of the source does not concern the driver. -/
theorem TurnRel.driver_cases (turns : r.TurnRel t r') :
    (∃ d, t = .call d ∧ r'.calls = r.calls + 1 ∧ r.driver.DeliveryRel r.handoff d r'.driver r'.handoff) ∨
      t.delivery? = none ∧ r'.calls = r.calls ∧ r'.driver = r.driver := by
  cases turns with
  | calls received => exact .inl ⟨_, rfl, rfl, received⟩
  | takes isTake =>
    refine .inr ⟨?_, rfl, rfl⟩
    cases t with
    | call => cases isTake
    | _ => rfl
  | releases isRelease =>
    refine .inr ⟨?_, rfl, rfl⟩
    cases t with
    | call => cases isRelease
    | _ => rfl
  | stops => exact .inr ⟨rfl, rfl, rfl⟩

/-- The calls are those of the script, one after the other, all of them if the driver goes on. -/
theorem deliveries_spec (sound : r.handoff.Sound r.held) (script : List CaptureTurn) :
    r.deliveries script <+: offers script ∧
      (r.perform script).calls = r.calls + (r.deliveries script).length ∧
      ((r.perform script).driver.ended = none → r.deliveries script = offers script) := by
  induction script generalizing r with
  | nil => exact ⟨List.prefix_rfl, rfl, fun _ => rfl⟩
  | cons t rest ih =>
    cases ended : r.driver.ended with
    | some cause =>
      have stopped : r.driver.ended.isSome = true := by rw [ended]; rfl
      rw [perform_of_ended stopped, deliveries, collect_of_ended _ stopped, ended]
      exact ⟨List.nil_prefix, rfl, nofun⟩
    | none =>
      obtain ⟨turns, sound'⟩ := turnRel_turn sound t
      obtain ⟨isPrefix, length, all⟩ := ih sound'
      rw [perform_cons ended, deliveries, collect_cons _ ended, offers]
      obtain ⟨d, rfl, calls, -⟩ | ⟨other, calls, -⟩ := turns.driver_cases
      · rw [List.filterMap_cons_some (show (CaptureTurn.call d).delivery? = some d from rfl)]
        refine ⟨(List.prefix_cons_inj d).mpr isPrefix, ?_, fun going => congrArg _ (all going)⟩
        rw [length, calls, List.length_append, ← Nat.add_assoc]
        rfl
      · rw [List.filterMap_cons_none other, other]
        exact ⟨isPrefix, by rw [length, calls]; rfl, all⟩

theorem errorCountInv_perform (sound : r.handoff.Sound r.held) (h : r.driver.ErrorCountInv limit calls)
    (script : List CaptureTurn) :
    (r.perform script).driver.ErrorCountInv limit (calls ++ r.deliveries script) := by
  induction script generalizing r calls with
  | nil => rwa [deliveries, collect, List.append_nil]
  | cons t rest ih =>
    cases ended : r.driver.ended with
    | some cause =>
      have stopped : r.driver.ended.isSome = true := by rw [ended]; rfl
      rwa [perform_of_ended stopped, deliveries, collect_of_ended _ stopped, List.append_nil]
    | none =>
      obtain ⟨turns, sound'⟩ := turnRel_turn sound t
      rw [perform_cons ended, deliveries, collect_cons _ ended, ← List.append_assoc]
      refine ih sound' ?_
      obtain ⟨d, rfl, -, received⟩ | ⟨other, -, same⟩ := turns.driver_cases
      · exact received.errorCountInv ended h
      · rw [other, same, Option.toList_none, List.append_nil]
        exact h

/-- Where nobody stops the session and the source does not break down, a driver ends by giving up only. -/
theorem ended_perform (sound : r.handoff.Sound r.held) (isOpen : r.handoff.session.closed = false)
    (going : r.driver.ended = none) {script : List CaptureTurn} (unstopped : .stop ∉ script)
    (sane : .call .panic ∉ script) :
    (r.perform script).driver.ended = none ∨ (r.perform script).driver.ended = some .gaveUp := by
  have ends : (r.perform script).handoff.session.closed = false ∧
      ((r.perform script).driver.ended = none ∨ (r.perform script).driver.ended = some .gaveUp) := by
    refine perform_induction (motive := fun r => r.handoff.session.closed = false ∧
      (r.driver.ended = none ∨ r.driver.ended = some .gaveUp)) sound ⟨isOpen, .inl going⟩ ?_
    rintro r t mem sound going ⟨isOpen, -⟩
    obtain ⟨turns, -⟩ := turnRel_turn sound t
    have other : t ≠ .stop := fun stop => unstopped (stop ▸ mem)
    refine ⟨by rw [turns.closed_eq, if_neg other, isOpen], ?_⟩
    obtain ⟨d, rfl, -, received⟩ | ⟨-, -, same⟩ := turns.driver_cases
    · have known : d ≠ .panic := fun panics => sane (panics ▸ mem)
      obtain ended | ⟨-, -, -, closed⟩ := received.ended_cases going known
      · exact ended
      · rw [isOpen] at closed
        cases closed
    · rw [same]
      exact .inl going
  exact ends.2

/-- The end of a script sets no failure. -/
theorem failure_finish (r : CaptureRun) (how : CaptureFinish) :
    (r.finish how).driver.finalReport.failure = r.driver.finalReport.failure := by
  have sane (d : CaptureDriver) (ended : d.ended = none ∨ d.ended = some .sessionClosed) :
      d.finalReport = d.report := by
    refine if_neg ?_
    obtain ended | ended := ended <;> rw [ended] <;> exact nofun
  have published (d : CaptureDriver) (going : d.ended = none) (result : Except HandoffError Nat) :
      (d.afterPublish result).finalReport.failure = d.report.failure := by
    unfold CaptureDriver.afterPublish
    split
    · rw [sane d.countPublished (.inl going)]
      rfl
    · rw [sane _ (.inr rfl)]
    · rw [sane d.countRejected (.inl going)]
      rfl
  unfold finish releaseAll
  dsimp only
  cases going : r.driver.ended with
  | some cause => rfl
  | none =>
    rw [sane r.driver (.inl going), if_neg (by simp)]
    cases how with
    | close => exact published { r.driver with consecutiveErrors := 0 } going _
    | idle => exact congrArg CaptureReport.failure (sane r.driver (.inl going))

/-! ## Main statement -/

/-- **A driver gives up after errors in a row.** Whatever a source comes to, and whatever others do to the
session between its calls: the driver has given up with an error if and only if its calls are the first that
end with as many errors in a row as the settings allow, one at least, and the last of them is that error;
a failure is reported then, and never otherwise. Such a row is broken by a frame that is delivered, be it
published or refused, and by a frame that the source itself refuses for its length, but by no other error. As
long as nobody stops the session and the source does not break down, the driver makes all calls until then and
none after that. Its counter fits into 32 bits. -/
theorem gaveUp_iff_firstRow {stream : StreamFormat} {c : FrameHandoff}
    (started : FrameHandoff.start stream = .ok c) (settings : DriverSettings) (script : List CaptureTurn) :
    let limit := max 1 settings.maxConsecutiveErrors.toNat
    let r : CaptureRun := { driver := { settings }, handoff := c }
    let e := r.perform script
    let calls := r.deliveries script
    (calls <+: offers script ∧ e.calls = calls.length ∧ e.driver.consecutiveErrors < UInt32.size) ∧
      (∀ how error,
        ((e.finish how).driver.finalReport.failure = some error ↔ FirstRow calls limit error) ∧
        ((e.finish how).driver.finalReport.failure ≠ none ↔ e.driver.ended = some .gaveUp)) ∧
      (.stop ∉ script → .call .panic ∉ script →
        (∀ first error, first <+: offers script → FirstRow first limit error →
          calls = first ∧ e.driver.ended = some .gaveUp ∧ e.driver.finalReport.failure = some error) ∧
        ((∀ first error, first <+: offers script → ¬ ErrorRow first limit error) →
          calls = offers script ∧ e.driver.ended = none ∧ e.driver.finalReport.failure = none)) := by
  intro limit r e calls
  obtain ⟨sound, -⟩ := FrameHandoff.start_refines started
  have sound : r.handoff.Sound r.held := sound
  obtain ⟨isOpen, -⟩ := FrameHandoff.fresh_of_start started
  obtain ⟨isPrefix, length, all⟩ := deliveries_spec sound script
  have counts : e.driver.ErrorCountInv limit calls :=
    errorCountInv_perform sound (CaptureDriver.errorCountInv_start settings) script
  have row_iff (error : CaptureError) : FirstRow calls limit error ↔
    e.driver.report.failure = some error := by
    rw [counts.failure_iff]
    exact ⟨FirstRow.ends, fun row => ⟨row, counts.first⟩⟩
  have reported : e.driver.finalReport.failure = e.driver.report.failure := counts.failure_finalReport
  refine ⟨⟨isPrefix, length.trans (Nat.zero_add _), ?counter⟩, fun how error => ?failure,
    fun unstopped sane => ?_⟩
  case counter =>
    have word : settings.maxConsecutiveErrors.toNat < UInt32.size :=
      settings.maxConsecutiveErrors.toNat_lt_size
    have within : e.driver.consecutiveErrors ≤ max 1 settings.maxConsecutiveErrors.toNat := counts.within
    have one : 1 < UInt32.size := by decide
    omega
  case failure =>
    rw [failure_finish, reported, row_iff, counts.gaveUp_iff]
    exact ⟨Iff.rfl, Iff.rfl⟩
  have outcome : e.driver.ended = none ∨ e.driver.ended = some .gaveUp :=
    ended_perform sound isOpen rfl unstopped sane
  rw [reported]
  constructor
  · intro first error there row
    have gaveUp : e.driver.ended = some .gaveUp := by
      refine outcome.resolve_left fun going => ?_
      -- All calls were made, and the row is among them.
      rw [← all going] at there
      by_cases whole : first = calls
      · exact counts.not_errorRow going error (whole ▸ row.ends)
      · exact counts.first first there whole error row.ends
    obtain ⟨error', failed⟩ := Option.ne_none_iff_exists'.mp (counts.gaveUp_iff.mp gaveUp)
    obtain rfl := ((row_iff error').mpr failed).unique row isPrefix there
    exact ⟨rfl, gaveUp, (counts.failure_iff error).mpr row.ends⟩
  · intro never
    have none_failed : e.driver.report.failure = none := by
      by_contra failed
      obtain ⟨error, failed⟩ := Option.ne_none_iff_exists'.mp failed
      exact never calls error isPrefix ((counts.failure_iff error).mp failed)
    have going : e.driver.ended = none :=
      outcome.resolve_right fun gaveUp => counts.gaveUp_iff.mp gaveUp none_failed
    exact ⟨all going, going, none_failed⟩

/-- Two errors in a row are too many: the first is followed by a frame of a wrong length and the second by a
frame that the source itself refuses; the third and the fourth, which say that a frame has no dimensions and
that a session is closed, make up the row, and the driver asks for no other frame. -/
theorem gaveUp_iff_firstRow_sixth_call :
    let script : List CaptureTurn :=
      [.call (.error (.io "unplugged")), .call (.frame [1, 2]), .call (.error .notStarted), .take,
        .call (.error (.frame (.sizeMismatch 1 0))), .call (.error (.frame (.invalidDimensions 0 0))),
        .call (.error (.frame .sessionClosed)), .call (.frame [5])]
    ∃ c, FrameHandoff.start ⟨1, 1, .gray8⟩ = .ok c ∧ .stop ∉ script ∧ .call .panic ∉ script ∧
      let r : CaptureRun := { driver := { settings := { maxConsecutiveErrors := 2 } }, handoff := c }
      let e := r.perform script
      FirstRow ((offers script).take 6) 2 (.frame .sessionClosed) ∧
        r.deliveries script = (offers script).take 6 ∧ e.calls = 6 ∧ e.driver.ended = some .gaveUp ∧
        e.driver.finalReport.failure = some (.frame .sessionClosed) := by
  intro script
  refine ⟨_, rfl, by decide, by decide, ?_⟩
  intro r e
  obtain ⟨⟨-, length, -⟩, reported, calls_until⟩ :=
    gaveUp_iff_firstRow (rfl : FrameHandoff.start ⟨1, 1, .gray8⟩ = .ok r.handoff)
      { maxConsecutiveErrors := 2 } script
  have made : r.deliveries script = (offers script).take 6 := by decide +kernel
  have row : FirstRow ((offers script).take 6) 2 (.frame .sessionClosed) := by
    rw [← made]
    exact (reported .idle (.frame .sessionClosed)).1.mp (by decide +kernel)
  obtain ⟨-, gaveUp, failed⟩ := (calls_until (by decide) (by decide)).1 _ _ (List.take_prefix 6 _) row
  exact ⟨row, made, length.trans (by rw [made]; rfl), gaveUp, failed⟩

end CaptureRun

end FramePipeline
