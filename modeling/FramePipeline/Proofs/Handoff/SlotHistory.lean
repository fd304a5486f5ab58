import FramePipeline.Proofs.Handoff.SlotEvents

/-!
# Sessions and their histories

What a session gives to a consumer, and what it counts, follows from its history: the frame that
waits is the last publication, unless a take came after it, and the counters say how many frames were
published, taken and dropped. The invariant `PlainSession.HistoryInv` says so of a session without
buffers, and every operation keeps it and adds to the history what it did.

Main definition: `PlainSession.HistoryInv`. Main statements: `PlainSession.historyInv_start`,
`PlainSession.HistoryInv.publish_any`, `PlainSession.HistoryInv.tryTake_any` and
`PlainSession.HistoryInv.stop`.
-/

namespace FramePipeline

open SlotEvent (publications takings unclaimed)

/-! ## The invariant -/

namespace PlainSession

/-- The session is what its history makes of it. -/
structure HistoryInv (s : PlainSession) (events : List SlotEvent) : Prop where
  frameLen_eq : s.stream.frameLen = .ok s.frameLen
  /-- Frames are of the session's stream, and have its length. -/
  shape : ∀ f ∈ publications events, f.metadata.stream = s.stream ∧ f.data.length = s.frameLen
  numbers : (publications events).map Frame.sequence = List.range' 1 s.sequence
  published_eq : s.stats.published = s.sequence
  taken_eq : s.stats.taken = (takings events).length
  balance : s.stats.published =
    s.stats.taken + s.stats.dropped + if unclaimed events = [] then 0 else 1
  waiting_eq : s.closed = false → s.waiting = (unclaimed events).head?
  /-- Frames are taken in the order of their publication, each at most once, and before those that
  are unclaimed. -/
  order : ∃ settled, publications events = settled ++ (unclaimed events).reverse ∧
    (takings events).Sublist settled
  closed_iff : s.closed = true ↔ .stopped ∈ events
  /-- Nothing happens after a stop but other stops. -/
  silent : ∀ before after, events = before ++ .stopped :: after → ∀ event ∈ after, event = .stopped

theorem historyInv_start {stream : StreamFormat} {s : PlainSession} (started : start stream = .ok s) :
    s.HistoryInv [] := by
  unfold start at started
  split at started
  · cases started
  · next frameLen len =>
    obtain rfl := Except.ok.inj started
    exact {
      frameLen_eq := StreamFormat.frameLen_of_bufferLen len
      shape := fun f mem => nomatch mem
      numbers := rfl
      published_eq := rfl
      taken_eq := rfl
      balance := rfl
      waiting_eq := fun _ => rfl
      order := ⟨[], rfl, List.nil_sublist _⟩
      closed_iff := by simp
      silent := by simp }

namespace HistoryInv

variable {s : PlainSession} {events : List SlotEvent} (h : s.HistoryInv events)

include h

theorem not_mem (isOpen : s.closed = false) : .stopped ∉ events := by
  intro mem
  have closed := h.closed_iff.mpr mem
  rw [isOpen] at closed
  cases closed

/-- The first unclaimed frame is the last one that was published. -/
theorem getLast?_publications {f : Frame} (first : (unclaimed events).head? = some f) :
    (publications events).getLast? = some f := by
  obtain ⟨settled, eq, -⟩ := h.order
  obtain ⟨rest, unclaimed_eq⟩ : ∃ rest, unclaimed events = f :: rest :=
    List.head?_eq_some_iff.mp first
  rw [eq, unclaimed_eq, List.reverse_cons, ← List.append_assoc, List.getLast?_concat]

theorem waiting_isSome (isOpen : s.closed = false) :
    s.waiting.isSome.toNat = if unclaimed events = [] then 0 else 1 := by
  rw [h.waiting_eq isOpen]
  cases unclaimed events <;> rfl

theorem sublist_takings : (takings events).Sublist (publications events) := by
  obtain ⟨settled, eq, sublist⟩ := h.order
  rw [eq]
  exact sublist.trans (List.sublist_append_left ..)

theorem pairwise_takings : ((takings events).map Frame.sequence).Pairwise (· < ·) := by
  have numbered : ((publications events).map Frame.sequence).Pairwise (· < ·) := by
    rw [h.numbers]
    exact List.pairwise_lt_range'
  exact numbered.sublist (h.sublist_takings.map _)

/-- The frame with number `n + 1` is the one that was published after `n` others. -/
theorem numbered {f : Frame} (mem : f ∈ publications events) :
    ∃ n, f.sequence = n + 1 ∧ (publications events)[n]? = some f := by
  obtain ⟨n, there⟩ := List.mem_iff_getElem?.mp mem
  have number : ((publications events).map Frame.sequence)[n]? = some f.sequence := by
    rw [List.getElem?_map, there]
    rfl
  rw [h.numbers] at number
  obtain ⟨bound, eq⟩ := List.getElem?_eq_some_iff.mp number
  rw [List.getElem_range'] at eq
  exact ⟨n, by omega, there⟩

/-! ## One event more -/

/-- Events that are not stops happen in open sessions only. -/
theorem stops_append {event : SlotEvent} (isOpen : s.closed = false) (other : event ≠ .stopped) :
    (s.closed = true ↔ .stopped ∈ events ++ [event]) ∧
      ∀ before after, events ++ [event] = before ++ .stopped :: after →
        ∀ event ∈ after, event = .stopped := by
  have fresh : .stopped ∉ events ++ [event] := by
    rw [List.mem_append, List.mem_singleton]
    rintro (mem | eq)
    · exact h.not_mem isOpen mem
    · exact other eq.symm
  constructor
  · rw [isOpen]
    exact iff_of_false Bool.false_ne_true fresh
  · intro before after eq
    rw [eq] at fresh
    exact absurd (List.mem_append_right _ (List.mem_cons_self ..)) fresh

theorem publish (isOpen : s.closed = false) {bytes : Bytes} (fits : bytes.length = s.frameLen) :
    (s.publish bytes).2.HistoryInv (events ++ [.published ⟨⟨s.sequence + 1, s.stream⟩, bytes⟩]) := by
  rw [PlainSession.publish_of_fits isOpen fits]
  exact {
    frameLen_eq := h.frameLen_eq
    shape := by
      intro f mem
      rw [SlotEvent.publications_append_published, List.mem_append, List.mem_singleton] at mem
      obtain mem | rfl := mem
      · exact h.shape f mem
      · exact ⟨rfl, fits⟩
    numbers := by
      rw [SlotEvent.publications_append_published, List.map_append, h.numbers, List.range'_1_concat,
        Nat.add_comm 1]
      rfl
    published_eq := congrArg (· + 1) h.published_eq
    taken_eq := by rw [SlotEvent.takings_append_published, ← h.taken_eq]
    balance := by
      have balance := h.balance
      rw [SlotEvent.unclaimed_append_published, if_neg (List.cons_ne_nil _ _)]
      show s.stats.published + 1 = s.stats.taken + (s.stats.dropped + s.waiting.isSome.toNat) + 1
      rw [h.waiting_isSome isOpen]
      omega
    waiting_eq := fun _ => by rw [SlotEvent.unclaimed_append_published, List.head?_cons]
    order := by
      obtain ⟨settled, eq, sublist⟩ := h.order
      refine ⟨settled, ?_, by rwa [SlotEvent.takings_append_published]⟩
      rw [SlotEvent.publications_append_published, SlotEvent.unclaimed_append_published, eq,
        List.reverse_cons, List.append_assoc]
    closed_iff := (h.stops_append isOpen (by simp)).1
    silent := (h.stops_append isOpen (by simp)).2 }

theorem tryTake (isOpen : s.closed = false) {f : Frame} (waiting : s.waiting = some f) :
    HistoryInv { s with waiting := none, stats.taken := s.stats.taken + 1 } (events ++ [.took f]) := by
  have front : (unclaimed events).head? = some f := (h.waiting_eq isOpen).symm.trans waiting
  obtain ⟨rest, unclaimed_eq⟩ : ∃ rest, unclaimed events = f :: rest :=
    List.head?_eq_some_iff.mp front
  exact {
    frameLen_eq := h.frameLen_eq
    shape := by rw [SlotEvent.publications_append_took]; exact h.shape
    numbers := by rw [SlotEvent.publications_append_took]; exact h.numbers
    published_eq := h.published_eq
    taken_eq := by
      rw [SlotEvent.takings_append_took, List.length_append, ← h.taken_eq, List.length_singleton]
    balance := by
      have balance := h.balance
      rw [unclaimed_eq, if_neg (List.cons_ne_nil _ _)] at balance
      rw [SlotEvent.unclaimed_append_took, if_pos rfl]
      show s.stats.published = s.stats.taken + 1 + s.stats.dropped + 0
      omega
    waiting_eq := fun _ => by rw [SlotEvent.unclaimed_append_took, List.head?_nil]
    order := by
      -- What was published so far is settled now, and the taken frame is the last of it.
      obtain ⟨settled, eq, sublist⟩ := h.order
      refine ⟨publications events, by simp, ?_⟩
      rw [SlotEvent.takings_append_took, eq, unclaimed_eq, List.reverse_cons, ← List.append_assoc]
      exact (sublist.trans (List.sublist_append_left ..)).append (List.Sublist.refl _)
    closed_iff := (h.stops_append isOpen (by simp)).1
    silent := (h.stops_append isOpen (by simp)).2 }

theorem stop : s.stop.HistoryInv (events ++ [.stopped]) where
  frameLen_eq := h.frameLen_eq
  shape := by rw [SlotEvent.publications_append_stopped]; exact h.shape
  numbers := by rw [SlotEvent.publications_append_stopped]; exact h.numbers
  published_eq := h.published_eq
  taken_eq := by rw [SlotEvent.takings_append_stopped]; exact h.taken_eq
  balance := by rw [SlotEvent.unclaimed_append_stopped]; exact h.balance
  waiting_eq := fun isOpen => nomatch isOpen
  order := by
    obtain ⟨settled, eq, sublist⟩ := h.order
    refine ⟨settled, ?_, by rwa [SlotEvent.takings_append_stopped]⟩
    rw [SlotEvent.publications_append_stopped, SlotEvent.unclaimed_append_stopped, eq]
  closed_iff := by simp [PlainSession.stop]
  silent := by
    intro before after split
    obtain ⟨rest, rfl, earlier⟩ | ⟨rfl, -, -⟩ := split_concat split
    · intro event mem
      obtain mem | mem := List.mem_append.mp mem
      · exact h.silent before rest earlier event mem
      · exact List.mem_singleton.mp mem
    · exact nofun

/-- A refused publication counts a mismatch at most. -/
theorem mismatch (n : Nat) : HistoryInv { s with stats.sizeMismatches := n } events where
  frameLen_eq := h.frameLen_eq
  shape := h.shape
  numbers := h.numbers
  published_eq := h.published_eq
  taken_eq := h.taken_eq
  balance := h.balance
  waiting_eq := h.waiting_eq
  order := h.order
  closed_iff := h.closed_iff
  silent := h.silent

/-! ## Operations -/

/-- A publication adds to the history if it is not refused. -/
theorem publish_any (bytes : Bytes) :
    (s.publish bytes).2.HistoryInv (events ++
      ((s.publish bytes).1.toOption.map fun n => .published ⟨⟨n, s.stream⟩, bytes⟩).toList) := by
  cases closed : s.closed with
  | true =>
    rw [PlainSession.publish_of_closed closed]
    show s.HistoryInv (events ++ [])
    rwa [List.append_nil]
  | false =>
    by_cases fits : bytes.length = s.frameLen
    · have follows := h.publish closed fits
      rw [PlainSession.publish_of_fits closed fits] at follows ⊢
      exact follows
    · rw [PlainSession.publish_of_mismatch closed fits]
      show HistoryInv _ (events ++ [])
      rw [List.append_nil]
      exact h.mismatch (s.stats.sizeMismatches + 1)

theorem publishPadded_any (src : Bytes) (stride : Nat) :
    (PlainTable.publishPadded src stride s).2.HistoryInv (events ++
      ((PlainTable.publishPadded src stride s).1.toOption.map fun n =>
        .published ⟨⟨n, s.stream⟩, (s.stream.copyUnpadded src stride []).2⟩).toList) := by
  unfold PlainTable.publishPadded
  cases s.stream.copyUnpadded src stride [] with
  | mk result bytes =>
    cases result with
    | error e =>
      show s.HistoryInv (events ++ [])
      rwa [List.append_nil]
    | ok _ => exact h.publish_any bytes

theorem tryTake_any :
    s.tryTake.2.HistoryInv (events ++ (s.tryTake.1.toOption.join.map .took).toList) := by
  cases closed : s.closed with
  | true => simpa [PlainSession.tryTake_of_closed closed, Except.toOption] using h
  | false =>
    cases waiting : s.waiting with
    | none => simpa [PlainSession.tryTake_of_none closed waiting, Except.toOption] using h
    | some f =>
      simpa [PlainSession.tryTake_of_some closed waiting, Except.toOption] using h.tryTake closed waiting

end HistoryInv

end PlainSession

end FramePipeline
