import FramePipeline.Handoff.Plain

/-!
# What happens at a slot

The history of a session, as callers know it from what they asked and what they were answered: the
frames that were published, the frames that were taken, and the stops. Refused publications and takes
that found nothing leave no trace in it.

Main definitions: `SlotEvent`, `SlotEvent.publications`, `SlotEvent.takings`, `SlotEvent.unclaimed` (the
publications that no take came after) and `HandoffTable.slotEvents` (the history of a session of an
table).
-/

namespace FramePipeline

/-- What is in a history with one item more was in it before, or is the last one. -/
theorem split_concat {α : Type} {items before after : List α} {item last : α}
    (split : items ++ [last] = before ++ item :: after) :
    (∃ after', after = after' ++ [last] ∧ items = before ++ item :: after') ∨
      after = [] ∧ items = before ∧ last = item := by
  obtain rfl | ⟨after', last', rfl⟩ := List.eq_nil_or_concat after
  · obtain ⟨rfl, eq⟩ := List.append_inj' split rfl
    exact .inr ⟨rfl, rfl, List.head_eq_of_cons_eq eq⟩
  · rw [List.concat_eq_append] at split ⊢
    rw [← List.cons_append, ← List.append_assoc] at split
    obtain ⟨rfl, eq⟩ := List.append_inj' split rfl
    exact .inl ⟨after', by rw [eq], rfl⟩

/-- What happens at the slot of a session. -/
inductive SlotEvent where
  | published (f : Frame)
  | took (f : Frame)
  | stopped
  deriving DecidableEq, Repr

namespace SlotEvent

/-- The frame that was published. -/
def published? : SlotEvent → Option Frame
  | published f => some f
  | _ => none

/-- The frame that was taken. -/
def took? : SlotEvent → Option Frame
  | took f => some f
  | _ => none

/-- The frames that were published, in their order. -/
def publications (events : List SlotEvent) : List Frame :=
  events.filterMap published?

/-- The frames that were taken, in their order. -/
def takings (events : List SlotEvent) : List Frame :=
  events.filterMap took?

/-- The frames that were published since a frame was taken last, the latest one first. -/
def unclaimed (events : List SlotEvent) : List Frame :=
  publications (events.reverse.takeWhile (·.took?.isNone))

/-! ## One event more -/

variable (events : List SlotEvent) (f : Frame)

@[simp] theorem publications_append_published :
    publications (events ++ [.published f]) = publications events ++ [f] := by
  simp [publications, published?]

@[simp] theorem publications_append_took :
    publications (events ++ [.took f]) = publications events := by
  simp [publications, published?]

@[simp] theorem publications_append_stopped :
    publications (events ++ [.stopped]) = publications events := by
  simp [publications, published?]

theorem takings_append (others : List SlotEvent) :
    takings (events ++ others) = takings events ++ takings others :=
  List.filterMap_append

@[simp] theorem takings_append_published :
    takings (events ++ [.published f]) = takings events := by
  simp [takings, took?]

@[simp] theorem takings_append_took :
    takings (events ++ [.took f]) = takings events ++ [f] := by
  simp [takings, took?]

@[simp] theorem takings_append_stopped :
    takings (events ++ [.stopped]) = takings events := by
  simp [takings, took?]

@[simp] theorem unclaimed_append_published :
    unclaimed (events ++ [.published f]) = f :: unclaimed events := by
  simp [unclaimed, publications, took?, published?]

@[simp] theorem unclaimed_append_took : unclaimed (events ++ [.took f]) = [] := by
  simp [unclaimed, publications, took?]

@[simp] theorem unclaimed_append_stopped :
    unclaimed (events ++ [.stopped]) = unclaimed events := by
  rw [unclaimed, List.reverse_append]
  rfl

/-- Stops claim nothing. -/
theorem unclaimed_append_of_stops {rest : List SlotEvent} (stops : ∀ event ∈ rest, event = .stopped) :
    unclaimed (events ++ rest) = unclaimed events := by
  induction rest generalizing events with
  | nil => rw [List.append_nil]
  | cons event rest ih =>
    obtain rfl := stops event (List.mem_cons_self ..)
    rw [List.append_cons, ih _ fun event mem => stops event (List.mem_cons_of_mem _ mem),
      unclaimed_append_stopped]

end SlotEvent

/-! ## The history of a session -/

namespace HandoffTable

/-- What an answered request does at a slot, through which handle, in a session of the stream. -/
def Request.slotEvent? (stream : StreamFormat) : Request → Answer → Option (Nat × SlotEvent)
  | publish handle bytes, .number (.ok n) => some (handle, .published ⟨⟨n, stream⟩, bytes⟩)
  | publishPadded handle src stride, .number (.ok n) =>
    some (handle, .published ⟨⟨n, stream⟩, (stream.copyUnpadded src stride []).2⟩)
  | tryTake handle _, .frame (.ok (some f)) => some (handle, .took f)
  | stop handle, _ => some (handle, .stopped)
  | _, _ => none

/-- What an answered request does at the slot of session `i`, which is of the stream. -/
def slotEventAt? (handles : List Nat) (i : Nat) (stream : StreamFormat) (request : Request)
    (answer : Answer) : Option SlotEvent :=
  match request.slotEvent? stream answer with
  | some (handle, event) => if handles[handle]? = some i then some event else none
  | none => none

/-- What answered requests do at the slot of session `i`, which is of the stream. -/
def slotEvents (handles : List Nat) (i : Nat) (stream : StreamFormat) (requests : List Request)
    (answers : List Answer) : List SlotEvent :=
  (requests.zip answers).filterMap fun (request, answer) =>
    slotEventAt? handles i stream request answer

variable {handles : List Nat} {i : Nat} {stream : StreamFormat}

theorem slotEvents_cons (request : Request) (requests : List Request) (answer : Answer)
    (answers : List Answer) :
    slotEvents handles i stream (request :: requests) (answer :: answers) =
      (slotEventAt? handles i stream request answer).toList ++
        slotEvents handles i stream requests answers := by
  simp only [slotEvents, List.zip_cons_cons, List.filterMap_cons]
  cases slotEventAt? handles i stream request answer <;> rfl

end HandoffTable

end FramePipeline
