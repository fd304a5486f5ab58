import FramePipeline.Proofs.Capture.TestPatternFrames
import FramePipeline.Proofs.Handoff.SessionChanges

/-!
# Memory of frames

The length of a frame is refused where it is no word, but a block of memory is at most half as large. So there
are frames that have a length and no buffer: who asks for a session or a test frame of such a stream is not
refused, but breaks down. Every format has such streams. Of all others it is settled before any memory is
asked for whether there is any, and a session that was once opened always finds room for one more frame.

Main definition: `StreamFormat.IsOversized`. Main statements: `StreamFormat.size_cases`,
`HandoffTable.fits_of_run`, `StreamFormat.frameLen_cases`.
-/

namespace FramePipeline

/-! ## Sizes -/

namespace StreamFormat

variable {s : StreamFormat} {pool : Pool}

/-- A frame of the stream has a length, but no block of memory is as long. -/
structure IsOversized (s : StreamFormat) : Prop where
  wide : s.width ≠ 0
  high : s.height ≠ 0
  larger : Memory.largestBlock < s.size
  word : s.size < UInt64.size

/-- A stream is without frames, or its frames fit into memory, or it is oversized. -/
theorem size_cases (s : StreamFormat) :
    (s.width = 0 ∨ s.height = 0 ∨ UInt64.size ≤ s.size) ∨
      ((s.width ≠ 0 ∧ s.height ≠ 0) ∧ s.size ≤ Memory.largestBlock) ∨ s.IsOversized := by
  by_cases wide : s.width = 0
  · exact .inl (.inl wide)
  · by_cases high : s.height = 0
    · exact .inl (.inr (.inl high))
    · rcases Nat.lt_or_ge s.size UInt64.size with word | beyond
      · rcases Nat.lt_or_ge Memory.largestBlock s.size with larger | fits
        · exact .inr (.inr ⟨wide, high, larger, word⟩)
        · exact .inr (.inl ⟨⟨wide, high⟩, fits⟩)
      · exact .inl (.inr (.inr beyond))

/-- Every format has oversized streams. -/
theorem exists_isOversized (format : PixelFormat) :
    ∃ width height, (StreamFormat.mk width height format).IsOversized := by
  cases format with
  | rgba8 => exact ⟨0x80000000, 0x40000000, by decide, by decide, by decide, by decide⟩
  | rgb24 | bgr24 => exact ⟨0x80000000, 0x80000000, by decide, by decide, by decide, by decide⟩
  | yuyv4 => exact ⟨0x80000000, 0x80000000, by decide, by decide, by decide, by decide⟩
  | gray8 => exact ⟨0xFFFFFFFF, 0xFFFFFFFF, by decide, by decide, by decide, by decide⟩
  | nv21 | nv12 =>
    refine ⟨0x80000000, 0xFFFFFFFF, by decide, by decide, ?_, ?_⟩ <;>
      rw [size, PixelFormat.size_of_semiPlanar rfl] <;> decide

/-! ## Lengths -/

theorem frameLen_of_refused (refused : s.width = 0 ∨ s.height = 0 ∨ UInt64.size ≤ s.size) :
    s.frameLen = .error (.invalidDimensions s.width s.height) := by
  refine frameLen_eq_error_iff.mpr ⟨?_, rfl⟩
  rcases refused with empty | empty | beyond
  · exact .inl empty
  · exact .inr (.inl empty)
  · refine .inr (.inr ?_)
    have wide : ¬ s.size < Word.limit := Nat.not_lt.mpr beyond
    rw [PixelFormat.frameLen?_eq]
    exact if_neg wide

theorem frameLen_of_word (wide : s.width ≠ 0) (high : s.height ≠ 0) (word : s.size < UInt64.size) :
    s.frameLen = .ok s.size :=
  frameLen_eq_ok_iff.mpr ⟨wide, high, frameLen?_eq_some_iff.mpr ⟨word, rfl⟩⟩

theorem IsOversized.frameLen_eq (h : s.IsOversized) : s.frameLen = .ok s.size :=
  frameLen_of_word h.wide h.high h.word

/-- What fits into memory is a word. -/
theorem frameLen_of_fits (wide : s.width ≠ 0) (high : s.height ≠ 0) (fits : s.size ≤ Memory.largestBlock) :
    s.frameLen = .ok s.size :=
  frameLen_of_word wide high (Nat.lt_of_le_of_lt fits (by decide))

/-! ## Buffers -/

theorem bufferLen_of_refused (refused : s.width = 0 ∨ s.height = 0 ∨ UInt64.size ≤ s.size) :
    s.bufferLen = .error (.refused (.invalidDimensions s.width s.height)) := by
  rw [bufferLen, frameLen_of_refused refused]

theorem bufferLen_of_fits (wide : s.width ≠ 0) (high : s.height ≠ 0) (fits : s.size ≤ Memory.largestBlock) :
    s.bufferLen = .ok s.size := by
  have room : Memory.reserve s.size 1 = .ok () := Memory.reserve_eq_ok_iff.mpr (by omega)
  simp only [bufferLen, frameLen_of_fits wide high fits, room]

theorem IsOversized.reserve_eq (h : s.IsOversized) : Memory.reserve s.size 1 = .error (.block s.size) := by
  have larger := h.larger
  rw [Memory.reserve, Nat.mul_one, if_neg (by omega)]

theorem IsOversized.bufferLen_eq (h : s.IsOversized) : s.bufferLen = .error (.overload (.block s.size)) := by
  simp only [bufferLen, h.frameLen_eq, h.reserve_eq]

/-- A buffer is a block of memory. -/
theorem size_le_of_bufferLen {n : Nat} (len : s.bufferLen = .ok n) :
    n = s.size ∧ s.size ≤ Memory.largestBlock := by
  rcases s.size_cases with refused | ⟨⟨wide, high⟩, fits⟩ | oversized
  · rw [bufferLen_of_refused refused] at len
    cases len
  · rw [bufferLen_of_fits wide high fits] at len
    exact ⟨(Except.ok.inj len).symm, fits⟩
  · rw [oversized.bufferLen_eq] at len
    cases len

end StreamFormat

/-! ## Sessions and test patterns -/

namespace Session

variable {stream : StreamFormat} {pool pool' : Pool} {session : Session}

theorem start_of_error {e : StartError} (failed : stream.bufferLen = .error e) (pool : Pool) :
    start stream pool = .error e := by
  simp only [start, failed]

theorem start_of_ok {n : Nat} (len : stream.bufferLen = .ok n) (pool : Pool) :
    ∃ session pool', start stream pool = .ok (session, pool') ∧ session.stream = stream ∧
      session.frameLen = n := by
  simp only [start, len]
  exact ⟨_, _, rfl, rfl, rfl⟩

theorem bufferLen_of_start (started : start stream pool = .ok (session, pool')) :
    session.stream = stream ∧ stream.bufferLen = .ok session.frameLen := by
  cases len : stream.bufferLen with
  | error e =>
    rw [start_of_error len] at started
    cases started
  | ok n =>
    obtain ⟨_, _, eq, rfl, rfl⟩ := start_of_ok len pool
    rw [eq] at started
    obtain ⟨rfl, rfl⟩ := Prod.mk.inj (Except.ok.inj started)
    exact ⟨rfl, rfl⟩

end Session

namespace TestPattern

variable {stream : StreamFormat}

theorem start_of_error {e : HandoffError} (failed : stream.frameLen = .error e) :
    start stream = .error e := by
  simp only [start, failed]

theorem start_of_ok {n : Nat} (len : stream.frameLen = .ok n) : start stream = .ok ⟨stream, n, 0⟩ := by
  simp only [start, len]

/-- A test frame of a stream that fits has all its bytes. -/
theorem exists_nextFrame {g : TestPattern} (len : g.stream.frameLen = .ok g.frameLen)
    (fits : g.frameLen ≤ Memory.largestBlock) (buf : Bytes) :
    ∃ frame g', g.nextFrame buf = .ok (frame, g') ∧ frame.length = g.frameLen := by
  have shows := (isTestFrame_frame len g.produced).length
  rw [len] at shows
  exact ⟨_, _, nextFrame_eq fits buf, (Except.ok.inj shows).symm⟩

end TestPattern

/-! ## Sessions that were opened -/

namespace HandoffTable

variable {e e' : HandoffTable} {request : Request} {requests : List Request} {answers : List Answer}
    {handle : Nat}

/-- No operation changes the stream of a session. -/
theorem stream_operation {c : FrameHandoff} {others : List CellId} (sound : c.Sound others)
    {operation : FrameHandoff → FrameHandoff} (does : request.operation? = some (handle, operation)) :
    (operation c).session.stream = c.session.stream := by
  cases request with
  | publish handle bytes =>
    obtain ⟨-, rfl⟩ := Prod.mk.inj (Option.some.inj does)
    obtain ⟨c', eq, plain, -⟩ := FrameHandoff.publish_refines bytes sound
    have same := congrArg PlainSession.stream plain
    rw [PlainSession.stream_publish] at same
    simp only [eq]
    exact same
  | publishPadded handle src stride =>
    obtain ⟨-, rfl⟩ := Prod.mk.inj (Option.some.inj does)
    obtain ⟨c', eq, plain, -⟩ := publishPadded_refines src stride sound
    have same := congrArg PlainSession.stream plain
    rw [PlainTable.stream_publishPadded] at same
    simp only [eq]
    exact same
  | tryTake handle name =>
    obtain ⟨-, rfl⟩ := Prod.mk.inj (Option.some.inj does)
    have same := c.plain.stream_take
    rcases FrameHandoff.tryTake_cases sound with ⟨-, eq, -⟩ | ⟨eq, -⟩ | ⟨id, f, c', eq, plain, -⟩
    · simp only [eq]
    · simp only [eq]
    · rw [plain] at same
      simp only [eq]
      exact same
  | stop handle =>
    obtain ⟨-, rfl⟩ := Prod.mk.inj (Option.some.inj does)
    exact congrArg PlainSession.stream (FrameHandoff.stop_refines sound).1
  | read | share | release | clone | start | inspect => cases does

/-- The frames of every session fit into memory. -/
def Fits (e : HandoffTable) : Prop :=
  ∀ s ∈ e.sessions, s.stream.size ≤ Memory.largestBlock

theorem Fits.step {p : PlainTable} {answer : Answer} (h : e.Fits) (r : RefinementRel e p [])
    (result : e.step request = .ok (answer, e')) : e'.Fits := by
  intro s mem
  cases r.changeRel result with
  | operates does leads found sessions =>
    rw [sessions] at mem
    rcases List.mem_or_eq_of_mem_set mem with there | rfl
    · exact h s there
    · obtain ⟨others, sound⟩ := r.exists_sound found
      rw [stream_operation sound does]
      exact h _ (List.mem_of_getElem? found)
  | starts does started sessions =>
    rw [sessions, List.mem_append, List.mem_singleton] at mem
    rcases mem with there | rfl
    · exact h s there
    · obtain ⟨rfl, len⟩ := Session.bufferLen_of_start started
      exact (StreamFormat.size_le_of_bufferLen len).2
  | clones does leads rest =>
    subst rest
    exact h s mem
  | stays does sessions =>
    rw [sessions] at mem
    exact h s mem

/-- **Whatever is asked of a table,** there is memory for one more frame of each of its sessions. -/
theorem fits_of_run (result : run {} requests = .ok (answers, e)) : e.Fits :=
  refines_empty.run_induction result nofun fun r step h => h.step r step

/-- The frames of a session have the bytes that its stream asks for. -/
theorem frameLen_of_run (result : run {} requests = .ok (answers, e)) {s : Session} (mem : s ∈ e.sessions) :
    s.frameLen = s.stream.size := by
  obtain ⟨i, found⟩ := List.mem_iff_getElem?.mp mem
  have len : s.stream.frameLen = .ok s.frameLen := (historyInv_run result found).frameLen_eq
  exact (StreamFormat.frameLen?_eq_some_iff.mp (StreamFormat.frameLen_eq_ok_iff.mp len).2.2).2

end HandoffTable

namespace StreamFormat

/-! ## Main statement -/

/-- **Refused or opened, unless oversized.** If a side of the stream is zero, or if the bytes of a frame are
no word, then its length is refused, and with it every session and every test pattern. If a frame fits into a
block of memory, sessions and test patterns are opened, their frames have all these bytes, and no test frame
is missing. In between lie the oversized streams, of which every format has some: they have a length, so that
neither session nor test pattern is refused, but the session breaks down as it starts, and the test pattern
with its first frame. Memory for a frame of a session that is open, by whatever has been asked before, is
always there. -/
theorem frameLen_cases (s : StreamFormat) :
    ((s.width = 0 ∨ s.height = 0 ∨ UInt64.size ≤ s.size) →
      s.frameLen = .error (.invalidDimensions s.width s.height) ∧
      (∀ pool, Session.start s pool = .error (.refused (.invalidDimensions s.width s.height))) ∧
      TestPattern.start s = .error (.invalidDimensions s.width s.height)) ∧
    (s.width ≠ 0 → s.height ≠ 0 → s.size ≤ Memory.largestBlock →
      s.frameLen = .ok s.size ∧
      (∀ pool, ∃ session pool', Session.start s pool = .ok (session, pool') ∧ session.frameLen = s.size) ∧
      ∃ g, TestPattern.start s = .ok g ∧
        ∀ buf, ∃ frame g', g.nextFrame buf = .ok (frame, g') ∧ frame.length = s.size) ∧
    (s.width ≠ 0 → s.height ≠ 0 → Memory.largestBlock < s.size → s.size < UInt64.size →
      s.frameLen = .ok s.size ∧
      (∀ pool, Session.start s pool = .error (.overload (.block s.size))) ∧
      ∃ g, TestPattern.start s = .ok g ∧ ∀ buf, g.nextFrame buf = .error (.block s.size)) ∧
    (∃ width height, (StreamFormat.mk width height s.format).IsOversized) ∧
    ∀ requests answers e, HandoffTable.run {} requests = .ok (answers, e) → ∀ session ∈ e.sessions,
      session.frameLen = session.stream.size ∧ session.frameLen ≤ Memory.largestBlock := by
  refine ⟨fun refused => ?_, fun wide high fits => ?_, fun wide high larger word => ?_,
    exists_isOversized s.format, fun requests answers e result session mem => ?_⟩
  · have failed := frameLen_of_refused refused
    exact ⟨failed, Session.start_of_error (bufferLen_of_refused refused), TestPattern.start_of_error failed⟩
  · have len := frameLen_of_fits wide high fits
    refine ⟨len, fun pool => ?_, _, TestPattern.start_of_ok len, fun buf => ?_⟩
    · obtain ⟨session, pool', started, -, frameLen⟩ :=
        Session.start_of_ok (bufferLen_of_fits wide high fits) pool
      exact ⟨session, pool', started, frameLen⟩
    · exact TestPattern.exists_nextFrame (g := ⟨s, s.size, 0⟩) len fits buf
  · have oversized : s.IsOversized := ⟨wide, high, larger, word⟩
    refine ⟨oversized.frameLen_eq, Session.start_of_error oversized.bufferLen_eq, _,
      TestPattern.start_of_ok oversized.frameLen_eq, fun buf => ?_⟩
    rw [TestPattern.nextFrame, TestPattern.reserve, oversized.reserve_eq]
  · have frameLen := HandoffTable.frameLen_of_run result mem
    exact ⟨frameLen, frameLen ▸ HandoffTable.fits_of_run result session mem⟩

/-- Of the same two sides, a stream of single bytes is opened with frames of nearly the largest block, one of
two bytes breaks down, and one of three bytes is refused. -/
theorem frameLen_cases_one_size :
    let stream := StreamFormat.mk 0x80000000 0xFFFFFFFF
    (∀ pool, ∃ session pool', Session.start (stream .gray8) pool = .ok (session, pool') ∧
      session.frameLen = 0x7FFFFFFF80000000) ∧
    (∀ pool, Session.start (stream .yuyv4) pool = .error (.overload (.block 0xFFFFFFFF00000000))) ∧
    ∀ pool, Session.start (stream .rgb24) pool =
      .error (.refused (.invalidDimensions 0x80000000 0xFFFFFFFF)) := by
  intro stream
  obtain ⟨-, opened, -, -, -⟩ := frameLen_cases (stream .gray8)
  obtain ⟨-, -, broken, -, -⟩ := frameLen_cases (stream .yuyv4)
  obtain ⟨refused, -, -, -, -⟩ := frameLen_cases (stream .rgb24)
  have single : (stream .gray8).size = 0x7FFFFFFF80000000 := by decide
  have double : (stream .yuyv4).size = 0xFFFFFFFF00000000 := by decide
  rw [single] at opened
  rw [double] at broken
  exact ⟨(opened (by decide) (by decide) (by decide)).2.1,
    (broken (by decide) (by decide) (by decide) (by decide)).2.1, (refused (.inr (.inr (by decide)))).2.1⟩

/-- The first square of single bytes that no block can hold has a length all the same, and neither session nor
test pattern is refused for it. -/
theorem frameLen_unallocatable_square :
    let stream := StreamFormat.mk 3037000500 3037000500 .gray8
    stream.frameLen = .ok 9223372037000250000 ∧ Memory.largestBlock < 9223372037000250000 ∧
    (∀ pool, Session.start stream pool = .error (.overload (.block 9223372037000250000))) ∧
    ∃ g, TestPattern.start stream = .ok g ∧ ∀ buf, g.nextFrame buf = .error (.block 9223372037000250000) := by
  intro stream
  have oversized : stream.IsOversized := ⟨by decide, by decide, by decide, by decide⟩
  have size : stream.size = 9223372037000250000 := by decide
  have len := oversized.frameLen_eq
  have broken := oversized.bufferLen_eq
  have missing := oversized.reserve_eq
  rw [size] at len broken missing
  refine ⟨len, by decide, Session.start_of_error broken, _, TestPattern.start_of_ok len, fun buf => ?_⟩
  rw [TestPattern.nextFrame, TestPattern.reserve, missing]

end StreamFormat

end FramePipeline
