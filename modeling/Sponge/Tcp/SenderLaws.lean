import Sponge.Stream.ByteStreamLaws
import Sponge.Tcp.Sender

/-! What a sender emits, one segment at a time, and what acknowledgments drop again. -/

namespace Sponge

/-- The payload bytes of segments, in order. -/
def payloads (segments : List TCPSegment) : Bytes := segments.flatMap (fun seg => seg.payload)

/-- The number of positions that segments occupy. -/
def occupied (segments : List TCPSegment) : Nat :=
  (segments.map TCPSegment.lengthInSequenceSpace).sum

@[simp] theorem payloads_nil : payloads [] = [] := rfl

@[simp] theorem payloads_append (first second : List TCPSegment) :
    payloads (first ++ second) = payloads first ++ payloads second := by
  simp [payloads]

@[simp] theorem payloads_cons (seg : TCPSegment) (rest : List TCPSegment) :
    payloads (seg :: rest) = seg.payload ++ payloads rest := by
  simp [payloads]

@[simp] theorem occupied_nil : occupied [] = 0 := rfl

@[simp] theorem occupied_append (first second : List TCPSegment) :
    occupied (first ++ second) = occupied first + occupied second := by
  simp [occupied]

@[simp] theorem occupied_cons (seg : TCPSegment) (rest : List TCPSegment) :
    occupied (seg :: rest) = seg.lengthInSequenceSpace + occupied rest := by
  simp [occupied]

/-- Segments that each occupy a position and together occupy none are none. -/
theorem eq_nil_of_occupied_eq_zero {segments : List TCPSegment}
    (positive : ∀ seg ∈ segments, 0 < seg.lengthInSequenceSpace) (none : occupied segments = 0) :
    segments = [] := by
  -- A first segment would occupy a position.
  cases segments with
  | nil => rfl
  | cons first rest =>
    have := positive first List.mem_cons_self
    rw [occupied_cons] at none
    omega

/-- Besides the payload, the positions hold the SYNs and the FINs. -/
theorem occupied_eq (segments : List TCPSegment) :
    occupied segments = (payloads segments).length + segments.countP (fun seg => seg.header.syn) +
      segments.countP (fun seg => seg.header.fin) := by
  -- The length of a segment counts its payload and its two flags.
  induction segments with
  | nil => simp
  | cons seg rest ih =>
    simp only [occupied_cons, payloads_cons, List.length_append, List.countP_cons,
      TCPSegment.lengthInSequenceSpace, ih]
    omega

/-- Segments that follow one another from a first position up to the next free one. -/
def Consecutive (isn : WrappingInt32) : Nat → List TCPSegment → Nat → Prop
  | start, [], stop => start = stop
  | start, seg :: rest, stop =>
    -- Besides SYN and FIN no field of the header is set, and position zero is not left empty.
    seg.header = { seqno := wrap start isn, syn := seg.header.syn, fin := seg.header.fin } ∧
      0 < start + seg.lengthInSequenceSpace ∧
      Consecutive isn (start + seg.lengthInSequenceSpace) rest stop

namespace Consecutive

variable {isn : WrappingInt32} {start mid stop : Nat} {segments more : List TCPSegment}

/-- The positions add up. -/
theorem stop_eq (consecutive : Consecutive isn start segments stop) :
    stop = start + occupied segments := by
  -- Each segment starts where the one before it ends.
  induction segments generalizing start with
  | nil => simpa using consecutive.symm
  | cons seg rest ih =>
    rw [ih consecutive.2.2, occupied_cons]
    omega

/-- A sequence in two parts is a sequence up to the point where they meet and one from there. -/
theorem append_iff :
    Consecutive isn start (segments ++ more) stop ↔
      Consecutive isn start segments (start + occupied segments) ∧
        Consecutive isn (start + occupied segments) more stop := by
  -- The part that comes first moves the start of the other by what it occupies.
  induction segments generalizing start with
  | nil => simp [Consecutive]
  | cons seg rest ih =>
    simp only [List.cons_append, Consecutive, ih, occupied_cons, Nat.add_assoc, and_assoc]

/-- The header of a segment says which position it starts at. -/
theorem header (consecutive : Consecutive isn start segments stop) {before after : List TCPSegment}
    {seg : TCPSegment} (split : segments = before ++ seg :: after) :
    seg.header = { seqno := wrap (start + occupied before) isn
                   syn := seg.header.syn
                   fin := seg.header.fin } := by
  rw [split, append_iff] at consecutive
  exact consecutive.2.1

/-- A segment ends at or before the next free position. -/
theorem le_stop (consecutive : Consecutive isn start segments stop) {before after : List TCPSegment}
    {seg : TCPSegment} (split : segments = before ++ seg :: after) :
    start + occupied before + seg.lengthInSequenceSpace ≤ stop := by
  rw [consecutive.stop_eq, split, occupied_append, occupied_cons]
  omega

end Consecutive

namespace TCPSender

/-- The segment that carries the next buffered bytes, with or without SYN and FIN. -/
def nextSegment (s : TCPSender) (size : Nat) (syn fin : Bool) : TCPSegment where
  header := { seqno := s.nextSeqno, syn := syn, fin := fin }
  payload := s.stream.buffer.take size

/-- The sender after that segment has been put into both queues. -/
def sent (s : TCPSender) (size : Nat) (syn fin : Bool) : TCPSender :=
  { s with
    stream := s.stream.taken size
    nextSeqnoAbsolute := s.nextSeqnoAbsolute + (s.nextSegment size syn fin).lengthInSequenceSpace
    inFlights := add64 s.inFlights (s.nextSegment size syn fin).lengthInSequenceSpace
    outstandings := s.outstandings ++ [s.nextSegment size syn fin]
    segmentsOut := s.segmentsOut ++ [s.nextSegment size syn fin] }

/-- The length of the next segment counts the bytes, the SYN and the FIN. -/
theorem nextSegment_length {s : TCPSender} {size : Nat} (inside : size ≤ s.stream.buffer.length)
    (syn fin : Bool) :
    (s.nextSegment size syn fin).lengthInSequenceSpace =
      size + (if syn then 1 else 0) + (if fin then 1 else 0) := by
  rw [TCPSegment.lengthInSequenceSpace, nextSegment, List.length_take, Nat.min_eq_left inside]

/-- SYN and FIN add at most two positions. -/
theorem nextSegment_length_le {s : TCPSender} {size : Nat}
    (inside : size ≤ s.stream.buffer.length) (syn fin : Bool) :
    (s.nextSegment size syn fin).lengthInSequenceSpace ≤ size + 2 := by
  rw [nextSegment_length inside]
  split <;> split <;> omega

/-- The size of the payload that one turn of the loop sends. -/
def turnSize (s : TCPSender) : Nat := min s.payloadRoom s.stream.buffer.length

/-- One turn of the loop sends the SYN. -/
def turnSyn (s : TCPSender) : Bool := decide (s.nextSeqnoAbsolute = 0)

/-- One turn of the loop sends the FIN. -/
def turnFin (s : TCPSender) : Bool :=
  (s.stream.taken s.turnSize).eof &&
    decide (s.nextSeqnoAbsolute + (s.nextSegment s.turnSize s.turnSyn false).lengthInSequenceSpace ≤
      s.windowRight) && !s.finSent

/-- The segment that one turn of the loop sends. -/
def turnSegment (s : TCPSender) : TCPSegment := s.nextSegment s.turnSize s.turnSyn s.turnFin

/-- The sender after one turn of the loop. -/
def turned (s : TCPSender) : TCPSender :=
  { s.sent s.turnSize s.turnSyn s.turnFin with finSent := s.finSent || s.turnFin }

/-- The arithmetic of the counters is exact for another segment. -/
def Fits (s : TCPSender) : Prop := s.nextSeqnoAbsolute + 1003 < 2 ^ 64

variable {s s' : TCPSender}

/-- The payload never exceeds the segment size. -/
theorem payloadRoom_le (s : TCPSender) : s.payloadRoom ≤ 1000 := Nat.min_le_right _ _

/-- Neither does the payload of a turn. -/
theorem turnSize_le (s : TCPSender) : s.turnSize ≤ 1000 :=
  (Nat.min_le_left _ _).trans s.payloadRoom_le

/-- A turn sends only buffered bytes. -/
theorem turnSize_le_length (s : TCPSender) : s.turnSize ≤ s.stream.buffer.length :=
  Nat.min_le_right _ _

/-- One turn of the loop sends the next segment. -/
theorem sendSegment_eq (fits : s.Fits) : s.sendSegment = .ok s.turned := by
  -- The payload, the SYN and the FIN fit behind the next position.
  have room := s.payloadRoom_le
  have inside := s.turnSize_le_length
  have size := s.turnSize_le
  have step : s.nextSeqnoAbsolute + 1003 < 2 ^ 64 := fits
  have bound := nextSegment_length_le inside s.turnSyn false
  have plain := nextSegment_length inside s.turnSyn false
  have length := nextSegment_length inside s.turnSyn s.turnFin
  have read := ByteStream.read_of_small (show s.payloadRoom < 2 ^ 31 ∨
    s.stream.buffer.length < 2 ^ 31 by omega)
  -- With room for one more segment, none of the 64-bit sums wraps around.
  have next : add64 (s.nextSegment s.turnSize s.turnSyn false).lengthInSequenceSpace
      s.nextSeqnoAbsolute =
      s.nextSeqnoAbsolute + (s.nextSegment s.turnSize s.turnSyn false).lengthInSequenceSpace := by
    rw [add64_of_lt (by omega)]
    omega
  -- The FIN is added if the stream is at its end and one more position fits.
  have fin : ((s.stream.taken s.turnSize).eof &&
      decide (add64 (s.nextSegment s.turnSize s.turnSyn false).lengthInSequenceSpace
        s.nextSeqnoAbsolute ≤ s.windowRight) && !s.finSent) = s.turnFin := by
    rw [next, turnFin]
  have stop : (if s.turnFin then
      add64 (add64 (s.nextSegment s.turnSize s.turnSyn false).lengthInSequenceSpace
        s.nextSeqnoAbsolute) 1
      else add64 (s.nextSegment s.turnSize s.turnSyn false).lengthInSequenceSpace
        s.nextSeqnoAbsolute) =
      s.nextSeqnoAbsolute + s.turnSegment.lengthInSequenceSpace := by
    rw [next, turnSegment, length, plain]
    cases s.turnFin with
    | true =>
      simp only [if_true, Bool.false_eq_true, if_false] at plain ⊢
      rw [add64_of_lt (by omega)]
      omega
    | false => rfl
  rw [sendSegment, read, ok_bind]
  dsimp only
  -- The segment that the code builds is the one described.
  have data : ({ header := { seqno := s.nextSeqno, syn := decide (s.nextSeqnoAbsolute = 0) }
                 payload := s.stream.buffer.take (min s.payloadRoom s.stream.buffer.length) } :
      TCPSegment) = s.nextSegment s.turnSize s.turnSyn false := rfl
  have whole : min s.payloadRoom s.stream.buffer.length = s.turnSize := rfl
  rw [pure_eq_ok, data, whole, fin, stop]
  rfl

/-- A probe of the next byte sends a segment of one byte. -/
theorem sendOneByteSegment_byte (fits : s.Fits) (waiting : s.stream.buffer ≠ []) :
    s.sendOneByteSegment false = .ok (s.sent 1 false false) := by
  have inside := List.length_pos_iff.mpr waiting
  have read := ByteStream.read_of_small (show 1 < 2 ^ 31 ∨ s.stream.buffer.length < 2 ^ 31 by omega)
  rw [Nat.min_eq_left inside] at read
  -- The position of the next byte does not wrap around.
  have step : s.nextSeqnoAbsolute + 1003 < 2 ^ 64 := fits
  have length := nextSegment_length inside false false
  simp only [sendOneByteSegment, Bool.false_eq_true, if_false, read, ok_bind, pure_eq_ok]
  rw [sent, length, add64_of_lt (by omega)]
  rfl

/-- A probe with the FIN sends a segment of one position. -/
theorem sendOneByteSegment_fin (fits : s.Fits) (counted : s.stream.taken 0 = s.stream) :
    s.sendOneByteSegment true = .ok (s.sent 0 false true) := by
  -- The position behind the FIN is still a word.
  have step : s.nextSeqnoAbsolute + 1003 < 2 ^ 64 := fits
  have length := nextSegment_length (Nat.zero_le s.stream.buffer.length) false true
  simp only [sendOneByteSegment, if_true, ok_bind, pure_eq_ok]
  rw [sent, length, add64_of_lt (by omega), nextSegment, counted, List.take_zero]
  rfl

/-- Inside the window, the payload may reach its right edge. -/
theorem payloadRoom_eq (inside : s.nextSeqnoAbsolute ≤ s.windowRight)
    (word : s.windowRight < 2 ^ 64) :
    s.payloadRoom =
      min (s.windowRight + 1 - s.nextSeqnoAbsolute - if s.nextSeqnoAbsolute = 0 then 1 else 0)
        1000 := by
  -- The subtractions may wrap around in between, but not in the end.
  have room : add64 (sub64 (sub64 s.windowRight (if s.nextSeqnoAbsolute = 0 then 1 else 0))
      s.nextSeqnoAbsolute) 1 =
      s.windowRight + 1 - s.nextSeqnoAbsolute - if s.nextSeqnoAbsolute = 0 then 1 else 0 := by
    simp only [add64, sub64]
    split <;> omega
  rw [payloadRoom, ← room]
  rfl

/-- The loop goes on only inside the window, with something to send. -/
theorem windowFilled_eq_false :
    s.windowFilled = false ↔ s.nextSeqnoAbsolute ≤ s.windowRight ∧
      (0 < s.nextSeqnoAbsolute → s.stream.buffer ≠ [] ∨ s.readyToFin = true) := by
  simp only [windowFilled, ByteStream.bufferEmpty, Bool.or_eq_false_iff, decide_eq_false_iff_not,
    Nat.not_lt, Bool.and_eq_false_iff, Nat.le_zero, beq_eq_false_iff_ne, ne_eq,
    List.length_eq_zero_iff, Bool.not_eq_false']
  refine and_congr_right fun _ => ?_
  constructor
  · -- The three ways not to be filled.
    rintro ((none | waiting) | ready) started
    · omega
    · exact .inl waiting
    · exact .inr ready
  · -- Before the SYN, or with something to send, it is not filled either.
    intro more
    rcases Nat.eq_zero_or_pos s.nextSeqnoAbsolute with none | started
    · exact .inl (.inl none)
    · rcases more started with waiting | ready
      · exact .inl (.inr waiting)
      · exact .inr ready

/-- The stream a reader has taken bytes from is at its end once the buffer is empty. -/
theorem eof_taken {stream : ByteStream} {size : Nat} (inside : size ≤ stream.buffer.length) :
    (stream.taken size).eof = true ↔ stream.ended = true ∧ size = stream.buffer.length := by
  -- The end of the input is not the reader's to change.
  simp only [ByteStream.eof, ByteStream.inputEnded, ByteStream.taken, Bool.and_eq_true,
    beq_iff_eq, List.length_drop]
  refine and_congr_right fun _ => ?_
  omega

/-- What one turn of the loop sends. -/
structure Turn (s : TCPSender) : Prop where
  /-- Past the handshake, waiting bytes are sent. -/
  size_pos : 0 < s.nextSeqnoAbsolute → s.stream.buffer ≠ [] → 0 < s.turnSize
  /-- The segment stays inside the window. -/
  inside : s.nextSeqnoAbsolute + s.turnSegment.lengthInSequenceSpace ≤ s.windowRight + 1
  /-- The FIN is sent with the last byte of a stream that has ended. -/
  fin : s.turnFin = true → s.stream.ended = true ∧ s.turnSize = s.stream.buffer.length ∧
    s.finSent = false
  /-- With nothing else to send and no FIN sent before, the FIN is sent. -/
  fin_of_ready : s.stream.buffer = [] → 0 < s.nextSeqnoAbsolute → s.readyToFin = true →
    s.finSent = false → s.turnFin = true

/-- An open window lets one turn of the loop send a segment. -/
theorem turn_of_open (isOpen : s.windowFilled = false) (word : s.windowRight < 2 ^ 64) :
    s.Turn := by
  -- The next position is in the window, so the room is what the window has left of it.
  obtain ⟨low, _⟩ := windowFilled_eq_false.mp isOpen
  have room := payloadRoom_eq low word
  have inside := s.turnSize_le_length
  have within : s.turnSize ≤ s.payloadRoom := Nat.min_le_left _ _
  have plain := nextSegment_length inside s.turnSyn false
  have length := nextSegment_length inside s.turnSyn s.turnFin
  have syn : (if s.turnSyn = true then 1 else 0) = if s.nextSeqnoAbsolute = 0 then 1 else 0 := by
    simp only [turnSyn, decide_eq_true_eq]
  rw [syn] at plain length
  simp only [Bool.false_eq_true, if_false, Nat.add_zero] at plain
  -- A FIN is only set behind the last byte, and inside the window.
  have fin : s.turnFin = true → (s.stream.ended = true ∧ s.turnSize = s.stream.buffer.length) ∧
      s.nextSeqnoAbsolute + (s.nextSegment s.turnSize s.turnSyn false).lengthInSequenceSpace ≤
        s.windowRight ∧ s.finSent = false := by
    intro final
    simp only [turnFin, Bool.and_eq_true, decide_eq_true_eq, Bool.not_eq_true',
      eof_taken inside, and_assoc] at final
    exact ⟨⟨final.1, final.2.1⟩, final.2.2.1, final.2.2.2⟩
  refine ⟨?_, ?_, ?_, ?_⟩
  · -- After the SYN there is room for a byte.
    intro started waiting
    have : 0 < s.stream.buffer.length := List.length_pos_iff.mpr waiting
    rw [turnSize, room, if_neg (by omega)]
    omega
  · -- With its SYN and its FIN, the segment stays inside the window.
    rw [turnSegment, length]
    -- A FIN was set because one more position is free behind the payload.
    cases final : s.turnFin with
    | true =>
      have := (fin final).2.1
      rw [plain] at this
      simp only [if_true]
      omega
    | false =>
      -- Without FIN the payload is cut to the room.
      have first : (if s.nextSeqnoAbsolute = 0 then 1 else 0) ≤
          s.windowRight + 1 - s.nextSeqnoAbsolute := by
        split <;> omega
      simp only [Bool.false_eq_true, if_false]
      omega
  · -- What the FIN requires was tested for it.
    intro final
    exact ⟨(fin final).1.1, (fin final).1.2, (fin final).2.2⟩
  · -- With nothing to read, the FIN that is due is sent.
    intro empty started ready unsent
    have size : s.turnSize = 0 := by simpa [empty] using inside
    rw [size, if_neg (by omega)] at plain
    simp only [readyToFin, Bool.and_eq_true] at ready
    simp only [turnFin, size, plain, unsent, Bool.not_false, Bool.and_true, Bool.and_eq_true,
      decide_eq_true_eq]
    refine ⟨(eof_taken (by omega)).mpr ⟨?_, by simp [empty]⟩, by omega⟩
    simpa [ByteStream.eof, ByteStream.inputEnded, empty] using ready.1

/-- The ways in which filling the window emits one segment. -/
inductive Emits : TCPSender → TCPSegment → TCPSender → Prop
  /-- A turn of the loop. -/
  | turn {s : TCPSender} (isOpen : s.windowFilled = false) : Emits s s.turnSegment s.turned
  /-- A probe with the next byte. -/
  | probe {s : TCPSender} (closed : s.window = 0) (idle : s.probing = false)
      (waiting : s.stream.buffer ≠ []) :
      Emits s (s.nextSegment 1 false false) { s.sent 1 false false with probing := true }
  /-- A probe with the FIN. -/
  | probeFin {s : TCPSender} (closed : s.window = 0) (idle : s.probing = false)
      (ready : s.readyToFin = true) (empty : s.stream.buffer = []) :
      Emits s (s.nextSegment 0 false true) { s.sent 0 false true with probing := true }

/-- Emitting a segment moves bytes from the buffer to its payload. -/
theorem Emits.content {seg : TCPSegment} (emits : Emits s seg s') (emitted : List TCPSegment) :
    payloads (emitted ++ [seg]) ++ s'.stream.buffer = payloads emitted ++ s.stream.buffer := by
  -- However many bytes are taken, they come from the front of the buffer.
  have whole : ∀ size syn fin, payloads (emitted ++ [s.nextSegment size syn fin]) ++
      (s.stream.taken size).buffer = payloads emitted ++ s.stream.buffer := by
    intro size syn fin
    rw [payloads_append, payloads_cons, payloads_nil, List.append_nil, List.append_assoc]
    exact congrArg _ (List.take_append_drop _ _)
  cases emits with
  | turn => exact whole _ _ _
  | probe => exact whole _ _ _
  | probeFin => exact whole _ _ _

/-- Emitting a segment leaves the initial sequence number. -/
theorem Emits.isn {seg : TCPSegment} (emits : Emits s seg s') : s'.isn = s.isn := by
  cases emits <;> rfl

/-- Emitting a segment does not end the stream. -/
theorem Emits.ended {seg : TCPSegment} (emits : Emits s seg s') :
    s'.stream.ended = s.stream.ended := by
  cases emits <;> rfl

/-- A turn of the loop ends past position zero. -/
theorem turn_positive (s : TCPSender) :
    0 < s.nextSeqnoAbsolute + s.turnSegment.lengthInSequenceSpace := by
  rw [turnSegment, nextSegment_length s.turnSize_le_length]
  -- The first segment has the SYN, and the others start beyond it.
  rcases Nat.eq_zero_or_pos s.nextSeqnoAbsolute with zero | started
  · simp only [turnSyn, zero, decide_true, if_true]
    omega
  · omega

/-- An emitted segment follows the ones before it. -/
theorem consecutive_sent {emitted : List TCPSegment} {size : Nat} {syn fin : Bool}
    (consecutive : Consecutive s.isn 0 emitted s.nextSeqnoAbsolute)
    (positive : 0 < s.nextSeqnoAbsolute + (s.nextSegment size syn fin).lengthInSequenceSpace) :
    Consecutive s.isn 0 (emitted ++ [s.nextSegment size syn fin])
      (s.nextSeqnoAbsolute + (s.nextSegment size syn fin).lengthInSequenceSpace) := by
  -- The next position is the one behind all that was emitted.
  have start := consecutive.stop_eq
  refine Consecutive.append_iff.mpr ?_
  rw [← start]
  exact ⟨consecutive, rfl, positive, rfl⟩

/-- What filling the window needs of a sender to be exact. -/
structure Steady (s : TCPSender) : Prop where
  /-- The counters have room for another segment. -/
  fits : s.Fits
  /-- The read counter is an `int`. -/
  counted : toInt32 s.stream.totalRead = s.stream.totalRead

/-- Taking no byte leaves a stream with an `int` counter as it is. -/
theorem Steady.taken_zero (steady : s.Steady) : s.stream.taken 0 = s.stream := by
  simp [ByteStream.taken, steady.counted]

/-- What every turn preserves, the loop preserves, and it ends when the window is filled. -/
theorem fillLoop_invariant (inv : TCPSender → List TCPSegment → Prop)
    (steady : ∀ s emitted, inv s emitted → s.Steady)
    (emission : ∀ s seg s' emitted, inv s emitted → Emits s seg s' → inv s' (emitted ++ [seg])) :
    ∀ turns {s s' : TCPSender} {emitted : List TCPSegment}, inv s emitted →
      fillLoop turns s = .ok s' →
      ∃ new, s'.segmentsOut = s.segmentsOut ++ new ∧ s'.outstandings = s.outstandings ++ new ∧
        inv s' (emitted ++ new) ∧ (new = [] → s' = s) ∧ s'.windowFilled = true := by
  -- Induction on the turns; the segments of the later ones are added behind.
  intro turns
  induction turns with
  | zero => simp [fillLoop]
  | succ turns ih =>
    intro s s' emitted holds filled
    rw [fillLoop] at filled
    split at filled
    · -- The window is filled, so nothing is emitted.
      rename_i done
      rw [Except.ok.injEq] at filled
      subst filled
      exact ⟨[], by simp, by simp, by simpa using holds, fun _ => rfl, done⟩
    · -- The segment of this turn comes before those of the others.
      rename_i more
      have isOpen : s.windowFilled = false := by simpa using more
      rw [sendSegment_eq (steady s emitted holds).fits, ok_bind] at filled
      obtain ⟨new, out, queue, kept, _, done⟩ := ih (emission _ _ _ _ holds (.turn isOpen)) filled
      refine ⟨s.turnSegment :: new, ?_, ?_, ?_, fun none => absurd none (List.cons_ne_nil _ _), done⟩
      · rw [out, turned, sent, List.append_assoc]
        rfl
      · rw [queue, turned, sent, List.append_assoc]
        rfl
      · rwa [List.append_assoc, List.singleton_append] at kept

/-- A closed window is to be probed, with the next byte or with the FIN. -/
def Probes (s : TCPSender) : Prop :=
  s.window = 0 ∧ s.probing = false ∧ (s.stream.buffer ≠ [] ∨ s.readyToFin = true)

instance (s : TCPSender) : Decidable s.Probes := inferInstanceAs (Decidable (_ ∧ _ ∧ _))

/-- Where no probe is due, filling the window is the loop. -/
theorem fillWindow_of_not_probes (quiet : ¬ s.Probes) :
    s.fillWindow = s.fillLoop (s.stream.buffer.length + 3) := by
  rw [fillWindow, if_neg, if_neg]
  · -- The second probe is the one with the FIN.
    intro due
    exact quiet ⟨due.1, due.2.1, .inr due.2.2⟩
  · intro due
    exact quiet ⟨due.1, due.2.1, .inl (by simpa [ByteStream.bufferEmpty] using due.2.2)⟩

/-- What every emission preserves, filling the window preserves. -/
theorem fillWindow_invariant (inv : TCPSender → List TCPSegment → Prop)
    (steady : ∀ s emitted, inv s emitted → s.Steady)
    (emission : ∀ s seg s' emitted, inv s emitted → Emits s seg s' → inv s' (emitted ++ [seg]))
    {emitted : List TCPSegment} (holds : inv s emitted) (filled : s.fillWindow = .ok s') :
    ∃ new, s'.segmentsOut = s.segmentsOut ++ new ∧ s'.outstandings = s.outstandings ++ new ∧
      inv s' (emitted ++ new) ∧
      -- When nothing is emitted, there is nothing to send or no room and nothing to probe with.
      (new = [] → s' = s ∧ s.windowFilled = true ∧
        (s.window = 0 → s.probing = false → s.stream.buffer = [] ∧ s.readyToFin = false)) := by
  have calm := steady s emitted holds
  rw [fillWindow] at filled
  split at filled
  · rename_i probe
    obtain ⟨closed, idle, waiting⟩ := probe
    -- A waiting byte probes the closed window.
    have nonempty : s.stream.buffer ≠ [] := by
      simpa [ByteStream.bufferEmpty] using waiting
    rw [sendOneByteSegment_byte (show Fits { s with probing := true } from calm.fits) nonempty,
      Except.ok.injEq] at filled
    refine ⟨[s.nextSegment 1 false false], ?_, ?_, ?_, fun none => absurd none (List.cons_ne_nil _ _)⟩
    · rw [← filled]; rfl
    · rw [← filled]; rfl
    · rw [← filled]; exact emission s _ _ emitted holds (.probe closed idle nonempty)
  · -- No byte probes the window, for which there are three reasons.
    rename_i noByte
    have empty : s.window = 0 → s.probing = false → s.stream.buffer = [] := by
      intro closed idle
      by_contra waiting
      exact noByte ⟨closed, idle, by simpa [ByteStream.bufferEmpty] using waiting⟩
    split at filled
    · rename_i probe
      -- The FIN probes it.
      obtain ⟨closed, idle, ready⟩ := probe
      rw [sendOneByteSegment_fin (show Fits { s with probing := true } from calm.fits)
        calm.taken_zero, Except.ok.injEq] at filled
      refine ⟨[s.nextSegment 0 false true], ?_, ?_, ?_,
        fun none => absurd none (List.cons_ne_nil _ _)⟩
      · rw [← filled]; rfl
      · rw [← filled]; rfl
      · rw [← filled]
        exact emission s _ _ emitted holds (.probeFin closed idle ready (empty closed idle))
    · rename_i noFin
      -- The loop sends what the window allows.
      obtain ⟨new, out, queue, kept, same, done⟩ := fillLoop_invariant inv steady emission _ holds
        filled
      refine ⟨new, out, queue, kept, fun none => ?_⟩
      obtain rfl := same none
      refine ⟨rfl, done, fun closed idle => ⟨empty closed idle, ?_⟩⟩
      by_contra ready
      exact noFin ⟨closed, idle, by simpa using ready⟩

/-- What filling the window leaves alone, whatever it sends and whether its arithmetic is exact. -/
structure Filled (s s' : TCPSender) : Prop where
  /-- The timer keeps its time. -/
  timePassed : s'.timePassed = s.timePassed
  /-- The timeout stays. -/
  rto : s'.rto = s.rto
  /-- So does the one that a new acknowledgment restores. -/
  initialRto : s'.initialRetransmissionTimeout = s.initialRetransmissionTimeout
  /-- Nothing was sent again. -/
  recount : s'.recount = s.recount
  /-- The window is the one that was advertised. -/
  window : s'.window = s.window
  /-- Its right edge is the one that was offered. -/
  windowRight : s'.windowRight = s.windowRight
  /-- Whatever is new stands behind both queues. -/
  queue : ∃ new, s'.outstandings = s.outstandings ++ new ∧ s'.segmentsOut = s.segmentsOut ++ new

namespace Filled

/-- Sending nothing changes nothing. -/
theorem refl (s : TCPSender) : Filled s s :=
  ⟨rfl, rfl, rfl, rfl, rfl, rfl, [], by simp, by simp⟩

/-- What two parts of the loop leave alone, both together do. -/
theorem trans {s₁ s₂ s₃ : TCPSender} (first : Filled s₁ s₂) (second : Filled s₂ s₃) :
    Filled s₁ s₃ := by
  obtain ⟨new, queue, out⟩ := first.queue
  obtain ⟨more, queue', out'⟩ := second.queue
  -- The second part adds its segments behind those of the first.
  refine ⟨second.timePassed.trans first.timePassed, second.rto.trans first.rto,
    second.initialRto.trans first.initialRto, second.recount.trans first.recount,
    second.window.trans first.window, second.windowRight.trans first.windowRight,
    new ++ more, ?_, ?_⟩
  · rw [queue', queue, List.append_assoc]
  · rw [out', out, List.append_assoc]

/-- A turn of the loop sends one segment. -/
theorem of_sendSegment (turned : s.sendSegment = .ok s') : Filled s s' := by
  -- Only the queues, the stream and the counters are assigned to.
  rw [sendSegment] at turned
  obtain ⟨⟨data, stream⟩, _, result⟩ := bind_eq_ok.mp turned
  dsimp only at result
  rw [pure_eq_ok, Except.ok.injEq] at result
  subst result
  exact ⟨rfl, rfl, rfl, rfl, rfl, rfl, _, rfl, rfl⟩

/-- So does a probe. -/
theorem of_sendOneByteSegment {f : Bool} (probed : s.sendOneByteSegment f = .ok s') :
    Filled s s' := by
  rw [sendOneByteSegment] at probed
  -- Whether a byte is read or not, the segment is sent in the same way.
  split at probed
  · obtain ⟨⟨payload, stream⟩, _, result⟩ := bind_eq_ok.mp probed
    dsimp only at result
    rw [pure_eq_ok, Except.ok.injEq] at result
    subst result
    exact ⟨rfl, rfl, rfl, rfl, rfl, rfl, _, rfl, rfl⟩
  · obtain ⟨⟨payload, stream⟩, _, result⟩ := bind_eq_ok.mp probed
    dsimp only at result
    rw [pure_eq_ok, Except.ok.injEq] at result
    subst result
    exact ⟨rfl, rfl, rfl, rfl, rfl, rfl, _, rfl, rfl⟩

/-- The loop sends segment after segment. -/
theorem of_fillLoop : ∀ (turns : Nat) {s : TCPSender}, fillLoop turns s = .ok s' → Filled s s' := by
  -- Induction on the turns.
  intro turns
  induction turns with
  | zero => simp [fillLoop]
  | succ turns ih =>
    intro s filled
    rw [fillLoop] at filled
    split at filled
    · rw [Except.ok.injEq] at filled
      exact filled ▸ refl s
    · obtain ⟨sent, turned, rest⟩ := bind_eq_ok.mp filled
      exact (of_sendSegment turned).trans (ih rest)

/-- Filling the window only sends. -/
theorem of_fillWindow (filled : s.fillWindow = .ok s') : Filled s s' := by
  -- The note that a probe is out is none of the fields that stay.
  have noted : Filled s { s with probing := true } :=
    ⟨rfl, rfl, rfl, rfl, rfl, rfl, [], by simp, by simp⟩
  rw [fillWindow] at filled
  split at filled
  · exact noted.trans (of_sendOneByteSegment filled)
  · split at filled
    · exact noted.trans (of_sendOneByteSegment filled)
    · exact of_fillLoop _ filled

end Filled

end TCPSender

end Sponge
