import Sponge.Tcp.SenderLaws

/-! The queue of outstanding segments is the unacknowledged end of everything emitted. -/

namespace Sponge

namespace TCPSender

/-- The absolute position of the oldest outstanding segment, or the next one if there is none. -/
def base (s : TCPSender) : Nat := s.nextSeqnoAbsolute - occupied s.outstandings

/-- A sender agrees with the segments it has emitted so far. -/
structure Tracked (s : TCPSender) (emitted : List TCPSegment) : Prop where
  /-- The emitted segments fill the positions up to the next one. -/
  consecutive : Consecutive s.isn 0 emitted s.nextSeqnoAbsolute
  /-- The queue holds the last of them. -/
  queue : s.outstandings <:+ emitted
  /-- The count of positions in flight is that of the queue. -/
  flights : s.inFlights = occupied s.outstandings
  /-- The stream has been read as far as the payloads reach. -/
  reads : s.stream.totalRead = toInt32 (payloads emitted).length
  /-- The right edge is a 64-bit number. -/
  word : s.windowRight < 2 ^ 64

variable {s s' : TCPSender} {emitted : List TCPSegment}

/-- A new sender has emitted nothing. -/
theorem tracked_new (capacity : Nat) (retxTimeout : UInt16) (isn : WrappingInt32) :
    (new capacity retxTimeout isn).Tracked [] := by
  refine ⟨rfl, List.suffix_refl _, rfl, ?_, ?_⟩
  · simp [new, ByteStream.new, toInt32]
  · simp [new]

namespace Tracked

/-- The emitted segments occupy as many positions as have been used. -/
theorem next_eq (tracked : s.Tracked emitted) : s.nextSeqnoAbsolute = occupied emitted := by
  simpa using tracked.consecutive.stop_eq

/-- The queue reaches from the oldest outstanding position to the next one. -/
theorem base_add (tracked : s.Tracked emitted) :
    s.base + occupied s.outstandings = s.nextSeqnoAbsolute := by
  -- What was emitted and is not outstanding comes first.
  obtain ⟨gone, split⟩ := tracked.queue
  have total := tracked.next_eq
  rw [← split, occupied_append] at total
  rw [base]
  omega

/-- The queue is consecutive from the oldest outstanding position on. -/
theorem consecutive_queue (tracked : s.Tracked emitted) :
    Consecutive s.isn s.base s.outstandings s.nextSeqnoAbsolute := by
  obtain ⟨gone, split⟩ := tracked.queue
  have total := tracked.base_add
  have next := tracked.next_eq
  have chain := tracked.consecutive
  -- The queue is what is left of all that was emitted.
  rw [← split, Consecutive.append_iff] at chain
  rw [← split, occupied_append] at next
  rw [show s.base = 0 + occupied gone by omega]
  exact chain.2

/-- The read counter is an `int`. -/
theorem counted (tracked : s.Tracked emitted) :
    toInt32 s.stream.totalRead = s.stream.totalRead := by
  rw [tracked.reads, toInt32_idem]

/-- The facts carry over to a sender that differs in other fields only. -/
theorem congr (tracked : s.Tracked emitted) (isn : s'.isn = s.isn)
    (next : s'.nextSeqnoAbsolute = s.nextSeqnoAbsolute)
    (outstandings : s'.outstandings = s.outstandings) (inFlights : s'.inFlights = s.inFlights)
    (reads : s'.stream.totalRead = s.stream.totalRead)
    (windowRight : s'.windowRight = s.windowRight) : s'.Tracked emitted := by
  -- These fields are all that the facts are about.
  refine ⟨?_, ?_, ?_, ?_, ?_⟩
  · rw [isn, next]; exact tracked.consecutive
  · rw [outstandings]; exact tracked.queue
  · rw [inFlights, outstandings]; exact tracked.flights
  · rw [reads]; exact tracked.reads
  · rw [windowRight]; exact tracked.word

/-- An emitted segment is tracked. -/
theorem sent (tracked : s.Tracked emitted) {size : Nat} {syn fin : Bool}
    (inside : size ≤ s.stream.buffer.length) (small : size ≤ 1000) (fits : s.Fits)
    (positive : 0 < s.nextSeqnoAbsolute + (s.nextSegment size syn fin).lengthInSequenceSpace) :
    (s.sent size syn fin).Tracked (emitted ++ [s.nextSegment size syn fin]) := by
  -- The sum of what is in flight does not wrap around.
  have room : s.nextSeqnoAbsolute + 1003 < 2 ^ 64 := fits
  have length := nextSegment_length_le inside syn fin
  have total := tracked.base_add
  refine ⟨consecutive_sent tracked.consecutive positive, ?_, ?_, ?_, tracked.word⟩
  · obtain ⟨gone, split⟩ := tracked.queue
    exact ⟨gone, by rw [← split, TCPSender.sent, List.append_assoc]⟩
  · simp only [TCPSender.sent, occupied_append, occupied_cons, occupied_nil, Nat.add_zero,
      tracked.flights]
    exact add64_of_lt (by omega)
  · simp only [TCPSender.sent, ByteStream.taken, tracked.reads, toInt32_add, payloads_append,
      payloads_cons, payloads_nil, List.append_nil, nextSegment, List.length_append,
      List.length_take, Nat.min_eq_left inside, Nat.cast_add]

/-- Every way of emitting a segment keeps the sender tracked. -/
theorem emits (tracked : s.Tracked emitted) (fits : s.Fits) {seg : TCPSegment}
    (emits : Emits s seg s') : s'.Tracked (emitted ++ [seg]) := by
  -- All three ways take the bytes from the front of the buffer.
  cases emits with
  | turn isOpen =>
    exact (tracked.sent s.turnSize_le_length s.turnSize_le fits s.turn_positive).congr
      rfl rfl rfl rfl rfl rfl
  | probe closed idle waiting =>
    -- One byte.
    have inside := List.length_pos_iff.mpr waiting
    refine (tracked.sent inside (by omega) fits ?_).congr rfl rfl rfl rfl rfl rfl
    rw [nextSegment_length inside]
    omega
  | probeFin closed idle ready empty =>
    -- The FIN alone.
    refine (tracked.sent (Nat.zero_le _) (by omega) fits ?_).congr rfl rfl rfl rfl rfl rfl
    rw [nextSegment_length (Nat.zero_le _), if_pos rfl]
    omega

end Tracked

/-- Dropping acknowledged segments stops at the first that is not wholly acknowledged. -/
theorem dropAcked_spec {isn : WrappingInt32} {checkpoint : Nat} (low : checkpoint < 2 ^ 31)
    (ackabs : Nat) (segments : List TCPSegment) :
    ∀ {start stop : Nat}, Consecutive isn start segments stop → stop < 2 ^ 32 →
      ∃ gone kept, segments = gone ++ kept ∧
        dropAcked isn checkpoint ackabs segments (occupied segments) =
          .ok (kept, occupied kept) ∧
        (gone ≠ [] → start + occupied gone ≤ ackabs) ∧
        ∀ seg rest, kept = seg :: rest →
          ackabs < start + occupied gone + seg.lengthInSequenceSpace := by
  -- Induction on the queue, whose first segment starts where the part before it ends.
  induction segments with
  | nil =>
    intro start stop consecutive _
    exact ⟨[], [], rfl, rfl, by simp, by simp⟩
  | cons seg rest ih =>
    intro start stop consecutive near
    have total := consecutive.stop_eq
    obtain ⟨header, positive, tail⟩ := consecutive
    rw [occupied_cons] at total
    -- Positions this small unwrap to themselves.
    have first : unwrap seg.header.seqno isn checkpoint = .ok start := by
      rw [header, unwrap_low _ _ low, offsetFrom_wrap, Nat.mod_eq_of_lt (by omega)]
    have last : sub64 (add64 seg.lengthInSequenceSpace start) 1 =
        start + seg.lengthInSequenceSpace - 1 := by
      rw [add64_of_lt (by omega), sub64_of_le (by omega) (by omega)]
      omega
    rw [dropAcked, first, ok_bind]
    dsimp only
    rw [last, occupied_cons, sub64_of_le (by omega) (by omega), Nat.add_sub_cancel_left]
    -- The scan goes on only behind a segment that is wholly acknowledged.
    by_cases acked : start + seg.lengthInSequenceSpace - 1 < ackabs
    · -- The segment is dropped, and the scan goes on behind it.
      obtain ⟨gone, kept, split, drops, reached, stopped⟩ := ih tail near
      refine ⟨seg :: gone, kept, by rw [split]; rfl, by rw [if_pos acked, drops], ?_, ?_⟩
      · intro _
        rw [occupied_cons]
        by_cases one : gone = []
        · rw [one, occupied_nil]; omega
        · have := reached one
          omega
      · intro front others same
        have := stopped front others same
        rw [occupied_cons]; omega
    · -- The segment stays, and so does everything behind it.
      refine ⟨[], seg :: rest, rfl, by rw [if_neg acked, occupied_cons], by simp, ?_⟩
      rintro front others ⟨rfl, rfl⟩
      simp only [occupied_nil, Nat.add_zero]
      omega

/-- What remains of the queue is its end. -/
theorem dropAcked_suffix {isn : WrappingInt32} {checkpoint ackabs : Nat} :
    ∀ {segments : List TCPSegment} {inFlights : Nat} {left : List TCPSegment × Nat},
      dropAcked isn checkpoint ackabs segments inFlights = .ok left → left.1 <:+ segments := by
  -- Induction on the queue: segments are dropped from its front only.
  intro segments
  induction segments with
  | nil =>
    intro inFlights left drops
    rw [dropAcked, Except.ok.injEq] at drops
    rw [← drops]
  | cons seg rest ih =>
    intro inFlights left drops
    rw [dropAcked] at drops
    obtain ⟨first, _, drops⟩ := bind_eq_ok.mp drops
    dsimp only at drops
    split at drops
    · -- The segment is dropped.
      exact (ih drops).trans (List.suffix_cons seg rest)
    · -- The scan stops.
      rw [Except.ok.injEq] at drops
      rw [← drops]

/-- The right edge that an acknowledgment offers, in 64-bit arithmetic. -/
def offeredRight (ackabs windowSize : Nat) : Nat := sub64 (add64 ackabs windowSize) 1

/-- The right edge is only ever moved forwards. -/
theorem raised_eq_max (right offered : Nat) :
    (if decide (right < offered) = true then offered else right) = max right offered := by
  simp only [decide_eq_true_eq, max_def_lt]

/-- An acknowledgment is ignored, or it sets the window and drops segments from the queue. -/
theorem ackReceived_cases {ackno : WrappingInt32} {windowSize : UInt16}
    (received : s.ackReceived ackno windowSize = .ok s') :
    ∃ ackabs, unwrap ackno s.isn s.stream.bytesRead = .ok ackabs ∧
      ((s.nextSeqnoAbsolute < ackabs ∧ s' = s) ∨
        (ackabs ≤ s.nextSeqnoAbsolute ∧ ∃ kept inFlights, kept <:+ s.outstandings ∧
          s' = { s with
            window := windowSize.toNat
            windowRight := max s.windowRight (offeredRight ackabs windowSize.toNat) }.afterDrop
              (decide (s.windowRight < offeredRight ackabs windowSize.toNat)) kept inFlights)) := by
  rw [ackReceived] at received
  obtain ⟨ackabs, found, handled⟩ := bind_eq_ok.mp received
  refine ⟨ackabs, found, ?_⟩
  split at handled
  · -- It acknowledges what was never sent.
    rename_i beyond
    rw [pure_eq_ok, Except.ok.injEq] at handled
    exact .inl ⟨beyond, handled.symm⟩
  · -- The window is set, and the queue is scanned.
    rename_i within
    obtain ⟨⟨kept, inFlights⟩, drops, result⟩ := bind_eq_ok.mp handled
    dsimp only at result
    rw [pure_eq_ok, Except.ok.injEq] at result
    refine .inr ⟨by omega, kept, inFlights, dropAcked_suffix drops, ?_⟩
    rw [← result, ← raised_eq_max]
    rfl

/-- The sender after an accepted acknowledgment that left some segments in the queue. -/
def acknowledged (s : TCPSender) (ackabs windowSize : Nat) (kept : List TCPSegment) : TCPSender :=
  { s with
    window := windowSize
    windowRight := max s.windowRight (offeredRight ackabs windowSize) }.afterDrop
      (decide (s.windowRight < offeredRight ackabs windowSize)) kept (occupied kept)

/-- How an acknowledgment is handled while the read counter is below the sign bit. -/
theorem ackReceived_low (tracked : s.Tracked emitted) (low : s.stream.bytesRead < 2 ^ 31)
    (near : s.nextSeqnoAbsolute < 2 ^ 32) (ackno : WrappingInt32) (windowSize : UInt16) :
    (s.nextSeqnoAbsolute < offsetFrom ackno s.isn ∧ s.ackReceived ackno windowSize = .ok s) ∨
      (offsetFrom ackno s.isn ≤ s.nextSeqnoAbsolute ∧ ∃ gone kept,
        s.outstandings = gone ++ kept ∧
        s.ackReceived ackno windowSize =
          .ok (s.acknowledged (offsetFrom ackno s.isn) windowSize.toNat kept) ∧
        (gone ≠ [] → s.base + occupied gone ≤ offsetFrom ackno s.isn) ∧
        ∀ seg rest, kept = seg :: rest →
          offsetFrom ackno s.isn < s.base + occupied gone + seg.lengthInSequenceSpace) := by
  rw [ackReceived, unwrap_low _ _ low, ok_bind]
  by_cases beyond : s.nextSeqnoAbsolute < offsetFrom ackno s.isn
  · exact .inl ⟨beyond, by rw [if_pos beyond, pure_eq_ok]⟩
  · -- The positions of the queue are below one turn, so each segment unwraps to its place.
    obtain ⟨gone, kept, split, drops, reached, stopped⟩ :=
      dropAcked_spec low (offsetFrom ackno s.isn) s.outstandings
        tracked.consecutive_queue near
    rw [← tracked.flights] at drops
    refine .inr ⟨by omega, gone, kept, split, ?_, reached, stopped⟩
    rw [if_neg beyond, drops, ok_bind, acknowledged, ← raised_eq_max]
    rfl

/-- Once the read counter has passed the sign bit, acknowledgments are ignored or never end. -/
theorem ackReceived_high (high : 2 ^ 64 - 2 ^ 31 ≤ s.stream.bytesRead)
    (near : s.nextSeqnoAbsolute < 2 ^ 64 - 2 ^ 32) (ackno : WrappingInt32) (windowSize : UInt16) :
    s.ackReceived ackno windowSize =
      if 2 ^ 64 - 2 ^ 32 + offsetFrom ackno s.isn ≤ s.stream.bytesRead then .error .diverges
      else .ok s := by
  have word : s.stream.bytesRead < 2 ^ 64 := by
    simp only [ByteStream.bytesRead, ofInt]
    omega
  rw [ackReceived, unwrap_high _ _ high word]
  -- An ignored number is near the top of the range, beyond every position.
  split
  · rw [error_bind]
  · rw [ok_bind, if_pos (by omega), pure_eq_ok]

/-- An accepted acknowledgment keeps the sender tracked. -/
theorem Tracked.acknowledged (tracked : s.Tracked emitted) {gone kept : List TCPSegment}
    (split : s.outstandings = gone ++ kept) (ackabs windowSize : Nat) :
    (s.acknowledged ackabs windowSize kept).Tracked emitted := by
  refine ⟨tracked.consecutive, ?_, rfl, tracked.reads, ?_⟩
  · -- The queue stays an end of what was emitted.
    obtain ⟨before, whole⟩ := tracked.queue
    exact ⟨before ++ gone, by rw [← whole, split, List.append_assoc]; rfl⟩
  · have := tracked.word
    have := sub64_lt (add64 ackabs windowSize) 1
    simp only [TCPSender.acknowledged, afterDrop, offeredRight]
    omega

end TCPSender

end Sponge
