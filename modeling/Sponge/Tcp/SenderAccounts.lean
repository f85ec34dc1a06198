import Sponge.Tcp.SenderRuns

/-! What holds of a sender's counters however it is used, even after the end of its input. -/

namespace Sponge

/-- The highest absolute number that was acknowledged. -/
def highest (acks : List (Nat × Nat)) : Nat := acks.foldl (fun most ack => max most ack.1) 0

/-- Another acknowledgment can only raise the highest number. -/
theorem highest_concat (acks : List (Nat × Nat)) (ackabs window : Nat) :
    highest (acks ++ [(ackabs, window)]) = max (highest acks) ackabs := by
  simp [highest]

namespace TCPSender

/-- The counters of a sender agree with what it has emitted and with what is buffered. -/
structure Accounted (s : TCPSender) (emitted : List TCPSegment) : Prop where
  /-- The sender agrees with what it has emitted. -/
  tracked : s.Tracked emitted
  /-- The capacity of the stream is an `int`. -/
  capacity : toInt32 s.stream.capacity = s.stream.capacity
  /-- The write counter counts the bytes read and the bytes buffered. -/
  written : s.stream.written = toInt32 ((payloads emitted).length + s.stream.buffer.length : Nat)
  /-- There is at most one SYN. -/
  syns : emitted.countP (fun seg => seg.header.syn) ≤ 1
  /-- There are few FINs: those of the loop, of the current probe and of earlier ones. -/
  fins : emitted.countP (fun seg => seg.header.fin) ≤ 2 + s.finSent.toNat + s.probing.toNat
  /-- Below the sign bit of the counters, an earlier probe excludes the current one. -/
  lowFins : (payloads emitted).length < 2 ^ 31 →
    emitted.countP (fun seg => seg.header.fin) ≤ 2 + s.finSent.toNat

/-- A new sender has no bytes to account for. -/
theorem accounted_new (capacity : Nat) (retxTimeout : UInt16) (isn : WrappingInt32) :
    (new capacity retxTimeout isn).Accounted [] := by
  refine ⟨tracked_new capacity retxTimeout isn, ?_, ?_, by simp, by simp, by simp⟩
  · exact toInt32_idem _
  · simp [new, ByteStream.new, toInt32]

namespace Accounted

variable {s s' : TCPSender} {emitted : List TCPSegment}

/-- The positions are those of the payload, the SYN and the FINs. -/
theorem next_eq (accounted : s.Accounted emitted) :
    s.nextSeqnoAbsolute = (payloads emitted).length +
      emitted.countP (fun seg => seg.header.syn) + emitted.countP (fun seg => seg.header.fin) := by
  rw [accounted.tracked.next_eq, occupied_eq]

/-- Few positions are not bytes. -/
theorem next_le (accounted : s.Accounted emitted) :
    s.nextSeqnoAbsolute ≤ (payloads emitted).length + 5 := by
  -- One SYN, and four FINs at most.
  have next := accounted.next_eq
  have syns := accounted.syns
  have fins := accounted.fins
  have := Bool.toNat_le s.finSent
  have := Bool.toNat_le s.probing
  omega

/-- Below the sign bit of the counters, even fewer positions are not bytes. -/
theorem next_le_low (accounted : s.Accounted emitted)
    (low : (payloads emitted).length < 2 ^ 31) :
    s.nextSeqnoAbsolute ≤ (payloads emitted).length + 4 := by
  -- One FIN less, below the sign bit.
  have next := accounted.next_eq
  have syns := accounted.syns
  have fins := accounted.lowFins low
  have := Bool.toNat_le s.finSent
  omega

/-- The read counter is exact below the sign bit. -/
theorem bytesRead_low (accounted : s.Accounted emitted)
    (low : (payloads emitted).length < 2 ^ 31) :
    s.stream.bytesRead = (payloads emitted).length := by
  rw [ByteStream.bytesRead, accounted.tracked.reads]
  exact ofInt_toInt32 low

/-- Past the sign bit, the read counter is near the top of the range. -/
theorem bytesRead_high (accounted : s.Accounted emitted)
    (high : 2 ^ 31 ≤ (payloads emitted).length) (word : (payloads emitted).length < 2 ^ 32) :
    s.stream.bytesRead = 2 ^ 64 - 2 ^ 32 + (payloads emitted).length := by
  rw [ByteStream.bytesRead, accounted.tracked.reads]
  exact ofInt_toInt32_high high word

/-- With nothing buffered, the write counter agrees with the read counter. -/
theorem bytesWritten_low (accounted : s.Accounted emitted)
    (low : (payloads emitted).length < 2 ^ 31) (empty : s.stream.buffer = []) :
    s.stream.bytesWritten = (payloads emitted).length := by
  rw [ByteStream.bytesWritten, accounted.written, empty]
  exact ofInt_toInt32 low

/-- The facts carry over to a sender that differs in other fields only. -/
theorem congr (accounted : s.Accounted emitted) (tracked : s'.Tracked emitted)
    (stream : s'.stream = s.stream) (finSent : s'.finSent = s.finSent)
    (probing : s'.probing = s.probing) : s'.Accounted emitted := by
  -- The account reads the stream and the two flags only.
  refine ⟨tracked, ?_, ?_, accounted.syns, ?_, ?_⟩
  · rw [stream]; exact accounted.capacity
  · rw [stream]; exact accounted.written
  · rw [finSent, probing]; exact accounted.fins
  · rw [finSent]; exact accounted.lowFins

/-- A write that fits a string keeps the account. -/
theorem write (accounted : s.Accounted emitted) (data : Bytes)
    (short : (s.stream.write data).1.buffer.length < 2 ^ 63) :
    Accounted { s with stream := (s.stream.write data).1 } emitted := by
  -- The capacity is an `int`, so the count of the write is not negative.
  obtain ⟨count, _, wrote⟩ := ByteStream.write_of_int accounted.capacity data short
  rw [wrote]
  refine ⟨accounted.tracked.congr rfl rfl rfl rfl rfl rfl, accounted.capacity, ?_, accounted.syns,
    accounted.fins, accounted.lowFins⟩
  simp only [ByteStream.appended, accounted.written, toInt32_add, List.length_append, Nat.cast_add,
    Int.add_assoc]

/-- Taking bytes from the buffer into a payload keeps the count of written bytes. -/
theorem written_sent (accounted : s.Accounted emitted) {size : Nat} {syn fin : Bool}
    (inside : size ≤ s.stream.buffer.length) :
    s.stream.written = toInt32 ((payloads (emitted ++ [s.nextSegment size syn fin])).length +
      (s.stream.taken size).buffer.length : Nat) := by
  -- The bytes move from the buffer to the payloads.
  rw [accounted.written]
  congr 2
  simp only [payloads_append, payloads_cons, payloads_nil, List.append_nil, List.length_append,
    nextSegment, ByteStream.taken, List.length_take, List.length_drop]
  omega

/-- A segment that carries no SYN leaves the number of SYNs as it is. -/
theorem syns_sent (accounted : s.Accounted emitted) {size : Nat} {syn fin : Bool}
    (first : syn = true → s.nextSeqnoAbsolute = 0) :
    (emitted ++ [s.nextSegment size syn fin]).countP (fun seg => seg.header.syn) ≤ 1 := by
  have syns := accounted.syns
  have next := accounted.next_eq
  cases carries : syn with
  | false => simpa [List.countP_append, nextSegment] using syns
  | true =>
    -- At position zero nothing has been emitted.
    have zero := first carries
    have none : emitted.countP (fun seg => seg.header.syn) = 0 := by omega
    rw [List.countP_append, none]
    simp [nextSegment]

/-- Every way of emitting a segment keeps the account. -/
theorem emits (accounted : s.Accounted emitted) (fits : s.Fits) {seg : TCPSegment}
    (emits : Emits s seg s') : s'.Accounted (emitted ++ [seg]) := by
  have tracked := accounted.tracked.emits fits emits
  have fins := accounted.fins
  cases emits with
  | turn isOpen =>
    have turn := turn_of_open isOpen accounted.tracked.word
    have carries : (emitted ++ [s.turnSegment]).countP (fun seg => seg.header.fin) =
        emitted.countP (fun seg => seg.header.fin) + s.turnFin.toNat := by
      -- The FIN of the turn, if there is one.
      cases s.turnFin.eq_false_or_eq_true with
      | inl fin => simp [List.countP_append, turnSegment, nextSegment, fin]
      | inr fin => simp [List.countP_append, turnSegment, nextSegment, fin]
    -- The loop sends the FIN at most once.
    have flag : (s.finSent || s.turnFin).toNat = s.finSent.toNat + s.turnFin.toNat := by
      cases final : s.turnFin with
      | false => simp
      | true => simp [(turn.fin final).2.2]
    refine ⟨tracked, accounted.capacity, accounted.written_sent s.turnSize_le_length,
      accounted.syns_sent (by simp [turnSyn]), ?_, ?_⟩
    · -- The FINs of the loop and those of the probes.
      rw [carries]
      simp only [turned, sent, flag]
      omega
    · -- Below the sign bit.
      intro low
      rw [payloads_append, List.length_append] at low
      have := accounted.lowFins (by omega)
      rw [carries]
      simp only [turned, sent, flag]
      omega
  | probe closed idle waiting =>
    -- A probe with a byte carries no FIN.
    have carries : (emitted ++ [s.nextSegment 1 false false]).countP
        (fun seg => seg.header.fin) = emitted.countP (fun seg => seg.header.fin) := by
      simp [List.countP_append, nextSegment]
    refine ⟨tracked, accounted.capacity,
      accounted.written_sent (List.length_pos_iff.mpr waiting), accounted.syns_sent (by simp),
      ?_, ?_⟩
    · rw [carries]
      simp only [sent, Bool.toNat_true]
      have := Bool.toNat_le s.probing
      omega
    · intro low
      rw [payloads_append, List.length_append] at low
      rw [carries]
      exact accounted.lowFins (by omega)
  | probeFin closed idle ready empty =>
    -- A probe with the FIN is made once while the flag is set.
    have carries : (emitted ++ [s.nextSegment 0 false true]).countP
        (fun seg => seg.header.fin) = emitted.countP (fun seg => seg.header.fin) + 1 := by
      simp [List.countP_append, nextSegment]
    refine ⟨tracked, accounted.capacity, accounted.written_sent (Nat.zero_le _),
      accounted.syns_sent (by simp), ?_, ?_⟩
    · rw [carries]
      rw [idle, Bool.toNat_false] at fins
      simp only [sent, Bool.toNat_true]
      omega
    · -- A sender that lacks only the FIN has sent at most one before.
      intro low
      rw [payloads_append, List.length_append] at low
      have next := accounted.next_eq
      simp only [readyToFin, Bool.and_eq_true, decide_eq_true_eq,
        accounted.bytesWritten_low (by omega) empty] at ready
      rw [add64_of_lt (by omega)] at ready
      rw [carries]
      simp only [sent]
      omega

end Accounted

end TCPSender

end Sponge
