import Sponge.Tcp.SenderAccounts
import Sponge.Tcp.FinLast

/-! A sender inside a connection never stalls, whatever its writer does after the end of the input. -/

namespace Sponge

namespace TCPSender

/-- The counters of a sender let it make progress, even when bytes are written behind the FIN. -/
structure Productive (s : TCPSender) (accepted : Bytes) (emitted : List TCPSegment) : Prop where
  /-- The counters agree with what was emitted and with what is buffered. -/
  accounted : s.Accounted emitted
  /-- The accepted bytes are in the emitted payloads and the buffer. -/
  content : payloads emitted ++ s.stream.buffer = accepted
  /-- There are few enough for the counters. -/
  small : accepted.length < 2 ^ 31
  /-- Every emitted segment occupies a position. -/
  positive : ∀ seg ∈ emitted, 0 < seg.lengthInSequenceSpace
  /-- The SYN is the first position. -/
  syn : 0 < s.nextSeqnoAbsolute → 0 < emitted.countP (fun seg => seg.header.syn)
  /-- A FIN that was sent from the loop is among the emitted segments. -/
  fin : s.finSent = true → 0 < emitted.countP (fun seg => seg.header.fin)
  /-- The window only closes once the SYN is sent. -/
  started : s.window = 0 → 0 < s.nextSeqnoAbsolute

/-- A new sender is productive. -/
theorem productive_new (capacity : Nat) (retxTimeout : UInt16) (isn : WrappingInt32) :
    (new capacity retxTimeout isn).Productive [] [] := by
  refine ⟨accounted_new capacity retxTimeout isn, rfl, by simp, by simp, ?_, ?_, ?_⟩
  · simp [new]
  · simp [new]
  · simp [new]

namespace Productive

variable {s s' : TCPSender} {accepted : Bytes} {emitted : List TCPSegment}

/-- The payloads and the buffer together are few. -/
theorem length (productive : s.Productive accepted emitted) :
    (payloads emitted).length + s.stream.buffer.length < 2 ^ 31 := by
  rw [← List.length_append, productive.content]
  exact productive.small

/-- The arithmetic of the sender is exact. -/
theorem steady (productive : s.Productive accepted emitted) : s.Steady := by
  have next := productive.accounted.next_le
  have small := productive.length
  exact ⟨by rw [Fits]; omega, productive.accounted.tracked.counted⟩

/-- A sender that lacks only the FIN has not sent it from the loop. -/
theorem unfinished (productive : s.Productive accepted emitted) : s.Unfinished := by
  intro empty started ready
  by_contra flagged
  -- The SYN and a FIN would leave no position below the one that the FIN needs.
  have syns := productive.syn started
  have fins := productive.fin (by simpa using flagged)
  have next := productive.accounted.next_eq
  have small := productive.length
  simp only [readyToFin, Bool.and_eq_true, decide_eq_true_eq,
    productive.accounted.bytesWritten_low (by omega) empty] at ready
  rw [add64_of_lt (by omega)] at ready
  omega

/-- Every way of emitting a segment keeps the sender productive. -/
theorem emits (productive : s.Productive accepted emitted) {seg : TCPSegment}
    (emits : Emits s seg s') : s'.Productive accepted (emitted ++ [seg]) := by
  have steady := productive.steady
  have accounted := productive.accounted.emits steady.fits emits
  have content := (emits.content emitted).trans productive.content
  -- Flags that were sent stay sent, and the new segment may add its own.
  have more : ∀ flag : TCPSegment → Bool,
      emitted.countP flag ≤ (emitted ++ [seg]).countP flag := fun flag => by
    rw [List.countP_append]
    exact Nat.le_add_right _ _
  have fresh : ∀ flag : TCPSegment → Bool, flag seg = true →
      0 < (emitted ++ [seg]).countP flag := fun flag carries => by
    rw [List.countP_append, List.countP_singleton, if_pos carries]
    exact Nat.succ_pos _
  have positive : 0 < seg.lengthInSequenceSpace →
      ∀ other ∈ emitted ++ [seg], 0 < other.lengthInSequenceSpace := by
    intro occupies other member
    rcases List.mem_append.mp member with old | new
    · exact productive.positive other old
    · rw [List.mem_singleton.mp new]
      exact occupies
  cases emits with
  | turn isOpen =>
    refine ⟨accounted, content, productive.small, positive ?_, fun _ => ?_, fun flagged => ?_,
      fun _ => s.turn_positive⟩
    · -- A turn of the loop sends the SYN if none was sent.
      exact turn_occupies productive.accounted.tracked.word productive.unfinished isOpen
    · -- The first segment has the SYN, and later ones leave it sent.
      rcases Nat.eq_zero_or_pos s.nextSeqnoAbsolute with zero | started
      · exact fresh _ (by simp [turnSegment, nextSegment, turnSyn, zero])
      · exact (productive.syn started).trans_le (more _)
    · -- The FIN was sent before, or goes with this segment.
      rcases Bool.or_eq_true_iff.mp flagged with before | now
      · exact (productive.fin before).trans_le (more _)
      · exact fresh _ now
  | probe closed idle waiting =>
    -- A probe carries a byte.
    have inside := List.length_pos_iff.mpr waiting
    have started := productive.started closed
    refine ⟨accounted, content, productive.small, positive ?_,
      fun _ => (productive.syn started).trans_le (more _),
      fun flagged => (productive.fin flagged).trans_le (more _),
      fun _ => started.trans_le (Nat.le_add_right _ _)⟩
    rw [nextSegment_length inside]
    omega
  | probeFin closed idle ready empty =>
    -- A probe without a byte carries the FIN.
    have started := productive.started closed
    refine ⟨accounted, content, productive.small, positive ?_,
      fun _ => (productive.syn started).trans_le (more _),
      fun flagged => (productive.fin flagged).trans_le (more _),
      fun _ => started.trans_le (Nat.le_add_right _ _)⟩
    rw [nextSegment_length (Nat.zero_le _)]
    simp

/-- Being productive lets the window be filled. -/
theorem fills (accepted : Bytes) : Fills fun s emitted => s.Productive accepted emitted where
  steady productive := productive.steady
  word productive := productive.accounted.tracked.word
  unfinished productive := productive.unfinished
  emits productive emits := productive.emits emits

/-- An acknowledgment after the SYN returns, and keeps the sender productive. -/
theorem ackReceived (productive : s.Productive accepted emitted)
    (sentSyn : 0 < s.nextSeqnoAbsolute) (ackno : WrappingInt32) (windowSize : UInt16) :
    ∃ s', s.ackReceived ackno windowSize = .ok s' ∧ s'.segmentsOut = s.segmentsOut ∧
      s'.Productive accepted emitted := by
  have accounted := productive.accounted
  have small := productive.length
  have next := accounted.next_le
  rcases ackReceived_low accounted.tracked (by rw [accounted.bytesRead_low] <;> omega) (by omega)
    ackno windowSize with ⟨_, ignored⟩ | ⟨_, gone, kept, split, received, _⟩
  · exact ⟨s, ignored, rfl, productive⟩
  · -- A probe that was answered leaves no trace, as the counters are low.
    refine ⟨_, received, rfl, ⟨accounted.tracked.acknowledged split _ _, accounted.capacity,
      accounted.written, accounted.syns, ?_, accounted.lowFins⟩, productive.content,
      productive.small, productive.positive, productive.syn, productive.fin, fun _ => sentSyn⟩
    have fins := accounted.lowFins (by omega)
    exact fins.trans (Nat.le_add_right _ _)

/-- The facts carry over to a sender that differs in its timer and its outbound queue only. -/
theorem congr (productive : s.Productive accepted emitted) (segmentsOut : List TCPSegment)
    (timePassed rto recount : Nat) :
    Productive { s with
      segmentsOut := segmentsOut
      timePassed := timePassed
      rto := rto
      recount := recount } accepted emitted :=
  ⟨productive.accounted.congr (productive.accounted.tracked.congr rfl rfl rfl rfl rfl rfl) rfl rfl
    rfl, productive.content, productive.small, productive.positive, productive.syn, productive.fin,
    productive.started⟩

/-- An error on the stream keeps the sender productive. -/
theorem setError (productive : s.Productive accepted emitted) :
    Productive { s with stream := s.stream.setError } accepted emitted :=
  have accounted := productive.accounted
  ⟨⟨accounted.tracked.congr rfl rfl rfl rfl rfl rfl, accounted.capacity, accounted.written,
    accounted.syns, accounted.fins, accounted.lowFins⟩, productive.content, productive.small,
    productive.positive, productive.syn, productive.fin, productive.started⟩

/-- The end of the input keeps the sender productive. -/
theorem endInput (productive : s.Productive accepted emitted) :
    Productive { s with stream := s.stream.endInput } accepted emitted :=
  have accounted := productive.accounted
  ⟨⟨accounted.tracked.congr rfl rfl rfl rfl rfl rfl, accounted.capacity, accounted.written,
    accounted.syns, accounted.fins, accounted.lowFins⟩, productive.content, productive.small,
    productive.positive, productive.syn, productive.fin, productive.started⟩

/-- A write keeps the sender productive, before the FIN or behind it. -/
theorem write (productive : s.Productive accepted emitted) (data : Bytes)
    (short : (accepted ++ data.take (s.stream.write data).2).length < 2 ^ 31) :
    Productive { s with stream := (s.stream.write data).1 }
      (accepted ++ data.take (s.stream.write data).2) emitted := by
  -- What is buffered is part of what was accepted.
  have buffer : (s.stream.write data).1.buffer.length < 2 ^ 31 := by
    rw [← productive.content] at short
    rw [ByteStream.write_buffer]
    simp only [List.length_append] at short ⊢
    omega
  refine ⟨productive.accounted.write data (by omega), ?_, short, productive.positive,
    productive.syn, productive.fin, productive.started⟩
  rw [← productive.content, List.append_assoc]
  exact congrArg _ (ByteStream.write_buffer _ _)

/-- Being productive is kept by every operation of a sender. -/
theorem rule (accepted : Bytes) : SenderRule fun s sent => s.Productive accepted sent where
  fill := by
    intro s sent productive
    obtain ⟨s', new, filled, out, _, kept⟩ := (fills accepted).fillWindow productive
    exact ⟨s', new, filled, out, kept⟩
  ack productive sentSyn ackno windowSize := productive.ackReceived sentSyn ackno windowSize
  quiet productive := productive.congr
  error productive := productive.setError
  queue productive _ member := productive.accounted.tracked.queue.subset member
  flights productive := productive.accounted.tracked.flights
  positive productive := productive.positive

end Productive

end TCPSender

namespace ConnectionRun

/-- The sender of a run is productive, and the history of the run agrees with it. -/
def Produces (t : ConnectionRun) (sent : List TCPSegment) : Prop :=
  t.connection.sender.Productive t.accepted sent ∧ t.Recorded sent

variable {t next : ConnectionRun} {call : ConnectionCall} {sent : List TCPSegment}

/-- A call keeps the sender productive as long as few bytes were accepted. -/
theorem Produces.step (produces : t.Produces sent) (steps : t.step call = .ok next)
    (few : next.accepted.length < 2 ^ 31) : ∃ new, next.Produces (sent ++ new) := by
  obtain ⟨productive, recorded⟩ := produces
  have after : next.accepted = t.accepted ++ t.connection.acceptedBy call := by
    -- What a call accepts is appended.
    obtain ⟨c, _, rfl⟩ := step_ok.mp steps
    rfl
  rw [after] at few
  -- Only a write adds to what was accepted.
  have same : t.connection.sender.Productive (t.accepted ++ []) sent := by rwa [List.append_nil]
  have prepared : (t.connection.prepared call).Productive
      (t.accepted ++ t.connection.acceptedBy call) sent := by
    cases call with
    | write data => exact productive.write data few
    | endInputStream => exact same.endInput
    | connect | tick ms | segment seg | reader call => exact same
  obtain ⟨new, kept, recorded⟩ := (TCPSender.Productive.rule _).perform prepared recorded steps
  exact ⟨new, after ▸ kept, recorded⟩

end ConnectionRun

end Sponge
