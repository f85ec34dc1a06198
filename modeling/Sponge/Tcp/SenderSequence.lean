import Sponge.Tcp.SenderRuns

/-! The emitted segments partition the sequence space, and the queue is its unacknowledged end. -/

namespace Sponge

/-- No segment carries FIN. -/
def NoFin (segments : List TCPSegment) : Prop := ∀ seg ∈ segments, seg.header.fin = false

namespace TCPSender

/-- The invariant of a sender whose writer stops at the end and whose peer waits for the SYN. -/
structure Orderly (s : TCPSender) (accepted : Bytes) (emitted : List TCPSegment) : Prop where
  /-- The sender agrees with what it has emitted. -/
  tracked : s.Tracked emitted
  /-- The accepted bytes are in the emitted payloads and the buffer. -/
  content : payloads emitted ++ s.stream.buffer = accepted
  /-- The write counter counts them. -/
  written : s.stream.written = toInt32 accepted.length
  /-- There are few enough for the counter. -/
  small : accepted.length < 2 ^ 31
  /-- Every emitted segment occupies a position. -/
  positive : ∀ seg ∈ emitted, 0 < seg.lengthInSequenceSpace
  /-- The first segment carries SYN, and no other. -/
  syn : ∀ before seg after, emitted = before ++ seg :: after →
    (seg.header.syn = true ↔ before = [])
  /-- A FIN is on the last segment of a stream that has ended. -/
  fin : NoFin emitted ∨ ∃ before last, emitted = before ++ [last] ∧ NoFin before ∧
    last.header.fin = true ∧ s.stream.ended = true ∧ s.stream.buffer = []
  /-- A FIN that was sent is among the emitted segments. -/
  finSent : s.finSent = true → ¬ NoFin emitted
  /-- The window only closes once the SYN is sent. -/
  started : s.window = 0 → 0 < s.nextSeqnoAbsolute

variable {s s' : TCPSender} {accepted : Bytes} {emitted : List TCPSegment}

/-- A new sender is orderly. -/
theorem orderly_new (capacity : Nat) (retxTimeout : UInt16) (isn : WrappingInt32) :
    (new capacity retxTimeout isn).Orderly [] [] := by
  -- Nothing was emitted, so all but the counters holds trivially.
  refine ⟨tracked_new capacity retxTimeout isn, rfl, ?_, by simp, by simp, by simp, .inl ?_, ?_, ?_⟩
  · simp [new, ByteStream.new, toInt32]
  · simp [NoFin]
  · simp [new]
  · simp [new]

/-- The number of turns that the loop can take: one for every byte, the SYN and the FIN. -/
def Orderly.pending (s : TCPSender) : Nat :=
  s.stream.buffer.length + (decide (s.nextSeqnoAbsolute = 0)).toNat + (!s.finSent).toNat

/-- A sender that lacks only the FIN has not sent it from the loop. -/
def Unfinished (s : TCPSender) : Prop :=
  s.stream.buffer = [] → 0 < s.nextSeqnoAbsolute → s.readyToFin = true → s.finSent = false

/-- Every turn of the loop sends the SYN, a byte or the FIN. -/
theorem pending_turned (word : s.windowRight < 2 ^ 64) (unfinished : s.Unfinished)
    (isOpen : s.windowFilled = false) : Orderly.pending s.turned < Orderly.pending s := by
  -- What is pending is the SYN, the bytes of the buffer and the FIN.
  have turn := turn_of_open isOpen word
  obtain ⟨_, more⟩ := windowFilled_eq_false.mp isOpen
  have size := s.turnSize_le_length
  have started : s.turned.nextSeqnoAbsolute ≠ 0 := Nat.pos_iff_ne_zero.mp s.turn_positive
  have flag : (!(s.finSent || s.turnFin)).toNat ≤ (!s.finSent).toNat := by
    cases s.finSent <;> cases s.turnFin <;> decide
  have after : Orderly.pending s.turned =
      s.stream.buffer.length - s.turnSize + (!(s.finSent || s.turnFin)).toNat := by
    rw [Orderly.pending, decide_eq_false started]
    simp [turned, TCPSender.sent, ByteStream.taken]
  rw [after, Orderly.pending]
  by_cases zero : s.nextSeqnoAbsolute = 0
  · -- The turn sends the SYN, and what is behind it does not grow.
    rw [decide_eq_true zero, Bool.toNat_true]
    omega
  · rw [decide_eq_false zero, Bool.toNat_false]
    by_cases empty : s.stream.buffer = []
    · -- Only the FIN is left, so it is sent now.
      have ready := (more (by omega)).resolve_left (by simp [empty])
      have unsent := unfinished empty (by omega) ready
      have fin := turn.fin_of_ready empty (by omega) ready unsent
      simp [unsent, fin]
    · -- The buffer is not empty, and the window has room for a byte.
      have := turn.size_pos (by omega) empty
      omega

/-- A turn of the loop emits a segment that occupies a position. -/
theorem turn_occupies (word : s.windowRight < 2 ^ 64) (unfinished : s.Unfinished)
    (isOpen : s.windowFilled = false) : 0 < s.turnSegment.lengthInSequenceSpace := by
  have turn := turn_of_open isOpen word
  obtain ⟨_, more⟩ := windowFilled_eq_false.mp isOpen
  rw [turnSegment, nextSegment_length s.turnSize_le_length]
  -- The SYN comes first; after it there is a byte to send, or else the FIN is due.
  by_cases zero : s.nextSeqnoAbsolute = 0
  · simp [turnSyn, zero]
  · by_cases empty : s.stream.buffer = []
    · have ready := (more (by omega)).resolve_left (by simp [empty])
      simp [turn.fin_of_ready empty (by omega) ready (unfinished empty (by omega) ready)]
    · have := turn.size_pos (by omega) empty
      omega

namespace Orderly

/-- The write counter is exact. -/
theorem bytesWritten (orderly : s.Orderly accepted emitted) :
    s.stream.bytesWritten = accepted.length := by
  rw [ByteStream.bytesWritten, orderly.written]
  exact ofInt_toInt32 orderly.small

/-- The read counter is exact. -/
theorem bytesRead (orderly : s.Orderly accepted emitted) :
    s.stream.bytesRead = (payloads emitted).length := by
  -- Fewer than `2 ^ 31` bytes were accepted, so the counter has not wrapped.
  have small := orderly.small
  rw [← orderly.content, List.length_append] at small
  rw [ByteStream.bytesRead, orderly.tracked.reads]
  exact ofInt_toInt32 (by omega)

/-- There is one SYN as soon as anything has been emitted. -/
theorem syn_count (orderly : s.Orderly accepted emitted) {before : List TCPSegment}
    (early : before <+: emitted) :
    before.countP (fun seg => seg.header.syn) = if before = [] then 0 else 1 := by
  obtain ⟨rest, whole⟩ := early
  cases before with
  | nil => rfl
  | cons first more =>
    -- Only the first segment is emitted at position zero, where the SYN belongs.
    have others : more.countP (fun seg => seg.header.syn) = 0 := by
      rw [List.countP_eq_zero]
      intro seg member
      obtain ⟨front, back, split⟩ := List.append_of_mem member
      have flag := orderly.syn (first :: front) seg (back ++ rest) (by simp [← whole, split])
      simp only [reduceCtorEq, iff_false] at flag
      exact flag
    have flag := (orderly.syn [] first (more ++ rest) (by rw [← whole]; rfl)).mpr rfl
    simp [others, flag]

/-- An emitted segment does not acknowledge anything by itself. -/
theorem plain (orderly : s.Orderly accepted emitted) {seg : TCPSegment} (member : seg ∈ emitted) :
    seg.header.ack = false := by
  obtain ⟨before, after, split⟩ := List.append_of_mem member
  rw [orderly.tracked.consecutive.header split]

/-- Segments without FIN occupy the positions of the SYN and the payload. -/
theorem occupied_of_noFin (orderly : s.Orderly accepted emitted) {before : List TCPSegment}
    (early : before <+: emitted) (none : NoFin before) :
    occupied before = (payloads before).length + if before = [] then 0 else 1 := by
  have count : before.countP (fun seg => seg.header.fin) = 0 := by
    -- Without FIN only the SYN counts beside the payload.
    rw [List.countP_eq_zero]
    intro seg member
    simp [none seg member]
  rw [occupied_eq, count, orderly.syn_count early, Nat.add_zero]

/-- No segment before another carries FIN. -/
theorem noFin_before (orderly : s.Orderly accepted emitted) {before after : List TCPSegment}
    {seg : TCPSegment} (split : emitted = before ++ seg :: after) : NoFin before := by
  intro other member
  rcases orderly.fin with none | ⟨front, last, whole, none, _⟩
  · exact none other (by simp [split, member])
  · refine none other ?_
    -- The last segment is not among those before another.
    have early : before <+: emitted := ⟨seg :: after, split.symm⟩
    have others : front <+: emitted := ⟨[last], whole.symm⟩
    have sizes := congrArg List.length (split.symm.trans whole)
    simp only [List.length_append, List.length_cons, List.length_nil] at sizes
    exact (List.prefix_of_prefix_length_le early others (by omega)).subset member

/-- A segment that carries FIN is the last. -/
theorem last_of_fin (orderly : s.Orderly accepted emitted) {before after : List TCPSegment}
    {seg : TCPSegment} (split : emitted = before ++ seg :: after)
    (carries : seg.header.fin = true) : after = [] := by
  -- Whatever has a segment behind it carries no FIN.
  cases after with
  | nil => rfl
  | cons next rest =>
    have none : NoFin (before ++ [seg]) := orderly.noFin_before (by rw [split, List.append_cons])
    have := none seg (by simp)
    simp [carries] at this

/-- Without a FIN, the positions are those of the SYN and the payload. -/
theorem next_of_noFin (orderly : s.Orderly accepted emitted) (none : NoFin emitted) :
    s.nextSeqnoAbsolute = (payloads emitted).length + if emitted = [] then 0 else 1 := by
  rw [orderly.tracked.next_eq, orderly.occupied_of_noFin (List.prefix_refl _) none]

/-- With the FIN, every accepted byte has its position, and so do SYN and FIN. -/
theorem next_of_fin (orderly : s.Orderly accepted emitted) (some : ¬ NoFin emitted) :
    s.nextSeqnoAbsolute = accepted.length + 2 ∧ s.stream.ended = true ∧ s.stream.buffer = [] := by
  rcases orderly.fin with none | ⟨before, last, split, none, carries, ended, empty⟩
  · -- A FIN was sent, so the buffer was empty and the payloads are all that was accepted.
    exact absurd none some
  · have content := orderly.content
    rw [empty, List.append_nil] at content
    have syns := orderly.syn_count (List.prefix_refl _)
    -- The FIN is on the last segment, and on no other.
    have fins : emitted.countP (fun seg => seg.header.fin) = 1 := by
      have others : before.countP (fun seg => seg.header.fin) = 0 := by
        rw [List.countP_eq_zero]
        intro seg member
        simp [none seg member]
      simp [split, List.countP_append, others, carries]
    refine ⟨?_, ended, empty⟩
    rw [orderly.tracked.next_eq, occupied_eq, content, syns, fins, if_neg (by simp [split])]

/-- At most two positions are not bytes. -/
theorem next_le (orderly : s.Orderly accepted emitted) :
    s.nextSeqnoAbsolute ≤ accepted.length + 2 := by
  by_cases none : NoFin emitted
  · -- Without FIN the positions are the SYN and the bytes emitted.
    have next := orderly.next_of_noFin none
    have content := congrArg List.length orderly.content
    rw [List.length_append] at content
    split at next <;> omega
  · -- With FIN there are exactly two more positions than bytes.
    exact Nat.le_of_eq (orderly.next_of_fin none).1

/-- The arithmetic of the sender is exact. -/
theorem steady (orderly : s.Orderly accepted emitted) : s.Steady := by
  have next := orderly.next_le
  have small := orderly.small
  exact ⟨by rw [Fits]; omega, orderly.tracked.counted⟩

/-- A sender that is ready for the FIN has not sent it. -/
theorem noFin_of_ready (orderly : s.Orderly accepted emitted) (ready : s.readyToFin = true) :
    NoFin emitted := by
  -- Ready means that the position of the FIN is the next, but with a FIN it has been passed.
  by_contra some
  have next := (orderly.next_of_fin some).1
  have small := orderly.small
  simp only [readyToFin, Bool.and_eq_true, decide_eq_true_eq, orderly.bytesWritten] at ready
  rw [add64_of_lt (by omega)] at ready
  omega

/-- A sender whose segments lack the FIN has not flagged it. -/
theorem unsent_of_noFin (orderly : s.Orderly accepted emitted) (none : NoFin emitted) :
    s.finSent = false := by
  by_contra flagged
  exact orderly.finSent (by simpa using flagged) none

/-- A sender with buffered bytes has not sent the FIN. -/
theorem noFin_of_waiting (orderly : s.Orderly accepted emitted) (waiting : s.stream.buffer ≠ []) :
    NoFin emitted := by
  by_contra some
  exact waiting (orderly.next_of_fin some).2.2

/-- A sender that has emitted nothing has not sent the FIN. -/
theorem noFin_of_zero (orderly : s.Orderly accepted emitted) (zero : s.nextSeqnoAbsolute = 0) :
    NoFin emitted := by
  by_contra some
  have next := (orderly.next_of_fin some).1
  omega

/-- After the FIN the window counts as filled, so where it is open none was sent. -/
theorem noFin_of_open (orderly : s.Orderly accepted emitted) (isOpen : s.windowFilled = false) :
    NoFin emitted := by
  obtain ⟨_, more⟩ := windowFilled_eq_false.mp isOpen
  -- Nothing was sent yet, or there is a byte or a FIN left to send.
  rcases Nat.eq_zero_or_pos s.nextSeqnoAbsolute with zero | started
  · exact orderly.noFin_of_zero zero
  · rcases more started with waiting | ready
    · exact orderly.noFin_of_waiting waiting
    · exact orderly.noFin_of_ready ready

/-- Nothing has been emitted exactly as long as no position is used. -/
theorem emitted_nil_iff (orderly : s.Orderly accepted emitted) :
    emitted = [] ↔ s.nextSeqnoAbsolute = 0 := by
  rw [orderly.tracked.next_eq]
  constructor
  · rintro rfl
    rfl
  · intro zero
    -- Every emitted segment occupies a position.
    cases emitted with
    | nil => rfl
    | cons first rest =>
      have := orderly.positive first (by simp)
      rw [occupied_cons] at zero
      omega

/-- An emitted segment keeps the sender orderly. -/
theorem sent (orderly : s.Orderly accepted emitted) {size : Nat} {syn fin finSent probing : Bool}
    (inside : size ≤ s.stream.buffer.length) (small : size ≤ 1000) (none : NoFin emitted)
    (positive : 0 < (s.nextSegment size syn fin).lengthInSequenceSpace)
    (first : syn = true ↔ s.nextSeqnoAbsolute = 0)
    (final : fin = true → s.stream.ended = true ∧ size = s.stream.buffer.length)
    (flag : finSent = true → fin = true) :
    Orderly { s.sent size syn fin with finSent := finSent, probing := probing } accepted
      (emitted ++ [s.nextSegment size syn fin]) := by
  refine ⟨?_, ?_, orderly.written, orderly.small, ?_, ?_, ?_, ?_, ?_⟩
  · -- The segment continues the sequence, and is outstanding.
    exact (orderly.tracked.sent inside small orderly.steady.fits (by omega)).congr
      rfl rfl rfl rfl rfl rfl
  · -- Its payload is taken from the front of the buffer.
    rw [payloads_append, payloads_cons, payloads_nil, List.append_nil, List.append_assoc]
    have whole : (s.nextSegment size syn fin).payload ++ (s.sent size syn fin).stream.buffer =
        s.stream.buffer := List.take_append_drop _ _
    rw [whole, orderly.content]
  · -- It occupies a position, as all others do.
    intro seg member
    rcases List.mem_append.mp member with old | new
    · -- One of the old segments.
      exact orderly.positive seg old
    · -- The new one.
      rw [List.mem_singleton.mp new]
      exact positive
  · -- It carries the SYN exactly if it is the first.
    intro before seg after split
    rcases List.eq_nil_or_concat after with rfl | ⟨more, last, rfl⟩
    · -- The new segment is the one in question.
      obtain ⟨same, one⟩ := List.append_inj' split rfl
      rw [List.cons.injEq] at one
      rw [← same, ← one.1, orderly.emitted_nil_iff]
      exact first
    · -- The new segment comes after it.
      rw [List.concat_eq_append, ← List.cons_append, ← List.append_assoc] at split
      obtain ⟨same, _⟩ := List.append_inj' split rfl
      exact orderly.syn before seg more same
  · -- It may carry the FIN, after which the buffer is empty.
    cases carries : fin with
    | false =>
      refine .inl fun seg member => ?_
      rcases List.mem_append.mp member with old | new
      · exact none seg old
      · rw [List.mem_singleton.mp new]
        rfl
    | true =>
      obtain ⟨ended, whole⟩ := final carries
      refine .inr ⟨emitted, _, rfl, none, rfl, ended, ?_⟩
      exact List.drop_eq_nil_of_le (by omega)
  · -- The flag is set only along with a FIN.
    intro flagged others
    have := others (s.nextSegment size syn fin) (by simp)
    simp [nextSegment, flag flagged] at this
  · -- The next position has moved beyond the segment.
    intro _
    have : 0 < s.nextSeqnoAbsolute + (s.nextSegment size syn fin).lengthInSequenceSpace := by omega
    exact this

/-- Every way of emitting a segment keeps the sender orderly. -/
theorem emits (orderly : s.Orderly accepted emitted) {seg : TCPSegment} (emits : Emits s seg s') :
    s'.Orderly accepted (emitted ++ [seg]) := by
  -- A turn of the loop or one of two probes.
  cases emits with
  | turn isOpen =>
    have turn := turn_of_open isOpen orderly.tracked.word
    have none := orderly.noFin_of_open isOpen
    have unsent := orderly.unsent_of_noFin none
    -- A turn of the loop.
    refine orderly.sent s.turnSize_le_length s.turnSize_le none ?_ (by simp [turnSyn])
      (fun final => ⟨(turn.fin final).1, (turn.fin final).2.1⟩) (by simp [unsent])
    exact turn_occupies orderly.tracked.word (fun _ _ _ => unsent) isOpen
  | probe closed idle waiting =>
    -- A byte that probes a closed window.
    have inside := List.length_pos_iff.mpr waiting
    have none := orderly.noFin_of_waiting waiting
    have started := orderly.started closed
    refine orderly.sent inside (by omega) none ?_ (by simp; omega) (by simp) ?_
    · rw [nextSegment_length inside]
      omega
    · intro flagged
      exact absurd none (orderly.finSent flagged)
  | probeFin closed idle ready empty =>
    have none := orderly.noFin_of_ready ready
    have started := orderly.started closed
    -- The FIN probes a closed window when no byte is left.
    have ended : s.stream.ended = true := by
      simp only [readyToFin, ByteStream.eof, ByteStream.inputEnded, Bool.and_eq_true] at ready
      exact ready.1.1
    refine orderly.sent (Nat.zero_le _) (by omega) none ?_ (by simp; omega)
      (fun _ => ⟨ended, by simp [empty]⟩) (fun _ => rfl)
    rw [nextSegment_length (Nat.zero_le _)]
    simp

end Orderly

/-- An invariant under which filling the window makes progress until it is done. -/
structure Fills (inv : TCPSender → List TCPSegment → Prop) : Prop where
  /-- The arithmetic of the sender is exact. -/
  steady : ∀ {s emitted}, inv s emitted → s.Steady
  /-- The right edge of the window fits its type. -/
  word : ∀ {s emitted}, inv s emitted → s.windowRight < 2 ^ 64
  /-- The FIN is only due while it was not sent. -/
  unfinished : ∀ {s emitted}, inv s emitted → s.Unfinished
  /-- Every emission keeps the invariant. -/
  emits : ∀ {s seg s' emitted}, inv s emitted → Emits s seg s' → inv s' (emitted ++ [seg])

namespace Fills

variable {inv : TCPSender → List TCPSegment → Prop}

/-- The loop ends once it has as many turns as there is left to send. -/
theorem fillLoop_returns (fills : Fills inv) :
    ∀ turns {s : TCPSender} {emitted : List TCPSegment}, inv s emitted →
      Orderly.pending s < turns → ∃ s', fillLoop turns s = .ok s' := by
  -- Induction on the turns: each one sends something of what is pending.
  intro turns
  induction turns with
  | zero => intro s emitted _ enough; omega
  | succ turns ih =>
    intro s emitted holds enough
    rw [fillLoop]
    split
    · -- The window is filled, so the loop ends here.
      exact ⟨s, rfl⟩
    · -- A turn leaves less to send, so the remaining turns suffice.
      rename_i more
      have isOpen : s.windowFilled = false := by simpa using more
      rw [sendSegment_eq (fills.steady holds).fits, ok_bind]
      have less := pending_turned (fills.word holds) (fills.unfinished holds) isOpen
      exact ih (fills.emits holds (.turn isOpen)) (by omega)

/-- Filling the window returns, and keeps the invariant. -/
theorem fillWindow (fills : Fills inv) (holds : inv s emitted) :
    ∃ s' new, s.fillWindow = .ok s' ∧ s'.segmentsOut = s.segmentsOut ++ new ∧
      s'.outstandings = s.outstandings ++ new ∧ inv s' (emitted ++ new) := by
  -- A probe takes one step, and the loop as many turns as there is left to send.
  have returns : ∃ s', s.fillWindow = .ok s' := by
    have steady := fills.steady holds
    rw [TCPSender.fillWindow]
    split
    · -- A byte is waiting, so the probe can read it.
      rename_i probe
      have waiting : s.stream.buffer ≠ [] := by simpa [ByteStream.bufferEmpty] using probe.2.2
      exact ⟨_, sendOneByteSegment_byte (show Fits { s with probing := true } from steady.fits)
        waiting⟩
    · split
      · -- The FIN takes no byte from the stream.
        exact ⟨_, sendOneByteSegment_fin (show Fits { s with probing := true } from steady.fits)
          steady.taken_zero⟩
      · -- The loop is given one turn more than there can be segments.
        refine fills.fillLoop_returns _ holds ?_
        have first := Bool.toNat_le (decide (s.nextSeqnoAbsolute = 0))
        have last := Bool.toNat_le (!s.finSent)
        simp only [Orderly.pending]
        omega
  obtain ⟨s', filled⟩ := returns
  obtain ⟨new, out, queue, kept, _⟩ := fillWindow_invariant inv (fun _ _ => fills.steady)
    (fun _ _ _ _ => fills.emits) holds filled
  exact ⟨s', new, filled, out, queue, kept⟩

end Fills

namespace Orderly

/-- Being orderly, with a fixed initial number and end of input, lets the window be filled. -/
theorem fills (accepted : Bytes) (isn : WrappingInt32) (ended : Bool) :
    Fills fun s emitted => s.Orderly accepted emitted ∧ s.isn = isn ∧ s.stream.ended = ended where
  steady holds := holds.1.steady
  word holds := holds.1.tracked.word
  unfinished holds _ _ ready := holds.1.unsent_of_noFin (holds.1.noFin_of_ready ready)
  emits holds emits :=
    ⟨holds.1.emits emits, emits.isn.trans holds.2.1, emits.ended.trans holds.2.2⟩

/-- Filling the window returns, and keeps the sender orderly. -/
theorem fillWindow (orderly : s.Orderly accepted emitted) :
    ∃ s' new, s.fillWindow = .ok s' ∧ s'.segmentsOut = s.segmentsOut ++ new ∧
      s'.Orderly accepted (emitted ++ new) ∧
      s'.isn = s.isn ∧ s'.base = s.base ∧ s'.stream.ended = s.stream.ended := by
  obtain ⟨s', new, filled, out, queue, kept, isn, ended⟩ :=
    (fills accepted s.isn s.stream.ended).fillWindow ⟨orderly, rfl, rfl⟩
  refine ⟨s', new, filled, out, kept, isn, ?_, ended⟩
  -- What is new is both sent and outstanding.
  have before := orderly.tracked.base_add
  have after := kept.tracked.base_add
  rw [kept.tracked.next_eq, queue, occupied_append, occupied_append] at after
  rw [orderly.tracked.next_eq] at before
  omega

/-- The facts carry over to a sender that differs in its timer and its outbound queue only. -/
theorem congr (orderly : s.Orderly accepted emitted) (segmentsOut : List TCPSegment)
    (timePassed rto recount : Nat) :
    Orderly { s with
      segmentsOut := segmentsOut
      timePassed := timePassed
      rto := rto
      recount := recount } accepted emitted :=
  ⟨orderly.tracked.congr rfl rfl rfl rfl rfl rfl, orderly.content, orderly.written, orderly.small,
    orderly.positive, orderly.syn, orderly.fin, orderly.finSent, orderly.started⟩

/-- An acknowledgment after the SYN returns, and keeps the sender orderly. -/
theorem ackReceived (orderly : s.Orderly accepted emitted) (sentSyn : 0 < s.nextSeqnoAbsolute)
    (ackno : WrappingInt32) (windowSize : UInt16) :
    ∃ s', s.ackReceived ackno windowSize = .ok s' ∧ s'.Orderly accepted emitted ∧
      s'.isn = s.isn ∧ s'.stream = s.stream ∧ s'.segmentsOut = s.segmentsOut ∧
      s'.base ≤ max s.base (offsetFrom ackno s.isn) := by
  -- The counters are far below `2 ^ 64`, so the offset is unwrapped as it was sent.
  have next := orderly.next_le
  have small := orderly.small
  have reads : s.stream.bytesRead < 2 ^ 31 := by
    rw [orderly.bytesRead]
    have := congrArg List.length orderly.content
    rw [List.length_append] at this
    omega
  rcases ackReceived_low orderly.tracked reads (by omega) ackno windowSize with
    ⟨_, ignored⟩ | ⟨_, gone, kept, split, received, reached, _⟩
  · -- The acknowledgment is ignored.
    exact ⟨s, ignored, orderly, rfl, rfl, rfl, Nat.le_max_left _ _⟩
  · -- Only the queue of outstanding segments and the window change.
    refine ⟨_, received, ⟨orderly.tracked.acknowledged split _ _, orderly.content, orderly.written,
      orderly.small, orderly.positive, orderly.syn, orderly.fin, orderly.finSent,
      fun _ => sentSyn⟩, rfl, rfl, rfl, ?_⟩
    -- The queue starts where the dropped segments ended.
    have total := orderly.tracked.base_add
    rw [split, occupied_append] at total
    have moved : (s.acknowledged (offsetFrom ackno s.isn) windowSize.toNat kept).base =
        s.base + occupied gone := by
      simp only [base, acknowledged, afterDrop]
      simp only [base, split, occupied_append] at total ⊢
      omega
    rw [moved]
    by_cases empty : gone = []
    · -- Nothing is dropped, so the queue starts where it did.
      simp [empty]
    · -- What was dropped lies below the acknowledged position.
      exact (reached empty).trans (Nat.le_max_right _ _)

/-- A stream that has not ended has not sent the FIN. -/
theorem noFin_of_writing (orderly : s.Orderly accepted emitted)
    (writing : s.stream.ended = false) : NoFin emitted := by
  by_contra some
  exact absurd (orderly.next_of_fin some).2.1 (by simp [writing])

/-- A write before the FIN keeps the sender orderly, and so does one that accepts nothing. -/
theorem write (orderly : s.Orderly accepted emitted) (data : Bytes)
    (before : NoFin emitted ∨ data.take (s.stream.write data).2 = [])
    (short : (accepted ++ data.take (s.stream.write data).2).length < 2 ^ 31) :
    Orderly { s with stream := (s.stream.write data).1 }
      (accepted ++ data.take (s.stream.write data).2) emitted := by
  have buffer : (s.stream.write data).1.buffer.length < 2 ^ 31 := by
    -- The bytes accepted do not overflow the buffer's counter.
    rw [← orderly.content] at short
    rw [ByteStream.write_buffer]
    simp only [List.length_append] at short ⊢
    omega
  obtain ⟨count, within, wrote⟩ := s.stream.write_eq data buffer
  rw [wrote] at short before ⊢
  refine ⟨orderly.tracked.congr rfl rfl rfl rfl rfl rfl, ?_, ?_, short, orderly.positive,
    orderly.syn, ?_, orderly.finSent, orderly.started⟩
  · -- The new bytes are at the end of the buffer.
    rw [← orderly.content, List.append_assoc]
    rfl
  · -- They are counted when they are written.
    simp only [ByteStream.appended, orderly.written, toInt32_add, List.length_append, Nat.cast_add]
  · -- A FIN allows no further byte.
    rcases before with none | nothing
    · exact .inl none
    · -- The buffer stays as it is, so a FIN that was sent is still the last segment.
      rcases orderly.fin with none | ⟨first, last, split, none, carries, ended, empty⟩
      · exact .inl none
      · exact .inr ⟨first, last, split, none, carries, ended,
          by simp only [ByteStream.appended, nothing, empty, List.append_nil]⟩

/-- The end of the input keeps the sender orderly. -/
theorem endInput (orderly : s.Orderly accepted emitted) :
    Orderly { s with stream := s.stream.endInput } accepted emitted := by
  refine ⟨orderly.tracked.congr rfl rfl rfl rfl rfl rfl, orderly.content, orderly.written,
    orderly.small, orderly.positive, orderly.syn, ?_, orderly.finSent, orderly.started⟩
  -- A FIN was sent after an end of the input, so the end was there already.
  rcases orderly.fin with none | ⟨before, last, split, none, carries, _, empty⟩
  · exact .inl none
  · exact .inr ⟨before, last, split, none, carries, rfl, empty⟩

end Orderly

end TCPSender

namespace SenderRun

/-- A call that the owner of a sender makes. -/
def Legal (t : SenderRun) : SenderCall → Prop
  | .write data =>
    t.sender.stream.ended = false ∧
      (t.accepted ++ data.take (t.sender.stream.write data).2).length < 2 ^ 31
  | .ack _ _ => 0 < t.sender.nextSeqnoAbsolute
  | _ => True

instance (t : SenderRun) : DecidablePred t.Legal
  | .write _ => inferInstanceAs (Decidable (_ ∧ _))
  | .ack _ _ => inferInstanceAs (Decidable (0 < _))
  | .endInput => .isTrue trivial
  | .fillWindow => .isTrue trivial
  | .tick _ => .isTrue trivial
  | .collect => .isTrue trivial

/-- How the emitted segments divide the sequence space. -/
structure Partitioned (t : SenderRun) : Prop where
  /-- Every segment starts where the ones before it end, is not empty, and only the first is SYN. -/
  ranges : ∀ before seg after, t.emitted = before ++ seg :: after →
    seg.header.seqno = wrap (occupied before) t.sender.isn ∧
      0 < seg.lengthInSequenceSpace ∧ (seg.header.syn = true ↔ before = [])
  /-- Together they occupy every position before the next one. -/
  total : occupied t.emitted = t.sender.nextSeqnoAbsolute
  /-- The payloads are what has been read from the accepted bytes. -/
  content : payloads t.emitted ++ t.sender.stream.buffer = t.accepted
  /-- A FIN is on the last segment, after the input has ended, behind all written bytes. -/
  fin : ∀ before seg after, t.emitted = before ++ seg :: after → seg.header.fin = true →
    after = [] ∧ t.sender.stream.inputEnded = true ∧
      occupied before + seg.lengthInSequenceSpace = t.sender.stream.bytesWritten + 1 + 1
  /-- The queue is a suffix, and counts all positions exactly until the first is dropped. -/
  queue : ∃ acked, t.emitted = acked ++ t.sender.outstandings ∧
    (t.sender.bytesInFlight = t.sender.nextSeqnoAbsolute ↔ acked = [])
  /-- The positions in flight are those of the queue. -/
  flights : t.sender.bytesInFlight = occupied t.sender.outstandings
  /-- Whatever is sent again is one of the emitted segments. -/
  resent : ∀ seg ∈ t.resent, seg ∈ t.emitted

/-- The invariant of a run of legal calls. -/
structure Orderly (t : SenderRun) : Prop where
  /-- The sender is orderly. -/
  sender : t.sender.Orderly t.accepted t.emitted
  /-- Whatever was sent again had been emitted. -/
  resent : ∀ seg ∈ t.resent, seg ∈ t.emitted

variable {t : SenderRun} {call : SenderCall}

/-- Every legal call returns and keeps the invariant. -/
theorem Orderly.step (orderly : t.Orderly) (legal : t.Legal call) :
    ∃ next, t.step call = .ok next ∧ next.Orderly := by
  -- One case for each call, by the lemma about it.
  cases call with
  | write data => exact ⟨_, rfl, orderly.sender.write data
      (.inl (orderly.sender.noFin_of_writing legal.1)) legal.2, orderly.resent⟩
  | endInput => exact ⟨_, rfl, orderly.sender.endInput, orderly.resent⟩
  | fillWindow =>
    -- What was emitted is what the call has appended to the queue.
    obtain ⟨sender, new, filled, out, kept, _⟩ := orderly.sender.fillWindow
    refine ⟨_, by rw [SenderRun.step, filled, ok_bind, pure_eq_ok], ?_, ?_⟩
    · dsimp only
      rw [out, List.drop_left]
      exact kept
    · intro seg again
      exact List.mem_append_left _ (orderly.resent seg again)
  | ack ackno windowSize =>
    -- The run notes the acknowledgment as the sender unwraps it.
    obtain ⟨sender, received, kept, _⟩ := orderly.sender.ackReceived legal ackno windowSize
    have unwrapped := received
    rw [TCPSender.ackReceived] at unwrapped
    obtain ⟨ackabs, found, _⟩ := bind_eq_ok.mp unwrapped
    refine ⟨t.noteAck sender ackabs windowSize.toNat, ?_, kept, orderly.resent⟩
    rw [SenderRun.step, received, ok_bind, found, ok_bind, pure_eq_ok]
  | tick ms =>
    -- A tick can send the oldest outstanding segment again.
    obtain ⟨again, timePassed, rto, recount, ticked, oldest⟩ := t.sender.tick_eq ms
    refine ⟨_, rfl, ?_, ?_⟩
    · dsimp only
      rw [ticked]
      exact orderly.sender.congr _ _ _ _
    · dsimp only
      rw [ticked, List.drop_left]
      intro seg member
      rcases List.mem_append.mp member with old | new
      · exact orderly.resent seg old
      · -- What is sent again was outstanding, hence emitted before.
        rcases oldest with none | ⟨rest, first, queue, one⟩
        · simp [none] at new
        · rw [one, List.mem_singleton] at new
          exact orderly.sender.tracked.queue.subset (by simp [queue, new])
  | collect => exact ⟨_, rfl, orderly.sender.congr [] _ _ _, orderly.resent⟩

/-- An orderly run has partitioned the sequence space. -/
theorem Orderly.partitioned (orderly : t.Orderly) : t.Partitioned := by
  have sender := orderly.sender
  have tracked := sender.tracked
  refine ⟨?_, tracked.next_eq.symm, sender.content, ?_, ?_, tracked.flights, orderly.resent⟩
  · -- The position of a segment is the length of all that came before it.
    intro before seg after split
    have header := tracked.consecutive.header split
    rw [Nat.zero_add] at header
    exact ⟨by rw [header], sender.positive seg (by simp [split]), sender.syn before seg after split⟩
  · intro before seg after split carries
    have some : ¬ NoFin t.emitted := fun none => by
      have := none seg (by simp [split])
      simp [carries] at this
    -- Nothing follows the FIN, which is at the last position.
    obtain ⟨next, ended, _⟩ := sender.next_of_fin some
    have last := sender.last_of_fin split carries
    refine ⟨last, ended, ?_⟩
    have total := tracked.next_eq
    rw [split, last, occupied_append, occupied_cons, occupied_nil] at total
    rw [sender.bytesWritten]
    omega
  · -- All positions are in flight exactly if no segment was removed from the queue.
    obtain ⟨acked, split⟩ := tracked.queue
    refine ⟨acked, split.symm, ?_⟩
    have total := tracked.next_eq
    rw [← split, occupied_append] at total
    rw [TCPSender.bytesInFlight, tracked.flights]
    constructor
    · -- All is in flight, so what was acknowledged has no length.
      intro all
      cases acked with
      | nil => rfl
      | cons first rest =>
        have := sender.positive first (by simp [← split])
        rw [occupied_cons] at total
        omega
    · -- Nothing was acknowledged, so the lengths agree.
      rintro rfl
      simpa using total.symm

/-- Every run of legal calls returns and partitions the sequence space. -/
theorem sequence_space_partitioned (capacity : Nat) (retxTimeout : UInt16) (isn : WrappingInt32)
    (calls : List SenderCall)
    (legal : Throughout step Legal (start capacity retxTimeout isn) calls) :
    ∃ t, runCalls step (start capacity retxTimeout isn) calls = .ok t ∧ t.Partitioned := by
  obtain ⟨t, returned, orderly⟩ := legal.returns Orderly (fun _ _ held => held.step)
    ⟨TCPSender.orderly_new capacity retxTimeout isn, by simp [start]⟩
  exact ⟨t, returned, orderly.partitioned⟩

/-- A handshake, data in two segments, a lost segment sent again, and the FIN. -/
theorem sequence_space_partitioned_resent :
    ∃ t, runCalls step (start 10 100 ⟨4294967290⟩)
        [.fillWindow, .collect, .write [1, 2, 3], .ack ⟨4294967291⟩ 4, .fillWindow, .write [4, 5],
          .endInput, .fillWindow, .tick 100, .ack ⟨4294967295⟩ 4, .fillWindow] = .ok t ∧
      t.Partitioned :=
  sequence_space_partitioned 10 100 ⟨4294967290⟩ _ (by decide +kernel)

end SenderRun

end Sponge
