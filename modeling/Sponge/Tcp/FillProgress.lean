import Sponge.Tcp.SenderSequence

/-! When filling the window comes to an end: the FIN that is counted as missing after it was sent. -/

namespace Sponge

namespace TCPSender

/-- The position after the SYN, the waiting bytes and the FIN, as far as the loop still sends them. -/
def finish (s : TCPSender) : Nat := s.nextSeqnoAbsolute + Orderly.pending s

/-- With the input ended, the position after the FIN lies inside the window, and yet below the
position that the write counter promises for it. -/
def Overshoots (s : TCPSender) : Prop :=
  s.stream.ended = true ∧ s.finish ≤ s.windowRight ∧ s.finish < add64 s.stream.bytesWritten 2

/-- Filling the window comes to an end, and every segment that it emits occupies a position. -/
def Progresses (s : TCPSender) : Prop :=
  ∃ s' new, s.fillWindow = .ok s' ∧ s'.outstandings = s.outstandings ++ new ∧
    ∀ seg ∈ new, 0 < seg.lengthInSequenceSpace

instance (s : TCPSender) : Decidable s.Overshoots := inferInstanceAs (Decidable (_ ∧ _ ∧ _))

variable {s s' : TCPSender}

/-- No turn of the loop changes the position at which it will be finished. -/
theorem finish_turned (s : TCPSender) : s.turned.finish = s.finish := by
  -- What the turn sends is no longer pending, and moves the next position by as much.
  have size := s.turnSize_le_length
  have length := nextSegment_length size s.turnSyn s.turnFin
  have next : s.turned.nextSeqnoAbsolute =
      s.nextSeqnoAbsolute + (s.nextSegment s.turnSize s.turnSyn s.turnFin).lengthInSequenceSpace :=
    rfl
  have started : s.turned.nextSeqnoAbsolute ≠ 0 := Nat.pos_iff_ne_zero.mp s.turn_positive
  have buffer : s.turned.stream.buffer.length = s.stream.buffer.length - s.turnSize := by
    simp [turned, TCPSender.sent, ByteStream.taken]
  -- The FIN is sent only if it was not sent before.
  have fin : (if s.turnFin = true then 1 else 0) + (!s.turned.finSent).toNat =
      (!s.finSent).toNat := by
    have flag : s.turned.finSent = (s.finSent || s.turnFin) := rfl
    rw [flag]
    cases sends : s.turnFin with
    | false => simp
    | true =>
      have unsent : s.finSent = false := by
        simp only [turnFin, Bool.and_eq_true, Bool.not_eq_true'] at sends
        exact sends.2
      simp [unsent]
  have syn : (if s.turnSyn = true then 1 else 0) = (decide (s.nextSeqnoAbsolute = 0)).toNat := by
    -- The SYN is sent by the first turn.
    rw [turnSyn]
    cases decide (s.nextSeqnoAbsolute = 0) <;> rfl
  simp only [finish, Orderly.pending, decide_eq_false started, Bool.toNat_false, buffer]
  omega

/-- No turn of the loop changes whether the FIN overshoots. -/
theorem overshoots_turned : s.turned.Overshoots ↔ s.Overshoots := by
  rw [Overshoots, Overshoots, finish_turned]
  rfl

/-- A sender whose FIN overshoots always finds something to send. -/
theorem Overshoots.isOpen (overshoots : s.Overshoots) : s.windowFilled = false := by
  obtain ⟨ended, inside, below⟩ := overshoots
  have next : s.nextSeqnoAbsolute ≤ s.finish := Nat.le_add_right _ _
  refine windowFilled_eq_false.mpr ⟨by omega, fun _ => ?_⟩
  by_cases empty : s.stream.buffer = []
  · -- With nothing waiting, the FIN counts as missing.
    refine .inr ?_
    simp only [readyToFin, ByteStream.eof, ByteStream.inputEnded, ended, empty, List.length_nil,
      Bool.true_and, beq_self_eq_true, decide_eq_true_eq]
    omega
  · exact .inl empty

/-- The arithmetic of the loop is exact when there is room for one more segment at its end. -/
theorem fits_of_finish (room : s.finish + 1003 < 2 ^ 64) : s.Fits := by
  have next : s.nextSeqnoAbsolute ≤ s.finish := Nat.le_add_right _ _
  rw [Fits]
  omega

/-- The loop of a sender whose FIN overshoots never ends. -/
theorem Overshoots.endless : ∀ (turns : Nat) {s : TCPSender}, s.finish + 1003 < 2 ^ 64 →
    s.Overshoots → fillLoop turns s = .error .diverges := by
  -- Induction on the turns: another one leaves the FIN where it was.
  intro turns
  induction turns with
  | zero => intros; rfl
  | succ turns ih =>
    intro s room overshoots
    rw [fillLoop, overshoots.isOpen, if_neg (by decide), sendSegment_eq (fits_of_finish room),
      ok_bind]
    exact ih (by rwa [finish_turned]) (overshoots_turned.mpr overshoots)

/-- Where the loop goes on and the FIN does not overshoot, a FIN that is due was not sent. -/
theorem unfinished_of_open (isOpen : s.windowFilled = false) (bounded : ¬ s.Overshoots) :
    s.Unfinished := by
  intro empty started ready
  by_contra flagged
  have sentFin : s.finSent = true := by simpa using flagged
  obtain ⟨inside, _⟩ := windowFilled_eq_false.mp isOpen
  simp only [readyToFin, ByteStream.eof, ByteStream.inputEnded, Bool.and_eq_true,
    decide_eq_true_eq] at ready
  -- With everything sent, the loop is already at its last position.
  have last : s.finish = s.nextSeqnoAbsolute := by
    simp [finish, Orderly.pending, empty, sentFin, Nat.pos_iff_ne_zero.mp started]
  exact bounded ⟨ready.1.1, by omega, by omega⟩

/-- The loop of a sender whose FIN does not overshoot ends, and emits no empty segment. -/
theorem fillLoop_progresses : ∀ (turns : Nat) {s : TCPSender}, s.finish + 1003 < 2 ^ 64 →
    s.windowRight < 2 ^ 64 → ¬ s.Overshoots → Orderly.pending s < turns →
    ∃ s' new, fillLoop turns s = .ok s' ∧ s'.outstandings = s.outstandings ++ new ∧
      ∀ seg ∈ new, 0 < seg.lengthInSequenceSpace := by
  -- Induction on the turns: a turn leaves less pending, and the FIN where it was.
  intro turns
  induction turns with
  | zero => intro s _ _ _ enough; omega
  | succ turns ih =>
    intro s room word bounded enough
    cases filled : s.windowFilled with
    -- The window is filled, so nothing is sent.
    | true => exact ⟨s, [], by rw [fillLoop, if_pos filled], by simp, by simp⟩
    | false =>
      -- The turn sends something, and the rest is the loop with one turn less.
      have unfinished := unfinished_of_open filled bounded
      have less := pending_turned word unfinished filled
      obtain ⟨s', new, ended, queue, positive⟩ := ih (show s.turned.finish + 1003 < 2 ^ 64 by
        rwa [finish_turned]) word (mt overshoots_turned.mp bounded) (by omega)
      refine ⟨s', s.turnSegment :: new, ?_, ?_, ?_⟩
      · rw [fillLoop, filled, if_neg (by decide), sendSegment_eq (fits_of_finish room), ok_bind,
          ended]
      · rw [queue, turned, sent, List.append_assoc]
        rfl
      · intro seg member
        -- The segment of this turn, or one of a later turn.
        rcases List.mem_cons.mp member with rfl | later
        · exact turn_occupies word unfinished filled
        · exact positive seg later

/-- A probe is one segment of one position. -/
theorem Probes.fillWindow (probes : s.Probes) (fits : s.Fits) :
    ∃ s' probe, s.fillWindow = .ok s' ∧ s'.outstandings = s.outstandings ++ [probe] ∧
      probe.lengthInSequenceSpace = 1 := by
  obtain ⟨closed, idle, due⟩ := probes
  rw [TCPSender.fillWindow]
  by_cases waiting : s.stream.buffer = []
  · -- Only the FIN is left to probe with.
    have ready := due.resolve_left (by simp [waiting])
    rw [if_neg (by simp [ByteStream.bufferEmpty, waiting]), if_pos ⟨closed, idle, ready⟩]
    exact ⟨_, _, rfl, rfl, rfl⟩
  · rw [if_pos ⟨closed, idle, by simpa [ByteStream.bufferEmpty] using waiting⟩,
      sendOneByteSegment_byte (show Fits { s with probing := true } from fits) waiting]
    exact ⟨_, _, rfl, rfl, nextSegment_length (List.length_pos_iff.mpr waiting) false false⟩

/-- Filling the window makes progress exactly when it probes or the FIN does not overshoot. -/
theorem progresses_iff (room : s.finish + 1003 < 2 ^ 64) (word : s.windowRight < 2 ^ 64) :
    s.Progresses ↔ s.Probes ∨ ¬ s.Overshoots := by
  by_cases probes : s.Probes
  · -- A probe is one segment of one position.
    obtain ⟨s', probe, filled, queue, one⟩ := probes.fillWindow (fits_of_finish room)
    refine iff_of_true ⟨s', [probe], filled, queue, ?_⟩ (.inl probes)
    intro seg member
    rw [List.mem_singleton.mp member, one]
    exact Nat.one_pos
  · simp only [probes, false_or]
    rw [Progresses, fillWindow_of_not_probes probes]
    constructor
    · -- Past the FIN, the condition of the loop never becomes false.
      rintro ⟨s', _, filled, _⟩ overshoots
      rw [overshoots.endless _ room] at filled
      simp at filled
    · intro bounded
      have first := Bool.toNat_le (decide (s.nextSeqnoAbsolute = 0))
      have last := Bool.toNat_le (!s.finSent)
      exact fillLoop_progresses _ room word bounded (by rw [Orderly.pending]; omega)

/-- Filling the window that comes to an end has made progress. -/
theorem progresses_of_fillWindow (room : s.finish + 1003 < 2 ^ 64) (word : s.windowRight < 2 ^ 64)
    (filled : s.fillWindow = .ok s') : s.Progresses := by
  refine (progresses_iff room word).mpr ?_
  -- A sender that is stuck has a loop without end.
  by_contra stuck
  obtain ⟨quiet, overshoots⟩ := not_or.mp stuck
  rw [fillWindow_of_not_probes quiet, (not_not.mp overshoots).endless _ room] at filled
  simp at filled

end TCPSender

namespace SenderRun

/-- Filling the window starts with exact arithmetic, and nothing is written after the end. -/
def Roomy (t : SenderRun) : SenderCall → Prop
  | .write _ => t.sender.stream.ended = false
  | .fillWindow => t.sender.finish + 1003 < 2 ^ 64
  | _ => True

instance (t : SenderRun) : DecidablePred t.Roomy
  | .write _ => inferInstanceAs (Decidable (_ = _))
  | .ack _ _ => .isTrue trivial
  | .endInput => .isTrue trivial
  | .fillWindow => inferInstanceAs (Decidable (_ < _))
  | .tick _ => .isTrue trivial
  | .collect => .isTrue trivial

/-- The edge of the window is a 64-bit number, and no outstanding segment is empty. -/
structure Sturdy (t : SenderRun) : Prop where
  /-- The right edge of the window fits its type. -/
  word : t.sender.windowRight < 2 ^ 64
  /-- Every outstanding segment occupies a position. -/
  positive : ∀ seg ∈ t.sender.outstandings, 0 < seg.lengthInSequenceSpace

variable {t next : SenderRun} {call : SenderCall}

/-- Every call that returns keeps the outstanding segments from being empty. -/
theorem Sturdy.step (sturdy : t.Sturdy) (roomy : t.Roomy call) (steps : t.step call = .ok next) :
    next.Sturdy := by
  -- Only filling the window adds outstanding segments.
  cases call with
  | write data =>
    rw [SenderRun.step, Except.ok.injEq] at steps
    subst steps
    exact ⟨sturdy.word, sturdy.positive⟩
  | endInput =>
    rw [SenderRun.step, Except.ok.injEq] at steps
    subst steps
    exact ⟨sturdy.word, sturdy.positive⟩
  | fillWindow =>
    simp only [SenderRun.step, bind_eq_ok, pure_eq_ok, Except.ok.injEq] at steps
    obtain ⟨sender, filled, rfl⟩ := steps
    have word : sender.windowRight < 2 ^ 64 := by
      rw [(TCPSender.Filled.of_fillWindow filled).windowRight]
      exact sturdy.word
    refine ⟨word, fun seg member => ?_⟩
    -- It has come to an end, so it has made progress.
    obtain ⟨same, new, filled', queue, positive⟩ :=
      TCPSender.progresses_of_fillWindow roomy sturdy.word filled
    rw [filled, Except.ok.injEq] at filled'
    subst filled'
    rcases List.mem_append.mp (queue ▸ member) with old | sent
    · exact sturdy.positive seg old
    · exact positive seg sent
  | ack ackno windowSize =>
    simp only [SenderRun.step, bind_eq_ok, pure_eq_ok, Except.ok.injEq] at steps
    obtain ⟨sender, received, ackabs, found, rfl⟩ := steps
    obtain ⟨_, _, cases⟩ := TCPSender.ackReceived_cases received
    rcases cases with ⟨_, rfl⟩ | ⟨_, kept, inFlights, suffix, rfl⟩
    · -- The acknowledgment is ignored.
      exact ⟨sturdy.word, sturdy.positive⟩
    · -- The segments that are left were there, and the edge of the window is a word.
      refine ⟨?_, fun seg member => sturdy.positive seg (suffix.subset member)⟩
      exact Nat.max_lt.mpr ⟨sturdy.word, sub64_lt _ _⟩
  | tick ms =>
    rw [SenderRun.step, Except.ok.injEq] at steps
    subst steps
    obtain ⟨again, timePassed, rto, recount, ticked, _⟩ := t.sender.tick_eq ms
    simp only [ticked]
    exact ⟨sturdy.word, sturdy.positive⟩
  | collect =>
    rw [SenderRun.step, Except.ok.injEq] at steps
    subst steps
    exact ⟨sturdy.word, sturdy.positive⟩

/-- In every state that a run reaches, no outstanding segment is empty, and filling the window makes
progress exactly when it probes or the FIN does not overshoot; otherwise the loop has no end. -/
theorem progresses_iff_bounded (capacity : Nat) (retxTimeout : UInt16) (isn : WrappingInt32)
    (calls : List SenderCall) (t : SenderRun)
    (roomy : Throughout step Roomy (start capacity retxTimeout isn) calls)
    (returned : runCalls step (start capacity retxTimeout isn) calls = .ok t)
    (room : t.Roomy .fillWindow) :
    (∀ seg ∈ t.sender.outstandings, 0 < seg.lengthInSequenceSpace) ∧
    (t.sender.Progresses ↔ t.sender.Probes ∨ ¬ t.sender.Overshoots) ∧
    (¬ t.sender.Progresses → ∀ turns, t.sender.fillLoop turns = .error .diverges) := by
  -- The invariant of the run says that no outstanding segment is empty.
  have sturdy : t.Sturdy := roomy.invariant Sturdy (fun _ _ _ held roomy => held.step roomy)
    ⟨by simp [start, TCPSender.new], by simp [start, TCPSender.new]⟩ returned
  have exactly := TCPSender.progresses_iff room sturdy.word
  refine ⟨sturdy.positive, exactly, fun stuck turns => ?_⟩
  have overshoots := not_not.mp (not_or.mp (mt exactly.mpr stuck)).2
  exact overshoots.endless turns room

/-- A byte and the FIN are sent, and the loop ends. -/
theorem progresses_iff_bounded_fin :
    ∃ t, runCalls step (start 10 100 ⟨0⟩) [.fillWindow, .ack ⟨1⟩ 4, .write [7], .endInput] =
        .ok t ∧ t.sender.Progresses := by
  -- The run is evaluated up to the call that fills the window.
  obtain ⟨t, returned, room, bounded⟩ : ∃ t, runCalls step (start 10 100 ⟨0⟩)
      [.fillWindow, .ack ⟨1⟩ 4, .write [7], .endInput] = .ok t ∧ t.Roomy .fillWindow ∧
        ¬ t.sender.Overshoots := exists_runCalls (by decide +kernel)
  exact ⟨t, returned,
    (progresses_iff_bounded 10 100 ⟨0⟩ _ t (by decide +kernel) returned room).2.1.mpr
      (.inr bounded)⟩

/-- A window that closes before the SYN is sent lets the first byte take its place. Then the FIN
still counts as missing once it is sent, and the loop emits empty segments from then on. -/
theorem empty_segments_emitted :
    ∃ t, runCalls step (start 10 100 ⟨0⟩) [.write [7], .endInput, .ack ⟨0⟩ 0, .fillWindow] =
        .ok t ∧ t.sender.turned.windowFilled = false ∧
      t.sender.turned.turnSegment.lengthInSequenceSpace = 0 ∧ ¬ t.sender.Progresses := by
  -- The run is evaluated up to the turn after the FIN.
  obtain ⟨t, returned, isOpen, empty, stuck⟩ : ∃ t, runCalls step (start 10 100 ⟨0⟩)
      [.write [7], .endInput, .ack ⟨0⟩ 0, .fillWindow] = .ok t ∧
        t.sender.turned.windowFilled = false ∧
        t.sender.turned.turnSegment.lengthInSequenceSpace = 0 ∧
        t.sender.fillWindow.isOk = false := exists_runCalls (by decide +kernel)
  refine ⟨t, returned, isOpen, empty, ?_⟩
  rintro ⟨s', _, filled, _⟩
  simp [filled, Except.isOk, Except.toBool] at stuck

end SenderRun

end Sponge
