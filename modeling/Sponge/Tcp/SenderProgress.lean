import Sponge.Tcp.SenderAccounts
import Sponge.Tcp.SenderWindow

/-! A sender with something left to send waits for an acknowledgment, as long as no window is stale. -/

namespace Sponge

namespace TCPSender

/-- A sender between the highest acknowledged number and the edge of the furthest window. -/
structure Flowing (most edge : Nat) (s : TCPSender) (emitted : List TCPSegment) : Prop where
  /-- The counters are accounted for. -/
  accounted : s.Accounted emitted
  /-- The edge is the one the sender keeps. -/
  right : s.windowRight + 1 = edge
  /-- The edge stays near the sign bit of the counters. -/
  near : edge ≤ 2 ^ 31 + 65538
  /-- Only a probe passes the edge. -/
  inside : s.nextSeqnoAbsolute ≤ edge + s.probing.toNat
  /-- A probe is the position at the edge. -/
  probe : s.probing = true → s.nextSeqnoAbsolute = edge + 1
  /-- A closed window is acknowledged up to the edge. -/
  closed : s.window = 0 → most = edge
  /-- What is acknowledged up to the edge leaves the window closed. -/
  full : most = edge → s.window = 0
  /-- With nothing outstanding, everything sent is acknowledged. -/
  idle : s.outstandings = [] → 0 < s.nextSeqnoAbsolute → most = s.nextSeqnoAbsolute
  /-- Nothing is acknowledged before it is sent. -/
  sent : most ≤ s.nextSeqnoAbsolute
  /-- Nothing is acknowledged past the edge. -/
  most_le : most ≤ edge
  /-- Past the sign bit of the counters, something stays outstanding. -/
  high : 2 ^ 31 ≤ (payloads emitted).length → s.outstandings ≠ []

namespace Flowing

variable {most edge : Nat} {s s' : TCPSender} {emitted : List TCPSegment}

/-- The next position is far below one turn. -/
theorem next_le (flowing : Flowing most edge s emitted) :
    s.nextSeqnoAbsolute ≤ 2 ^ 31 + 65539 := by
  -- The position lies at most one probe beyond the edge, and the edge near what was sent.
  have inside := flowing.inside
  have near := flowing.near
  have := Bool.toNat_le s.probing
  omega

/-- So is the number of bytes read. -/
theorem reads_lt (flowing : Flowing most edge s emitted) : (payloads emitted).length < 2 ^ 32 := by
  have next := flowing.accounted.next_eq
  have := flowing.next_le
  omega

/-- The arithmetic of the sender is exact. -/
theorem steady (flowing : Flowing most edge s emitted) : s.Steady := by
  have := flowing.next_le
  exact ⟨by rw [Fits]; omega, flowing.accounted.tracked.counted⟩

/-- The facts carry over to a sender that differs in other fields only. -/
theorem congr (flowing : Flowing most edge s emitted) (accounted : s'.Accounted emitted)
    (next : s'.nextSeqnoAbsolute = s.nextSeqnoAbsolute)
    (outstandings : s'.outstandings = s.outstandings) (window : s'.window = s.window)
    (windowRight : s'.windowRight = s.windowRight) (probing : s'.probing = s.probing) :
    Flowing most edge s' emitted := by
  -- These fields are all that the facts are about.
  refine ⟨accounted, ?_, flowing.near, ?_, ?_, ?_, ?_, ?_, ?_, flowing.most_le, ?_⟩
  · rw [windowRight]; exact flowing.right
  · rw [next, probing]; exact flowing.inside
  · rw [next, probing]; exact flowing.probe
  · rw [window]; exact flowing.closed
  · rw [window]; exact flowing.full
  · rw [next, outstandings]; exact flowing.idle
  · rw [next]; exact flowing.sent
  · rw [outstandings]; exact flowing.high

/-- A probe of a closed window takes the position at the edge. -/
theorem probed (flowing : Flowing most edge s emitted) (shut : s.window = 0)
    (idle : s.probing = false) {size : Nat} {fin : Bool}
    (one : (s.nextSegment size false fin).lengthInSequenceSpace = 1)
    (accounted : Accounted { s.sent size false fin with probing := true }
      (emitted ++ [s.nextSegment size false fin])) :
    Flowing most edge { s.sent size false fin with probing := true }
      (emitted ++ [s.nextSegment size false fin]) := by
  have inside := flowing.inside
  have sent := flowing.sent
  have whole := flowing.closed shut
  rw [idle, Bool.toNat_false] at inside
  have next : (s.sent size false fin).nextSeqnoAbsolute = s.nextSeqnoAbsolute + 1 := by
    rw [TCPSender.sent, one]
  -- The probe itself is outstanding from now on.
  have queue : (s.sent size false fin).outstandings ≠ [] := by simp [TCPSender.sent]
  refine ⟨accounted, flowing.right, flowing.near, ?_, ?_, flowing.closed, flowing.full,
    fun none => absurd none queue, ?_, flowing.most_le, fun _ => queue⟩
  · -- The next position is one beyond the edge.
    simp only [next, Bool.toNat_true]
    omega
  · -- This is where a probe has to be.
    intro _
    simp only [next]
    omega
  · -- The highest acknowledged position is behind it.
    simp only [next]
    omega

/-- Every way of emitting a segment keeps the sender flowing. -/
theorem emits (flowing : Flowing most edge s emitted) {seg : TCPSegment} (emits : Emits s seg s') :
    Flowing most edge s' (emitted ++ [seg]) := by
  have right := flowing.right
  have near := flowing.near
  have sent := flowing.sent
  have accounted := flowing.accounted.emits flowing.steady.fits emits
  cases emits with
  | turn isOpen =>
    -- The turn starts inside the window and stays there.
    have low := (windowFilled_eq_false.mp isOpen).1
    have stop := (turn_of_open isOpen (by omega)).inside
    have next : s.turned.nextSeqnoAbsolute =
        s.nextSeqnoAbsolute + s.turnSegment.lengthInSequenceSpace := rfl
    have queue : s.turned.outstandings ≠ [] := by simp [turned, TCPSender.sent]
    refine ⟨accounted, right, near, ?_, ?_, flowing.closed, flowing.full,
      fun none => absurd none queue, ?_, flowing.most_le, fun _ => queue⟩
    · -- The segment ends at the edge at most.
      rw [next]
      omega
    · -- A probe would be past the edge, where no turn starts.
      intro probing
      have := flowing.probe probing
      omega
    · rw [next]
      omega
  | probe closed idle waiting =>
    -- A byte probes the closed window.
    have inside := List.length_pos_iff.mpr waiting
    exact flowing.probed closed idle (by rw [nextSegment_length inside]; rfl) accounted
  | probeFin closed idle ready empty =>
    -- The FIN probes it.
    exact flowing.probed closed idle (by rw [nextSegment_length (Nat.zero_le _)]; rfl) accounted

/-- An acknowledgment is current, moves the edge on, or leaves the window as open as it was. -/
def Timely (most edge window ackabs windowSize : Nat) : Prop :=
  (most ≤ ackabs ∧ edge ≤ ackabs + windowSize) ∨ edge < ackabs + windowSize ∨
    ((windowSize = 0 ↔ window = 0) ∧ 0 < ackabs + windowSize)

instance (most edge window ackabs windowSize : Nat) :
    Decidable (Timely most edge window ackabs windowSize) :=
  inferInstanceAs (Decidable (_ ∨ _ ∨ _))

/-- An accepted timely acknowledgment keeps the sender flowing. -/
theorem acknowledged (flowing : Flowing most edge s emitted) {ackabs windowSize : Nat}
    {gone kept : List TCPSegment} (split : s.outstandings = gone ++ kept)
    (low : (payloads emitted).length < 2 ^ 31) (started : 0 < s.nextSeqnoAbsolute)
    (accepted : ackabs ≤ s.nextSeqnoAbsolute) (short : windowSize < 2 ^ 16)
    (reached : gone ≠ [] → s.base + occupied gone ≤ ackabs)
    (timely : Timely most edge s.window ackabs windowSize) :
    Flowing (max most ackabs) (max edge (ackabs + windowSize))
      (s.acknowledged ackabs windowSize kept) emitted := by
  have right := flowing.right
  have near := flowing.near
  have inside := flowing.inside
  have sent := flowing.sent
  have most_le := flowing.most_le
  have next := flowing.accounted.next_le_low low
  have bit := Bool.toNat_le s.probing
  have room : 0 < ackabs + windowSize := by
    -- A timely acknowledgment offers at least one position.
    rcases timely with ⟨_, reaches⟩ | reaches | ⟨_, some⟩
    · omega
    · omega
    · exact some
  have offered : offeredRight ackabs windowSize = ackabs + windowSize - 1 := by
    rw [offeredRight, add64_of_lt (by omega), sub64_of_le (by omega) (by omega)]
  -- The probe is over exactly when the edge moves.
  have probing : (s.acknowledged ackabs windowSize kept).probing =
      (s.probing && !decide (edge < ackabs + windowSize)) := by
    have same : decide (s.windowRight < ackabs + windowSize - 1) =
        decide (edge < ackabs + windowSize) := by
      simp only [decide_eq_decide]
      omega
    simp only [TCPSender.acknowledged, afterDrop, offered, same]
  have accounted : (s.acknowledged ackabs windowSize kept).Accounted emitted := by
    have old := flowing.accounted
    have fins := old.lowFins low
    refine ⟨old.tracked.acknowledged split _ _, old.capacity, old.written, old.syns, ?_,
      fun _ => fins⟩
    exact fins.trans (Nat.le_add_right _ _)
  refine ⟨accounted, ?_, by omega, ?_, ?_, ?_, ?_, ?_, ?_, by omega, ?_⟩
  · -- The edge is where the furthest offer has put it.
    simp only [TCPSender.acknowledged, afterDrop, offered]
    omega
  · -- The next position is inside the new window, or one probe beyond it.
    rw [probing]
    change s.nextSeqnoAbsolute ≤ _
    by_cases moved : edge < ackabs + windowSize
    · omega
    · simp only [moved, decide_false, Bool.not_false, Bool.and_true]
      omega
  · -- The probe goes on, so the edge is the old one.
    intro still
    rw [probing, Bool.and_eq_true, Bool.not_eq_true', decide_eq_false_iff_not] at still
    have := flowing.probe still.1
    change s.nextSeqnoAbsolute = _
    omega
  · -- A closed window is acknowledged up to its edge, in each of the three cases.
    intro shut
    have shut : windowSize = 0 := shut
    rcases timely with current | moves | ⟨same, _⟩
    · omega
    · omega
    · have := flowing.closed (same.mp shut)
      omega
  · -- A window that is full at its edge is advertised as closed.
    intro whole
    change windowSize = 0
    rcases timely with current | moves | ⟨same, _⟩
    · omega
    · omega
    · by_contra isOpen
      have := mt flowing.full (mt same.mpr isOpen)
      omega
  · -- Nothing is outstanding, so all that was sent has been acknowledged.
    intro none _
    have none : kept = [] := none
    change max most ackabs = s.nextSeqnoAbsolute
    have total := flowing.accounted.tracked.base_add
    rw [split, none, List.append_nil] at total
    by_cases unchanged : gone = []
    · -- Nothing was dropped, so nothing was outstanding before.
      have := flowing.idle (by rw [split, unchanged, none]; rfl) started
      omega
    · -- The last segment was dropped, and the acknowledgment has reached its end.
      have := reached unchanged
      omega
  · change max most ackabs ≤ s.nextSeqnoAbsolute
    omega
  · intro high
    omega

/-- When filling the window leaves something unsent, something is outstanding. -/
theorem outstanding_of_unsent (flowing : Flowing most edge s emitted)
    (filled : s.fillWindow = .ok s')
    (unsent : s'.stream.buffer ≠ [] ∨
      (s'.stream.eof = true ∧ s'.nextSeqnoAbsolute < s'.stream.bytesWritten + 2)) :
    s'.outstandings ≠ [] := by
  obtain ⟨new, _, queue, kept, stuck⟩ := fillWindow_invariant (Flowing most edge)
    (fun _ _ holds => holds.steady) (fun _ _ _ _ holds emits => holds.emits emits) flowing filled
  by_cases sends : new = []
  · -- Nothing was sent, so the sender is the one of before.
    obtain ⟨rfl, done, noProbe⟩ := stuck sends
    intro none
    have low : (payloads emitted).length < 2 ^ 31 := by
      by_contra high
      exact flowing.high (by omega) none
    -- What the caller calls unsent is what the loop looks for.
    have more : s'.stream.buffer ≠ [] ∨ s'.readyToFin = true := by
      refine unsent.imp_right fun ⟨eof, less⟩ => ?_
      have empty : s'.stream.buffer = [] := by
        simp only [ByteStream.eof, Bool.and_eq_true, beq_iff_eq, List.length_eq_zero_iff] at eof
        exact eof.2
      have written := flowing.accounted.bytesWritten_low low empty
      rw [readyToFin, eof, Bool.true_and, decide_eq_true_eq, add64_of_lt (by omega)]
      exact less
    have isOpen : ¬ s'.nextSeqnoAbsolute ≤ s'.windowRight := by
      -- The window is full, or something would have been sent.
      intro inside
      have := windowFilled_eq_false.mpr ⟨inside, fun _ => more⟩
      rw [done] at this
      exact absurd this (by decide)
    have right := flowing.right
    have most_le := flowing.most_le
    have whole := flowing.idle none (by omega)
    have edge : most = edge := by omega
    -- With everything acknowledged, a full window is a closed one, and it would be probed.
    have shut := flowing.full edge
    have quiet : s'.probing = false := by
      by_contra probing
      have := flowing.probe (by simpa using probing)
      omega
    obtain ⟨empty, unready⟩ := noProbe shut quiet
    rcases more with waiting | ready
    · exact waiting empty
    · rw [unready] at ready
      exact absurd ready (by decide)
  · -- Something was sent, and it is outstanding.
    rw [queue]
    simp [sends]

end Flowing

end TCPSender

namespace SenderRun

/-- Every accepted acknowledgment is timely, comes after the SYN, and writes fit a string. -/
def Punctual (t : SenderRun) : SenderCall → Prop
  | .write data => (t.sender.stream.write data).1.buffer.length < 2 ^ 63
  | .ack ackno windowSize =>
    0 < t.sender.nextSeqnoAbsolute ∧
      match unwrap ackno t.sender.isn t.sender.stream.bytesRead with
      | .ok ackabs => ackabs ≤ t.sender.nextSeqnoAbsolute →
        TCPSender.Flowing.Timely (highest t.acks) (furthest t.acks) t.sender.window ackabs
          windowSize.toNat
      | .error _ => True
  | _ => True

instance (t : SenderRun) : DecidablePred t.Punctual
  | .write _ => inferInstanceAs (Decidable (_ < _))
  | .ack ackno windowSize =>
    match found : unwrap ackno t.sender.isn t.sender.stream.bytesRead with
    | .ok ackabs =>
      decidable_of_iff (0 < t.sender.nextSeqnoAbsolute ∧
        (ackabs ≤ t.sender.nextSeqnoAbsolute →
          TCPSender.Flowing.Timely (highest t.acks) (furthest t.acks) t.sender.window ackabs
            windowSize.toNat)) (by rw [Punctual, found])
    | .error _ => decidable_of_iff (0 < t.sender.nextSeqnoAbsolute) (by simp [Punctual, found])
  | .endInput => .isTrue trivial
  | .fillWindow => .isTrue trivial
  | .tick _ => .isTrue trivial
  | .collect => .isTrue trivial

/-- The invariant of a run whose acknowledgments are timely. -/
def Flowing (t : SenderRun) : Prop :=
  t.sender.Flowing (highest t.acks) (furthest t.acks) t.emitted

variable {t next : SenderRun} {call : SenderCall}

/-- A new sender is flowing. -/
theorem flowing_start (capacity : Nat) (retxTimeout : UInt16) (isn : WrappingInt32) :
    (start capacity retxTimeout isn).Flowing := by
  refine ⟨TCPSender.accounted_new capacity retxTimeout isn, rfl, ?_, ?_, ?_, ?_, ?_, ?_, ?_, ?_, ?_⟩
  all_goals simp [start, TCPSender.new, furthest, highest]

/-- A timely acknowledgment that returns keeps a run flowing. -/
theorem Flowing.ack (flowing : t.Flowing) {ackno : WrappingInt32} {windowSize : UInt16}
    (punctual : t.Punctual (.ack ackno windowSize))
    (steps : t.step (.ack ackno windowSize) = .ok next) : next.Flowing := by
  simp only [step, bind_eq_ok, pure_eq_ok, Except.ok.injEq] at steps
  obtain ⟨sender, received, ackabs, found, rfl⟩ := steps
  obtain ⟨started, timely⟩ := punctual
  rw [found] at timely
  have far := TCPSender.Flowing.next_le flowing
  have word := TCPSender.Flowing.reads_lt flowing
  have accounted := flowing.accounted
  rcases Nat.lt_or_ge (payloads t.emitted).length (2 ^ 31) with low | high
  · have reads := accounted.bytesRead_low low
    rw [unwrap_low _ _ (by omega), Except.ok.injEq] at found
    subst found
    rcases TCPSender.ackReceived_low accounted.tracked (by omega) (by omega) ackno windowSize with
      ⟨beyond, ignored⟩ | ⟨accepted, gone, kept, split, acknowledged, reached, _⟩
    · -- The acknowledgment is ignored, and not noted.
      rw [ignored, Except.ok.injEq] at received
      subst received
      rw [noteAck, if_pos beyond]
      exact flowing
    · -- The acknowledgment is accepted, and noted.
      rw [acknowledged, Except.ok.injEq] at received
      subst received
      rw [noteAck, if_neg (by omega), Flowing, highest_concat, furthest_concat]
      exact TCPSender.Flowing.acknowledged flowing split low started accepted
        windowSize.toNat_lt reached (timely accepted)
  · -- Past the sign bit, an acknowledgment that returns was ignored.
    have reads := accounted.bytesRead_high high word
    rw [TCPSender.ackReceived_high (by omega) (by omega)] at received
    rw [unwrap_high _ _ (by omega) (by omega)] at found
    split at received
    · -- The reading does not end, so the call has not returned.
      simp at received
    · rename_i ignored
      rw [if_neg ignored, Except.ok.injEq] at found
      rw [Except.ok.injEq] at received
      subst received
      rw [noteAck, if_pos (by omega)]
      exact flowing

/-- Every punctual call that returns keeps a run flowing. -/
theorem Flowing.step (flowing : t.Flowing) (punctual : t.Punctual call)
    (steps : t.step call = .ok next) : next.Flowing := by
  have accounted := flowing.accounted
  cases call with
  | write data =>
    -- The bytes of a write wait in the stream.
    rw [SenderRun.step, Except.ok.injEq] at steps
    subst steps
    exact TCPSender.Flowing.congr flowing (accounted.write data punctual) rfl rfl rfl rfl rfl
  | endInput =>
    -- The end of the input is no segment.
    rw [SenderRun.step, Except.ok.injEq] at steps
    subst steps
    refine TCPSender.Flowing.congr flowing ?_ rfl rfl rfl rfl rfl
    exact ⟨accounted.tracked.congr rfl rfl rfl rfl rfl rfl, accounted.capacity, accounted.written,
      accounted.syns, accounted.fins, accounted.lowFins⟩
  | fillWindow =>
    simp only [SenderRun.step, bind_eq_ok, pure_eq_ok, Except.ok.injEq] at steps
    obtain ⟨sender, filled, rfl⟩ := steps
    -- Neither acknowledgment number nor edge changes while segments are sent.
    obtain ⟨new, out, _, kept, _⟩ := TCPSender.fillWindow_invariant
      (TCPSender.Flowing (highest t.acks) (furthest t.acks)) (fun _ _ holds => holds.steady)
      (fun _ _ _ _ holds emits => holds.emits emits) flowing filled
    rw [out, List.drop_left]
    exact kept
  | ack ackno windowSize => exact flowing.ack punctual steps
  | tick ms =>
    -- A segment that is sent again is outstanding already.
    rw [SenderRun.step, Except.ok.injEq] at steps
    subst steps
    obtain ⟨again, timePassed, rto, recount, ticked, _⟩ := t.sender.tick_eq ms
    simp only [ticked]
    exact TCPSender.Flowing.congr flowing
      (accounted.congr (accounted.tracked.congr rfl rfl rfl rfl rfl rfl) rfl rfl rfl)
      rfl rfl rfl rfl rfl
  | collect =>
    -- The owner takes what was queued.
    rw [SenderRun.step, Except.ok.injEq] at steps
    subst steps
    exact TCPSender.Flowing.congr flowing
      (accounted.congr (accounted.tracked.congr rfl rfl rfl rfl rfl rfl) rfl rfl rfl)
      rfl rfl rfl rfl rfl

/-- With timely acknowledgments, a sender that has something unsent has something outstanding. -/
theorem never_stalls (capacity : Nat) (retxTimeout : UInt16) (isn : WrappingInt32)
    (calls : List SenderCall) (t next : SenderRun)
    (punctual : Throughout step Punctual (start capacity retxTimeout isn) calls)
    (returned : runCalls step (start capacity retxTimeout isn) calls = .ok t)
    (filled : t.step .fillWindow = .ok next)
    (unsent : next.sender.stream.buffer ≠ [] ∨ (next.sender.stream.eof = true ∧
      next.sender.nextSeqnoAbsolute < next.sender.stream.bytesWritten + 2)) :
    next.sender.outstandings ≠ [] := by
  -- The invariant of the run, and then the last call.
  have flowing : t.Flowing := punctual.invariant Flowing
    (fun _ _ _ held punctual => held.step punctual) (flowing_start capacity retxTimeout isn)
    returned
  simp only [step, bind_eq_ok, pure_eq_ok, Except.ok.injEq] at filled
  obtain ⟨sender, fills, rfl⟩ := filled
  exact TCPSender.Flowing.outstanding_of_unsent flowing fills unsent

/-- A window that is filled and closed in time, with one byte left to send. -/
def closedInTime : List SenderCall :=
  [.fillWindow, .ack ⟨1⟩ 2, .write [1, 2, 3, 4], .fillWindow, .ack ⟨3⟩ 0]

/-- The byte that a closed window leaves over is probed, and the probe stays outstanding. -/
theorem never_stalls_closed :
    ∃ t next, runCalls step (start 10 100 ⟨0⟩) closedInTime = .ok t ∧
      t.step .fillWindow = .ok next ∧ next.sender.stream.buffer ≠ [] ∧
      next.sender.outstandings ≠ [] := by
  have ran : ∃ t, runCalls step (start 10 100 ⟨0⟩) closedInTime = .ok t ∧
      ∃ next, t.step .fillWindow = .ok next ∧ next.sender.stream.buffer ≠ [] := by
    -- The run is evaluated once, and its last call is split off.
    have whole : ∃ last, runCalls step (start 10 100 ⟨0⟩) (closedInTime ++ [.fillWindow]) =
        .ok last ∧ last.sender.stream.buffer ≠ [] := exists_runCalls (by decide +kernel)
    obtain ⟨last, returned, waiting⟩ := whole
    obtain ⟨t, before, after⟩ := runCalls_append_ok.mp returned
    obtain ⟨next, steps, done⟩ := runCalls_cons_ok.mp after
    rw [runCalls_nil, Except.ok.injEq] at done
    subst done
    exact ⟨t, before, next, steps, waiting⟩
  obtain ⟨t, returned, next, steps, waiting⟩ := ran
  exact ⟨t, next, returned, steps, waiting,
    never_stalls 10 100 ⟨0⟩ _ t next (by decide +kernel) returned steps (.inl waiting)⟩

/-- A late duplicate reopens a closed window in name only, and the sender falls silent. -/
theorem stale_window_stalls :
    ∃ t, runCalls step (start 20 100 ⟨0⟩)
        [.fillWindow, .ack ⟨1⟩ 3, .fillWindow, .write [1, 2, 3], .fillWindow, .ack ⟨4⟩ 0,
          .fillWindow, .ack ⟨1⟩ 3, .fillWindow, .write [4], .fillWindow] = .ok t ∧
      0 < t.sender.nextSeqnoAbsolute ∧ t.sender.stream.buffer ≠ [] ∧
      t.sender.outstandings = [] :=
  exists_runCalls (by decide +kernel)

end SenderRun

end Sponge
