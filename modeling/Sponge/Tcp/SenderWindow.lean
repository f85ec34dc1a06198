import Sponge.Tcp.SenderRuns

/-! A sender stays inside the window it was offered, except for a probe of a closed one. -/

namespace Sponge

/-- The first position past every window that accepted acknowledgments have offered. -/
def furthest (acks : List (Nat × Nat)) : Nat :=
  -- Before any acknowledgment there is room for the SYN alone.
  acks.foldl (fun edge ack => max edge (ack.1 + ack.2)) 1

/-- The window of the last accepted acknowledgment. -/
def lastWindow (acks : List (Nat × Nat)) : Nat := (acks.getLast?.map Prod.snd).getD 1

/-- Another acknowledgment can only move the edge on. -/
theorem furthest_concat (acks : List (Nat × Nat)) (ackabs window : Nat) :
    furthest (acks ++ [(ackabs, window)]) = max (furthest acks) (ackabs + window) := by
  simp [furthest]

/-- Another acknowledgment replaces the window. -/
theorem lastWindow_concat (acks : List (Nat × Nat)) (ackabs window : Nat) :
    lastWindow (acks ++ [(ackabs, window)]) = window := by
  simp [lastWindow]

namespace TCPSender

/-- A sender that has emitted nothing past an edge but one probe. -/
structure WithinEdge (edge : Nat) (s : TCPSender) (emitted : List TCPSegment) : Prop where
  /-- The emitted segments fill the positions up to the next one. -/
  consecutive : Consecutive s.isn 0 emitted s.nextSeqnoAbsolute
  /-- The read counter is an `int`. -/
  counted : toInt32 s.stream.totalRead = s.stream.totalRead
  /-- The edge is the one the sender keeps. -/
  right : s.windowRight + 1 = edge
  /-- No acknowledgment offers more than one turn and a window. -/
  near : edge ≤ 2 ^ 32 + 65535
  /-- Only a probe passes the edge. -/
  inside : s.nextSeqnoAbsolute ≤ edge + s.probing.toNat
  /-- The probe is a single position at the edge. -/
  beyond : edge < s.nextSeqnoAbsolute → ∃ before probe, emitted = before ++ [probe] ∧
    occupied before = edge ∧ probe.lengthInSequenceSpace = 1

namespace WithinEdge

variable {edge : Nat} {s s' : TCPSender} {emitted : List TCPSegment}

/-- The next position is far from the end of the 64-bit range. -/
theorem next_le (within : WithinEdge edge s emitted) :
    s.nextSeqnoAbsolute ≤ 2 ^ 32 + 65536 := by
  -- The position is at most one probe beyond the edge, which is near.
  have inside := within.inside
  have near := within.near
  have := Bool.toNat_le s.probing
  omega

/-- The arithmetic of the sender is exact. -/
theorem steady (within : WithinEdge edge s emitted) : s.Steady := by
  have := within.next_le
  exact ⟨by rw [Fits]; omega, within.counted⟩

/-- The facts carry over to a sender that differs in other fields only. -/
theorem congr (within : WithinEdge edge s emitted) (isn : s'.isn = s.isn)
    (next : s'.nextSeqnoAbsolute = s.nextSeqnoAbsolute)
    (reads : s'.stream.totalRead = s.stream.totalRead)
    (windowRight : s'.windowRight = s.windowRight) (probing : s'.probing = s.probing) :
    WithinEdge edge s' emitted := by
  -- These fields are all that the facts are about.
  refine ⟨?_, ?_, ?_, within.near, ?_, ?_⟩
  · rw [isn, next]; exact within.consecutive
  · rw [reads]; exact within.counted
  · rw [windowRight]; exact within.right
  · rw [next, probing]; exact within.inside
  · rw [next]; exact within.beyond

/-- A probe of one position is the only thing that may pass the edge. -/
theorem probe (within : WithinEdge edge s emitted) (idle : s.probing = false) {size : Nat}
    {fin : Bool} (one : (s.nextSegment size false fin).lengthInSequenceSpace = 1) :
    WithinEdge edge { s.sent size false fin with probing := true }
      (emitted ++ [s.nextSegment size false fin]) := by
  have inside := within.inside
  rw [idle, Bool.toNat_false] at inside
  have next : (s.sent size false fin).nextSeqnoAbsolute = s.nextSeqnoAbsolute + 1 := by
    rw [sent, one]
  -- The probe starts at the edge, or before it, and takes one position.
  refine ⟨consecutive_sent within.consecutive (by omega), ?_, within.right, within.near, ?_, ?_⟩
  · -- The read counter is narrowed with every read.
    exact toInt32_idem _
  · -- The next position is one further.
    simp only [next, Bool.toNat_true]
    omega
  · -- What is beyond the edge is this probe.
    intro past
    simp only [next] at past
    refine ⟨emitted, _, rfl, ?_, one⟩
    have total := within.consecutive.stop_eq
    omega

/-- Every way of emitting a segment stays inside the edge, or probes a closed window. -/
theorem emits (within : WithinEdge edge s emitted) {seg : TCPSegment} (emits : Emits s seg s') :
    WithinEdge edge s' (emitted ++ [seg]) ∧ s'.window = s.window ∧
      (edge < s'.nextSeqnoAbsolute → s.window = 0) := by
  have right := within.right
  have near := within.near
  cases emits with
  | turn isOpen =>
    -- A turn of the loop stops at the right edge.
    have stop := (turn_of_open isOpen (by omega)).inside
    have inside : s.turned.nextSeqnoAbsolute ≤ edge := by
      change s.nextSeqnoAbsolute + s.turnSegment.lengthInSequenceSpace ≤ edge
      omega
    refine ⟨⟨consecutive_sent within.consecutive s.turn_positive, toInt32_idem _, right, near,
      ?_, ?_⟩, rfl, ?_⟩
    · exact inside.trans (Nat.le_add_right _ _)
    · intro past; omega
    · intro past; omega
  | probe closed idle waiting =>
    -- One byte.
    have inside := List.length_pos_iff.mpr waiting
    exact ⟨within.probe idle (by rw [nextSegment_length inside]; rfl), rfl, fun _ => closed⟩
  | probeFin closed idle ready empty =>
    -- The FIN.
    exact ⟨within.probe idle (by rw [nextSegment_length (Nat.zero_le _)]; rfl), rfl,
      fun _ => closed⟩

/-- Filling the window stays inside the edge, or probes a closed window. -/
theorem fillWindow (within : WithinEdge edge s emitted) (filled : s.fillWindow = .ok s') :
    ∃ new, s'.segmentsOut = s.segmentsOut ++ new ∧ WithinEdge edge s' (emitted ++ new) ∧
      s'.window = s.window ∧ (edge < s'.nextSeqnoAbsolute → new = [] ∨ s.window = 0) := by
  -- The invariant is carried through the loop, with what has been emitted so far.
  obtain ⟨new, out, _, ⟨kept, window, past⟩, _⟩ := fillWindow_invariant
    (fun mid sofar => WithinEdge edge mid sofar ∧ mid.window = s.window ∧
      (edge < mid.nextSeqnoAbsolute → sofar = emitted ∨ s.window = 0))
    (fun _ _ holds => holds.1.steady)
    (fun mid seg after sofar holds emits => by
      obtain ⟨kept, same, closed⟩ := holds.1.emits emits
      exact ⟨kept, same.trans holds.2.1, fun past => .inr (holds.2.1 ▸ closed past)⟩)
    ⟨within, rfl, fun _ => .inl rfl⟩ filled
  refine ⟨new, out, kept, window, fun beyond => ?_⟩
  exact (past beyond).imp_left (fun same => by simpa using same)

/-- An accepted acknowledgment moves the edge to where the window it offers ends. -/
theorem afterDrop (within : WithinEdge edge s emitted) {ackabs windowSize : Nat}
    {kept : List TCPSegment} {inFlights : Nat} (word : ackabs < 2 ^ 32)
    (short : windowSize < 2 ^ 16) (offers : 0 < ackabs + windowSize) :
    WithinEdge (max edge (ackabs + windowSize))
      ({ s with
        window := windowSize
        windowRight := max s.windowRight (offeredRight ackabs windowSize) }.afterDrop
          (decide (s.windowRight < offeredRight ackabs windowSize)) kept inFlights) emitted := by
  have right := within.right
  have near := within.near
  have inside := within.inside
  -- A window that offers something does not underflow.
  have offered : offeredRight ackabs windowSize = ackabs + windowSize - 1 := by
    rw [offeredRight, add64_of_lt (by omega), sub64_of_le (by omega) (by omega)]
  refine ⟨within.consecutive, within.counted, ?_, by omega, ?_, ?_⟩
  · -- The edge is where the window ends.
    simp only [TCPSender.afterDrop, offered]
    omega
  · -- A probe is forgotten when the edge moves.
    simp only [TCPSender.afterDrop, offered]
    by_cases moved : s.windowRight < ackabs + windowSize - 1
    · have := Bool.toNat_le s.probing
      omega
    · simp only [moved, decide_false, Bool.not_false, Bool.and_true]
      omega
  · intro past
    have := Bool.toNat_le s.probing
    -- What is still beyond the new edge is the probe that was beyond the old one.
    obtain ⟨before, probe, split, start, one⟩ := within.beyond (lt_of_le_of_lt (by omega) past)
    refine ⟨before, probe, split, ?_, one⟩
    have total := within.consecutive.stop_eq
    have stop : s.nextSeqnoAbsolute = edge + 1 := by
      rw [total, split, occupied_append, occupied_cons, occupied_nil]
      omega
    have : max edge (ackabs + windowSize) < s.nextSeqnoAbsolute := past
    omega

end WithinEdge

end TCPSender

namespace SenderRun

/-- An acknowledgment of the initial number itself offers some room. -/
def Offers (t : SenderRun) : SenderCall → Prop
  | .ack ackno windowSize => ¬ (ackno = t.sender.isn ∧ windowSize = 0)
  | _ => True

instance (t : SenderRun) : DecidablePred t.Offers
  | .write _ => .isTrue trivial
  | .ack _ _ => inferInstanceAs (Decidable (¬ (_ ∧ _)))
  | .endInput => .isTrue trivial
  | .fillWindow => .isTrue trivial
  | .tick _ => .isTrue trivial
  | .collect => .isTrue trivial

/-- The invariant of a run whose acknowledgments offer some room. -/
structure Bounded (t : SenderRun) : Prop where
  /-- Nothing but a probe has passed the furthest window. -/
  within : t.sender.WithinEdge (furthest t.acks) t.emitted
  /-- The sender keeps the window of the last accepted acknowledgment. -/
  window : t.sender.window = lastWindow t.acks

variable {t next : SenderRun} {call : SenderCall}

/-- A new sender is bounded. -/
theorem bounded_start (capacity : Nat) (retxTimeout : UInt16) (isn : WrappingInt32) :
    (start capacity retxTimeout isn).Bounded := by
  -- Nothing was sent, and nothing was offered.
  refine ⟨⟨rfl, ?_, rfl, ?_, ?_, ?_⟩, rfl⟩
  · simp [start, TCPSender.new, ByteStream.new, toInt32]
  · simp [start, furthest]
  · simp [start, TCPSender.new]
  · simp [start, TCPSender.new]

/-- Filling the window keeps a run bounded. -/
theorem Bounded.fillWindow (bounded : t.Bounded) (steps : t.step .fillWindow = .ok next) :
    next.Bounded ∧ (furthest t.acks < next.sender.nextSeqnoAbsolute →
      next.emitted = t.emitted ∨ lastWindow t.acks = 0) := by
  simp only [step, bind_eq_ok, pure_eq_ok, Except.ok.injEq] at steps
  obtain ⟨sender, filled, rfl⟩ := steps
  obtain ⟨new, out, kept, window, past⟩ := bounded.within.fillWindow filled
  -- The new segments are those behind the old queue.
  rw [out, List.drop_left]
  refine ⟨⟨kept, window.trans bounded.window⟩, fun beyond => ?_⟩
  rw [← bounded.window]
  exact (past beyond).imp_left (fun none => by simp [none])

/-- An acknowledgment that offers some room keeps a run bounded. -/
theorem Bounded.ack (bounded : t.Bounded) {ackno : WrappingInt32} {windowSize : UInt16}
    (offers : t.Offers (.ack ackno windowSize))
    (steps : t.step (.ack ackno windowSize) = .ok next) : next.Bounded := by
  simp only [step, bind_eq_ok, pure_eq_ok, Except.ok.injEq] at steps
  obtain ⟨sender, received, ackabs, found, rfl⟩ := steps
  obtain ⟨ackabs', found', cases⟩ := TCPSender.ackReceived_cases received
  rw [found, Except.ok.injEq] at found'
  subst found'
  rcases cases with ⟨beyond, rfl⟩ | ⟨accepted, kept, inFlights, _, rfl⟩
  · -- An ignored acknowledgment is not recorded either.
    rw [noteAck, if_pos beyond]
    exact bounded
  · -- The counters are far from wrapping, so the number unwraps to its offset.
    have far := bounded.within.next_le
    have low : ackabs = offsetFrom ackno t.sender.isn := by
      rw [ByteStream.bytesRead, ← bounded.within.counted] at found
      rcases unwrap_int found with low | high
      · exact low
      · omega
    have word := offsetFrom_lt ackno t.sender.isn
    have short := windowSize.toNat_lt
    have room : 0 < ackabs + windowSize.toNat := by
      -- A closed window at position zero was excluded.
      by_contra none
      refine offers ⟨offsetFrom_eq_zero (show offsetFrom ackno t.sender.isn = 0 by omega), ?_⟩
      exact UInt16.toNat_inj.mp (by simp; omega)
    rw [noteAck, if_neg (by omega)]
    refine ⟨?_, ?_⟩
    · -- The recorded edge moves with that of the sender.
      rw [furthest_concat]
      exact bounded.within.afterDrop (by omega) short room
    · rw [lastWindow_concat]
      rfl

/-- Every call that returns keeps a run bounded. -/
theorem Bounded.step (bounded : t.Bounded) (offers : t.Offers call)
    (steps : t.step call = .ok next) : next.Bounded := by
  -- Only filling the window emits, and only an acknowledgment moves the edge.
  cases call with
  | write data =>
    -- Writing does not read from the stream.
    rw [SenderRun.step, Except.ok.injEq] at steps
    subst steps
    refine ⟨bounded.within.congr rfl rfl ?_ rfl rfl, bounded.window⟩
    exact t.sender.stream.write_totalRead data
  | endInput =>
    rw [SenderRun.step, Except.ok.injEq] at steps
    subst steps
    exact ⟨bounded.within.congr rfl rfl rfl rfl rfl, bounded.window⟩
  | fillWindow => exact (bounded.fillWindow steps).1
  | ack ackno windowSize => exact bounded.ack offers steps
  | tick ms =>
    -- What is sent again was counted before.
    rw [SenderRun.step, Except.ok.injEq] at steps
    subst steps
    obtain ⟨again, timePassed, rto, recount, ticked, _⟩ := t.sender.tick_eq ms
    simp only [ticked]
    exact ⟨bounded.within.congr rfl rfl rfl rfl rfl, bounded.window⟩
  | collect =>
    rw [SenderRun.step, Except.ok.injEq] at steps
    subst steps
    exact ⟨bounded.within.congr rfl rfl rfl rfl rfl, bounded.window⟩

/-- Every emitted segment ends at or before the edge, but for one probe at the edge. -/
theorem Bounded.segment_inside (bounded : t.Bounded) {before after : List TCPSegment}
    {seg : TCPSegment} (split : t.emitted = before ++ seg :: after) :
    occupied before + seg.lengthInSequenceSpace ≤ furthest t.acks ∨
      (occupied before = furthest t.acks ∧ seg.lengthInSequenceSpace = 1 ∧ after = []) := by
  have stop := bounded.within.consecutive.le_stop split
  rw [Nat.zero_add] at stop
  by_cases past : furthest t.acks < t.sender.nextSeqnoAbsolute
  · -- A probe is beyond the edge, and it is the last segment.
    obtain ⟨front, probe, whole, start, one⟩ := bounded.within.beyond past
    rcases List.eq_nil_or_concat after with rfl | ⟨more, last, rfl⟩
    · -- The last segment is the probe itself.
      rw [split] at whole
      obtain ⟨same, single⟩ := List.append_inj' whole rfl
      rw [List.cons.injEq] at single
      exact .inr ⟨same ▸ start, single.1 ▸ one, rfl⟩
    · -- A segment before the probe ends where the probe starts.
      rw [split, List.concat_eq_append, ← List.cons_append, ← List.append_assoc] at whole
      obtain ⟨same, _⟩ := List.append_inj' whole rfl
      refine .inl ?_
      rw [← start, ← same, occupied_append, occupied_cons]
      omega
  · -- Everything is inside the edge.
    exact .inl (by omega)

/-- When no acknowledgment closes the window at the initial number, flow control is respected. -/
theorem flow_control_respected (capacity : Nat) (retxTimeout : UInt16) (isn : WrappingInt32)
    (calls : List SenderCall) (t : SenderRun)
    (offers : Throughout step Offers (start capacity retxTimeout isn) calls)
    (returned : runCalls step (start capacity retxTimeout isn) calls = .ok t) :
    t.sender.nextSeqnoAbsolute ≤ furthest t.acks + 1 ∧
      (∀ before seg after, t.emitted = before ++ seg :: after →
        occupied before + seg.lengthInSequenceSpace ≤ furthest t.acks ∨
          (occupied before = furthest t.acks ∧ seg.lengthInSequenceSpace = 1 ∧ after = [])) ∧
      ∀ next, t.step .fillWindow = .ok next →
        furthest t.acks < next.sender.nextSeqnoAbsolute →
        next.emitted = t.emitted ∨ lastWindow t.acks = 0 := by
  have bounded := offers.invariant Bounded (fun _ _ _ held offers => held.step offers)
    (bounded_start capacity retxTimeout isn) returned
  refine ⟨?_, fun _ _ _ split => bounded.segment_inside split,
    fun _ steps => (bounded.fillWindow steps).2⟩
  -- A probe may be one position past the edge.
  have inside := bounded.within.inside
  have := Bool.toNat_le t.sender.probing
  omega

/-- A window that is filled, closed, and then probed with one byte. -/
def probedWindow : List SenderCall :=
  [.fillWindow, .ack ⟨1⟩ 2, .write [1, 2, 3], .fillWindow, .ack ⟨3⟩ 0, .fillWindow]

/-- After the probe, one position past the furthest window is in use. -/
theorem flow_control_respected_probe :
    ∃ t, runCalls step (start 10 100 ⟨0⟩) probedWindow = .ok t ∧
      t.sender.nextSeqnoAbsolute ≤ furthest t.acks + 1 ∧
      (∀ before seg after, t.emitted = before ++ seg :: after →
        occupied before + seg.lengthInSequenceSpace ≤ furthest t.acks ∨
          (occupied before = furthest t.acks ∧ seg.lengthInSequenceSpace = 1 ∧ after = [])) ∧
      ∀ next, t.step .fillWindow = .ok next →
        furthest t.acks < next.sender.nextSeqnoAbsolute →
        next.emitted = t.emitted ∨ lastWindow t.acks = 0 := by
  -- The run is evaluated up to the probe.
  have ran : ∃ t, runCalls step (start 10 100 ⟨0⟩) probedWindow = .ok t ∧
      t.sender.nextSeqnoAbsolute = 4 := exists_runCalls (by decide +kernel)
  obtain ⟨t, returned, _⟩ := ran
  exact ⟨t, returned, flow_control_respected 10 100 ⟨0⟩ _ t (by decide +kernel) returned⟩

/-- A closed window at the initial number itself opens the sender's window to the whole range. -/
theorem closed_at_isn_overruns :
    ∃ t, runCalls step (start 10 100 ⟨0⟩)
        [.fillWindow, .write [97, 98, 99], .ack ⟨0⟩ 0, .fillWindow, .fillWindow] = .ok t ∧
      furthest t.acks = 1 ∧ t.sender.nextSeqnoAbsolute = 4 :=
  exists_runCalls (by decide +kernel)

end SenderRun

end Sponge
