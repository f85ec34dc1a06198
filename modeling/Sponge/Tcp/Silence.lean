import Sponge.Tcp.ConnectionReceiver
import Sponge.Tcp.ReceiverEnd

/-! What a connection still sends once it is no longer active. -/

namespace Sponge

namespace TCPSender

variable {s s' : TCPSender}

/-- Nothing is queued, and filling the window would send nothing. -/
def Idle (s : TCPSender) : Prop :=
  s.segmentsOut = [] ∧ ¬ s.Probes ∧ s.windowFilled = true

instance (s : TCPSender) : Decidable s.Idle := inferInstanceAs (Decidable (_ ∧ _ ∧ _))

/-- A probe puts one segment into the queue. -/
theorem sendOneByteSegment_queue {f : Bool} (sends : s.sendOneByteSegment f = .ok s') :
    ∃ seg, s'.segmentsOut = s.segmentsOut ++ [seg] := by
  cases f with
  | true =>
    -- The FIN.
    simp only [sendOneByteSegment, if_true, ok_bind, pure_eq_ok, Except.ok.injEq] at sends
    exact ⟨_, by rw [← sends]; rfl⟩
  | false =>
    -- One byte of the stream.
    simp only [sendOneByteSegment, Bool.false_eq_true, if_false, bind_eq_ok, pure_eq_ok,
      Except.ok.injEq] at sends
    obtain ⟨_, _, rfl⟩ := sends
    exact ⟨_, rfl⟩

/-- A turn of the loop puts one segment into the queue. -/
theorem sendSegment_queue (sends : s.sendSegment = .ok s') :
    ∃ seg, s'.segmentsOut = s.segmentsOut ++ [seg] := by
  simp only [sendSegment, bind_eq_ok, pure_eq_ok, Except.ok.injEq] at sends
  obtain ⟨_, _, rfl⟩ := sends
  exact ⟨_, rfl⟩

/-- The loop takes nothing out of the queue. -/
theorem fillLoop_queue :
    ∀ {turns} {s : TCPSender}, s.fillLoop turns = .ok s' → s.segmentsOut <+: s'.segmentsOut := by
  -- Induction on the turns: each one adds a segment.
  intro turns
  induction turns with
  | zero => exact fun filled => absurd filled (by simp [fillLoop])
  | succ turns ih =>
    intro s filled
    rw [fillLoop] at filled
    split at filled
    · rw [Except.ok.injEq] at filled
      exact filled ▸ List.prefix_refl _
    · obtain ⟨sent, sends, rest⟩ := bind_eq_ok.mp filled
      obtain ⟨seg, queue⟩ := sendSegment_queue sends
      exact (queue ▸ List.prefix_append _ _).trans (ih rest)

/-- A probe puts one segment into the queue. -/
theorem Probes.fillWindow_queue (due : s.Probes) (filled : s.fillWindow = .ok s') :
    ∃ seg, s'.segmentsOut = s.segmentsOut ++ [seg] := by
  rw [TCPSender.fillWindow] at filled
  split at filled
  · obtain ⟨seg, queue⟩ := sendOneByteSegment_queue filled
    exact ⟨seg, queue⟩
  · split at filled
    · obtain ⟨seg, queue⟩ := sendOneByteSegment_queue filled
      exact ⟨seg, queue⟩
    · -- With a closed window, one of the two is to be sent.
      rename_i noByte noFin
      obtain ⟨closed, quiet, waiting | ready⟩ := due
      · exact absurd ⟨closed, quiet, by simpa [ByteStream.bufferEmpty] using waiting⟩ noByte
      · exact absurd ⟨closed, quiet, ready⟩ noFin

/-- Filling the window of an idle sender changes nothing, and that of another sends something. -/
theorem fillWindow_idle (filled : s.fillWindow = .ok s') :
    (s'.segmentsOut = [] ↔ s.Idle) ∧ (s.Idle → s' = s) := by
  by_cases due : s.Probes
  · -- A probe is sent in any case.
    obtain ⟨seg, queue⟩ := due.fillWindow_queue filled
    exact ⟨iff_of_false (by simp [queue]) fun idle => idle.2.1 due,
      fun idle => absurd due idle.2.1⟩
  · rw [fillWindow_of_not_probes due, fillLoop] at filled
    split at filled
    · -- The loop stops at once, so the queue is the one of before.
      rename_i stops
      rw [Except.ok.injEq] at filled
      rw [← filled]
      exact ⟨⟨fun none => ⟨none, due, stops⟩, fun idle => idle.1⟩, fun _ => rfl⟩
    · -- The first turn already sends something.
      rename_i goes
      obtain ⟨sent, sends, rest⟩ := bind_eq_ok.mp filled
      obtain ⟨seg, queue⟩ := sendSegment_queue sends
      have grown := fillLoop_queue rest
      refine ⟨iff_of_false (fun none => ?_) fun idle => goes idle.2.2,
        fun idle => absurd idle.2.2 goes⟩
      rw [none, queue, List.prefix_nil] at grown
      exact absurd grown (by simp)

/-- An acknowledgment leaves a sender idle. -/
def IdleAfter (s : TCPSender) (ackno : WrappingInt32) (windowSize : UInt16) : Prop :=
  match unwrap ackno s.isn s.stream.bytesRead with
  | .error _ => True
  | .ok ackabs =>
    let right := sub64 (add64 ackabs windowSize.toNat) 1
    if s.nextSeqnoAbsolute < ackabs then s.Idle
    else
      -- The window is the offered one, and a right edge that moves ends the probing.
      Idle { s with
        window := windowSize.toNat
        windowRight := if s.windowRight < right then right else s.windowRight
        probing := s.probing && !decide (s.windowRight < right) }

instance (s : TCPSender) (ackno : WrappingInt32) (windowSize : UInt16) :
    Decidable (s.IdleAfter ackno windowSize) :=
  match found : unwrap ackno s.isn s.stream.bytesRead with
  | .error _ => .isTrue (by rw [IdleAfter, found]; trivial)
  | .ok _ => decidable_of_iff (if _ < _ then _ else Idle _) (by rw [IdleAfter, found])

/-- After an acknowledgment, a sender is idle exactly when the new window gives it nothing to do. -/
theorem ackReceived_idle {ackno : WrappingInt32} {windowSize : UInt16}
    (received : s.ackReceived ackno windowSize = .ok s') :
    (s'.Idle ↔ s.IdleAfter ackno windowSize) ∧ s'.nextSeqnoAbsolute = s.nextSeqnoAbsolute := by
  rw [ackReceived] at received
  obtain ⟨ackabs, found, rest⟩ := bind_eq_ok.mp received
  rw [IdleAfter, found]
  dsimp only at rest ⊢
  split at rest
  · -- An acknowledgment of what was not sent is ignored.
    rename_i beyond
    rw [pure_eq_ok, Except.ok.injEq] at rest
    rw [if_pos beyond, rest]
    exact ⟨Iff.rfl, rfl⟩
  · rename_i known
    obtain ⟨⟨kept, inFlights⟩, _, result⟩ := bind_eq_ok.mp rest
    rw [pure_eq_ok, Except.ok.injEq] at result
    rw [if_neg known, ← result]
    refine ⟨?_, rfl⟩
    -- Neither the queue nor the timer matters for what is to be sent.
    simp only [Idle, Probes, afterDrop, windowFilled, readyToFin, decide_eq_true_eq]

end TCPSender

namespace TCPConnection

variable {c c' : TCPConnection} {seg : TCPSegment} {call : ConnectionCall}

/-- Moving the segments of a sender on leaves the queue as it is exactly when there are none. -/
theorem seg2seg_queue (c : TCPConnection) :
    c.seg2seg.segmentsOut = c.segmentsOut ↔ c.sender.segmentsOut = [] := by
  rw [seg2seg]
  simp

/-- Connecting sends nothing exactly when the sender is idle. -/
theorem connect_queue (connected : c.connect = .ok c') :
    c'.segmentsOut = c.segmentsOut ↔ c.sender.Idle := by
  obtain ⟨s, filled, rfl⟩ := connect_ok.mp connected
  rw [show c.segmentsOut = { c with sender := s }.segmentsOut from rfl, seg2seg_queue]
  exact (TCPSender.fillWindow_idle filled).1

/-- A segment asks for no answer and lets nothing be sent. -/
def Unanswered (c : TCPConnection) (seg : TCPSegment) : Prop :=
  seg.lengthInSequenceSpace = 0 ∧ c.isKeepAlive seg = false ∧
    if seg.header.ack = true then c.sender.IdleAfter seg.header.ackno seg.header.win
    else c.sender.segmentsOut = [] ∧
      ¬ (c.sender.nextSeqnoAbsolute = 0 ∧ c.receiver.ackno.isSome = true)

instance (c : TCPConnection) (seg : TCPSegment) : Decidable (c.Unanswered seg) :=
  inferInstanceAs (Decidable (_ ∧ _ ∧ if seg.header.ack = true then _ else _))

/-- A call finds nothing to send in the state that a connection is in. -/
def Quiet (c : TCPConnection) : ConnectionCall → Prop
  | .connect => c.sender.Idle
  | .write data => (c.prepared (.write data)).Idle
  | .endInputStream => (c.prepared .endInputStream).Idle
  | .tick ms =>
    c.sender.segmentsOut = [] ∧
      (c.sender.outstandings = [] ∨ add64 ms c.sender.timePassed < c.sender.rto)
  | .segment seg =>
    (c.sender.nextSeqnoAbsolute = 0 ∧ seg.header.ack = true) ∨ seg.header.rst = true ∨
      c.Unanswered seg
  | .reader _ => True

instance (c : TCPConnection) : DecidablePred c.Quiet
  | .connect => inferInstanceAs (Decidable (TCPSender.Idle _))
  | .write _ => inferInstanceAs (Decidable (TCPSender.Idle _))
  | .endInputStream => inferInstanceAs (Decidable (TCPSender.Idle _))
  | .tick _ => inferInstanceAs (Decidable (_ ∧ (_ ∨ _)))
  | .segment _ => inferInstanceAs (Decidable (_ ∨ _ ∨ _))
  | .reader _ => .isTrue trivial

/-- A handled segment adds nothing to the queue exactly when it is left unanswered. -/
theorem handle_queue (handled : c.handle seg = .ok c')
    (sentSyn : seg.header.ack = true → 0 < c.sender.nextSeqnoAbsolute)
    (same : seg.lengthInSequenceSpace = 0 → c'.receiver.ackno = c.receiver.ackno) :
    c'.segmentsOut = c.segmentsOut ↔ c.Unanswered seg := by
  -- The receiver's part is determined by the segment alone.
  have receiver := handle_receiver handled
  obtain ⟨r, acked, opened, parts⟩ := handle_ok.mp handled
  rw [parts.received, Except.ok.injEq] at receiver
  rw [← receiver] at same
  obtain ⟨out, answered, cases⟩ := answer_eq { c with receiver := r, sender := opened }
    (decide (0 < seg.lengthInSequenceSpace) ||
      { c with receiver := r, sender := opened }.isKeepAlive seg)
  have queue : c'.segmentsOut = c.segmentsOut ↔ out = [] := by
    rw [← parts.result, answered]
    exact seg2seg_queue _
  -- Nothing is left in the queue of the sender, and no answer is due.
  have empty : out = [] ↔ opened.segmentsOut = [] ∧ seg.lengthInSequenceSpace = 0 ∧
      { c with receiver := r, sender := opened }.isKeepAlive seg = false := by
    have due : (decide (0 < seg.lengthInSequenceSpace) ||
        { c with receiver := r, sender := opened }.isKeepAlive seg) = false ↔
        seg.lengthInSequenceSpace = 0 ∧
          { c with receiver := r, sender := opened }.isKeepAlive seg = false := by
      rw [Bool.or_eq_false_iff, decide_eq_false_iff_not, Nat.not_lt, Nat.le_zero]
    rw [← due]
    rcases cases with ⟨kept, asked⟩ | ⟨asked, _, one⟩
    · -- The queue of the sender is left, and no answer was due if it is empty.
      rw [kept]
      refine ⟨fun none => ⟨none, ?_⟩, fun both => both.1⟩
      by_contra some
      rw [Bool.not_eq_false] at some
      exact asked some none
    · -- The answer is in the queue.
      rw [one, asked]
      simp
  -- The sender has sent nothing.
  have sends : opened.segmentsOut = [] ↔ if seg.header.ack = true then
        c.sender.IdleAfter seg.header.ackno seg.header.win
      else c.sender.segmentsOut = [] ∧ ¬ (c.sender.nextSeqnoAbsolute = 0 ∧ r.ackno.isSome = true) := by
    have heard := parts.heard
    have opens := parts.opens
    split at heard
    · -- The acknowledgment is heard, and the window filled.
      rename_i carries
      obtain ⟨s, acks, fills⟩ := heard
      obtain ⟨idle, next⟩ := TCPSender.ackReceived_idle acks
      obtain ⟨quiet, kept⟩ := TCPSender.fillWindow_idle fills
      rw [if_pos carries, ← idle, ← quiet]
      split at opens
      · rename_i zero
        have again := TCPSender.fillWindow_idle opens
        refine ⟨fun none => (again.1.mp none).1, fun none => ?_⟩
        -- An idle sender is past its SYN, so it does not send one here.
        have same := kept (quiet.mp none)
        rw [same, next] at zero
        exact absurd (sentSyn carries) (by omega)
      · rw [opens]
    · -- Without acknowledgment only the SYN can be due.
      rename_i plain
      rw [if_neg plain, ← heard]
      split at opens
      · -- The SYN is due, so the loop sends it.
        rename_i due
        have again := (TCPSender.fillWindow_idle opens).1
        refine ⟨fun none => ?_, fun both => absurd due both.2⟩
        have stops := (again.mp none).2.2
        simp [TCPSender.windowFilled, due.1] at stops
      · -- Nothing is due, so the sender is the one of before.
        rename_i undue
        rw [opens]
        exact ⟨fun none => ⟨none, undue⟩, fun both => both.1⟩
  rw [queue, empty, sends, Unanswered]
  -- An empty segment leaves the number of the receiver as it is.
  constructor
  · rintro ⟨none, zero, quiet⟩
    rw [same zero] at none
    refine ⟨zero, ?_, none⟩
    simpa only [isKeepAlive, same zero] using quiet
  · rintro ⟨zero, quiet, none⟩
    rw [same zero]
    refine ⟨none, zero, ?_⟩
    simpa only [isKeepAlive, same zero] using quiet

/-- A tick of a connection that is not active only moves segments on. -/
theorem tick_of_dead (dead : c.active = false) (ms : Nat) :
    c.tick ms = (c.ticked ms).tickOpen := by
  have waits : (c.ticked ms).state ≠ .ofState .timeWait := by
    -- The state of a connection that is over is not TIME_WAIT.
    intro same
    have := congrArg TCPState.active same
    simp [state, TCPState.of, TCPState.ofState, ticked, dead] at this
  rw [tick, if_neg waits, if_neg (by simp [ticked, dead])]

/-- A tick of a connection that is not active sends again only what has timed out. -/
theorem tick_queue (dead : c.active = false) (ms : Nat) :
    (c.tick ms).segmentsOut = c.segmentsOut ↔ c.Quiet (.tick ms) := by
  -- Without the abort, what the sender has queued is moved on in every state.
  have moved : (c.tick ms).segmentsOut = (c.ticked ms).seg2seg.segmentsOut := by
    rw [tick_of_dead dead ms]
    rfl
  rw [moved, show c.segmentsOut = (c.ticked ms).segmentsOut from rfl, seg2seg_queue, Quiet]
  show (c.sender.tick ms).segmentsOut = [] ↔ _
  rw [TCPSender.tick]
  split
  · -- Nothing is outstanding.
    rename_i none
    simp [none]
  · rename_i oldest rest queue
    dsimp only
    split
    · -- The timer goes on.
      rename_i running
      simp [queue, running]
    · -- The timer has run out, so the oldest segment goes out again.
      rename_i expired
      simp [queue, expired]

end TCPConnection

namespace StreamReassembler

/-- The stream has ended if its end has been reached. -/
def EndNoted (r : StreamReassembler) : Prop :=
  r.output.bytesWritten = r.endIdx → r.output.ended = true

/-- A push notes the end that it reaches. -/
theorem endNoted_push {r r' : StreamReassembler} {data : Bytes} {index : Nat} {eof : Bool}
    (pushed : r.pushSubstring data index eof = .ok r') : r'.EndNoted := by
  obtain ⟨noted, added, _, _, result⟩ := pushSubstring_ok pushed
  rw [result]
  split
  · -- The end is reached, and noted.
    exact fun _ => rfl
  · -- The end is not reached.
    rename_i short
    exact fun reached => absurd reached short

/-- Once the end is noted, a push of nothing changes nothing. -/
theorem EndNoted.push_nil {r r' : StreamReassembler} {index : Nat} (noted : r.EndNoted)
    (pushed : r.pushSubstring [] index false = .ok r') : r' = r := by
  obtain ⟨_, added, announces, adds, result⟩ := pushSubstring_ok pushed
  rw [if_neg (by decide)] at announces
  rw [announces, addTempCash_def, if_pos List.length_nil, Except.ok.injEq] at adds
  subst adds
  rw [result]
  split
  · -- The input was ended already when the end was reached.
    rename_i reached
    have ended := noted reached
    rw [ByteStream.endInput, ← ended]
  · rfl

end StreamReassembler

/-- Once the end is noted, an empty segment changes nothing. -/
theorem TCPReceiver.segmentReceived_empty {r r' : TCPReceiver} {seg : TCPSegment}
    (noted : r.reassembler.EndNoted) (empty : seg.lengthInSequenceSpace = 0)
    (received : r.segmentReceived seg = .ok r') : r' = r := by
  -- An empty segment has no payload and neither flag.
  obtain ⟨payload, syn, fin⟩ : seg.payload = [] ∧ seg.header.syn = false ∧
      seg.header.fin = false := by
    rw [TCPSegment.lengthInSequenceSpace] at empty
    refine ⟨List.length_eq_zero_iff.mp (by omega), ?_, ?_⟩
    · by_contra carries
      rw [if_pos (by simpa using carries)] at empty
      omega
    · by_contra carries
      rw [if_pos (show seg.header.fin = true by simpa using carries)] at empty
      omega
  rw [segmentReceived_payload] at received
  obtain ⟨place, _, handled⟩ := bind_eq_ok.mp received
  cases place with
  | none =>
    -- The segment has no place in the stream.
    rw [pure_eq_ok, Except.ok.injEq] at handled
    exact handled.symm
  | some idx =>
    -- Nothing is pushed, and the end is not told.
    have same : r.noteSyn seg.header = r := by simp [noteSyn, syn]
    rw [same] at handled
    obtain ⟨reassembler, pushed, rfl⟩ := push_ok.mp handled
    rw [payload, fin] at pushed
    rw [noted.push_nil pushed]

namespace ConnectionRun

/-- In every run, the end of the inbound stream is noted when it is reached. -/
theorem endNoted_run {cfg : TCPConfig} {isn : WrappingInt32} {calls : List ConnectionCall}
    {t : ConnectionRun} (returned : runCalls step (start cfg isn) calls = .ok t) :
    t.connection.receiver.reassembler.EndNoted := by
  refine runCalls_invariant (fun t => t.connection.receiver.reassembler.EndNoted) ?_ ?_ returned
  · intro state call next noted steps
    rcases step_receiver steps with ⟨output, receiver, changed⟩ | ⟨seg, _, received⟩
    · rw [receiver]
      -- An error, a read or nothing at all leaves the counters of the writer.
      rcases changed with rfl | rfl | ⟨len, rfl⟩ <;> exact noted
    · rcases (TCPReceiver.segmentReceived_ok received).2.2 with same | ⟨idx, pushed⟩
      · rw [same]
        exact noted
      · exact StreamReassembler.endNoted_push pushed
  · simp [StreamReassembler.EndNoted, start, TCPConnection.new, TCPReceiver.new,
      StreamReassembler.new, ByteStream.new, ByteStream.bytesWritten, ofInt]

/-- Once a connection is not active, a call adds nothing to its queue exactly when it is quiet. -/
theorem silent_iff_quiet {cfg : TCPConfig} {isn : WrappingInt32} {calls : List ConnectionCall}
    {t : ConnectionRun} (returned : runCalls step (start cfg isn) calls = .ok t)
    (dead : t.connection.active = false) {call : ConnectionCall} {c : TCPConnection}
    (performed : t.connection.perform call = .ok c) :
    c.segmentsOut = t.connection.segmentsOut ↔ t.connection.Quiet call := by
  -- The owner's calls fill the window, which an idle sender does not use.
  cases call with
  | connect => exact TCPConnection.connect_queue performed
  | write data => exact TCPConnection.connect_queue (TCPConnection.perform_write.mp performed)
  | endInputStream =>
    rw [TCPConnection.perform, TCPConnection.endInputStream_eq] at performed
    exact TCPConnection.connect_queue performed
  | tick ms =>
    rw [TCPConnection.perform, Except.ok.injEq] at performed
    rw [← performed]
    exact TCPConnection.tick_queue dead ms
  | reader taken =>
    obtain ⟨served, _, rfl⟩ := TCPConnection.perform_reader.mp performed
    exact iff_of_true rfl trivial
  | segment seg =>
    have noted := endNoted_run returned
    rcases TCPConnection.segmentReceived_ok.mp performed with ⟨zero, carries, rfl⟩ |
      ⟨_, resets, rfl⟩ | ⟨sentSyn, plain, handled⟩
    · -- The segment is ignored.
      exact iff_of_true rfl (.inl ⟨zero, carries⟩)
    · -- A reset is not answered.
      exact iff_of_true rfl (.inr (.inl resets))
    · -- An empty segment leaves the acknowledgment number, by which a keep-alive is judged.
      have received := TCPConnection.handle_receiver handled
      have answered := TCPConnection.handle_queue handled sentSyn fun empty =>
        congrArg TCPReceiver.ackno (TCPReceiver.segmentReceived_empty noted empty received)
      refine answered.trans ⟨fun unanswered => .inr (.inr unanswered), ?_⟩
      rintro (⟨zero, carries⟩ | resets | unanswered)
      · exact absurd (sentSyn carries) (by omega)
      · exact absurd resets (by simp [plain])
      · exact unanswered

/-- An established endpoint that is reset by its peer. -/
def resetByPeer : List ConnectionCall :=
  [.connect,
    .segment { header := { seqno := ⟨9⟩, syn := true, ack := true, ackno := ⟨1⟩, win := 100 } },
    .segment { header := { seqno := ⟨10⟩, rst := true } }]

/-- A tick of a reset connection with nothing outstanding sends nothing. -/
theorem silent_iff_quiet_tick :
    ∃ t, runCalls step (start {} ⟨0⟩) resetByPeer = .ok t ∧ t.connection.active = false ∧
      (t.connection.tick 5000).segmentsOut = t.connection.segmentsOut := by
  -- The run is evaluated up to the reset.
  have ran : ∃ t, runCalls step (start {} ⟨0⟩) resetByPeer = .ok t ∧
      t.connection.active = false ∧ t.connection.Quiet (.tick 5000) :=
    exists_runCalls (by decide +kernel)
  obtain ⟨t, returned, dead, quiet⟩ := ran
  exact ⟨t, returned, dead, (silent_iff_quiet returned dead rfl).mpr quiet⟩

/-- A reset connection sends its FIN all the same when its stream is shut down. -/
theorem fin_after_reset :
    ∃ t, runCalls step (start {} ⟨0⟩) resetByPeer = .ok t ∧ t.connection.active = false ∧
      (t.connection.perform .endInputStream).toOption.map (fun c =>
        c.segmentsOut.map (fun seg => seg.header.fin)) = some [true] :=
  exists_runCalls (by decide +kernel)

end ConnectionRun

end Sponge
