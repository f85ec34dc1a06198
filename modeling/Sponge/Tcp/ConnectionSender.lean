import Sponge.Tcp.ConnectionRuns

/-! A rule for invariants of the sender inside a connection: what its operations keep, calls keep. -/

namespace Sponge

/-- A segment repeats the position and the contents of another. -/
def TCPSegment.Copies (copy original : TCPSegment) : Prop :=
  copy.header.seqno = original.header.seqno ∧ copy.header.syn = original.header.syn ∧
    copy.header.fin = original.header.fin ∧ copy.payload = original.payload

/-- The history of a run agrees with what its sender has emitted. -/
structure ConnectionRun.Recorded (t : ConnectionRun) (sent : List TCPSegment) : Prop where
  /-- The sender's queue is empty between calls. -/
  drained : t.connection.sender.segmentsOut = []
  /-- So is the queue of the connection. -/
  queue : t.connection.segmentsOut = []
  /-- What the connection sent repeats what the sender emitted, or carries nothing. -/
  genuine : ∀ seg ∈ t.emitted, Genuine sent seg
  /-- Everything the sender emitted was sent. -/
  moved : ∀ seg ∈ sent, ∃ copy ∈ t.emitted, copy.Copies seg

namespace ConnectionRun

/-- A fresh connection has sent nothing. -/
theorem recorded_start (cfg : TCPConfig) (isn : WrappingInt32) : (start cfg isn).Recorded [] :=
  ⟨rfl, rfl, by simp [start], by simp⟩

/-- A call that sends what is new to the sender keeps the record. -/
theorem Recorded.after {t : ConnectionRun} {sent new : List TCPSegment} {call : ConnectionCall}
    {c : TCPConnection} (recorded : t.Recorded sent) (drained : c.sender.segmentsOut = [])
    (genuine : ∀ seg ∈ c.segmentsOut, Genuine (sent ++ new) seg)
    (moved : ∀ seg ∈ new, ∃ copy ∈ c.segmentsOut, copy.Copies seg) :
    (t.after call c).Recorded (sent ++ new) := by
  -- Old segments keep their originals and their copies.
  refine ⟨drained, rfl, fun seg member => ?_, fun seg member => ?_⟩
  · rcases List.mem_append.mp member with old | fresh
    · exact (recorded.genuine seg old).mono (List.prefix_append _ _)
    · exact genuine seg fresh
  · rcases List.mem_append.mp member with old | fresh
    · obtain ⟨copy, known, copies⟩ := recorded.moved seg old
      exact ⟨copy, List.mem_append_left _ known, copies⟩
    · obtain ⟨copy, known, copies⟩ := moved seg fresh
      exact ⟨copy, List.mem_append_right _ known, copies⟩

/-- A FIN was sent exactly when the sender has emitted one. -/
theorem Recorded.noFin_iff {t : ConnectionRun} {sent : List TCPSegment}
    (recorded : t.Recorded sent) : NoFin t.emitted ↔ NoFin sent := by
  -- Every emitted segment was moved on as a copy, and nothing else carries a FIN.
  constructor
  · intro none seg member
    obtain ⟨copy, known, copies⟩ := recorded.moved seg member
    rw [← copies.2.2.1]
    exact none copy known
  · intro none seg member
    rcases recorded.genuine seg member with ⟨original, known, _, _, fin, _⟩ | ⟨_, fin, _⟩
    · rw [fin]
      exact none original known
    · exact fin

end ConnectionRun

/-- A property of a sender and its emitted segments that every operation of a sender keeps. -/
structure SenderRule (P : TCPSender → List TCPSegment → Prop) : Prop where
  /-- Filling the window returns, and emits what is new in the queue. -/
  fill : ∀ {s sent}, P s sent → ∃ s' new, s.fillWindow = .ok s' ∧
    s'.segmentsOut = s.segmentsOut ++ new ∧ P s' (sent ++ new)
  /-- An acknowledgment after the SYN returns, and emits nothing. -/
  ack : ∀ {s sent}, P s sent → 0 < s.nextSeqnoAbsolute → ∀ ackno windowSize, ∃ s',
    s.ackReceived ackno windowSize = .ok s' ∧ s'.segmentsOut = s.segmentsOut ∧ P s' sent
  /-- The outbound queue and the timer do not matter. -/
  quiet : ∀ {s sent}, P s sent → ∀ segmentsOut timePassed rto recount,
    P { s with segmentsOut := segmentsOut, timePassed := timePassed, rto := rto,
               recount := recount } sent
  /-- Nor does the error flag of the stream. -/
  error : ∀ {s sent}, P s sent → P { s with stream := s.stream.setError } sent
  /-- Only emitted segments are outstanding. -/
  queue : ∀ {s sent}, P s sent → ∀ seg ∈ s.outstandings, seg ∈ sent
  /-- The count of positions in flight is that of the queue. -/
  flights : ∀ {s sent}, P s sent → s.inFlights = occupied s.outstandings
  /-- Every emitted segment occupies a position. -/
  positive : ∀ {s sent}, P s sent → ∀ seg ∈ sent, 0 < seg.lengthInSequenceSpace

namespace SenderRule

variable {P : TCPSender → List TCPSegment → Prop} {c : TCPConnection} {sent : List TCPSegment}
  {seg : TCPSegment}

/-- A sender with nothing in flight has an empty queue. -/
theorem idle (rule : SenderRule P) {s : TCPSender} (holds : P s sent) (none : s.inFlights = 0) :
    s.outstandings = [] := by
  refine eq_nil_of_occupied_eq_zero (fun seg member => ?_) ((rule.flights holds).symm.trans none)
  exact rule.positive holds seg (rule.queue holds seg member)

/-- Connecting returns, and moves on exactly what the sender has emitted. -/
theorem connect (rule : SenderRule P) (holds : P c.sender sent)
    (drained : c.sender.segmentsOut = []) :
    ∃ c' new, c.connect = .ok c' ∧ P c'.sender (sent ++ new) ∧ c'.receiver = c.receiver ∧
      c'.sender.segmentsOut = [] ∧ c'.segmentsOut = c.segmentsOut ++ new.map c.stamp := by
  obtain ⟨s, new, filled, out, kept⟩ := rule.fill holds
  -- Nothing was left over, so exactly the new segments are moved on.
  rw [drained, List.nil_append] at out
  refine ⟨_, new, TCPConnection.connect_ok.mpr ⟨s, filled, rfl⟩,
    rule.quiet kept [] s.timePassed s.rto s.recount, rfl, rfl, ?_⟩
  show c.segmentsOut ++ s.segmentsOut.map _ = _
  rw [out]
  rfl

/-- What a handled segment makes a connection send. -/
structure Answered (P : TCPSender → List TCPSegment → Prop) (c : TCPConnection)
    (sent : List TCPSegment) (seg : TCPSegment) (r : TCPReceiver) (c' : TCPConnection)
    (new out : List TCPSegment) : Prop where
  /-- The property is kept. -/
  kept : P c'.sender (sent ++ new)
  /-- The receiver has taken the segment. -/
  receiver : c'.receiver = r
  /-- The sender's queue is empty again. -/
  drained : c'.sender.segmentsOut = []
  /-- What was sent bears the stamp of the receiver. -/
  queued : c'.segmentsOut = c.segmentsOut ++ out.map { c with receiver := r }.stamp
  /-- It is what the sender emitted, or one empty segment where an answer was due. -/
  content : out = new ∨ (new = [] ∧ out = [{ header := { seqno := c'.sender.nextSeqno } }] ∧
    (0 < seg.lengthInSequenceSpace ∨ { c with receiver := r }.isKeepAlive seg = true))
  /-- An answer that was due was given. -/
  due : 0 < seg.lengthInSequenceSpace ∨ { c with receiver := r }.isKeepAlive seg = true → out ≠ []

/-- Once the receiver has taken a segment, the connection handles it and answers it. -/
theorem handle (rule : SenderRule P) (holds : P c.sender sent)
    (drained : c.sender.segmentsOut = []) {r : TCPReceiver}
    (received : c.receiver.segmentReceived seg = .ok r)
    (sentSyn : seg.header.ack = true → 0 < c.sender.nextSeqnoAbsolute) :
    ∃ c' new out, c.handle seg = .ok c' ∧ Answered P c sent seg r c' new out := by
  -- The acknowledgment comes first, if there is one.
  have heard : ∃ acked new, (if seg.header.ack then
        ∃ s, c.sender.ackReceived seg.header.ackno seg.header.win = .ok s ∧
          s.fillWindow = .ok acked
      else acked = c.sender) ∧ acked.segmentsOut = new ∧ P acked (sent ++ new) := by
    split
    · rename_i carries
      obtain ⟨s, acks, same, kept⟩ := rule.ack holds (sentSyn carries) seg.header.ackno
        seg.header.win
      obtain ⟨acked, new, filled, out, kept⟩ := rule.fill kept
      rw [same, drained, List.nil_append] at out
      exact ⟨acked, new, ⟨s, acks, filled⟩, out, kept⟩
    · -- Without acknowledgment the sender is left alone.
      exact ⟨c.sender, [], rfl, drained, by rwa [List.append_nil]⟩
  obtain ⟨acked, early, hears, earlyOut, kept⟩ := heard
  -- Then the SYN, if the peer's has come and it was not sent yet.
  have opens : ∃ opened new, (if acked.nextSeqnoAbsolute = 0 ∧ r.ackno.isSome then
        acked.fillWindow = .ok opened else opened = acked) ∧
      opened.segmentsOut = new ∧ P opened (sent ++ new) := by
    split
    · obtain ⟨opened, new, filled, out, kept⟩ := rule.fill kept
      rw [earlyOut] at out
      exact ⟨opened, early ++ new, filled, out, by rwa [← List.append_assoc]⟩
    · -- The SYN was sent, or is not due.
      exact ⟨acked, early, rfl, earlyOut, kept⟩
  obtain ⟨opened, new, opening, out, kept⟩ := opens
  -- Last comes the answer, if nothing else goes out.
  obtain ⟨queue, answered, cases⟩ := TCPConnection.answer_eq
    { c with receiver := r, sender := opened }
    (decide (0 < seg.lengthInSequenceSpace) ||
      { c with receiver := r, sender := opened }.isKeepAlive seg)
  have result := congrArg TCPConnection.seg2seg answered
  have asked : (decide (0 < seg.lengthInSequenceSpace) ||
      { c with receiver := r, sender := opened }.isKeepAlive seg) = true ↔
      0 < seg.lengthInSequenceSpace ∨ { c with receiver := r }.isKeepAlive seg = true := by
    rw [Bool.or_eq_true, decide_eq_true_eq]
    rfl
  rw [asked] at cases
  refine ⟨_, new, queue, TCPConnection.handle_ok.mpr ⟨r, acked, opened, received, hears, opening,
    result⟩, rule.quiet kept [] opened.timePassed opened.rto opened.recount, rfl, rfl, rfl, ?_, ?_⟩
  · -- The queue holds what was emitted, or the answer.
    rcases cases with ⟨same, _⟩ | ⟨due, empty, one⟩
    · exact .inl (same.trans out)
    · exact .inr ⟨by rw [← out]; exact empty, one, due⟩
  · -- With an answer due the queue is not empty.
    rintro due none
    rcases cases with ⟨same, some⟩ | ⟨_, _, one⟩
    · exact some due (same.symm.trans none)
    · rw [one] at none
      exact List.cons_ne_nil _ _ none

/-- A tick keeps the property, and sends at most an emitted segment again or a reset. -/
theorem tick (rule : SenderRule P) (holds : P c.sender sent)
    (drained : c.sender.segmentsOut = []) (ms : Nat) :
    P (c.tick ms).sender sent ∧ (c.tick ms).sender.segmentsOut = [] ∧
      ∀ seg ∈ (c.tick ms).segmentsOut, seg ∈ c.segmentsOut ∨ ∃ original, seg = c.stamp original ∧
        (original ∈ sent ∨ original = { header := { seqno := c.sender.nextSeqno, rst := true } }) := by
  obtain ⟨again, timePassed, rto, recount, ticks, oldest⟩ := c.sender.tick_eq ms
  rw [drained, List.nil_append] at ticks
  -- Only the queue and the timer of the sender change.
  have kept : ∀ out, P { c.sender with
      segmentsOut := out, timePassed := timePassed, rto := rto, recount := recount } sent :=
    fun out => rule.quiet holds out timePassed rto recount
  have known : ∀ seg ∈ again, seg ∈ sent := by
    -- What is sent again is outstanding, hence emitted before.
    intro seg member
    rcases oldest with none | ⟨rest, first, queue, one⟩
    · simp [none] at member
    · rw [one, List.mem_singleton] at member
      exact rule.queue holds seg (by simp [queue, member])
  rw [TCPConnection.tick]
  split
  · -- In TIME_WAIT nothing is in flight, so nothing is sent again.
    rename_i waits
    have landed := (TCPState.senderSummary_finAcked (congrArg TCPState.sender waits)).2.2
    have none : again = [] := by
      rcases oldest with none | ⟨rest, first, queue, _⟩
      · exact none
      · have empty := rule.idle holds (by
          rw [TCPConnection.ticked, ticks] at landed
          exact landed)
        exact absurd (queue.symm.trans empty) (List.cons_ne_nil _ _)
    rw [TCPConnection.tickTimeWait, TCPConnection.ticked, ticks, none]
    split
    · exact ⟨kept [], rfl, fun seg member => .inl member⟩
    · exact ⟨kept [], rfl, fun seg member => .inl member⟩
  · split
    · -- Both queues are emptied for the reset.
      rw [TCPConnection.abort, TCPConnection.ticked, ticks]
      refine ⟨rule.error (kept []), rfl, fun seg member => .inr ?_⟩
      simp only [TCPConnection.seg2seg, TCPSender.sendEmptySegmentRST, TCPConnection.setError,
        List.nil_append, List.map_cons, List.map_nil, List.mem_singleton] at member
      exact ⟨_, member, .inr rfl⟩
    · -- What the timer sends again is moved on.
      rw [TCPConnection.tickOpen, TCPConnection.ticked, ticks]
      refine ⟨kept [], rfl, fun seg member => ?_⟩
      rcases List.mem_append.mp member with old | fresh
      · exact .inl old
      · obtain ⟨original, waiting, rfl⟩ := List.mem_map.mp fresh
        exact .inr ⟨original, rfl, .inl (known original waiting)⟩

/-- A received segment keeps the property, and what it makes the connection send is recorded. -/
theorem segment (rule : SenderRule P) (holds : P c.sender sent)
    (drained : c.sender.segmentsOut = []) (clear : c.segmentsOut = []) {c' : TCPConnection}
    (received : c.segmentReceived seg = .ok c') :
    ∃ new, P c'.sender (sent ++ new) ∧ c'.sender.segmentsOut = [] ∧
      (∀ seg ∈ c'.segmentsOut, Genuine (sent ++ new) seg) ∧
      ∀ seg ∈ new, ∃ copy ∈ c'.segmentsOut, copy.Copies seg := by
  rcases TCPConnection.segmentReceived_ok.mp received with ⟨_, _, rfl⟩ | ⟨_, _, rfl⟩ |
    ⟨sentSyn, _, handled⟩
  · -- An ignored segment changes nothing.
    exact ⟨[], by rwa [List.append_nil], drained, by simp [clear], by simp⟩
  · -- A reset sets the errors, and sends nothing.
    refine ⟨[], by rw [List.append_nil]; exact rule.error holds, drained, ?_, by simp⟩
    simp [TCPConnection.wasReset, TCPConnection.setError, clear]
  · have got := TCPConnection.handle_receiver handled
    obtain ⟨c'', new, out, handled', answered⟩ := rule.handle
      (show P (c.noted seg).sender sent from holds) drained got sentSyn
    rw [handled, Except.ok.injEq] at handled'
    subst handled'
    -- The queue was empty, so it holds copies of the new segments or one empty answer.
    have queued := answered.queued
    rw [show (c.noted seg).segmentsOut = [] from clear, List.nil_append] at queued
    refine ⟨new, answered.kept, answered.drained, fun other member => ?_, fun other member => ?_⟩
    · -- What is in the queue copies a segment of the sender, or is empty.
      rw [queued] at member
      obtain ⟨original, fresh, rfl⟩ := List.mem_map.mp member
      have copies := TCPConnection.stamp_kept { c.noted seg with receiver := c'.receiver } original
      rcases answered.content with same | ⟨_, empty, _⟩
      · rw [same] at fresh
        exact .inl ⟨original, List.mem_append_right _ fresh, copies⟩
      · rw [empty, List.mem_singleton] at fresh
        obtain ⟨_, syn, fin, payload⟩ := copies
        rw [fresh] at syn fin payload ⊢
        exact .inr ⟨syn, fin, payload⟩
    · -- Every new segment has its copy in the queue.
      rcases answered.content with same | ⟨none, _, _⟩
      · refine ⟨_, ?_, TCPConnection.stamp_kept { c.noted seg with receiver := c'.receiver } other⟩
        rw [queued, same]
        exact List.mem_map_of_mem member
      · simp [none] at member

/-- Once a call has changed the stream, it keeps the property and records what it sends. -/
theorem perform (rule : SenderRule P) {t next : ConnectionRun} {call : ConnectionCall}
    (holds : P (t.connection.prepared call) sent) (recorded : t.Recorded sent)
    (steps : t.step call = .ok next) :
    ∃ new, P next.connection.sender (sent ++ new) ∧ next.Recorded (sent ++ new) := by
  obtain ⟨c, performed, rfl⟩ := ConnectionRun.step_ok.mp steps
  -- A call that goes on as connecting does moves on what the sender emits.
  have connected : ∀ {d : TCPConnection}, d.connect = .ok c → P d.sender sent →
      d.sender.segmentsOut = [] → d.segmentsOut = [] →
      ∃ new, P c.sender (sent ++ new) ∧ (t.after call c).Recorded (sent ++ new) := by
    intro d connects holds drained clear
    obtain ⟨c', new, connects', kept, _, drained', out⟩ := rule.connect holds drained
    rw [connects, Except.ok.injEq] at connects'
    subst connects'
    rw [clear, List.nil_append] at out
    refine ⟨new, kept, recorded.after drained' (fun seg member => ?_) (fun seg member => ?_)⟩
    · -- The queue holds stamped copies.
      rw [out] at member
      obtain ⟨original, fresh, rfl⟩ := List.mem_map.mp member
      exact .inl ⟨original, List.mem_append_right _ fresh, d.stamp_kept original⟩
    · exact ⟨d.stamp seg, by rw [out]; exact List.mem_map_of_mem member, d.stamp_kept seg⟩
  cases call with
  | connect => exact connected performed holds recorded.drained recorded.queue
  | write data =>
    have connects := TCPConnection.perform_write.mp performed
    exact connected connects holds recorded.drained recorded.queue
  | endInputStream =>
    rw [TCPConnection.perform, TCPConnection.endInputStream_eq] at performed
    exact connected performed holds recorded.drained recorded.queue
  | reader call =>
    -- The reader does not reach the sender.
    obtain ⟨served, _, rfl⟩ := TCPConnection.perform_reader.mp performed
    refine ⟨[], by rw [List.append_nil]; exact holds, recorded.after recorded.drained ?_ (by simp)⟩
    simp [TCPConnection.withInbound, recorded.queue]
  | tick ms =>
    rw [TCPConnection.perform, Except.ok.injEq] at performed
    subst performed
    obtain ⟨kept, drained, sends⟩ := rule.tick holds recorded.drained ms
    refine ⟨[], by rw [List.append_nil]; exact kept, recorded.after drained ?_ (by simp)⟩
    intro seg member
    rcases sends seg member with old | ⟨original, rfl, known | reset⟩
    · -- The owner had taken what was queued.
      simp [recorded.queue] at old
    · -- A segment that was sent before.
      exact .inl ⟨original, List.mem_append_left _ known, t.connection.stamp_kept original⟩
    · -- The reset occupies no position.
      obtain ⟨_, syn, fin, payload⟩ := t.connection.stamp_kept original
      rw [reset] at syn fin payload ⊢
      exact .inr ⟨syn, fin, payload⟩
  | segment seg =>
    obtain ⟨new, kept, drained, genuine, moved⟩ := rule.segment holds recorded.drained
      recorded.queue performed
    exact ⟨new, kept, recorded.after drained genuine moved⟩

end SenderRule

end Sponge
