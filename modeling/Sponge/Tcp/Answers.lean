import Sponge.Stream.ReassemblerTame
import Sponge.Tcp.Advertised
import Sponge.Tcp.SenderProductive
import Sponge.Tcp.Silence

/-! Every segment that occupies sequence space is answered, and no other calls for an empty answer. -/

namespace Sponge

/-- A receiver whose reassembler is ready takes every segment of a few bytes. -/
theorem TCPReceiver.takes {r : TCPReceiver} {seg : TCPSegment} {capacity : Nat}
    (ready : r.reassembler.Ready capacity) (short : seg.payload.length < 2 ^ 31) :
    ∃ r', r.segmentReceived seg = .ok r' ∧ r'.reassembler.Tame capacity := by
  -- Whatever the position, the payload is pushed at an index that sequence numbers can express.
  have pushed : ∀ {d : TCPReceiver} {idx : Nat}, d.reassembler = r.reassembler → idx < 2 ^ 32 →
      ∃ r', d.push seg idx = .ok r' ∧ r'.reassembler.Tame capacity := by
    intro d idx same near
    obtain ⟨reassembler, pushes, tame⟩ := ready.push near short seg.header.fin
    rw [← same] at pushes
    exact ⟨_, push_ok.mpr ⟨reassembler, pushes, rfl⟩, tame⟩
  rw [segmentReceived]
  split
  · -- Before the SYN a segment without SYN is ignored.
    exact ⟨r, rfl, ready.tame⟩
  · split
    · exact pushed (noteSyn_reassembler _ _) (by decide)
    · rw [unwrap_low _ _ (show r.streamOut.bytesWritten < 2 ^ 31 from ready.written), ok_bind]
      have near := offsetFrom_lt seg.header.seqno r.isn
      split
      · -- So is one with the number of the SYN, which holds no byte.
        exact ⟨r, rfl, ready.tame⟩
      · rw [sub64_of_le (by omega) (by omega)]
        exact pushed rfl (by omega)

/-- A call brings fewer bytes than the counters of a stream can count. -/
def ConnectionCall.Short : ConnectionCall → Prop
  | .segment seg => seg.payload.length < 2 ^ 31
  | _ => True

instance : DecidablePred ConnectionCall.Short
  | .segment seg => inferInstanceAs (Decidable (seg.payload.length < 2 ^ 31))
  | .connect | .write _ | .endInputStream | .tick _ | .reader _ => .isTrue trivial

namespace ConnectionRun

variable {cfg : TCPConfig} {isn : WrappingInt32} {calls : List ConnectionCall}
  {t next : ConnectionRun} {call : ConnectionCall} {capacity : Nat} {sent : List TCPSegment}

/-- Few bytes have passed in either direction. -/
def Few (t : ConnectionRun) : Prop := t.accepted.length < 2 ^ 31 ∧ t.delivered.length < 2 ^ 31

instance (t : ConnectionRun) : Decidable t.Few := inferInstanceAs (Decidable (_ ∧ _))

/-- The bytes in both directions only become more. -/
theorem Few.before (few : next.Few) (steps : t.step call = .ok next) : t.Few := by
  -- No call takes back what was delivered, or what was accepted.
  have inbound : t.delivered.length ≤ next.delivered.length := assembled_inbound_le steps
  obtain ⟨c, _, rfl⟩ := step_ok.mp steps
  have outbound : (t.after call c).accepted.length =
      t.accepted.length + (t.connection.acceptedBy call).length := List.length_append
  exact ⟨by have := few.1; omega, by have := few.2; omega⟩

/-- A connection that takes every segment and can always send what is due. -/
structure Sustained (capacity : Nat) (t : ConnectionRun) (sent : List TCPSegment) : Prop where
  /-- The sender is productive. -/
  produces : t.Produces sent
  /-- The counters of the inbound stream are exact modulo one turn. -/
  counted : t.inbound.Counted
  /-- The waiting substrings are small. -/
  tame : t.connection.receiver.reassembler.Tame capacity

/-- With few bytes and a capacity in range, the reassembler is ready. -/
theorem Sustained.ready (sustained : t.Sustained capacity sent) (few : t.Few)
    (some : 0 < capacity) (narrow : capacity ≤ 2 ^ 32) :
    t.connection.receiver.reassembler.Ready capacity := by
  have delivered := few.2
  -- The counters are exact below the sign bit.
  have written : t.connection.inboundStream.bytesWritten = t.delivered.length :=
    sustained.counted.bytesWritten delivered
  have read : t.connection.inboundStream.bytesRead = t.popped.length := by
    refine sustained.counted.bytesRead ?_
    rw [ConnectionRun.delivered, List.length_append] at delivered
    show t.popped.length < 2 ^ 31
    omega
  refine ⟨sustained.tame, ?_, ?_, some, narrow⟩
  · -- The write counter is below the sign bit.
    exact written.trans_lt delivered
  · -- The reader has not overtaken the writer.
    show t.connection.inboundStream.bytesRead ≤ t.connection.inboundStream.bytesWritten
    rw [written, read, ConnectionRun.delivered, List.length_append]
    exact Nat.le_add_right _ _

/-- A call sustains the connection. -/
theorem Sustained.step (sustained : t.Sustained capacity sent) (some : 0 < capacity)
    (narrow : capacity ≤ 2 ^ 32) (short : call.Short) (steps : t.step call = .ok next)
    (few : next.Few) : ∃ new, next.Sustained capacity (sent ++ new) := by
  have ready := sustained.ready (few.before steps) some narrow
  -- Only a segment changes the map, and a ready reassembler takes it.
  have tame : next.connection.receiver.reassembler.Tame capacity := by
    rcases step_receiver steps with ⟨output, receiver, _⟩ | ⟨seg, rfl, received⟩
    · -- The other calls leave the map.
      rw [receiver]
      exact ⟨ready.tame.room, ready.tame.small⟩
    · obtain ⟨r, takes, kept⟩ := TCPReceiver.takes ready short
      rw [received, Except.ok.injEq] at takes
      rwa [takes]
  obtain ⟨new, produces⟩ := sustained.produces.step steps few.1
  have buffer : next.connection.inboundStream.buffer.length ≤ next.delivered.length := by
    rw [delivered, List.length_append]
    exact Nat.le_add_left _ _
  have counted := counted_step sustained.counted steps (Nat.lt_of_le_of_lt buffer few.2)
  exact ⟨new, produces, counted.1, tame⟩

/-- Every state of a run with few bytes is sustained. -/
theorem sustained_run (some : 0 < cfg.recvCapacity) (narrow : cfg.recvCapacity ≤ 2 ^ 32)
    (short : ∀ call ∈ calls, call.Short)
    (returned : runCalls step (start cfg isn) calls = .ok t) (few : t.Few) :
    ∃ sent, t.Sustained cfg.recvCapacity sent := by
  refine Throughout.invariant (fun t => t.Few → ∃ sent, t.Sustained cfg.recvCapacity sent) ?_
    (Throughout.of_forall calls _ short) (fun _ => ?_) returned few
  · -- The bytes only become more, so there were few before.
    intro state call next held short steps few
    obtain ⟨sent, sustained⟩ := held (few.before steps)
    obtain ⟨new, after⟩ := sustained.step some narrow short steps few
    exact ⟨sent ++ new, after⟩
  · exact ⟨[], ⟨TCPSender.productive_new _ _ _, recorded_start cfg isn⟩,
      ByteStream.counts_new _, StreamReassembler.tame_new _⟩

/-- How a connection answers what it receives, and moves what it sends. -/
structure Answers (t : ConnectionRun) : Prop where
  /-- The queue of the sender is empty between calls. -/
  drained : t.connection.sender.segmentsOut = []
  /-- What a call makes the sender produce is moved on once and in order, or it is dropped. -/
  moved : ∀ call c, t.connection.perform call = .ok c → ∃ out,
    t.connection.produced call = .ok out ∧ c.sender.segmentsOut = [] ∧
      (c.segmentsOut = t.connection.segmentsOut ++ out.map c.stamp ∨ t.connection.GivesUp call)
  /-- A segment that occupies sequence space is acknowledged by whatever is sent. -/
  answered : ∀ seg, seg.payload.length < 2 ^ 31 → seg.header.rst = false →
    0 < t.connection.sender.nextSeqnoAbsolute → 0 < seg.lengthInSequenceSpace →
    ∃ c new, t.connection.segmentReceived seg = .ok c ∧
      c.segmentsOut = t.connection.segmentsOut ++ new ∧
      ∀ ackno, c.receiver.ackno = some ackno →
        new ≠ [] ∧ ∀ out ∈ new, out.header.ack = true ∧ out.header.ackno = ackno
  /-- A segment that occupies none, and is not a keep-alive, only lets due positions be sent. -/
  unasked : ∀ seg, seg.header.rst = false → 0 < t.connection.sender.nextSeqnoAbsolute →
    seg.lengthInSequenceSpace = 0 → t.connection.isKeepAlive seg = false →
    ∃ c new, t.connection.segmentReceived seg = .ok c ∧
      c.segmentsOut = t.connection.segmentsOut ++ new ∧ ∀ out ∈ new, 0 < out.lengthInSequenceSpace

/-- A sustained connection handles every segment that is not a reset. -/
theorem Sustained.handles (sustained : t.Sustained capacity sent) (few : t.Few)
    (some : 0 < capacity) (narrow : capacity ≤ 2 ^ 32) {seg : TCPSegment}
    (short : seg.payload.length < 2 ^ 31) (rst : seg.header.rst = false)
    (sentSyn : 0 < t.connection.sender.nextSeqnoAbsolute) :
    ∃ c new out, t.connection.segmentReceived seg = .ok c ∧
      t.connection.receiver.segmentReceived seg = .ok c.receiver ∧
      SenderRule.Answered (fun s sent => s.Productive t.accepted sent) (t.connection.noted seg) sent
        seg c.receiver c new out := by
  -- The receiver takes the segment, and the sender goes on from there.
  obtain ⟨r, received, _⟩ := TCPReceiver.takes (sustained.ready few some narrow) short
  obtain ⟨productive, recorded⟩ := sustained.produces
  obtain ⟨c, new, out, handled, answered⟩ := (TCPSender.Productive.rule t.accepted).handle
    (c := t.connection.noted seg) productive recorded.drained received fun _ => sentSyn
  refine ⟨c, new, out, TCPConnection.segmentReceived_ok.mpr
    (.inr (.inr ⟨fun _ => sentSyn, rst, handled⟩)), ?_⟩
  rw [answered.receiver]
  exact ⟨received, answered⟩

/-- No call of a productive connection leaves segments in the queue of the sender. -/
theorem Produces.drains (produces : t.Produces sent) {c : TCPConnection}
    (performed : t.connection.perform call = .ok c) : c.sender.segmentsOut = [] := by
  obtain ⟨productive, recorded⟩ := produces
  have rule := TCPSender.Productive.rule t.accepted
  -- Connecting ends by moving the whole queue on.
  have connected : ∀ {d : TCPConnection}, d.connect = .ok c → c.sender.segmentsOut = [] := by
    intro d connects
    obtain ⟨s, _, rfl⟩ := TCPConnection.connect_ok.mp connects
    rfl
  cases call with
  | connect => exact connected performed
  | write data => exact connected (TCPConnection.perform_write.mp performed)
  | endInputStream =>
    rw [TCPConnection.perform, TCPConnection.endInputStream_eq] at performed
    exact connected performed
  | tick ms =>
    -- The rule of the sender covers the tick and the segment.
    rw [TCPConnection.perform, Except.ok.injEq] at performed
    rw [← performed]
    exact (rule.tick productive recorded.drained ms).2.1
  | segment seg =>
    obtain ⟨new, _, drained, _⟩ := rule.segment productive recorded.drained recorded.queue performed
    exact drained
  | reader taken =>
    -- The reader leaves the sender as it is.
    obtain ⟨served, _, rfl⟩ := TCPConnection.perform_reader.mp performed
    exact recorded.drained

/-- With a capacity of at most 2^32, a connection answers whatever occupies sequence space. -/
theorem answers_within_range (some : 0 < cfg.recvCapacity) (narrow : cfg.recvCapacity ≤ 2 ^ 32)
    (short : ∀ call ∈ calls, call.Short)
    (returned : runCalls step (start cfg isn) calls = .ok t) (few : t.Few) : t.Answers := by
  obtain ⟨sent, sustained⟩ := sustained_run some narrow short returned few
  have recorded := sustained.produces.2
  refine ⟨recorded.drained, ?_, ?_, ?_⟩
  · -- Whatever a call puts out, it leaves nothing with the sender.
    intro call c performed
    obtain ⟨out, produced, moved⟩ := TCPConnection.perform_moved performed
    have drained := sustained.produces.drains performed
    refine ⟨out, produced, drained, ?_⟩
    cases moved with
    | all queue _ => exact .inl queue
    | none queue kept =>
      -- What stays in the queue is nothing.
      rw [queue, ← kept, drained, List.map_nil, List.append_nil]
      exact .inl rfl
    | dropped gives _ _ => exact .inr gives
  · -- A segment that occupies sequence space is answered, with the receiver's number if it has one.
    intro seg short rst sentSyn occupies
    obtain ⟨c, new, out, received, _, answered⟩ :=
      sustained.handles few some narrow short rst sentSyn
    refine ⟨c, _, received, answered.queued, fun ackno found => ⟨?_, fun reply member => ?_⟩⟩
    · rw [ne_eq, List.map_eq_nil_iff]
      exact answered.due (.inl occupies)
    · obtain ⟨original, _, rfl⟩ := List.mem_map.mp member
      have stamped := TCPConnection.stamp_of_ackno
        (c := { t.connection.noted seg with receiver := c.receiver }) found original
      exact ⟨stamped.1, stamped.2.1⟩
  · -- One that occupies none is answered only with segments that do.
    intro seg rst sentSyn empty alone
    have short : seg.payload.length < 2 ^ 31 := by
      rw [TCPSegment.lengthInSequenceSpace] at empty
      omega
    obtain ⟨c, new, out, received, taken, answered⟩ :=
      sustained.handles few some narrow short rst sentSyn
    refine ⟨c, _, received, answered.queued, fun reply member => ?_⟩
    obtain ⟨original, produced, rfl⟩ := List.mem_map.mp member
    rw [TCPConnection.stamp_length]
    rcases answered.content with same | ⟨_, _, asked⟩
    · rw [same] at produced
      exact answered.kept.positive original (List.mem_append_right _ produced)
    · -- The receiver is as before, so it still does not see a keep-alive.
      have same := TCPReceiver.segmentReceived_empty (endNoted_run returned) empty taken
      rw [same] at asked
      rcases asked with occupies | alive
      · omega
      · exact absurd (alone.symm.trans alive) Bool.false_ne_true

/-- An endpoint that has connected and has received some first bytes. -/
def connected : List ConnectionCall :=
  [.connect,
    .segment { header := { seqno := ⟨9⟩, syn := true, ack := true, ackno := ⟨1⟩, win := 100 } },
    .segment { header := { seqno := ⟨10⟩, ack := true, ackno := ⟨1⟩, win := 100 }, payload := [7, 8] }]

/-- A connected endpoint of the usual capacity answers. -/
theorem answers_within_range_connected :
    ∃ t, runCalls step (start {} ⟨0⟩) connected = .ok t ∧ t.connection.active = true ∧
      0 < t.connection.sender.nextSeqnoAbsolute ∧ t.Answers := by
  -- The run is evaluated up to the hypotheses of the theorem.
  have ran : ∃ t, runCalls step (start {} ⟨0⟩) connected = .ok t ∧ t.connection.active = true ∧
      0 < t.connection.sender.nextSeqnoAbsolute ∧ t.Few := exists_runCalls (by decide +kernel)
  obtain ⟨t, returned, active, sentSyn, few⟩ := ran
  exact ⟨t, returned, active, sentSyn,
    answers_within_range (by decide) (by decide) (by decide) returned few⟩

/-- With a larger capacity the repeated bytes are never answered: handling them throws. -/
theorem repeat_unanswered :
    ∃ t, runCalls step (start { recvCapacity := 2 ^ 32 + 1 } ⟨0⟩) connected = .ok t ∧
      t.connection.active = true ∧ 0 < t.connection.sender.nextSeqnoAbsolute ∧ t.Few ∧
      t.connection.receiver.ackno.isSome = true ∧
      t.connection.segmentReceived { header := { seqno := ⟨10⟩ }, payload := [7, 8] } =
        .error .outOfRange :=
  exists_runCalls (by decide +kernel)

end ConnectionRun

end Sponge
