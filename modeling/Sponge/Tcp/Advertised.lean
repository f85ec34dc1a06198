import Sponge.Stream.ReassemblerRoom
import Sponge.Tcp.ConnectionReceiver
import Sponge.Tcp.FinLast

/-! The window that a connection advertises, and how its 16 bits limit the capacity. -/

namespace Sponge

namespace TCPConnection

variable {c c' : TCPConnection} {call : ConnectionCall}

/-- A stamp acknowledges and advertises what the receiver says. -/
theorem stamp_of_ackno {ackno : WrappingInt32} (found : c.receiver.ackno = some ackno)
    (seg : TCPSegment) :
    (c.stamp seg).header.ack = true ∧ (c.stamp seg).header.ackno = ackno ∧
      (c.stamp seg).header.win.toNat = c.receiver.windowSize % 2 ^ 16 := by
  rw [stamp, found]
  exact ⟨rfl, rfl, UInt16.toNat_ofNat'⟩

/-- Whatever a call puts into an empty queue bears the stamp of the receiver it leaves. -/
theorem perform_stamped (clear : c.segmentsOut = []) (performed : c.perform call = .ok c') :
    ∀ seg ∈ c'.segmentsOut, ∃ original, seg = c'.stamp original := by
  intro seg member
  obtain ⟨out, _, moved⟩ := perform_moved performed
  -- Segments are stamped as they are moved on, and so is a reset.
  cases moved with
  | all queue _ =>
    rw [queue, clear, List.nil_append] at member
    obtain ⟨original, _, same⟩ := List.mem_map.mp member
    exact ⟨original, same.symm⟩
  | none queue _ =>
    -- Nothing is moved on.
    rw [queue, clear] at member
    exact absurd member (by simp)
  | dropped _ queue _ =>
    rw [queue, List.mem_singleton] at member
    exact ⟨_, member⟩

end TCPConnection

/-- A segment belongs to a stream of bytes that starts behind a sequence number. -/
def TCPSegment.Belongs (isn : WrappingInt32) (bytes : Bytes) (seg : TCPSegment) : Prop :=
  if seg.header.syn = true then
    seg.header.seqno = isn ∧ seg.payload <+: bytes ∧ (seg.header.fin = true → seg.payload = bytes)
  else
    -- A segment that occupies nothing may repeat any position.
    seg.lengthInSequenceSpace = 0 ∨ ∃ index ≤ bytes.length,
      seg.header.seqno = wrap (1 + index) isn ∧ seg.payload <+: bytes.drop index ∧
        (seg.header.fin = true → index + seg.payload.length = bytes.length)

instance (isn : WrappingInt32) (bytes : Bytes) (seg : TCPSegment) :
    Decidable (seg.Belongs isn bytes) :=
  inferInstanceAs (Decidable (if seg.header.syn = true then _ else _ ∨ ∃ index ≤ _, _ ∧ _ ∧ _))

/-- A call brings no segment but one that belongs to a stream. -/
def ConnectionCall.Belongs (isn : WrappingInt32) (bytes : Bytes) : ConnectionCall → Prop
  | .segment seg => seg.Belongs isn bytes
  | _ => True

instance (isn : WrappingInt32) (bytes : Bytes) : DecidablePred (ConnectionCall.Belongs isn bytes)
  | .segment seg => inferInstanceAs (Decidable (seg.Belongs isn bytes))
  | .connect | .write _ | .endInputStream | .tick _ | .reader _ => .isTrue trivial

/-- A segment that was emitted after the peer's SYN, with what the receiver then said. -/
structure Advert where
  /-- The segment itself. -/
  segment : TCPSegment
  /-- The receiver's `window_size()`. -/
  windowSize : Nat
  /-- The absolute acknowledgment number. -/
  ackno : Nat
deriving DecidableEq, Repr

/-- The absolute right edge of an advertised window. -/
def Advert.edge (advert : Advert) : Nat := advert.ackno + advert.segment.header.win.toNat

/-- A run of a connection that also records what it advertises. -/
structure AdvertisingRun where
  /-- The run itself. -/
  run : ConnectionRun
  /-- What was emitted after the peer's SYN, in that order. -/
  adverts : List Advert := []
deriving DecidableEq, Repr

namespace ConnectionRun

/-- The absolute number of the next expected position: the SYN, every byte so far, and the FIN. -/
def absoluteAckno (t : ConnectionRun) : Nat :=
  1 + t.delivered.length + if t.connection.inboundStream.inputEnded then 1 else 0

/-- A segment with what the receiver says in the state in which it is emitted. -/
def advert (t : ConnectionRun) (seg : TCPSegment) : Advert where
  segment := seg
  windowSize := t.connection.receiver.windowSize
  ackno := t.absoluteAckno

end ConnectionRun

namespace AdvertisingRun

/-- A fresh connection that has seen no call. -/
def start (cfg : TCPConfig) (isn : WrappingInt32) : AdvertisingRun := { run := .start cfg isn }

/-- The record after a call that left a run. -/
def after (t : AdvertisingRun) (next : ConnectionRun) : AdvertisingRun where
  run := next
  adverts := t.adverts ++
    if next.connection.receiver.syned then
      -- What is new in the history was emitted by this call.
      (next.emitted.drop t.run.emitted.length).map next.advert
    else []

/-- Performs one call and records what it advertises. -/
def step (t : AdvertisingRun) (call : ConnectionCall) : Except Fault AdvertisingRun := do
  let next ← t.run.step call
  return t.after next

/-- Every advertised window is the true one, as far as 16 bits can say, and no edge moves back. -/
structure Truthful (isn : WrappingInt32) (t : AdvertisingRun) : Prop where
  /-- Every segment acknowledges the next expected position. -/
  acks : ∀ advert ∈ t.adverts, advert.segment.header.ack = true ∧
    advert.segment.header.ackno = wrap advert.ackno isn
  /-- Every segment advertises the window, or the largest number that fits the field. -/
  window : ∀ advert ∈ t.adverts,
    advert.segment.header.win.toNat = min advert.windowSize 65535
  /-- The right edges never decrease. -/
  edges : t.adverts.Pairwise (fun earlier later => earlier.edge ≤ later.edge)

end AdvertisingRun

namespace ConnectionRun

variable {t next : ConnectionRun} {call : ConnectionCall} {capacity : Nat} {isn : WrappingInt32}
  {bytes : Bytes}

/-- The acknowledgment number is the absolute one, wrapped. -/
theorem ackno_absolute (counted : t.inbound.Counted)
    (syned : t.connection.receiver.syned = true) :
    t.connection.receiver.ackno = some (wrap t.absoluteAckno t.connection.receiver.isn) := by
  have written : t.connection.receiver.streamOut.bytesWritten % 2 ^ 32 =
      t.delivered.length % 2 ^ 32 := by
    rw [ByteStream.bytesWritten, show t.connection.receiver.streamOut.written = _ from
      counted.written]
    exact ofInt_toInt32_mod _
  rw [TCPReceiver.ackno, syned, absoluteAckno]
  simp only [Bool.not_true, Bool.false_eq_true, if_false, Option.some.injEq]
  rw [wrap_eq_iff, TCPConnection.inboundStream]
  -- The counter only matters modulo one turn.
  split <;> simp only [add64] <;> omega

/-- A call keeps the inbound stream within its capacity. -/
theorem within_step (small : capacity < 2 ^ 31)
    (within : t.connection.inboundStream.Within capacity) (steps : t.step call = .ok next) :
    next.connection.inboundStream.Within capacity := by
  rcases step_receiver steps with ⟨output, receiver, changed⟩ | ⟨seg, _, received⟩
  · rw [TCPConnection.inboundStream, receiver]
    show output.Within capacity
    -- An error leaves the room that there is, and a read makes more.
    rcases changed with rfl | rfl | ⟨len, rfl⟩
    · exact within
    · exact ⟨within.room, within.held⟩
    · exact within.taken len
  · rcases (TCPReceiver.segmentReceived_ok received).2.2 with same | ⟨idx, pushed⟩
    · rw [TCPConnection.inboundStream, TCPReceiver.streamOut, same]
      exact within
    · exact StreamReassembler.pushSubstring_within small within pushed

/-- When every SYN has the number of one stream, the receiver counts from there. -/
theorem isn_step (known : t.connection.receiver.syned = true → t.connection.receiver.isn = isn)
    (belongs : call.Belongs isn bytes) (steps : t.step call = .ok next) :
    next.connection.receiver.syned = true → next.connection.receiver.isn = isn := by
  rcases step_receiver steps with ⟨output, receiver, _⟩ | ⟨seg, rfl, received⟩
  · rw [receiver]
    exact known
  · obtain ⟨number, syned, _⟩ := TCPReceiver.segmentReceived_ok received
    rw [number, syned, TCPReceiver.noteSyn]
    split
    · -- A SYN that belongs to the stream has its number.
      rename_i carries
      rw [ConnectionCall.Belongs, TCPSegment.Belongs, if_pos carries] at belongs
      exact fun _ => belongs.1
    · exact known

/-- The right edge that a receiver of a capacity can promise. -/
def rightEdge (t : ConnectionRun) (capacity : Nat) : Nat :=
  1 + t.popped.length + (if t.connection.inboundStream.inputEnded then 1 else 0) + capacity

/-- What a small receiver advertises reaches up to its right edge. -/
theorem absoluteAckno_add_windowSize (small : capacity < 2 ^ 31)
    (within : t.connection.inboundStream.Within capacity) :
    t.absoluteAckno + t.connection.receiver.windowSize = t.rightEdge capacity := by
  -- A stream within its capacity offers the rest of it as its window.
  have window : t.connection.receiver.windowSize =
      capacity - t.connection.inboundStream.buffer.length :=
    ByteStream.remainingCapacity_new small within.room within.held
  have held := within.held
  rw [window, absoluteAckno, rightEdge, delivered, List.length_append]
  omega

end ConnectionRun

namespace AdvertisingRun

variable {cfg : TCPConfig} {isn : WrappingInt32} {bytes : Bytes} {t next : AdvertisingRun}
  {call : ConnectionCall}

/-- The invariant of a run with a narrow window on one stream. -/
structure Honest (capacity : Nat) (isn : WrappingInt32) (t : AdvertisingRun) : Prop where
  /-- The owner has taken everything that was sent. -/
  queue : t.run.connection.segmentsOut = []
  /-- The counters of the inbound stream are exact modulo one turn. -/
  counted : t.run.inbound.Counted
  /-- The inbound stream holds no more than its capacity. -/
  within : t.run.connection.inboundStream.Within capacity
  /-- The receiver counts from the number of the stream. -/
  known : t.run.connection.receiver.syned = true → t.run.connection.receiver.isn = isn
  /-- What was advertised is true. -/
  truthful : t.Truthful isn
  /-- No advertised edge lies behind the current one. -/
  reached : ∀ advert ∈ t.adverts, advert.edge ≤ t.run.rightEdge capacity

/-- A fresh connection has advertised nothing. -/
theorem honest_start (cfg : TCPConfig) (isn peer : WrappingInt32) :
    (start cfg isn).Honest cfg.recvCapacity peer where
  queue := rfl
  counted := ByteStream.counts_new cfg.recvCapacity
  within := ByteStream.within_new cfg.recvCapacity
  known := by simp [start, ConnectionRun.start, TCPConnection.new, TCPReceiver.new]
  truthful := ⟨by simp [start], by simp [start], by simp [start]⟩
  reached := by simp [start]

/-- Every call that brings a segment of the stream keeps the adverts of a narrow window true. -/
theorem Honest.step {capacity : Nat} (honest : t.Honest capacity isn) (narrow : capacity < 65536)
    (belongs : call.Belongs isn bytes) (steps : t.step call = .ok next) :
    next.Honest capacity isn := by
  simp only [AdvertisingRun.step, bind_eq_ok, pure_eq_ok, Except.ok.injEq] at steps
  obtain ⟨after, steps, rfl⟩ := steps
  -- The stream stays within the capacity, and its counters stay exact.
  have within := ConnectionRun.within_step (by omega) honest.within steps
  obtain ⟨counted, ended⟩ := ConnectionRun.counted_step honest.counted steps
    (Nat.lt_of_le_of_lt within.held (by omega))
  have known := ConnectionRun.isn_step honest.known belongs steps
  obtain ⟨c, performed, rfl⟩ := ConnectionRun.step_ok.mp steps
  -- The edge moves with the reader and with the end of the stream.
  have moves : t.run.rightEdge capacity ≤ (t.run.after call c).rightEdge capacity := by
    have popped : t.run.popped.length ≤ (t.run.after call c).popped.length := by
      rw [ConnectionRun.after, List.length_append]
      exact Nat.le_add_right _ _
    rw [ConnectionRun.rightEdge, ConnectionRun.rightEdge]
    by_cases finished : t.run.connection.inboundStream.inputEnded = true
    · -- The end was reached before, and counts on both sides.
      have still : (t.run.after call c).connection.inboundStream.inputEnded = true :=
        ended finished
      rw [if_pos finished, if_pos still]
      omega
    · rw [if_neg finished]
      omega
  have new : (t.run.after call c).emitted.drop t.run.emitted.length = c.segmentsOut := by
    rw [ConnectionRun.after, List.drop_left]
  rw [AdvertisingRun.after, new]
  -- What is new says what the receiver says now, and reaches up to the current edge.
  have fresh : ∀ advert ∈ (if (t.run.after call c).connection.receiver.syned = true then
      c.segmentsOut.map (t.run.after call c).advert else []),
      (advert.segment.header.ack = true ∧ advert.segment.header.ackno = wrap advert.ackno isn) ∧
        advert.segment.header.win.toNat = min advert.windowSize 65535 ∧
        advert.edge = (t.run.after call c).rightEdge capacity := by
    intro advert member
    split at member
    · -- The receiver has a number to stamp with, which counts from the peer's SYN.
      rename_i syned
      obtain ⟨seg, emitted, rfl⟩ := List.mem_map.mp member
      obtain ⟨original, rfl⟩ := TCPConnection.perform_stamped honest.queue performed seg emitted
      have number := ConnectionRun.ackno_absolute counted syned
      rw [known syned] at number
      obtain ⟨ack, ackno, win⟩ := TCPConnection.stamp_of_ackno (c := c) number original
      have reaches := ConnectionRun.absoluteAckno_add_windowSize (by omega) within
      have whole : c.receiver.windowSize ≤ capacity := by
        -- The window fits 16 bits, so nothing of it is cut off.
        have window : c.receiver.windowSize = capacity - _ :=
          ByteStream.remainingCapacity_new (by omega) within.room within.held
        omega
      rw [Nat.mod_eq_of_lt (by omega)] at win
      refine ⟨⟨ack, ackno⟩, ?_, ?_⟩
      · show (c.stamp original).header.win.toNat = min c.receiver.windowSize 65535
        omega
      · show _ + (c.stamp original).header.win.toNat = _
        rw [win]
        exact reaches
    · -- Before the SYN nothing is advertised.
      exact absurd member (by simp)
  have truthful := honest.truthful
  refine ⟨rfl, counted, within, known, ⟨?_, ?_, ?_⟩, ?_⟩
  · -- The numbers.
    intro advert member
    rcases List.mem_append.mp member with old | late
    · exact truthful.acks advert old
    · exact (fresh advert late).1
  · -- The windows.
    intro advert member
    rcases List.mem_append.mp member with old | late
    · exact truthful.window advert old
    · exact (fresh advert late).2.1
  · -- The edges: the new ones agree, and no old one is beyond them.
    refine List.pairwise_append.mpr ⟨truthful.edges, ?_, ?_⟩
    · refine List.pairwise_of_forall_mem_list fun first one second other => ?_
      rw [(fresh first one).2.2, (fresh second other).2.2]
    · intro first old second late
      rw [(fresh second late).2.2]
      exact (honest.reached first old).trans moves
  · -- The current edge is the furthest.
    intro advert member
    rcases List.mem_append.mp member with old | late
    · exact (honest.reached advert old).trans moves
    · exact Nat.le_of_eq (fresh advert late).2.2

end AdvertisingRun

/-- The SYN of a peer, with the first bytes of its stream. -/
def firstSegment (payload : Bytes) : TCPSegment := { header := { syn := true }, payload := payload }

/-- After a SYN with at most one byte, the window is the capacity less that byte. -/
theorem TCPReceiver.first_window {capacity : Nat} (small : capacity < 2 ^ 31)
    (some : 0 < capacity) {payload : Bytes} (short : payload.length ≤ 1) :
    ∃ r, (new capacity).segmentReceived (firstSegment payload) = .ok r ∧ r.syned = true ∧
      r.windowSize = capacity - payload.length := by
  -- A SYN is handed over at index zero.
  have pushed : ∀ {r : StreamReassembler},
      (StreamReassembler.new capacity).pushSubstring payload 0 false = .ok r →
      (new capacity).segmentReceived (firstSegment payload) =
        .ok ⟨r, capacity, ⟨0⟩, true⟩ := by
    intro r pushes
    have handed : (new capacity).segmentReceived (firstSegment payload) =
        ((StreamReassembler.new capacity).pushSubstring payload 0 false >>= fun reassembler =>
          pure ⟨reassembler, capacity, ⟨0⟩, true⟩) := rfl
    rw [handed, pushes, ok_bind, pure_eq_ok]
  match payload, short with
  | [], _ =>
    -- Without payload the window is the whole capacity.
    refine ⟨_, pushed (StreamReassembler.push_nothing capacity), rfl, ?_⟩
    exact ByteStream.remainingCapacity_new small rfl (Nat.zero_le _)
  | [byte], _ =>
    -- The byte stays in the buffer until it is read.
    obtain ⟨r, pushes, output⟩ := StreamReassembler.push_first small some byte
    refine ⟨_, pushed pushes, rfl, ?_⟩
    show r.output.remainingCapacity = capacity - 1
    rw [output]
    exact ByteStream.remainingCapacity_new small rfl some

namespace AdvertisingRun

/-- What a call emits after the SYN is recorded. -/
theorem advert_mem (t : AdvertisingRun) (call : ConnectionCall) {c : TCPConnection}
    (syned : c.receiver.syned = true) {seg : TCPSegment} (emitted : seg ∈ c.segmentsOut) :
    (t.run.after call c).advert seg ∈ (t.after (t.run.after call c)).adverts := by
  refine List.mem_append_right _ ?_
  rw [if_pos (show (t.run.after call c).connection.receiver.syned = true from syned)]
  refine List.mem_map_of_mem ?_
  rwa [ConnectionRun.after, List.drop_left]

/-- A capacity that needs more than 16 bits is advertised wrongly on some stream. -/
theorem wide_untruthful {cfg : TCPConfig} (small : cfg.recvCapacity < 2 ^ 31)
    (wide : 65536 ≤ cfg.recvCapacity) :
    ∃ bytes calls t, (∀ call ∈ calls, ConnectionCall.Belongs ⟨0⟩ bytes call) ∧
      runCalls step (start cfg ⟨0⟩) calls = .ok t ∧ ¬ t.Truthful ⟨0⟩ := by
  -- One byte moves the window away from the only value that is cut off to the largest number.
  obtain ⟨bytes, short, wrong⟩ : ∃ bytes : Bytes, bytes.length ≤ 1 ∧
      (cfg.recvCapacity - bytes.length) % 2 ^ 16 ≠ 65535 := by
    by_cases last : cfg.recvCapacity % 2 ^ 16 = 65535
    · exact ⟨[7], Nat.le_refl _, by simp only [List.length_singleton]; omega⟩
    · exact ⟨[], Nat.zero_le _, last⟩
  -- The window after the first segment is known.
  obtain ⟨r, received, syned, window⟩ := TCPReceiver.first_window small (by omega) short
  obtain ⟨c, new, out, handled, answered⟩ := (TCPSender.Orderly.rule [] ⟨0⟩).handle
    (c := (TCPConnection.new cfg ⟨0⟩).noted (firstSegment bytes))
    ⟨TCPSender.orderly_new _ _ _, rfl⟩ rfl received (by simp [firstSegment])
  have performed : (TCPConnection.new cfg ⟨0⟩).perform (.segment (firstSegment bytes)) = .ok c :=
    TCPConnection.segmentReceived_ok.mpr (.inr (.inr ⟨by simp [firstSegment], rfl, handled⟩))
  have stepped : (start cfg ⟨0⟩).run.step (.segment (firstSegment bytes)) =
      .ok ((start cfg ⟨0⟩).run.after (.segment (firstSegment bytes)) c) :=
    ConnectionRun.step_ok.mpr ⟨c, performed, rfl⟩
  -- The SYN is answered, with the window cut off to its last 16 bits.
  have due : 0 < (firstSegment bytes).lengthInSequenceSpace := by
    simp only [TCPSegment.lengthInSequenceSpace, firstSegment, if_true]
    omega
  obtain ⟨original, sent⟩ := List.exists_mem_of_ne_nil out (answered.due (.inl due))
  have emitted : c.stamp original ∈ c.segmentsOut := by
    rw [answered.queued]
    refine List.mem_append_right _ (List.mem_map.mpr ⟨original, sent, ?_⟩)
    rw [TCPConnection.stamp, TCPConnection.stamp, answered.receiver]
  refine ⟨bytes, [.segment (firstSegment bytes)],
    (start cfg ⟨0⟩).after ((start cfg ⟨0⟩).run.after (.segment (firstSegment bytes)) c), ?_,
    runCalls_cons_ok.mpr ⟨_, ?_, runCalls_nil _ _⟩, fun truthful => ?_⟩
  · -- The segment is one of the stream.
    intro call member
    rw [List.mem_singleton.mp member]
    exact ⟨rfl, List.prefix_refl _, fun _ => rfl⟩
  · rw [step, stepped, ok_bind, pure_eq_ok]
  · -- The window was cut off, which a truthful record does not allow.
    have advertised := truthful.window _
      (advert_mem _ _ (show c.receiver.syned = true by rw [answered.receiver, syned]) emitted)
    have number : ∃ ackno, c.receiver.ackno = some ackno := by
      rw [TCPReceiver.ackno, answered.receiver, syned]
      exact ⟨_, rfl⟩
    obtain ⟨ackno, found⟩ := number
    have win := (TCPConnection.stamp_of_ackno found original).2.2
    rw [answered.receiver, window] at win
    have claimed : (c.stamp original).header.win.toNat = min c.receiver.windowSize 65535 :=
      advertised
    rw [answered.receiver, window] at claimed
    omega

/-- On every stream, what a connection advertises is true exactly when its capacity fits 16 bits. -/
theorem truthful_iff_narrow (cfg : TCPConfig) (small : cfg.recvCapacity < 2 ^ 31) :
    (∀ isn peer bytes calls t, (∀ call ∈ calls, ConnectionCall.Belongs peer bytes call) →
      runCalls step (start cfg isn) calls = .ok t → t.Truthful peer) ↔
      cfg.recvCapacity < 65536 := by
  constructor
  · intro all
    -- A wider window is advertised modulo 2^16 with the first segment.
    by_contra wide
    obtain ⟨bytes, calls, t, belongs, returned, wrong⟩ := wide_untruthful small (by omega)
    exact wrong (all ⟨0⟩ ⟨0⟩ bytes calls t belongs returned)
  · intro narrow isn peer bytes calls t belongs returned
    -- Being honest is the invariant of the run.
    have along : Throughout step (fun _ call => ConnectionCall.Belongs peer bytes call)
        (start cfg isn) calls := .of_forall calls _ belongs
    have honest : t.Honest cfg.recvCapacity peer := Throughout.invariant
      (fun t => t.Honest cfg.recvCapacity peer)
      (fun _ _ _ held belongs steps => held.step narrow belongs steps) along
      (honest_start cfg isn peer) returned
    exact honest.truthful

/-- A capacity of 65535 bytes is advertised truthfully, on a stream of one byte and its end. -/
theorem truthful_iff_narrow_largest :
    ∃ t, runCalls step (start { recvCapacity := 65535 } ⟨0⟩)
        [.segment (firstSegment []),
          .segment { header := { seqno := ⟨1⟩, fin := true, ack := true, ackno := ⟨1⟩, win := 9 }
                     payload := [7] },
          .reader (.read 1), .write [8]] = .ok t ∧
      t.adverts.length = 3 ∧ t.Truthful ⟨0⟩ := by
  -- The run is evaluated for the number of its adverts.
  have ran : ∃ t, runCalls step (start { recvCapacity := 65535 } ⟨0⟩)
      [.segment (firstSegment []),
        .segment { header := { seqno := ⟨1⟩, fin := true, ack := true, ackno := ⟨1⟩, win := 9 }
                   payload := [7] },
        .reader (.read 1), .write [8]] = .ok t ∧ t.adverts.length = 3 :=
    exists_runCalls (by decide +kernel)
  obtain ⟨t, returned, three⟩ := ran
  refine ⟨t, returned, three, (truthful_iff_narrow { recvCapacity := 65535 } (by decide)).mpr
    (by decide) ⟨0⟩ ⟨0⟩ [7] _ t (by decide +kernel) returned⟩

/-- A capacity of 65536 bytes is advertised as a closed window. -/
theorem full_window_closed :
    ∃ t, runCalls step (start { recvCapacity := 65536 } ⟨0⟩) [.segment (firstSegment [])] = .ok t ∧
      t.adverts.map (fun advert => (advert.windowSize, advert.segment.header.win)) =
        [(65536, 0)] :=
  exists_runCalls (by decide +kernel)

end AdvertisingRun

end Sponge
