import Sponge.Lib.Runs
import Sponge.Tcp.ConnectionLaws

/-! Runs of one connection whose peer and network may send it anything. -/

namespace Sponge

/-- A call on a connection, by its application, its clock or the network. -/
inductive ConnectionCall where
  /-- `connect`. -/
  | connect
  /-- `write`. -/
  | write (data : Bytes)
  /-- `end_input_stream`. -/
  | endInputStream
  /-- `tick`. -/
  | tick (ms : Nat)
  /-- `segment_received`. -/
  | segment (seg : TCPSegment)
  /-- A call of the reader on `inbound_stream()`. -/
  | reader (call : ByteStream.ReaderCall)
deriving DecidableEq, Repr

namespace TCPConnection

/-- Performs one call. -/
def perform (c : TCPConnection) : ConnectionCall → Except Fault TCPConnection
  | .connect => c.connect
  | .write data => do
    let written ← c.write data
    return written.1
  | .endInputStream => c.endInputStream
  | .tick ms => .ok (c.tick ms)
  | .segment seg => c.segmentReceived seg
  | .reader call => do
    let served ← c.inboundStream.serve call
    return c.withInbound served.2

/-- A write that returns goes on as connecting does, once the data is in the stream. -/
theorem perform_write {c c' : TCPConnection} {data : Bytes} :
    c.perform (.write data) = .ok c' ↔
      { c with sender := { c.sender with stream := (c.sender.stream.write data).1 } }.connect =
        .ok c' := by
  simp only [perform, bind_eq_ok, pure_eq_ok, Except.ok.injEq]
  constructor
  · rintro ⟨⟨written, count⟩, writes, rfl⟩
    exact (write_ok.mp writes).1
  · intro connects
    exact ⟨_, write_ok.mpr ⟨connects, rfl⟩, rfl⟩

/-- A reader that returns changes only the inbound stream. -/
theorem perform_reader {c c' : TCPConnection} {call : ByteStream.ReaderCall} :
    c.perform (.reader call) = .ok c' ↔
      ∃ served, c.inboundStream.serve call = .ok served ∧ c.withInbound served.2 = c' := by
  simp only [perform, bind_eq_ok, pure_eq_ok, Except.ok.injEq]

/-- The sender once a call has changed its stream, and before it sends anything. -/
def prepared (c : TCPConnection) : ConnectionCall → TCPSender
  | .write data => { c.sender with stream := (c.sender.stream.write data).1 }
  | .endInputStream => { c.sender with stream := c.sender.stream.endInput }
  | _ => c.sender

/-- The bytes that a call adds to the outbound stream. -/
def acceptedBy (c : TCPConnection) : ConnectionCall → Bytes
  | .write data => data.take (c.sender.stream.write data).2
  | _ => []

/-- The bytes that a call takes from the inbound stream. -/
def takenBy (c : TCPConnection) : ConnectionCall → Bytes
  | .reader call =>
    match c.inboundStream.serve call with
    | .ok served => served.1
    | .error _ => []
  | _ => []

/-- What the queue of the sender holds at the end of a call, before it is moved on. -/
def produced (c : TCPConnection) : ConnectionCall → Except Fault (List TCPSegment)
  | .tick ms => .ok (c.sender.tick ms).segmentsOut
  | .reader _ => .ok c.sender.segmentsOut
  | .segment seg =>
    -- A segment that is ignored or that resets the connection does not reach the sender.
    if (c.sender.nextSeqnoAbsolute = 0 ∧ seg.header.ack) ∨ seg.header.rst then
      .ok c.sender.segmentsOut
    else do
      let received ← (c.noted seg).receive seg
      let acked ← received.handleAck seg.header
      let opened ← acked.answerSyn
      let answered := opened.answer (decide (0 < seg.lengthInSequenceSpace))
      return (answered.answer (answered.isKeepAlive seg)).sender.segmentsOut
  | call => do
    let filled ← (c.prepared call).fillWindow
    return filled.segmentsOut

/-- A tick gives up on the connection, as too many retransmissions have failed. -/
def GivesUp (c : TCPConnection) : ConnectionCall → Prop
  | .tick ms =>
    c.active = true ∧ TCPConfig.maxRetxAttempts < (c.sender.tick ms).consecutiveRetransmissions
  | _ => False

/-- What became of the segments that the sender produced in a call. -/
inductive Moved (c : TCPConnection) (call : ConnectionCall) (out : List TCPSegment)
    (c' : TCPConnection) : Prop
  /-- All of them were moved on, in order. -/
  | all (queue : c'.segmentsOut = c.segmentsOut ++ out.map c'.stamp)
      (drained : c'.sender.segmentsOut = [])
  /-- They stay where they are. -/
  | none (queue : c'.segmentsOut = c.segmentsOut) (kept : c'.sender.segmentsOut = out)
  /-- They were dropped, and only a reset goes out. -/
  | dropped (gives : c.GivesUp call)
      (queue : c'.segmentsOut =
        [c'.stamp { header := { seqno := c.sender.nextSeqno, rst := true } }])
      (drained : c'.sender.segmentsOut = [])

/-- Every call that returns moves the segments of the sender on, leaves them or drops them. -/
theorem perform_moved {c c' : TCPConnection} {call : ConnectionCall}
    (performed : c.perform call = .ok c') :
    ∃ out, c.produced call = .ok out ∧ c.Moved call out c' := by
  -- Filling the window is all that connecting does before it moves the segments on.
  have connected : ∀ {d : TCPConnection}, d.connect = .ok c' → d.sender = c.prepared call →
      d.segmentsOut = c.segmentsOut → ∃ out, (do
        let filled ← (c.prepared call).fillWindow
        return filled.segmentsOut : Except Fault (List TCPSegment)) = .ok out ∧
        c.Moved call out c' := by
    intro d connects sender queue
    obtain ⟨s, filled, rfl⟩ := connect_ok.mp connects
    rw [sender] at filled
    exact ⟨s.segmentsOut, by rw [filled]; rfl, .all (by rw [← queue]; rfl) rfl⟩
  cases call with
  | connect => exact connected performed rfl rfl
  | write data => exact connected (perform_write.mp performed) rfl rfl
  | endInputStream =>
    rw [perform, endInputStream_eq] at performed
    exact connected performed rfl rfl
  | reader taken =>
    obtain ⟨served, _, rfl⟩ := perform_reader.mp performed
    exact ⟨c.sender.segmentsOut, rfl, .none rfl rfl⟩
  | segment seg =>
    rcases segmentReceived_ok.mp performed with ⟨zero, ack, rfl⟩ | ⟨_, rst, rfl⟩ |
      ⟨sentSyn, plain, handled⟩
    · -- The segment is ignored.
      exact ⟨c.sender.segmentsOut, if_pos (.inl ⟨zero, ack⟩), .none rfl rfl⟩
    · -- The segment resets the connection.
      exact ⟨c.sender.segmentsOut, if_pos (.inr rst), .none rfl rfl⟩
    · -- The segment is handled, and neither of the early returns is taken.
      have reaches : ¬ ((c.sender.nextSeqnoAbsolute = 0 ∧ seg.header.ack = true) ∨
          seg.header.rst = true) := by
        rintro (⟨zero, ack⟩ | rst)
        · exact absurd (sentSyn ack) (by omega)
        · exact absurd (plain.symm.trans rst) Bool.false_ne_true
      obtain ⟨r, acked, opened, parts⟩ := handle_ok.mp handled
      obtain ⟨out, answered, _⟩ := answer_eq { c.noted seg with receiver := r, sender := opened }
        (decide (0 < seg.lengthInSequenceSpace) ||
          { c.noted seg with receiver := r, sender := opened }.isKeepAlive seg)
      have result := parts.result
      rw [answered] at result
      refine ⟨out, ?_, .all (by rw [← result]; rfl) (by rw [← result]; rfl)⟩
      rw [produced, if_neg reaches]
      simp only [receive, bind_eq_ok, pure_eq_ok, Except.ok.injEq, handleAck_ok, answerSyn_ok,
        answer_isKeepAlive, answer_answer]
      refine ⟨_, ⟨r, parts.received, rfl⟩, _, ⟨acked, parts.heard, rfl⟩, _,
        ⟨opened, parts.opens, rfl⟩, ?_⟩
      rw [answered]
  | tick ms =>
    rw [perform, Except.ok.injEq] at performed
    refine ⟨_, rfl, ?_⟩
    rw [← performed, tick]
    split
    · -- In TIME_WAIT the queue of the sender is not moved.
      rw [tickTimeWait]
      split
      · exact .none rfl rfl
      · exact .none rfl rfl
    · split
      · -- The connection gives up, and only the reset is left.
        rename_i gives
        have same : (c.sender.tick ms).nextSeqno = c.sender.nextSeqno := by
          obtain ⟨_, _, _, _, ticks, _⟩ := c.sender.tick_eq ms
          rw [ticks]
          rfl
        exact .dropped gives (by rw [← same]; rfl) rfl
      · -- What the timer sends again is moved on.
        exact .all rfl rfl

end TCPConnection

/-- A connection together with the history of its calls. -/
structure ConnectionRun where
  /-- The connection itself. -/
  connection : TCPConnection
  /-- The bytes that writes have accepted. -/
  accepted : Bytes := []
  /-- The bytes that the reader has taken from the inbound stream. -/
  popped : Bytes := []
  /-- Every segment that was put into `segments_out()`, in that order. -/
  emitted : List TCPSegment := []
deriving DecidableEq, Repr

namespace ConnectionRun

/-- A fresh connection that has seen no call. -/
def start (cfg : TCPConfig) (isn : WrappingInt32) : ConnectionRun :=
  { connection := .new cfg isn }

/-- The run after a call that left a connection. -/
def after (t : ConnectionRun) (call : ConnectionCall) (c : TCPConnection) : ConnectionRun where
  -- The owner takes the queue before the next call, and no call reads it.
  connection := { c with segmentsOut := [] }
  accepted := t.accepted ++ t.connection.acceptedBy call
  popped := t.popped ++ t.connection.takenBy call
  emitted := t.emitted ++ c.segmentsOut

/-- Performs one call and records it. -/
def step (t : ConnectionRun) (call : ConnectionCall) : Except Fault ConnectionRun := do
  let c ← t.connection.perform call
  return t.after call c

variable {t next : ConnectionRun} {call : ConnectionCall}

/-- A call that returns left some connection. -/
theorem step_ok :
    t.step call = .ok next ↔ ∃ c, t.connection.perform call = .ok c ∧ t.after call c = next := by
  simp only [step, bind_eq_ok, pure_eq_ok, Except.ok.injEq]

/-- Every byte that was ever written to the inbound stream. -/
def delivered (t : ConnectionRun) : Bytes := t.popped ++ t.connection.inboundStream.buffer

end ConnectionRun

end Sponge
