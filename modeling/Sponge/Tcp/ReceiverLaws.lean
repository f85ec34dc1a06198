import Sponge.Lib.Runs
import Sponge.Stream.ReassemblerLaws
import Sponge.Tcp.Receiver

/-! Runs of a receiver over arbitrary segments, and where each segment places its payload. -/

namespace Sponge

namespace TCPReceiver

/-- The stream index at which a segment places its payload, unless it is ignored. -/
def segmentIndex (r : TCPReceiver) (seg : TCPSegment) : Option Nat :=
  if seg.header.syn then some 0
  else if !r.syned then none
  else if offsetFrom seg.header.seqno r.isn = 0 then none
  else some (offsetFrom seg.header.seqno r.isn - 1)

/-- Below the sign bit of the counters, a segment is ignored or pushed at its index. -/
theorem segmentReceived_eq (r : TCPReceiver) (seg : TCPSegment)
    (low : r.streamOut.bytesWritten < 2 ^ 31) :
    r.segmentReceived seg =
      match r.segmentIndex seg with
      | none => .ok r
      | some idx => (r.noteSyn seg.header).push seg idx := by
  have word := offsetFrom_lt seg.header.seqno r.isn
  rw [segmentReceived, segmentIndex]
  cases syn : seg.header.syn with
  | true => simp
  | false =>
    have same : r.noteSyn seg.header = r := by simp [noteSyn, syn]
    cases r.syned with
    -- Before the SYN there is no index.
    | false => simp
    | true =>
      simp only [Bool.not_true, Bool.not_false, Bool.false_and, Bool.false_eq_true, if_false]
      rw [unwrap_low _ _ low, ok_bind, same]
      -- Without a SYN, the number of the SYN itself has no place in the stream.
      by_cases first : offsetFrom seg.header.seqno r.isn = 0
      · rw [if_pos first, if_pos first, pure_eq_ok]
      · rw [if_neg first, if_neg first, sub64_of_le (by omega) (by omega)]

/-- An index that a segment places its payload at is less than one turn. -/
theorem segmentIndex_lt {r : TCPReceiver} {seg : TCPSegment} {idx : Nat}
    (index : r.segmentIndex seg = some idx) : idx < 2 ^ 32 := by
  have word := offsetFrom_lt seg.header.seqno r.isn
  simp only [segmentIndex] at index
  split at index
  · -- A SYN is at index zero.
    simp at index; omega
  · split at index
    · simp at index
    · split at index
      · simp at index
      · simp at index; omega

@[simp] theorem noteSyn_reassembler (r : TCPReceiver) (header : TCPHeader) :
    (r.noteSyn header).reassembler = r.reassembler := by
  simp only [noteSyn]
  split <;> rfl

@[simp] theorem noteSyn_capacity (r : TCPReceiver) (header : TCPHeader) :
    (r.noteSyn header).capacity = r.capacity := by
  simp only [noteSyn]
  split <;> rfl

/-- A payload that was handed over changed only the reassembler. -/
theorem push_ok {r r' : TCPReceiver} {seg : TCPSegment} {idx : Nat} :
    r.push seg idx = .ok r' ↔ ∃ reassembler,
      r.reassembler.pushSubstring seg.payload idx seg.header.fin = .ok reassembler ∧
        { r with reassembler := reassembler } = r' := by
  simp only [push, bind_eq_ok, pure_eq_ok, Except.ok.injEq]

end TCPReceiver

/-- A call on a receiver or on the stream it writes to. -/
inductive ReceiverCall where
  /-- `segment_received`. -/
  | segment (seg : TCPSegment)
  /-- A call of the reader on `stream_out()`. -/
  | reader (call : ByteStream.ReaderCall)
deriving DecidableEq, Repr

/-- A receiver together with the bytes its reader has taken. -/
structure ReceiverRun where
  /-- The receiver itself. -/
  receiver : TCPReceiver
  /-- The bytes the reader has taken from the inbound stream. -/
  popped : Bytes := []
deriving DecidableEq, Repr

namespace ReceiverRun

/-- A fresh receiver that has seen no call. -/
def start (capacity : Nat) : ReceiverRun := { receiver := .new capacity }

/-- The run after its reader has taken bytes. -/
def served (t : ReceiverRun) (bytes : Bytes) (output : ByteStream) : ReceiverRun :=
  { t with receiver := t.receiver.withOutput output, popped := t.popped ++ bytes }

/-- Performs one call. -/
def step (t : ReceiverRun) : ReceiverCall → Except Fault ReceiverRun
  | .segment seg => do
    let receiver ← t.receiver.segmentReceived seg
    return { t with receiver := receiver }
  | .reader call => do
    let served ← t.receiver.streamOut.serve call
    return t.served served.1 served.2

/-- The number of bytes ever written to the inbound stream. -/
def assembled (t : ReceiverRun) : Nat := t.receiver.reassembler.assembled t.popped

/-- The assembled bytes still fit the counters after a call. -/
def FewBytes (t : ReceiverRun) (call : ReceiverCall) : Prop :=
  match t.step call with
  | .ok next => next.assembled < 2 ^ 31
  | .error _ => True

instance (t : ReceiverRun) (call : ReceiverCall) : Decidable (t.FewBytes call) :=
  match found : t.step call with
  | .ok next => decidable_of_iff (next.assembled < 2 ^ 31) (by rw [FewBytes, found])
  | .error _ => .isTrue (by rw [FewBytes, found]; trivial)

end ReceiverRun

end Sponge
