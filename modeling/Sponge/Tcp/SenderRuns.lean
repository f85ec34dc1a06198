import Sponge.Lib.Runs
import Sponge.Tcp.SenderQueue

/-! Runs of a sender with the history of what it was given and what it emitted. -/

namespace Sponge

/-- A call on a sender, on the stream it reads or on its outbound queue. -/
inductive SenderCall where
  /-- `stream_in().write`. -/
  | write (data : Bytes)
  /-- `stream_in().end_input`. -/
  | endInput
  /-- `fill_window`. -/
  | fillWindow
  /-- `ack_received`. -/
  | ack (ackno : WrappingInt32) (windowSize : UInt16)
  /-- `tick`. -/
  | tick (ms : Nat)
  /-- The owner takes everything out of `segments_out()`. -/
  | collect
deriving DecidableEq, Repr

/-- A sender together with the history of its run. -/
structure SenderRun where
  /-- The sender itself. -/
  sender : TCPSender
  /-- The bytes that writes have accepted. -/
  accepted : Bytes := []
  /-- The segments that filling the window has emitted. -/
  emitted : List TCPSegment := []
  /-- The segments that ticks have sent again. -/
  resent : List TCPSegment := []
  /-- Absolute number and window of every accepted acknowledgment. -/
  acks : List (Nat × Nat) := []
deriving DecidableEq, Repr

namespace SenderRun

/-- A fresh sender that has seen no call. -/
def start (capacity : Nat) (retxTimeout : UInt16) (isn : WrappingInt32) : SenderRun :=
  { sender := .new capacity retxTimeout isn }

/-- Records an acknowledgment, unless it is beyond the next position and so was not accepted. -/
def noteAck (t : SenderRun) (sender : TCPSender) (ackabs windowSize : Nat) : SenderRun :=
  { t with
    sender := sender
    acks := if t.sender.nextSeqnoAbsolute < ackabs then t.acks
      else t.acks ++ [(ackabs, windowSize)] }

/-- Performs one call and records it. -/
def step (t : SenderRun) : SenderCall → Except Fault SenderRun
  | .write data =>
    let written := t.sender.stream.write data
    .ok { t with
      sender := { t.sender with stream := written.1 }
      accepted := t.accepted ++ data.take written.2 }
  | .endInput => .ok { t with sender := { t.sender with stream := t.sender.stream.endInput } }
  | .fillWindow => do
    let sender ← t.sender.fillWindow
    -- What is new in the outbound queue was emitted now.
    return { t with
      sender := sender
      emitted := t.emitted ++ sender.segmentsOut.drop t.sender.segmentsOut.length }
  | .ack ackno windowSize => do
    let sender ← t.sender.ackReceived ackno windowSize
    let ackabs ← unwrap ackno t.sender.isn t.sender.stream.bytesRead
    return t.noteAck sender ackabs windowSize.toNat
  | .tick ms =>
    let sender := t.sender.tick ms
    .ok { t with
      sender := sender
      resent := t.resent ++ sender.segmentsOut.drop t.sender.segmentsOut.length }
  | .collect => .ok { t with sender := { t.sender with segmentsOut := [] } }

end SenderRun

namespace TCPSender

variable {s : TCPSender}

/-- A tick changes only the timer, and sends at most the oldest outstanding segment again. -/
theorem tick_eq (s : TCPSender) (ms : Nat) :
    ∃ again timePassed rto recount,
      s.tick ms = { s with
        segmentsOut := s.segmentsOut ++ again
        timePassed := timePassed
        rto := rto
        recount := recount } ∧
      (again = [] ∨ ∃ rest, ∃ oldest, s.outstandings = oldest :: rest ∧ again = [oldest]) := by
  rw [tick]
  -- Nothing outstanding, too early, or a timeout.
  split
  · exact ⟨[], s.timePassed, s.rto, s.recount, by rw [List.append_nil], .inl rfl⟩
  · rename_i oldest rest queue
    dsimp only
    split
    · exact ⟨[], _, _, _, by rw [List.append_nil], .inl rfl⟩
    · exact ⟨[oldest], _, _, _, rfl, .inr ⟨rest, oldest, queue, rfl⟩⟩

/-- A tick while nothing is outstanding changes nothing. -/
theorem tick_idle (idle : s.outstandings = []) (ms : Nat) : s.tick ms = s := by
  rw [tick, idle]

/-- A tick before the timer runs out adds its time. -/
theorem tick_early {ms : Nat} (running : s.outstandings ≠ [])
    (early : add64 ms s.timePassed < s.rto) :
    s.tick ms = { s with timePassed := add64 ms s.timePassed } := by
  rw [tick]
  split
  · -- The timer does not run.
    rename_i idle
    exact absurd idle running
  · exact if_pos early

/-- A tick with which the timer runs out sends the oldest segment again, and backs off. -/
theorem tick_due {oldest : TCPSegment} {rest : List TCPSegment} {ms : Nat}
    (queue : s.outstandings = oldest :: rest) (due : s.rto ≤ add64 ms s.timePassed) :
    s.tick ms = { s with
      segmentsOut := s.segmentsOut ++ [oldest]
      recount := if 0 < s.window then (s.recount + 1) % 2 ^ 32 else s.recount
      rto := if 0 < s.window then s.rto * 2 % 2 ^ 32 else s.rto
      timePassed := 0 } := by
  rw [tick]
  split
  · -- The timer does not run.
    rename_i idle
    simp [idle] at queue
  · rename_i first others found
    rw [queue, List.cons.injEq] at found
    rw [found.1]
    exact if_neg (by omega)

end TCPSender

end Sponge
