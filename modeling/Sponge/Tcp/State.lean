import Sponge.Tcp.Receiver
import Sponge.Tcp.Sender

/-! The official TCP states, as summaries of a sender, a receiver and two flags of a connection. -/

namespace Sponge

/-- The summaries `TCPReceiverStateSummary` of a receiver. -/
inductive TCPReceiverStateSummary where
  /-- The connection was reset. -/
  | error
  /-- Waiting for SYN: ackno is empty. -/
  | listen
  /-- SYN received (ackno exists), and input to stream hasn't ended. -/
  | synRecv
  /-- Input to stream has ended. -/
  | finRecv
deriving DecidableEq, Repr

/-- The summaries `TCPSenderStateSummary` of a sender. -/
inductive TCPSenderStateSummary where
  /-- The connection was reset. -/
  | error
  /-- Waiting for stream to begin (no SYN sent). -/
  | closed
  /-- Stream started but nothing acknowledged. -/
  | synSent
  /-- Stream ongoing. -/
  | synAcked
  /-- Stream finished (FIN sent) but not fully acknowledged. -/
  | finSent
  /-- Stream finished and fully acknowledged. -/
  | finAcked
deriving DecidableEq, Repr

/-- Summary of a connection's internal state. -/
structure TCPState where
  /-- The summary of the sender. -/
  sender : TCPSenderStateSummary
  /-- The summary of the receiver. -/
  receiver : TCPReceiverStateSummary
  /-- The connection is active. -/
  active : Bool := true
  /-- The connection lingers once both streams have finished. -/
  lingerAfterStreamsFinish : Bool := true
deriving DecidableEq, Repr

namespace TCPState

/-- Official state names from the TCP specification. -/
inductive State where
  /-- Listening for a peer to connect. -/
  | listen
  /-- Got the peer's SYN. -/
  | synRcvd
  /-- Sent a SYN to initiate a connection. -/
  | synSent
  /-- Three-way handshake complete. -/
  | established
  /-- Remote side has sent a FIN, connection is half-open. -/
  | closeWait
  /-- Local side sent a FIN from CLOSE_WAIT, waiting for ACK. -/
  | lastAck
  /-- Sent a FIN to the remote side, not yet ACK'd. -/
  | finWait1
  /-- Received an ACK for previously-sent FIN. -/
  | finWait2
  /-- Received a FIN just after we sent one. -/
  | closing
  /-- Both sides have sent FIN and ACK'd, waiting for 2 MSL. -/
  | timeWait
  /-- A connection that has terminated normally. -/
  | closed
  /-- A connection that terminated abnormally. -/
  | reset
deriving DecidableEq, Repr

/-- The summary that corresponds to one of the official state names. -/
def ofState : State → TCPState
  | .listen => { receiver := .listen, sender := .closed }
  | .synRcvd => { receiver := .synRecv, sender := .synSent }
  | .synSent => { receiver := .listen, sender := .synSent }
  | .established => { receiver := .synRecv, sender := .synAcked }
  | .closeWait =>
    { receiver := .finRecv, sender := .synAcked, lingerAfterStreamsFinish := false }
  | .lastAck => { receiver := .finRecv, sender := .finSent, lingerAfterStreamsFinish := false }
  | .closing => { receiver := .finRecv, sender := .finSent }
  | .finWait1 => { receiver := .synRecv, sender := .finSent }
  | .finWait2 => { receiver := .synRecv, sender := .finAcked }
  | .timeWait => { receiver := .finRecv, sender := .finAcked }
  | .reset =>
    { receiver := .error, sender := .error, lingerAfterStreamsFinish := false, active := false }
  | .closed =>
    { receiver := .finRecv, sender := .finAcked, lingerAfterStreamsFinish := false, active := false }

/-- Summarizes the state of a receiver. -/
def receiverSummary (receiver : TCPReceiver) : TCPReceiverStateSummary :=
  if receiver.streamOut.error then .error
  else if receiver.ackno.isNone then .listen
  else if receiver.streamOut.inputEnded then .finRecv
  else .synRecv

/-- Summarizes the state of a sender. -/
def senderSummary (sender : TCPSender) : TCPSenderStateSummary :=
  if sender.streamIn.error then .error
  else if sender.nextSeqnoAbsolute = 0 then .closed
  else if sender.nextSeqnoAbsolute = sender.bytesInFlight then .synSent
  else if !sender.streamIn.eof then .synAcked
  else if sender.nextSeqnoAbsolute < add64 sender.streamIn.bytesWritten 2 then .synAcked
  else if sender.bytesInFlight ≠ 0 then .finSent
  else .finAcked

/-- The summary of a sender and a receiver with the two flags of their connection. -/
def of (sender : TCPSender) (receiver : TCPReceiver) (active linger : Bool) : TCPState where
  sender := senderSummary sender
  receiver := receiverSummary receiver
  active := active
  -- A connection that is not active does not linger.
  lingerAfterStreamsFinish := if active then linger else false

end TCPState

end Sponge
