import Sponge.Lib.Settles
import Sponge.Tcp.Lifecycle
import Sponge.Tcp.Linger

/-! The states of a connection only move forward, and the last one is CLOSED or RESET. -/

namespace Sponge

namespace TCPSenderStateSummary

/-- How far the sender has come. -/
def stage : TCPSenderStateSummary → Nat
  | .closed => 0
  | .synSent => 1
  | .synAcked => 2
  | .finSent => 3
  | .finAcked => 4
  | .error => 5

end TCPSenderStateSummary

namespace TCPReceiverStateSummary

/-- How far the receiver has come. -/
def stage : TCPReceiverStateSummary → Nat
  | .listen => 0
  | .synRecv => 1
  | .finRecv => 2
  | .error => 3

end TCPReceiverStateSummary

namespace TCPReceiver

/-- Until the SYN has come, segments change nothing. -/
theorem segmentReceived_unsyned {r r' : TCPReceiver} {seg : TCPSegment}
    (received : r.segmentReceived seg = .ok r') (waiting : r'.syned = false) : r' = r := by
  -- The flag after a segment is set exactly if it was set before or the segment has a SYN.
  obtain ⟨-, syned, -⟩ := segmentReceived_ok received
  rw [waiting] at syned
  unfold noteSyn at syned
  split at syned
  · -- A SYN would have set the flag.
    cases syned
  · -- Without SYN the segment is dropped by the first test.
    rename_i plain
    unfold segmentReceived at received
    rw [← syned, Bool.not_eq_true _ |>.mp plain] at received
    exact (Except.ok.inj received).symm

end TCPReceiver

namespace TCPState

/-- A later state of the same connection. -/
structure Before (s s' : TCPState) : Prop where
  /-- The sender has not gone back. -/
  sender : s.sender.stage ≤ s'.sender.stage
  /-- Nor has the receiver. -/
  receiver : s.receiver.stage ≤ s'.receiver.stage
  /-- A connection that is not active does not become so. -/
  active : s'.active = true → s.active = true
  /-- One that does not linger does not begin to. -/
  linger : s'.lingerAfterStreamsFinish = true → s.lingerAfterStreamsFinish = true

namespace Before

variable {s s' s'' : TCPState}

/-- A state is not behind itself. -/
theorem refl (s : TCPState) : s.Before s := ⟨Nat.le_refl _, Nat.le_refl _, id, id⟩

/-- One move after another. -/
theorem trans (first : s.Before s') (second : s'.Before s'') : s.Before s'' :=
  ⟨first.sender.trans second.sender, first.receiver.trans second.receiver,
    fun is => first.active (second.active is), fun is => first.linger (second.linger is)⟩

end Before

/-- The summary of a sender is an error exactly when its stream has one. -/
theorem sender_error_iff {s : TCPSender} : senderSummary s = .error ↔ s.streamIn.error = true := by
  unfold senderSummary
  split_ifs with failed
  all_goals simp [failed]

/-- The summary of a receiver is an error exactly when its stream has one. -/
theorem receiver_error_iff {r : TCPReceiver} :
    receiverSummary r = .error ↔ r.streamOut.error = true := by
  unfold receiverSummary
  split_ifs with failed
  all_goals simp [failed]

/-- How far the receiver has come, read off its flags. -/
theorem receiver_stage (r : TCPReceiver) : (receiverSummary r).stage =
    if r.streamOut.error then 3 else if !r.syned then 0
    else if r.streamOut.inputEnded then 2 else 1 := by
  -- The acknowledgment number exists exactly when the SYN was received.
  have known : r.ackno.isNone = !r.syned := by
    unfold TCPReceiver.ackno
    cases r.syned with
    | true => rfl
    | false => rfl
  unfold receiverSummary
  rw [known]
  -- The tests of the summary, in its order.
  split
  · rfl
  · split
    · rfl
    · split
      · rfl
      · rfl

/-- A call that takes nothing back moves the receiver and the flags forward. -/
theorem receiver_stage_mono {c c' : TCPConnection} (ages : c.Ages c') :
    (receiverSummary c.receiver).stage ≤ (receiverSummary c'.receiver).stage := by
  rw [receiver_stage, receiver_stage]
  have errors : c.receiver.streamOut.error = true → c'.receiver.streamOut.error = true := by
    intro failed
    rcases ages.error with ⟨-, inn, -⟩ | ⟨-, inn⟩
    · exact inn
    · exact inn.trans failed
  have syned := ages.syned
  have ended : c.receiver.streamOut.inputEnded = true → c'.receiver.streamOut.inputEnded = true :=
    ages.ended
  -- The new state may have failed, and the old one only if the new one has.
  cases failed : c'.receiver.streamOut.error with
  | true =>
    -- Nothing is behind an error.
    simp only [if_true]
    split
    · exact Nat.le_refl _
    · split
      · exact Nat.zero_le _
      · split
        · decide
        · decide
  | false =>
    -- Neither has failed, so the flags decide.
    have clean : c.receiver.streamOut.error = false := by
      cases before : c.receiver.streamOut.error with
      | false => rfl
      | true => exact (errors before).symm.trans failed
    rw [clean]
    simp only [Bool.false_eq_true, if_false]
    cases began : c.receiver.syned with
    -- Nothing is before the SYN.
    | false => exact Nat.zero_le _
    | true =>
      rw [syned began]
      cases done : c.receiver.streamOut.inputEnded with
      | false =>
        -- The stream had not ended, and may have ended now.
        simp only [Bool.not_true, Bool.false_eq_true, if_false]
        split
        · decide
        · decide
      | true => rw [ended done]

end TCPState

namespace TCPSender

variable {s s' : TCPSender} {accepted more : Bytes} {sent new : List TCPSegment}

/-- How far an orderly sender has come, read off its history. -/
theorem Orderly.stage (orderly : s.Orderly accepted sent) :
    (TCPState.senderSummary s).stage =
      if s.streamIn.error then 5 else if s.nextSeqnoAbsolute = 0 then 0 else if s.base = 0 then 1
      else if NoFin sent then 2 else if s.base < s.nextSeqnoAbsolute then 3 else 4 := by
  -- The queue of the outstanding segments reaches from the base to the next position.
  have total := orderly.tracked.base_add
  have flights : s.bytesInFlight = occupied s.outstandings := orderly.tracked.flights
  have finishing : (!s.streamIn.eof) = true ∨
      s.nextSeqnoAbsolute < add64 s.streamIn.bytesWritten 2 ↔ NoFin sent := by
    -- This is what a connection asks of its sender when a FIN arrives.
    have asked := TCPConnection.unfinished_iff
      (c := { TCPConnection.new {} s.isn with sender := s }) orderly
    unfold TCPConnection.unfinished at asked
    rw [Bool.or_eq_true, decide_eq_true_eq] at asked
    exact asked
  unfold TCPState.senderSummary
  rw [flights]
  by_cases failed : s.streamIn.error = true
  · -- The stream has failed.
    rw [if_pos failed, if_pos failed]
    rfl
  · rw [if_neg failed, if_neg failed]
    by_cases fresh : s.nextSeqnoAbsolute = 0
    · -- Nothing was sent.
      rw [if_pos fresh, if_pos fresh]
      rfl
    · rw [if_neg fresh, if_neg fresh]
      by_cases unacked : s.base = 0
      · -- The SYN is in flight.
        rw [if_pos unacked, if_pos (by omega)]
        rfl
      · rw [if_neg unacked, if_neg (by omega)]
        by_cases none : NoFin sent
        · -- Either the stream goes on, or the FIN has not been sent.
          rw [if_pos none]
          rcases finishing.mpr none with writing | short
          · rw [if_pos writing]
            rfl
          · rw [if_pos short, ite_self]
            rfl
        · -- The FIN was sent, so the stream was at its end.
          have both := mt finishing.mp none
          rw [if_neg none, if_neg (fun writing => both (.inl writing)),
            if_neg (fun short => both (.inr short))]
          by_cases flying : s.base < s.nextSeqnoAbsolute
          · -- Something is still in flight.
            rw [if_pos flying, if_pos (by omega)]
            rfl
          · -- All was acknowledged, the FIN included.
            rw [if_neg flying, if_neg (by omega)]
            rfl

/-- A sender whose stream is sent and acknowledged with its FIN has come to the end. -/
theorem Orderly.finAcked (orderly : s.Orderly accepted sent) (clean : s.streamIn.error = false)
    (next : add64 s.streamIn.bytesWritten 2 ≤ s.nextSeqnoAbsolute) (quiet : s.bytesInFlight = 0) :
    TCPSenderStateSummary.finAcked.stage ≤ (TCPState.senderSummary s).stage := by
  -- Nothing in flight means that the base is the next position.
  have small := orderly.small
  have total := orderly.tracked.base_add
  rw [← orderly.tracked.flights, show s.inFlights = 0 from quiet] at total
  rw [streamIn, orderly.bytesWritten, add64_of_lt (by omega)] at next
  -- Without the FIN, one position less would be in use.
  have some : ¬ NoFin sent := by
    intro none
    have fewer := orderly.next_of_noFin none
    have content := congrArg List.length orderly.content
    rw [List.length_append] at content
    split at fewer
    · omega
    · omega
  rw [orderly.stage, clean, if_neg Bool.false_ne_true, if_neg (by omega), if_neg (by omega),
    if_neg some, if_neg (by omega)]
  exact Nat.le_refl _

/-- A sender that accepts nothing after its FIN moves forward. -/
theorem Orderly.stage_mono (before : s.Orderly accepted sent)
    (after : s'.Orderly (accepted ++ more) (sent ++ new)) (base : s.base ≤ s'.base)
    (error : s.streamIn.error = true → s'.streamIn.error = true)
    (kept : NoFin sent ∨ more = []) :
    (TCPState.senderSummary s).stage ≤ (TCPState.senderSummary s').stage := by
  have next : s.nextSeqnoAbsolute ≤ s'.nextSeqnoAbsolute := by
    -- The old positions are among the new ones.
    rw [before.tracked.next_eq, after.tracked.next_eq, occupied_append]
    exact Nat.le_add_right _ _
  have flag : NoFin (sent ++ new) → NoFin sent :=
    fun none seg member => none seg (List.mem_append_left _ member)
  -- Behind the FIN there is no position left to assign.
  have last : ¬ NoFin sent → s'.nextSeqnoAbsolute = s.nextSeqnoAbsolute := by
    intro some
    have nothing := kept.resolve_left some
    rw [(after.next_of_fin (mt flag some)).1, (before.next_of_fin some).1, nothing,
      List.append_nil]
  rw [before.stage, after.stage]
  by_cases failed : s'.streamIn.error = true
  · -- The error is the last stage.
    rw [if_pos failed]
    split_ifs
    all_goals omega
  · rw [if_neg failed, if_neg (mt error failed)]
    by_cases none : NoFin sent
    · -- Before the FIN, the base and the next position decide.
      rw [if_pos none]
      split_ifs
      all_goals omega
    · -- Behind the FIN, the base alone can move.
      have same := last none
      rw [if_neg none, if_neg (mt flag none)]
      split_ifs
      all_goals omega

/-- What an acknowledgment leaves of the queue starts no earlier. -/
theorem Orderly.base_le_ackReceived (orderly : s.Orderly accepted sent) {ackno : WrappingInt32}
    {windowSize : UInt16} (received : s.ackReceived ackno windowSize = .ok s') :
    s.base ≤ s'.base := by
  have total := orderly.tracked.base_add
  obtain ⟨ackabs, -, cases⟩ := ackReceived_cases received
  rcases cases with ⟨-, rfl⟩ | ⟨-, kept, inFlights, ⟨gone, split⟩, rfl⟩
  · exact Nat.le_refl _
  · -- The segments that were dropped came before the ones that are left.
    have shorter : occupied kept ≤ occupied s.outstandings := by
      rw [← split, occupied_append]
      exact Nat.le_add_left _ _
    change s.base ≤ s.nextSeqnoAbsolute - occupied kept
    omega

/-- An orderly sender whose queue starts no earlier than a position, through every operation. -/
theorem Orderly.base_rule (accepted : Bytes) (isn : WrappingInt32) (lower : Nat) :
    SenderRule fun s sent => (s.Orderly accepted sent ∧ s.isn = isn) ∧ lower ≤ s.base where
  fill := by
    -- The base is where it was.
    intro s sent holds
    obtain ⟨s', new, filled, out, kept, same, base, -⟩ := holds.1.1.fillWindow
    exact ⟨s', new, filled, out, ⟨kept, same.trans holds.1.2⟩, holds.2.trans (Nat.le_of_eq base.symm)⟩
  ack := by
    -- The base moves forward, if it moves.
    intro s sent holds sentSyn ackno windowSize
    obtain ⟨s', acks, kept, same, -, out, -⟩ := holds.1.1.ackReceived sentSyn ackno windowSize
    have base := holds.1.1.base_le_ackReceived acks
    exact ⟨s', acks, out, ⟨kept, same.trans holds.1.2⟩, holds.2.trans base⟩
  quiet := fun holds segmentsOut timePassed rto recount =>
    ⟨⟨holds.1.1.congr segmentsOut timePassed rto recount, holds.1.2⟩, holds.2⟩
  error := fun holds => ⟨⟨holds.1.1.setError, holds.1.2⟩, holds.2⟩
  queue := fun holds _ member => holds.1.1.tracked.queue.subset member
  flights := fun holds => holds.1.1.tracked.flights
  positive := fun holds => holds.1.1.positive

end TCPSender

namespace ConnectionRun

variable {isn : WrappingInt32} {t next : ConnectionRun} {call : ConnectionCall}
  {sent : List TCPSegment}

/-- A call keeps the order of a run and moves its state forward. -/
theorem Ordered.step_before (ordered : t.Ordered isn sent) (keeps : t.KeepsFin call)
    (steps : t.step call = .ok next) :
    ∃ new, next.Ordered isn (sent ++ new) ∧ t.connection.state.Before next.connection.state := by
  -- Writing and ending the input leave the queue where it is.
  have base : t.connection.sender.base = (t.connection.prepared call).base := by
    cases call with
    | write data => rfl
    | endInputStream => rfl
    | connect | tick ms | segment seg | reader call => rfl
  obtain ⟨new, ⟨⟨orderly, start⟩, lower⟩, recorded⟩ :=
    -- The rule keeps the order and the lower bound together.
    (TCPSender.Orderly.base_rule _ isn t.connection.sender.base).perform
      ⟨ordered.prepared keeps, Nat.le_of_eq base⟩ ordered.2.2 steps
  obtain ⟨c, performed, rfl⟩ := step_ok.mp steps
  have ages := TCPConnection.Ages.perform call performed
  refine ⟨new, ⟨orderly, start, recorded⟩, ?_, ?_, ages.active, ?_⟩
  · -- The sender.
    refine ordered.1.stage_mono orderly lower ?_ ?_
    · intro failed
      rcases ages.error with ⟨out, -, -⟩ | ⟨out, -⟩
      · exact out
      · exact out.trans failed
    · exact keeps.2.imp_left ordered.2.2.noFin_iff.mp
  · -- The receiver.
    have forward := TCPState.receiver_stage_mono ages
    exact forward
  · -- The summary of the flag is cleared with the life of the connection.
    change (if c.active then c.lingerAfterStreamsFinish else false) = true →
      (if t.connection.active then t.connection.lingerAfterStreamsFinish else false) = true
    intro lingers
    split at lingers
    · -- The flag is shown while the connection lives, and it was shown before.
      rename_i alive
      rw [if_pos (ages.active alive)]
      exact ages.linger lingers
    · -- A connection that is over shows the flag as cleared.
      cases lingers

/-- Whatever a run does after a state, the later state is not behind it. -/
theorem state_moves_forward {cfg : TCPConfig} {isn : WrappingInt32}
    {calls more : List ConnectionCall} {t last : ConnectionRun}
    (along : Throughout step KeepsFin (start cfg isn) (calls ++ more))
    (reached : runCalls step (start cfg isn) calls = .ok t)
    (goes : runCalls step t more = .ok last) :
    t.connection.state.Before last.connection.state := by
  obtain ⟨early, late⟩ := Throughout.append_iff.mp along
  obtain ⟨sent, ordered⟩ := ordered_run early reached
  -- The order of what was sent carries the comparison from call to call.
  have both : ∃ sent, last.Ordered isn sent ∧
      t.connection.state.Before last.connection.state := by
    refine Throughout.invariant
      (fun state => ∃ sent, state.Ordered isn sent ∧
        t.connection.state.Before state.connection.state) ?_ (late t reached)
      ⟨sent, ordered, .refl _⟩ goes
    intro state call next held keeps steps
    obtain ⟨sent, ordered, before⟩ := held
    obtain ⟨new, after, moves⟩ := ordered.step_before keeps steps
    exact ⟨sent ++ new, after, before.trans moves⟩
  obtain ⟨sent, -, before⟩ := both
  exact before

/-- A connection that sent its FIN waits for the peer's, and does not go back from there. -/
theorem state_moves_forward_fin :
    ∃ t last, runCalls step (start {} ⟨0⟩) byteThenFin = .ok t ∧
      runCalls step t finAcknowledged = .ok last ∧ t.connection.state = .ofState .finWait1 ∧
      last.connection.state = .ofState .finWait2 ∧
      t.connection.state.Before last.connection.state := by
  -- Both states are computed, and the order of the two follows from the theorem.
  have ran : ∃ t, runCalls step (start {} ⟨0⟩) byteThenFin = .ok t ∧
      t.connection.state = .ofState .finWait1 := exists_runCalls (by decide +kernel)
  have whole : ∃ last, runCalls step (start {} ⟨0⟩) (byteThenFin ++ finAcknowledged) = .ok last ∧
      last.connection.state = .ofState .finWait2 := exists_runCalls (by decide +kernel)
  obtain ⟨t, returned, waits⟩ := ran
  obtain ⟨last, ended, acked⟩ := whole
  obtain ⟨mid, before, goes⟩ := runCalls_append_ok.mp ended
  cases Except.ok.inj (before.symm.trans returned)
  exact ⟨t, last, returned, goes, waits, acked,
    state_moves_forward (by decide +kernel) returned goes⟩

/-- An ordered run whose connection ends with both streams, or with an error on both. -/
structure Staged (isn : WrappingInt32) (t : ConnectionRun) (sent : List TCPSegment) : Prop where
  /-- The sender is orderly. -/
  ordered : t.Ordered isn sent
  /-- The streams fail together. -/
  together : t.connection.sender.stream.error = t.connection.inboundStream.error
  /-- A connection that failed is over. -/
  failed : t.connection.inboundStream.error = true → t.connection.active = false
  /-- The inbound stream ends only after it has begun. -/
  begun : t.connection.inboundStream.inputEnded = true → t.connection.receiver.syned = true
  /-- A connection that is over has come to the end on both sides. -/
  dead : t.connection.active = false →
    TCPSenderStateSummary.finAcked.stage ≤ t.connection.state.sender.stage ∧
      TCPReceiverStateSummary.finRecv.stage ≤ t.connection.state.receiver.stage

/-- A fresh connection is at the beginning. -/
theorem staged_start (cfg : TCPConfig) (isn : WrappingInt32) : (start cfg isn).Staged isn [] := by
  -- A new connection is active and has received nothing.
  refine ⟨⟨TCPSender.orderly_new _ _ _, rfl, recorded_start cfg isn⟩, ?_, nofun, nofun, nofun⟩
  have outbound : (TCPConnection.new cfg isn).sender.stream.error = false := rfl
  have inbound : (TCPConnection.new cfg isn).inboundStream.error = false := rfl
  exact outbound.trans inbound.symm

/-- Every call keeps a run staged. -/
theorem Staged.step (staged : t.Staged isn sent) (keeps : t.KeepsFin call)
    (steps : t.step call = .ok next) : ∃ new, next.Staged isn (sent ++ new) := by
  obtain ⟨new, ordered, before⟩ := staged.ordered.step_before keeps steps
  obtain ⟨c, performed, rfl⟩ := step_ok.mp steps
  have ages := TCPConnection.Ages.perform call performed
  have together : c.sender.stream.error = c.inboundStream.error := by
    -- Both error flags are set at once, or kept.
    rcases ages.error with ⟨out, inn, -⟩ | ⟨out, inn⟩
    · rw [out, inn]
    · rw [out, inn]
      exact staged.together
  have begun : c.inboundStream.inputEnded = true → c.receiver.syned = true := by
    intro ended
    cases syned : c.receiver.syned with
    | true => rfl
    | false =>
      -- A receiver without the SYN is the one of before, up to what was read or failed.
      have waiting : t.connection.receiver.syned = false := by
        cases before : t.connection.receiver.syned with
        | false => rfl
        | true => exact (ages.syned before).symm.trans syned
      have ended' : t.connection.inboundStream.inputEnded = true := by
        rcases step_receiver steps with ⟨output, same, outputs⟩ | ⟨seg, -, received⟩
        · have stream : c.inboundStream = output := congrArg TCPReceiver.streamOut same
          rw [stream] at ended
          -- The reader took something, or the stream was given an error; neither ends it.
          rcases outputs with rfl | rfl | ⟨len, rfl⟩
          · exact ended
          · exact ended
          · exact ended
        · -- A segment that leaves the receiver waiting has changed nothing.
          have same := TCPReceiver.segmentReceived_unsyned received syned
          exact (congrArg (fun r => r.streamOut.inputEnded) same).symm.trans ended
      exact (staged.begun ended').symm.trans waiting |>.symm
  refine ⟨new, ordered, together, ?_, begun, ?_⟩
  · -- An error ends the life of the connection.
    intro failed
    rcases ages.error with ⟨-, -, dead⟩ | ⟨-, inn⟩
    · exact dead
    · -- The error was there before, when the connection was over already.
      cases alive : c.active with
      | false => exact alive
      | true =>
        have dead := staged.failed (inn.symm.trans failed)
        cases dead.symm.trans (ages.active alive)
  · -- A connection that is over has come to the last stages.
    intro dead
    cases alive : t.connection.active with
    | false =>
      -- It was over before.
      obtain ⟨out, inn⟩ := staged.dead alive
      exact ⟨out.trans before.sender, inn.trans before.receiver⟩
    | true =>
      cases failed : c.inboundStream.error with
      | true =>
        -- It has failed just now.
        have out : TCPState.senderSummary c.sender = .error :=
          TCPState.sender_error_iff.mpr (together.trans failed)
        have inn : TCPState.receiverSummary c.receiver = .error :=
          TCPState.receiver_error_iff.mpr failed
        change _ ≤ (TCPState.senderSummary c.sender).stage ∧
          _ ≤ (TCPState.receiverSummary c.receiver).stage
        rw [out, inn]
        decide
      | false =>
        -- Without an error only a tick can end it, which then finds both streams complete.
        rcases TCPConnection.perform_closes performed alive dead with error | ⟨ms, rfl⟩
        · -- The error is the one that was excluded.
          cases failed.symm.trans error
        · -- The tick has found both streams finished.
          cases Except.ok.inj performed
          obtain ⟨ended, -, next, quiet⟩ :=
            TCPConnection.finished_of_tick alive dead (together.trans failed)
          refine ⟨ordered.1.finAcked (together.trans failed) next quiet, ?_⟩
          change _ ≤ (TCPState.receiverSummary (t.connection.tick ms).receiver).stage
          have syned := begun ended
          unfold TCPConnection.inboundStream at ended failed
          rw [TCPState.receiver_stage, failed, syned, ended]
          decide

/-- Every state of a run that accepts nothing after its FIN is staged. -/
theorem staged_run {cfg : TCPConfig} {calls : List ConnectionCall}
    (along : Throughout step KeepsFin (start cfg isn) calls)
    (returned : runCalls step (start cfg isn) calls = .ok t) : ∃ sent, t.Staged isn sent := by
  -- Being staged is the invariant of the run.
  refine Throughout.invariant (fun t => ∃ sent, t.Staged isn sent) ?_ along
    ⟨[], staged_start cfg isn⟩ returned
  intro state call next held keeps steps
  obtain ⟨sent, staged⟩ := held
  obtain ⟨new, after⟩ := staged.step keeps steps
  exact ⟨sent ++ new, after⟩

/-- The state of a connection that failed is RESET. -/
theorem Staged.reset (staged : t.Staged isn sent)
    (failed : t.connection.inboundStream.error = true) :
    t.connection.state = .ofState .reset := by
  -- An error on one side is one on both.
  have out := TCPState.sender_error_iff.mpr (staged.together.trans failed)
  have inn := TCPState.receiver_error_iff.mpr failed
  unfold TCPConnection.state TCPState.of
  rw [out, inn, staged.failed failed]
  rfl

/-- The state of a connection that is over without an error is CLOSED. -/
theorem Staged.closed (staged : t.Staged isn sent) (dead : t.connection.active = false)
    (clean : t.connection.inboundStream.error = false) :
    t.connection.state = .ofState .closed := by
  -- The two sides are at their ends, or beyond.
  obtain ⟨out, inn⟩ := staged.dead dead
  -- Only an error lies beyond the end, on either side.
  have sender : t.connection.state.sender = .finAcked := by
    cases found : t.connection.state.sender with
    | error =>
      have failed := staged.together.symm.trans (TCPState.sender_error_iff.mp found)
      cases clean.symm.trans failed
    | finAcked => rfl
    | closed | synSent | synAcked | finSent =>
      rw [found] at out
      exact absurd out (by decide)
  have receiver : t.connection.state.receiver = .finRecv := by
    cases found : t.connection.state.receiver with
    | error => cases clean.symm.trans (TCPState.receiver_error_iff.mp found)
    | finRecv => rfl
    | listen | synRecv =>
      rw [found] at inn
      exact absurd inn (by decide)
  change TCPState.senderSummary t.connection.sender = _ at sender
  change TCPState.receiverSummary t.connection.receiver = _ at receiver
  unfold TCPConnection.state TCPState.of
  rw [sender, receiver, dead]
  rfl

/-- A connection is over exactly when it is CLOSED or RESET, and it fails only into RESET. -/
theorem ends_closed_or_reset {cfg : TCPConfig} {isn : WrappingInt32}
    {calls : List ConnectionCall} {t : ConnectionRun}
    (along : Throughout step KeepsFin (start cfg isn) calls)
    (returned : runCalls step (start cfg isn) calls = .ok t) :
    (t.connection.active = false ↔
      t.connection.state = .ofState .closed ∨ t.connection.state = .ofState .reset) ∧
      (t.connection.state.sender = .error ∨ t.connection.state.receiver = .error →
        t.connection.state = .ofState .reset) := by
  obtain ⟨sent, staged⟩ := staged_run along returned
  refine ⟨⟨?_, ?_⟩, ?_⟩
  · -- The connection is over.
    intro dead
    cases failed : t.connection.inboundStream.error with
    | true => exact .inr (staged.reset failed)
    | false => exact .inl (staged.closed dead failed)
  · -- In either state the connection is over.
    intro final
    rcases final with closed | reset
    · exact congrArg TCPState.active closed
    · exact congrArg TCPState.active reset
  · -- One side has failed, and so has the other.
    intro error
    apply staged.reset
    rcases error with out | inn
    · exact staged.together.symm.trans (TCPState.sender_error_iff.mp out)
    · exact TCPState.receiver_error_iff.mp inn

/-- The FIN of the peer, and the time that the connection lingers for. -/
def peerFinished : List ConnectionCall :=
  [.segment { header := { seqno := ⟨10⟩, fin := true, ack := true, ackno := ⟨3⟩, win := 100 } },
    .tick 10000]

/-- A connection that has exchanged FINs and lingered is CLOSED. -/
theorem ends_closed_or_reset_lingered :
    ∃ t, runCalls step (start {} ⟨0⟩) (byteThenFin ++ peerFinished) = .ok t ∧
      t.connection.active = false ∧ t.connection.state ≠ .ofState .reset ∧
      t.connection.state = .ofState .closed := by
  -- The run is evaluated up to its last state.
  have ran : ∃ t, runCalls step (start {} ⟨0⟩) (byteThenFin ++ peerFinished) = .ok t ∧
      t.connection.active = false ∧ t.connection.state ≠ .ofState .reset :=
    exists_runCalls (by decide +kernel)
  obtain ⟨t, returned, dead, clean⟩ := ran
  have final := (ends_closed_or_reset (by decide +kernel) returned).1.mp dead
  exact ⟨t, returned, dead, clean, final.resolve_right clean⟩

end ConnectionRun

end Sponge
