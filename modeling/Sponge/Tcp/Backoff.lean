import Sponge.Tcp.SenderProductive

/-! Exponential back-off: the timeout, the count of retransmissions, and when a connection aborts. -/

namespace Sponge

namespace TCPSender

/-- The timer runs out with a tick, while something is outstanding. -/
def TimesOut (s : TCPSender) (ms : Nat) : Prop :=
  s.outstandings ≠ [] ∧ s.rto ≤ add64 ms s.timePassed

instance (s : TCPSender) (ms : Nat) : Decidable (s.TimesOut ms) :=
  inferInstanceAs (Decidable (_ ∧ _))

/-- The timer runs out with a tick, while the window of the peer is open. -/
def BacksOff (s : TCPSender) (ms : Nat) : Prop := s.TimesOut ms ∧ 0 < s.window

instance (s : TCPSender) (ms : Nat) : Decidable (s.BacksOff ms) :=
  inferInstanceAs (Decidable (_ ∧ _))

/-- What a tick sends again. -/
def resent (s : TCPSender) (ms : Nat) : List TCPSegment :=
  if s.TimesOut ms then s.outstandings.head?.toList else []

/-- The timeout was doubled once for each of a number of timeouts. -/
structure BackedOff (base k : Nat) (s : TCPSender) : Prop where
  /-- The count of retransmissions is the number of timeouts. -/
  count : s.recount = k
  /-- The timeout is as many times doubled. -/
  doubled : s.rto = base * 2 ^ k
  /-- An acknowledgment restores the one it started from. -/
  initial : s.initialRetransmissionTimeout = base

variable {s s' : TCPSender} {base k : Nat}

/-- A new sender has not backed off. -/
theorem backedOff_new (capacity : Nat) (retxTimeout : UInt16) (isn : WrappingInt32) :
    BackedOff retxTimeout.toNat 0 (new capacity retxTimeout isn) :=
  ⟨rfl, by rw [Nat.pow_zero, Nat.mul_one]; rfl, rfl⟩

/-- Filling the window leaves the timeout alone. -/
theorem BackedOff.filled (backed : BackedOff base k s) (filled : Filled s s') :
    BackedOff base k s' :=
  ⟨filled.recount.trans backed.count, filled.rto.trans backed.doubled,
    filled.initialRto.trans backed.initial⟩

/-- The number of timeouts after an acknowledgment: none, if it removed a segment. -/
theorem BackedOff.acked (backed : BackedOff base k s) {ackno : WrappingInt32}
    {windowSize : UInt16} (received : s.ackReceived ackno windowSize = .ok s') :
    BackedOff base (if s'.outstandings.length < s.outstandings.length then 0 else k) s' := by
  obtain ⟨ackabs, -, ⟨-, rfl⟩ | ⟨-, kept, inFlights, -, rfl⟩⟩ := ackReceived_cases received
  · -- The acknowledgment is ignored.
    rw [if_neg (Nat.lt_irrefl _)]
    exact backed
  · change BackedOff base (if kept.length < s.outstandings.length then 0 else k) _
    -- The count and the timeout are reset exactly if the queue became shorter.
    by_cases removed : kept.length < s.outstandings.length
    · -- A segment was removed, so the count starts again.
      rw [if_pos removed]
      refine ⟨?_, ?_, backed.initial⟩
      · simp [afterDrop, removed]
      · simpa [afterDrop, removed] using backed.initial
    · -- No segment was removed, so the doublings stay.
      rw [if_neg removed]
      refine ⟨?_, ?_, backed.initial⟩
      · simpa [afterDrop, removed] using backed.count
      · simpa [afterDrop, removed] using backed.doubled

/-- What a tick does when the timer does not run out. -/
theorem tick_of_not_timesOut {ms : Nat} (patient : ¬ s.TimesOut ms) :
    ∃ timePassed, s.tick ms = { s with timePassed := timePassed } := by
  by_cases idle : s.outstandings = []
  · -- Without an outstanding segment the timer does not run.
    exact ⟨s.timePassed, tick_idle idle ms⟩
  · -- With one, the time only adds up.
    have early : add64 ms s.timePassed < s.rto :=
      Nat.lt_of_not_le fun late => patient ⟨idle, late⟩
    exact ⟨_, tick_early idle early⟩

/-- A tick puts what it sends again behind the outbound queue. -/
theorem tick_segmentsOut (s : TCPSender) (ms : Nat) :
    (s.tick ms).segmentsOut = s.segmentsOut ++ s.resent ms := by
  rw [resent]
  -- Only a timeout sends something, and it sends the oldest segment.
  by_cases late : s.TimesOut ms
  · rw [if_pos late]
    obtain ⟨running, due⟩ := late
    cases queue : s.outstandings with
    | nil => exact absurd queue running
    | cons oldest rest => rw [tick_due queue due]; rfl
  · obtain ⟨timePassed, ticks⟩ := tick_of_not_timesOut late
    rw [if_neg late, List.append_nil, ticks]

/-- A tick backs off once if the timer runs out with an open window, and otherwise not at all. -/
theorem BackedOff.tick (backed : BackedOff base k s) (small : base < 2 ^ 16) (few : k ≤ 8)
    (ms : Nat) : BackedOff base (if s.BacksOff ms then k + 1 else k) (s.tick ms) := by
  by_cases late : s.TimesOut ms
  · -- The timer has run out, so there is an outstanding segment.
    obtain ⟨running, due⟩ := late
    cases queue : s.outstandings with
    | nil => exact absurd queue running
    | cons oldest rest =>
      rw [tick_due queue due]
      by_cases isOpen : 0 < s.window
      · rw [if_pos ⟨⟨running, due⟩, isOpen⟩]
        -- Nine doublings of sixteen bits stay within thirty-two.
        have doublings : 2 ^ k ≤ 2 ^ 8 := Nat.pow_le_pow_right (by decide) few
        have bounded : base * 2 ^ k ≤ 2 ^ 16 * 2 ^ 8 := Nat.mul_le_mul (by omega) doublings
        refine ⟨?_, ?_, backed.initial⟩
        · simp only [if_pos isOpen, backed.count]
          omega
        · simp only [if_pos isOpen, backed.doubled]
          rw [Nat.mod_eq_of_lt (by omega), Nat.pow_succ, Nat.mul_assoc]
      · -- Behind a closed window the timeout is not doubled.
        rw [if_neg fun backs => isOpen backs.2]
        refine ⟨?_, ?_, backed.initial⟩
        · simp only [if_neg isOpen, backed.count]
        · simp only [if_neg isOpen, backed.doubled]
  · -- The timer goes on, and nothing is counted.
    obtain ⟨timePassed, ticks⟩ := tick_of_not_timesOut late
    rw [if_neg fun backs => late backs.1, ticks]
    exact ⟨backed.count, backed.doubled, backed.initial⟩

end TCPSender

namespace TCPConnection

/-- The acknowledgment in a segment reaches the sender and removes a segment from its queue. -/
def acksNew (c : TCPConnection) (seg : TCPSegment) : Bool :=
  -- Before the SYN is sent, an acknowledgment is ignored, and a reset carries none.
  decide (0 < c.sender.nextSeqnoAbsolute) && !seg.header.rst && seg.header.ack &&
    match c.sender.ackReceived seg.header.ackno seg.header.win with
    | .ok s => decide (s.outstandings.length < c.sender.outstandings.length)
    | .error _ => false

/-- The connection was given up: both streams have an error, and only a reset goes out. -/
structure Aborted (c : TCPConnection) : Prop where
  /-- The connection is not active. -/
  inactive : c.active = false
  /-- The outbound stream has an error. -/
  outbound : c.sender.streamIn.error = true
  /-- So does the inbound stream. -/
  inbound : c.inboundStream.error = true
  /-- The queue consists of one reset at the next position. -/
  reset : ∃ seg, c.segmentsOut = [seg] ∧ seg.header.rst = true ∧
    seg.header.seqno = c.sender.nextSeqno

/-- The connection with what its owner has left in the queue. -/
def withQueue (c : TCPConnection) (left : List TCPSegment) : TCPConnection :=
  { c with segmentsOut := left }

variable {c c' : TCPConnection} {seg : TCPSegment} {base k ms : Nat}

/-- A stamp neither sets nor clears the reset flag. -/
theorem stamp_rst (c : TCPConnection) (seg : TCPSegment) :
    (c.stamp seg).header.rst = seg.header.rst := by
  rw [stamp]
  split <;> rfl

/-- Giving up leaves the connection aborted. -/
theorem abort_aborted (c : TCPConnection) : c.abort.Aborted := by
  refine ⟨rfl, rfl, rfl, _, rfl, ?_, ?_⟩
  · exact stamp_rst _ _
  · exact (stamp_kept _ _).1

/-- Connecting leaves the timeout alone. -/
theorem connect_backedOff (connected : c.connect = .ok c')
    (backed : c.sender.BackedOff base k) : c'.sender.BackedOff base k := by
  obtain ⟨s, filled, rfl⟩ := connect_ok.mp connected
  have kept := backed.filled (.of_fillWindow filled)
  exact ⟨kept.count, kept.doubled, kept.initial⟩

/-- A handled segment forgets the timeouts if its acknowledgment removed a segment. -/
theorem Handled.backedOff {r : TCPReceiver} {acked opened : TCPSender}
    (parts : Handled c seg r acked opened c') (backed : c.sender.BackedOff base k)
    (plain : seg.header.rst = false)
    (sentSyn : seg.header.ack = true → 0 < c.sender.nextSeqnoAbsolute) :
    c'.sender.BackedOff base (if c.acksNew seg then 0 else k) := by
  -- The acknowledgment, if there is one, comes first.
  have heard : acked.BackedOff base (if c.acksNew seg then 0 else k) := by
    have heard := parts.heard
    rw [acksNew, plain]
    split at heard
    · -- The acknowledgment resets the count, or leaves it.
      rename_i carries
      obtain ⟨s, acks, filled⟩ := heard
      have kept := (backed.acked acks).filled (.of_fillWindow filled)
      simpa [acks, carries, sentSyn carries] using kept
    · -- Without acknowledgment the sender is the one of before.
      rename_i bare
      rw [heard]
      simpa [bare] using backed
  have opens : opened.BackedOff base (if c.acksNew seg then 0 else k) := by
    -- Answering a SYN sends a segment, which is not a timeout.
    have opens := parts.opens
    split at opens
    · exact heard.filled (.of_fillWindow opens)
    · rw [opens]
      exact heard
  -- Moving the segments on touches only the queues.
  obtain ⟨queue, rfl⟩ := parts.frame
  exact ⟨opens.count, opens.doubled, opens.initial⟩

/-- A received segment forgets the timeouts if its acknowledgment removed a segment. -/
theorem segmentReceived_backedOff (received : c.segmentReceived seg = .ok c')
    (active : c'.active = true) (backed : c.active = true → c.sender.BackedOff base k) :
    c'.sender.BackedOff base (if c.acksNew seg then 0 else k) ∧ c.active = true := by
  rcases segmentReceived_ok.mp received with ⟨zero, -, rfl⟩ | ⟨-, -, rfl⟩ |
    ⟨sentSyn, plain, handled⟩
  · -- Nothing reaches a sender that has not sent its SYN.
    rw [acksNew, zero]
    exact ⟨backed active, active⟩
  · cases active
  · obtain ⟨r, acked, opened, parts⟩ := handle_ok.mp handled
    have before : c.active = true := by
      obtain ⟨queue, rfl⟩ := parts.frame
      exact active
    have noted : (c.noted seg).sender.BackedOff base k := backed before
    exact ⟨parts.backedOff noted plain sentSyn, before⟩

/-- A tick waits in TIME_WAIT, gives up, or goes on. -/
theorem tick_cases (c : TCPConnection) (ms : Nat) :
    ((c.ticked ms).state = .ofState .timeWait ∧ c.tick ms = (c.ticked ms).tickTimeWait ms) ∨
      ((c.ticked ms).state ≠ .ofState .timeWait ∧ c.GivesUp (.tick ms) ∧
        c.tick ms = (c.ticked ms).abort) ∨
      (¬ c.GivesUp (.tick ms) ∧ c.tick ms = (c.ticked ms).tickOpen) := by
  rw [tick]
  -- The three branches of the tick, in the order of the source.
  by_cases waits : (c.ticked ms).state = .ofState .timeWait
  · exact .inl ⟨waits, if_pos waits⟩
  · by_cases gives : c.GivesUp (.tick ms)
    · exact .inr (.inl ⟨waits, gives, (if_neg waits).trans (if_pos gives)⟩)
    · exact .inr (.inr ⟨gives, (if_neg waits).trans (if_neg gives)⟩)

/-- In TIME_WAIT nothing is outstanding. -/
theorem idle_of_timeWait (idle : c.sender.inFlights = 0 → c.sender.outstandings = [])
    (waits : (c.ticked ms).state = .ofState .timeWait) : c.sender.outstandings = [] := by
  -- In this state the whole stream was acknowledged, so nothing is in flight.
  have landed := (TCPState.senderSummary_finAcked (congrArg TCPState.sender waits)).2.2
  obtain ⟨again, timePassed, rto, recount, ticks, -⟩ := c.sender.tick_eq ms
  rw [ticked, ticks] at landed
  exact idle landed

/-- Waiting in TIME_WAIT changes only the clocks and whether the connection is active. -/
theorem tickTimeWait_eq (c : TCPConnection) (ms : Nat) :
    ∃ waited linger active, c.tickTimeWait ms = { c with
        sinceTimeWait := waited
        lingerAfterStreamsFinish := linger
        active := active } ∧ (active = true → c.active = true) := by
  -- Waiting ends the connection once it has lasted long enough.
  rw [tickTimeWait]
  split
  · exact ⟨_, _, _, rfl, fun active => by cases active⟩
  · exact ⟨_, _, _, rfl, id⟩

/-- After a tick that leaves it active, a connection has backed off as often as the timer ran out
with an open window, and at most eight times. -/
theorem tick_backedOff (idle : c.sender.inFlights = 0 → c.sender.outstandings = [])
    (active : (c.tick ms).active = true) (small : base < 2 ^ 16)
    (backed : c.active = true → c.sender.BackedOff base k ∧ k ≤ 8) :
    (c.tick ms).sender.BackedOff base (if c.sender.BacksOff ms then k + 1 else k) ∧
      (if c.sender.BacksOff ms then k + 1 else k) ≤ 8 := by
  rcases c.tick_cases ms with ⟨waits, same⟩ | ⟨-, -, same⟩ | ⟨patient, same⟩
  · -- Nothing is outstanding, so the timer does not run.
    have quiet := idle_of_timeWait idle waits
    obtain ⟨waited, linger, still, left, before⟩ := (c.ticked ms).tickTimeWait_eq ms
    rw [same, left] at active ⊢
    rw [if_neg fun backs => backs.1.1 quiet]
    have unmoved : (c.ticked ms).sender = c.sender := TCPSender.tick_idle quiet ms
    dsimp only
    rw [unmoved]
    exact backed (before active)
  · -- Giving up makes the connection inactive.
    rw [same] at active
    cases active
  · -- The count is at most eight, or the tick would have given up.
    rw [same] at active ⊢
    have before : c.active = true := by
      rw [tickOpen, Bool.and_eq_true] at active
      exact active.1
    obtain ⟨kept, few⟩ := backed before
    have ticked := kept.tick small few ms
    refine ⟨⟨ticked.count, ticked.doubled, ticked.initial⟩, ?_⟩
    rw [← ticked.count]
    exact Nat.le_of_not_lt fun many => patient ⟨before, many⟩

/-- A tick gives up on the connection exactly if it performs the ninth timeout. -/
theorem givesUp_iff (small : base < 2 ^ 16)
    (backed : c.active = true → c.sender.BackedOff base k ∧ k ≤ 8) :
    c.GivesUp (.tick ms) ↔ c.active = true ∧ c.sender.BacksOff ms ∧ k = 8 := by
  rw [GivesUp]
  refine and_congr_right fun active => ?_
  obtain ⟨kept, few⟩ := backed active
  -- The ninth timeout is the first that takes the count past eight.
  have counted := (kept.tick small few ms).count
  rw [TCPSender.consecutiveRetransmissions, counted, TCPConfig.maxRetxAttempts]
  by_cases backs : c.sender.BacksOff ms
  · simp only [backs, if_true, true_and]
    omega
  · simp only [backs, if_false, false_and, iff_false]
    omega

/-- A tick that gives up leaves the connection aborted. -/
theorem tick_aborted (idle : c.sender.inFlights = 0 → c.sender.outstandings = [])
    (gives : c.GivesUp (.tick ms)) (backs : c.sender.BacksOff ms) : (c.tick ms).Aborted := by
  rcases c.tick_cases ms with ⟨waits, -⟩ | ⟨-, -, same⟩ | ⟨patient, -⟩
  · -- In TIME_WAIT there is nothing that could be sent again.
    exact absurd (idle_of_timeWait idle waits) backs.1.1
  · rw [same]
    exact abort_aborted _
  · -- Going on was excluded.
    exact absurd gives patient

/-- Any other tick sends at most the oldest segment again, and leaves the error flags alone. -/
theorem tick_resends (idle : c.sender.inFlights = 0 → c.sender.outstandings = [])
    (drained : c.sender.segmentsOut = []) (patient : ¬ c.GivesUp (.tick ms)) :
    (c.tick ms).segmentsOut = c.segmentsOut ++ (c.sender.resent ms).map c.stamp ∧
      (c.tick ms).sender.streamIn.error = c.sender.streamIn.error ∧
      (c.tick ms).inboundStream.error = c.inboundStream.error := by
  have flag : (c.sender.tick ms).stream.error = c.sender.stream.error := by
    obtain ⟨again, timePassed, rto, recount, ticks, -⟩ := c.sender.tick_eq ms
    rw [ticks]
  rcases c.tick_cases ms with ⟨waits, same⟩ | ⟨-, gives, -⟩ | ⟨-, same⟩
  · -- In TIME_WAIT nothing is left to send again.
    have none : c.sender.resent ms = [] :=
      if_neg fun late => late.1 (idle_of_timeWait idle waits)
    obtain ⟨waited, linger, still, left, -⟩ := (c.ticked ms).tickTimeWait_eq ms
    rw [none, List.map_nil, List.append_nil, same, left]
    exact ⟨rfl, flag, rfl⟩
  · exact absurd gives patient
  · -- Otherwise the queue of the sender is moved on as it is.
    have out := c.sender.tick_segmentsOut ms
    rw [drained, List.nil_append] at out
    rw [same, ← out]
    exact ⟨rfl, flag, rfl⟩

end TCPConnection

/-- A connection with the number of timeouts since an acknowledgment last removed a segment. -/
structure BackoffRun where
  /-- The run of the connection. -/
  run : ConnectionRun
  /-- The timeouts with an open window. -/
  timeouts : Nat := 0
deriving DecidableEq, Repr

namespace BackoffRun

/-- A fresh connection without timeouts. -/
def start (cfg : TCPConfig) (isn : WrappingInt32) : BackoffRun := { run := .start cfg isn }

/-- The connection itself. -/
def connection (t : BackoffRun) : TCPConnection := t.run.connection

/-- The number of timeouts after a call. -/
def timeoutsAfter (t : BackoffRun) : ConnectionCall → Nat
  | .tick ms => if t.connection.sender.BacksOff ms then t.timeouts + 1 else t.timeouts
  | .segment seg => if t.connection.acksNew seg then 0 else t.timeouts
  | _ => t.timeouts

/-- Performs one call and counts. -/
def step (t : BackoffRun) (call : ConnectionCall) : Except Fault BackoffRun := do
  let run ← t.run.step call
  return { run, timeouts := t.timeoutsAfter call }

/-- A tick performs the ninth timeout since an acknowledgment last removed a segment. -/
def Ninth (t : BackoffRun) (ms : Nat) : Prop :=
  t.connection.active = true ∧ t.connection.sender.BacksOff ms ∧ t.timeouts = 8

instance (t : BackoffRun) (ms : Nat) : Decidable (t.Ninth ms) :=
  inferInstanceAs (Decidable (_ ∧ _))

/-- While the connection is active, its sender has backed off once for each timeout. -/
def Backed (base : Nat) (t : BackoffRun) : Prop :=
  t.connection.active = true → t.connection.sender.BackedOff base t.timeouts ∧ t.timeouts ≤ 8

variable {t next : BackoffRun} {call : ConnectionCall} {base : Nat}

/-- A call that returns left some run. -/
theorem step_ok : t.step call = .ok next ↔
    ∃ run, t.run.step call = .ok run ∧ ⟨run, t.timeoutsAfter call⟩ = next := by
  simp only [step, bind_eq_ok, pure_eq_ok, Except.ok.injEq]

/-- A productive connection with nothing in flight has nothing outstanding. -/
theorem idle_of_produces {run : ConnectionRun} {sent : List TCPSegment}
    (produces : run.Produces sent) (none : run.connection.sender.inFlights = 0) :
    run.connection.sender.outstandings = [] :=
  (TCPSender.Productive.rule run.accepted).idle produces.1 none

/-- A call of a productive connection keeps its back-off in step with the timeouts. -/
theorem Backed.step (backed : t.Backed base) (small : base < 2 ^ 16) {sent : List TCPSegment}
    (produces : t.run.Produces sent) (steps : t.step call = .ok next) : next.Backed base := by
  obtain ⟨run, stepped, rfl⟩ := step_ok.mp steps
  obtain ⟨c, performed, rfl⟩ := ConnectionRun.step_ok.mp stepped
  intro active
  change c.active = true at active
  change c.sender.BackedOff base (t.timeoutsAfter call) ∧ t.timeoutsAfter call ≤ 8
  -- Connecting does not change whether the connection is active, nor the back-off.
  have connected : ∀ {d : TCPConnection}, d.connect = .ok c → d.active = t.connection.active →
      (t.connection.sender.BackedOff base t.timeouts → d.sender.BackedOff base t.timeouts) →
      c.sender.BackedOff base t.timeouts ∧ t.timeouts ≤ 8 := by
    intro d connects same sender
    obtain ⟨s, -, rfl⟩ := TCPConnection.connect_ok.mp connects
    obtain ⟨kept, few⟩ := backed (same.symm.trans active)
    exact ⟨TCPConnection.connect_backedOff connects (sender kept), few⟩
  -- Only a segment and a tick change the count.
  cases call with
  | connect => exact connected performed rfl id
  | write data =>
    exact connected (TCPConnection.perform_write.mp performed) rfl
      fun kept => ⟨kept.count, kept.doubled, kept.initial⟩
  | endInputStream =>
    rw [TCPConnection.perform, TCPConnection.endInputStream_eq] at performed
    exact connected performed rfl fun kept => ⟨kept.count, kept.doubled, kept.initial⟩
  | reader taken =>
    obtain ⟨served, -, rfl⟩ := TCPConnection.perform_reader.mp performed
    exact backed active
  | segment seg =>
    obtain ⟨kept, before⟩ := TCPConnection.segmentReceived_backedOff performed active
      fun before => (backed before).1
    refine ⟨kept, ?_⟩
    rw [timeoutsAfter]
    -- The count starts again, or stays what it was.
    split
    · exact Nat.zero_le 8
    · exact (backed before).2
  | tick ms =>
    rw [TCPConnection.perform, Except.ok.injEq] at performed
    subst performed
    exact TCPConnection.tick_backedOff (idle_of_produces produces) active small backed

/-- What a tick sends again was emitted by the sender, which never sets the reset flag. -/
theorem resent_plain {run : ConnectionRun} {sent : List TCPSegment} (produces : run.Produces sent)
    (ms : Nat) :
    ∀ seg ∈ (run.connection.sender.resent ms).map run.connection.stamp,
      seg.header.rst = false := by
  intro seg member
  obtain ⟨original, again, rfl⟩ := List.mem_map.mp member
  rw [TCPConnection.stamp_rst]
  have tracked := produces.1.accounted.tracked
  -- It is the oldest outstanding segment, and those were all emitted.
  have held : original ∈ run.connection.sender.outstandings := by
    rw [TCPSender.resent] at again
    split at again
    · exact List.mem_of_mem_head? (Option.mem_toList.mp again)
    · cases again
  obtain ⟨before, after, split⟩ := List.append_of_mem (tracked.queue.subset held)
  rw [tracked.consecutive.header split]

/-- Every state of a run with few outbound bytes is productive and in step with the timeouts. -/
theorem backed_run {cfg : TCPConfig} {isn : WrappingInt32} {calls : List ConnectionCall}
    (returned : runCalls step (start cfg isn) calls = .ok t)
    (few : t.run.accepted.length < 2 ^ 31) :
    (∃ sent, t.run.Produces sent) ∧ t.Backed cfg.rtTimeout.toNat := by
  refine runCalls_invariant (fun t : BackoffRun => t.run.accepted.length < 2 ^ 31 →
    (∃ sent, t.run.Produces sent) ∧ t.Backed cfg.rtTimeout.toNat) ?_ (fun _ => ?_) returned few
  · -- The invariant carries the bound on the bytes as its assumption.
    intro state call next held steps few
    obtain ⟨run, stepped, same⟩ := step_ok.mp steps
    -- The accepted bytes only become more.
    have before : state.run.accepted.length < 2 ^ 31 := by
      obtain ⟨c, -, after⟩ := ConnectionRun.step_ok.mp stepped
      rw [← same, ← after, ConnectionRun.after, List.length_append] at few
      omega
    obtain ⟨⟨sent, produces⟩, backed⟩ := held before
    obtain ⟨new, after⟩ := produces.step stepped (by rw [← same] at few; exact few)
    refine ⟨⟨sent ++ new, by rw [← same]; exact after⟩, backed.step ?_ produces steps⟩
    exact cfg.rtTimeout.toNat_lt
  · -- A new sender has not timed out.
    refine ⟨⟨[], TCPSender.productive_new _ _ _, ConnectionRun.recorded_start cfg isn⟩, fun _ => ?_⟩
    exact ⟨TCPSender.backedOff_new _ _ _, Nat.zero_le 8⟩

/-- While active, a connection has backed off once for each timeout since an acknowledgment last
removed a segment, and a tick aborts it exactly with the ninth. -/
theorem backoff_exact {cfg : TCPConfig} {isn : WrappingInt32} {calls : List ConnectionCall}
    (returned : runCalls step (start cfg isn) calls = .ok t)
    (few : t.run.accepted.length < 2 ^ 31) :
    -- The count and the timeout, as exact numbers.
    (t.connection.active = true →
      t.connection.sender.consecutiveRetransmissions = t.timeouts ∧ t.timeouts ≤ 8 ∧
        t.connection.sender.rto = cfg.rtTimeout.toNat * 2 ^ t.timeouts ∧
        t.connection.sender.rto < 2 ^ 32) ∧
    -- A tick, with anything that the owner has left in the queue.
    ∀ ms left,
      (t.Ninth ms → ((t.connection.withQueue left).tick ms).Aborted) ∧
      (¬ t.Ninth ms →
        ((t.connection.withQueue left).tick ms).segmentsOut =
            left ++ (t.connection.sender.resent ms).map t.connection.stamp ∧
          (∀ seg ∈ (t.connection.sender.resent ms).map t.connection.stamp,
            seg.header.rst = false) ∧
          ((t.connection.withQueue left).tick ms).sender.streamIn.error =
            t.connection.sender.streamIn.error ∧
          ((t.connection.withQueue left).tick ms).inboundStream.error =
            t.connection.inboundStream.error) ∧
      ((∀ seg ∈ left, seg.header.rst = false) →
        (((t.connection.withQueue left).tick ms).Aborted ↔ t.Ninth ms)) := by
  obtain ⟨⟨sent, produces⟩, backed⟩ := backed_run returned few
  have small : cfg.rtTimeout.toNat < 2 ^ 16 := cfg.rtTimeout.toNat_lt
  have idle := idle_of_produces produces
  refine ⟨fun active => ?_, fun ms left => ?_⟩
  · -- The largest timeout is a 16-bit one doubled eight times.
    obtain ⟨kept, most⟩ := backed active
    refine ⟨kept.count, most, kept.doubled, ?_⟩
    have doublings : 2 ^ t.timeouts ≤ 2 ^ 8 := Nat.pow_le_pow_right (by decide) most
    have bounded := Nat.mul_le_mul (Nat.le_of_lt small) doublings
    rw [kept.doubled]
    omega
  · -- The owner's queue has no part in the decision to give up.
    have ninth : (t.connection.withQueue left).GivesUp (.tick ms) ↔ t.Ninth ms :=
      TCPConnection.givesUp_iff small backed
    have plain := resent_plain produces ms
    have sends := fun other : ¬ t.Ninth ms =>
      TCPConnection.tick_resends (c := t.connection.withQueue left) idle produces.2.drained
        fun gives => other (ninth.mp gives)
    have aborts : t.Ninth ms → ((t.connection.withQueue left).tick ms).Aborted :=
      fun performs => TCPConnection.tick_aborted idle (ninth.mpr performs) performs.2.1
    refine ⟨aborts, fun other => ⟨(sends other).1, plain, (sends other).2⟩,
      fun clean => ⟨fun aborted => ?_, aborts⟩⟩
    -- Without the ninth timeout, the queue holds no reset.
    by_contra other
    obtain ⟨seg, queue, reset, -⟩ := aborted.reset
    have member : seg ∈ left ++ (t.connection.sender.resent ms).map t.connection.stamp :=
      (queue.symm.trans (sends other).1) ▸ List.mem_singleton.mpr rfl
    -- The reset would be in the owner's queue, or be sent again.
    rcases List.mem_append.mp member with old | again
    · exact absurd ((clean seg old).symm.trans reset) Bool.false_ne_true
    · exact absurd ((plain seg again).symm.trans reset) Bool.false_ne_true

/-- A SYN that is never answered, through eight timeouts of a timer that starts at ten. -/
def unansweredSyn : List ConnectionCall :=
  [.connect, .tick 10, .tick 20, .tick 40, .tick 80, .tick 160, .tick 320, .tick 640, .tick 1280]

/-- The ninth timeout of a SYN that is never answered aborts the connection. -/
theorem backoff_exact_unansweredSyn :
    ∃ t, runCalls step (start { rtTimeout := 10 } ⟨0⟩) unansweredSyn = .ok t ∧
      t.connection.sender.rto = 10 * 2 ^ 8 ∧ ((t.connection.withQueue []).tick 2560).Aborted ∧
      ¬ ((t.connection.withQueue []).tick 2559).Aborted := by
  -- The run is evaluated up to the eighth timeout.
  have ran : ∃ t, runCalls step (start { rtTimeout := 10 } ⟨0⟩) unansweredSyn = .ok t ∧
      t.connection.active = true ∧ t.timeouts = 8 ∧ t.run.accepted.length < 2 ^ 31 ∧
      t.Ninth 2560 ∧ ¬ t.Ninth 2559 := exists_runCalls (by decide +kernel)
  obtain ⟨t, returned, active, timeouts, few, ninth, patient⟩ := ran
  obtain ⟨counts, ticks⟩ := backoff_exact returned few
  refine ⟨t, returned, ?_, (ticks 2560 []).1 ninth, fun aborted => patient ?_⟩
  · -- The timeout is the theorem's number.
    rw [(counts active).2.2.1, timeouts]
    rfl
  · -- One millisecond less is not the ninth timeout.
    exact ((ticks 2559 []).2.2 (by simp)).mp aborted

end BackoffRun

end Sponge
