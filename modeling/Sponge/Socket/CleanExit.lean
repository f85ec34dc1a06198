import Sponge.Socket.SocketRuns

/-! When the loop of a socket ends by itself, nothing is left behind: every segment was handed over,
the owner has got every byte and its end, and without an error both directions are complete. -/

namespace Sponge

namespace TCPSpongeSocket

variable {α ρ υ : Type} [FdAdapter α ρ υ]

/-- The end of the outbound stream leaves the inbound half and the life of the connection. -/
theorem endOutbound_kept {s next : TCPSpongeSocket α} (ended : s.endOutbound = .ok next) :
    next.tcp.active = s.tcp.active ∧ next.tcp.inboundStream = s.tcp.inboundStream ∧
      next.inboundShutdown = s.inboundShutdown := by
  unfold endOutbound at ended
  -- Ending the input reaches only the sender and the queue.
  obtain ⟨c, connected, done⟩ := bind_eq_ok.mp ended
  cases Except.ok.inj done
  rw [ofFault_ok, TCPConnection.endInputStream_eq] at connected
  obtain ⟨sender, -, rfl⟩ := TCPConnection.connect_ok.mp connected
  exact ⟨rfl, rfl, rfl⟩

/-- Cancelling a rule does not concern the interest of a rule that was added before it. -/
theorem rules_apart :
    TCPSpongeSocket.rules.Pairwise (fun name other => ∀ s next,
      (table (α := α) (ρ := ρ) (υ := υ) other).cancel s = .ok next →
        (table (α := α) (ρ := ρ) (υ := υ) name).interest next =
          (table (α := α) (ρ := ρ) (υ := υ) name).interest s) := by
  -- Only one rule does anything when it is cancelled, and only the first rule stands before it.
  have idle : ∀ other, other ≠ RuleName.outbound → ∀ (s next : TCPSpongeSocket α),
      (table (ρ := ρ) (υ := υ) other).cancel s = .ok next → next = s := by
    intro other different s next cancelled
    cases other with
    | outbound => exact absurd rfl different
    | incoming => exact (Except.ok.inj cancelled).symm
    | inbound => exact (Except.ok.inj cancelled).symm
    | outgoing => exact (Except.ok.inj cancelled).symm
  have fine : ∀ name other, other ≠ RuleName.outbound → ∀ (s next : TCPSpongeSocket α),
      (table (ρ := ρ) (υ := υ) other).cancel s = .ok next →
        (table (α := α) (ρ := ρ) (υ := υ) name).interest next =
          (table (α := α) (ρ := ρ) (υ := υ) name).interest s := by
    intro name other different s next cancelled
    rw [idle other different s next cancelled]
  unfold rules
  refine .cons ?_ (.cons ?_ (.cons ?_ (.cons ?_ .nil)))
  · -- The first rule asks only whether the connection is alive.
    intro other member s next cancelled
    cases other with
    | outbound => exact (endOutbound_kept cancelled).1
    | incoming => exact fine _ _ (by decide) s next cancelled
    | inbound => exact fine _ _ (by decide) s next cancelled
    | outgoing => exact fine _ _ (by decide) s next cancelled
  · -- No rule after the second one does anything when it is cancelled.
    intro other member
    exact fine _ _ (by rintro rfl; simp at member)
  · intro other member
    exact fine _ _ (by rintro rfl; simp at member)
  · intro other member
    cases member

end TCPSpongeSocket

namespace TcpThread

variable {α ρ υ : Type} [FdAdapter α ρ υ]

/-- A loop that neither the owner nor a signal has ended was left because no rule that is left has
any interest. -/
theorem uninterested_of_finished {t next : TcpThread α} {turn : Turn ρ υ}
    (order : t.rules.Sublist TCPSpongeSocket.rules) (running : t.stage = .running)
    (patient : turn.abort = false) (undisturbed : turn.poll ≠ .failed EventLoop.eintr)
    (stepped : t.step turn = .ok next) (finished : next.stage = .finished) :
    ∀ name ∈ next.rules,
      (TCPSpongeSocket.table (α := α) (ρ := ρ) (υ := υ) name).interest next.socket = false := by
  unfold step at stepped
  have goes : t.stage.condition t.socket.tcp.state = true := by
    rw [running]
    rfl
  rw [if_pos goes] at stepped
  obtain ⟨⟨ret, rules, socket⟩, waited, stepped⟩ := bind_eq_ok.mp stepped
  dsimp only at stepped
  split at stepped
  · rename_i exits
    have exit : ret = .exit := by
      -- The loop was not aborted.
      rcases exits with exit | abort
      · exact exit
      · rw [patient] at abort
        cases abort
    subst exit
    rcases EventLoop.waitNextEvent_exit waited with interrupted | ⟨pollfds, set, unasked, left⟩
    · -- No signal has come.
      exact absurd interrupted undisturbed
    · -- Behind the loop, only the owner's end of the socket is shut down.
      have same : next.rules = rules ∧ next.socket = socket := by
        unfold leave at stepped
        rw [running] at stepped
        obtain ⟨_, -, done⟩ := bind_eq_ok.mp stepped
        cases Except.ok.inj done
        exact ⟨rfl, rfl⟩
      intro name member
      rw [same.1, left] at member
      rw [same.2]
      obtain ⟨pollfd, inside, rfl⟩ := List.mem_map.mp member
      exact EventLoop.setUp_uninterested t.rules t.socket
        (List.Pairwise.sublist order TCPSpongeSocket.rules_apart) set pollfd inside
        (unasked pollfd inside)
  · -- Otherwise the loop goes on.
    split at stepped
    · -- A tick does not change the stage.
      obtain ⟨ticked, -, done⟩ := bind_eq_ok.mp stepped
      cases Except.ok.inj done
      cases running.symm.trans finished
    · -- Nor does a turn without a tick.
      cases Except.ok.inj stepped
      cases running.symm.trans finished

end TcpThread

namespace Sockets

variable {α ρ υ : Type} [FdAdapter α ρ υ] [Transparent α ρ υ]

section Closing

/-- The exchange goes on: the server ends its own data as well, and the client acknowledges. -/
def closing : List (Side × Turn (SysResult (Address × Bytes)) (SysResult Nat)) :=
  exchange ++
    [(.b, ownerWrites []), (.b, turnAt 2 { pollOut := true } (.failed 11) (fun _ => 20) [] 0),
      (.a, receives serverAddress
        [0, 80, 15, 160, 255, 255, 255, 255, 0, 0, 0, 11, 80, 17, 0, 4, 159, 239, 0, 0]),
      (.a, turnAt 2 { pollOut := true } (.failed 11) (fun _ => 20) [] 0),
      (.b, receives clientAddress
        [15, 160, 0, 80, 0, 0, 0, 11, 0, 0, 0, 0, 80, 16, 0, 4, 159, 240, 0, 0])]

/-- A turn in which nothing is ready. -/
def idle : Turn (SysResult (Address × Bytes)) (SysResult Nat) :=
  turnAt 0 {} (.failed 11) (fun _ => 0) [] 0

end Closing

/-- When the loop of a socket ends although neither its owner nor a signal has ended it, and no
descriptor was closed or hung up, then everything was handed over: the segments to the adapter, the
bytes to the owner, who was told of their end. Without an error, the owner has got all that the
other owner wrote, and everything that the owner wrote has arrived at the other side. -/
theorem loop_ends_complete {cfgA cfgB : TCPConfig} {isnA isnB : WrappingInt32}
    (sockets last next : Sockets α) (turns : List (Side × Turn ρ υ)) (side : Side)
    (turn : Turn ρ υ)
    (roomA : cfgA.sendCapacity + cfgB.recvCapacity < 2 ^ 31 - 2)
    (roomB : cfgB.sendCapacity + cfgA.recvCapacity < 2 ^ 31 - 2)
    (openedA : sockets.a.Opened cfgA isnA) (openedB : sockets.b.Opened cfgB isnB)
    (admissible : Throughout step Admissible sockets turns)
    (returned : runCalls step sockets turns = .ok last)
    (allowed : last.Admissible (side, turn)) (stepped : last.step (side, turn) = .ok next)
    (running : (last.side side).stage = .running) (finished : (next.side side).stage = .finished)
    (patient : turn.abort = false) (undisturbed : turn.poll ≠ .failed EventLoop.eintr)
    (whole : [.incoming, .inbound, .outgoing] ⊆ (next.side side).rules) :
    let here := (next.side side).socket
    let there := (next.side side.other).socket
    here.tcp.active = false ∧ here.tcp.segmentsOut = [] ∧ here.toOwner = here.endpoint.delivered ∧
      here.inboundShutdown = true ∧
      (here.tcp.inboundStream.error = false →
        here.toOwner = there.fromOwner ∧ there.outboundShutdown = true ∧
          there.endpoint.delivered = here.fromOwner ∧ here.outboundShutdown = true) := by
  -- The sockets are tied up to the last turn.
  have opened := tied_opened roomA roomB openedA openedB
  have before : last.Tied (System.start cfgA cfgB isnA isnB) :=
    (admissible.settles (Tied (System.start cfgA cfgB isnA isnB))
      (fun _ _ tied admissible => tied.step admissible) opened).of_ok returned
  have tied := ((before.step allowed).of_ok stepped).side side
  obtain ⟨t, turned, same⟩ : ∃ t, (last.side side).step turn = .ok t ∧ next.side side = t := by
    -- The turn is one of the thread on this side.
    unfold Sockets.step at stepped
    obtain ⟨t, turned, done⟩ := bind_eq_ok.mp stepped
    cases Except.ok.inj done
    exact ⟨t, turned, by cases side <;> rfl⟩
  rw [← same] at turned
  have idle := TcpThread.uninterested_of_finished (before.side side).here running patient
    undisturbed turned finished
  generalize (next.side side) = t at *
  generalize (next.side side.other) = u at *
  intro here there
  -- None of the three rules has anything left to do.
  have dead : here.tcp.active = false := idle .incoming (whole (by simp))
  have drained : (!here.tcp.segmentsOut.isEmpty) = false := idle .outgoing (whole (by simp))
  have passed : (!here.tcp.inboundStream.bufferEmpty || ((here.tcp.inboundStream.eof ||
      here.tcp.inboundStream.error) && !here.inboundShutdown)) = false :=
    idle .inbound (whole (by simp))
  rw [Bool.or_eq_false_iff] at passed
  have empty : here.tcp.inboundStream.buffer = [] := by
    have none := passed.1
    unfold ByteStream.bufferEmpty at none
    simpa using none
  have queue : here.tcp.segmentsOut = [] := by simpa using drained
  have delivered : here.endpoint.delivered = here.toOwner := by
    change here.toOwner ++ here.tcp.inboundStream.buffer = here.toOwner
    rw [empty, List.append_nil]
  obtain ⟨sent, received, coupled⟩ := tied.sockets.coupled
  have concluded : Concluded here.endpoint there.endpoint := by
    have both := (tied.sockets.reached.settled tied.sockets.settled).concluded side
    rw [System.pair_side, System.pair_other] at both
    exact both
  -- A dead connection has an error or has reached the end of its stream, and the owner knows.
  have ends : (here.tcp.inboundStream.eof || here.tcp.inboundStream.error) = true := by
    rcases concluded.dead dead with failed | ⟨ended, -⟩
    · -- The connection has failed.
      have error : here.tcp.inboundStream.error = true := failed
      rw [error, Bool.or_true]
    · -- The stream is at its end, and the owner has taken all of it.
      have eof : here.tcp.inboundStream.inputEnded = true := ended
      unfold ByteStream.eof
      rw [eof, empty]
      rfl
  have told : here.inboundShutdown = true := by
    have done := passed.2
    rw [ends] at done
    simpa using done
  refine ⟨dead, queue, delivered.symm, told, ?_⟩
  -- Without an error both streams are complete.
  intro clean
  obtain ⟨⟨-, inbound, closed⟩, -, outbound, shut⟩ := concluded.complete coupled dead clean
  exact ⟨delivered.symm.trans inbound, closed, outbound, shut⟩

/-- The loop of the server ends after the exchange, and everything has arrived. -/
theorem loop_ends_complete_exchange :
    ∃ last next : Sockets TCPOverUDPSocketAdapter,
      runCalls step ⟨client, server⟩ closing = .ok last ∧ last.step (.b, idle) = .ok next ∧
        next.b.stage = .finished ∧ next.b.socket.toOwner = next.a.socket.fromOwner ∧
        next.a.socket.endpoint.delivered = next.b.socket.fromOwner := by
  -- The run is evaluated with and without its last turn.
  obtain ⟨next, run, finished, whole, clean⟩ : ∃ next : Sockets TCPOverUDPSocketAdapter,
      runCalls step ⟨client, server⟩ (closing ++ [(.b, idle)]) = .ok next ∧
        next.b.stage = .finished ∧
        [.incoming, .inbound, .outgoing] ⊆ next.b.rules ∧
        next.b.socket.tcp.inboundStream.error = false :=
    exists_runCalls (by decide +kernel)
  obtain ⟨last, returned, allowed, running⟩ : ∃ last : Sockets TCPOverUDPSocketAdapter,
      runCalls step ⟨client, server⟩ closing = .ok last ∧ last.Admissible (.b, idle) ∧
        last.b.stage = .running :=
    exists_runCalls (by decide +kernel)
  obtain ⟨_, again, run⟩ := runCalls_append_ok.mp run
  cases Except.ok.inj (again.symm.trans returned)
  obtain ⟨_, stepped, same⟩ := runCalls_cons_ok.mp run
  rw [runCalls_nil, Except.ok.injEq] at same
  subst same
  have complete := loop_ends_complete ⟨client, server⟩ last _ closing .b idle (by decide)
    (by decide) opened_client opened_server (by decide +kernel) returned allowed stepped running
    finished rfl nofun whole
  exact ⟨last, _, returned, stepped, finished, (complete.2.2.2.2 clean).1,
    (complete.2.2.2.2 clean).2.2.1⟩

end Sockets

end Sponge
