import Sponge.Socket.SpongeSocket
import Sponge.Socket.Transparency
import Sponge.Tcp.Conclusion

/-! Two sockets whose packets cross a network: whatever a callback of one of them does is a run of
calls on its endpoint. -/

namespace Sponge

namespace System

variable {start sys : System}

/-- Legal calls lead from one system to another. -/
def Reached (start sys : System) : Prop :=
  ∃ calls, Throughout step Legal start calls ∧ runCalls step start calls = .ok sys

/-- A system is reached from itself. -/
theorem Reached.refl (start : System) : start.Reached start :=
  ⟨[], trivial, runCalls_nil step start⟩

/-- A system that is reached from a settled one is settled. -/
theorem Reached.settled (reached : start.Reached sys) (settled : start.Settled) : sys.Settled := by
  -- The run of a reached system is the one that keeps it settled.
  obtain ⟨calls, along, ended⟩ := reached
  obtain ⟨last, returned, kept⟩ := along.returns Settled
    (fun _ _ settled legal => settled.step legal) settled
  cases Except.ok.inj (returned.symm.trans ended)
  exact kept

/-- An endpoint on a side, and another on the other side. -/
def pair (x y : Endpoint) : Side → System
  | .a => ⟨x, y⟩
  | .b => ⟨y, x⟩

variable {x y : Endpoint} {side : Side}

/-- The endpoint on the side. -/
@[simp] theorem pair_side : (pair x y side).side side = x := by
  cases side <;> rfl

/-- The endpoint on the other side. -/
@[simp] theorem pair_other : (pair x y side).side side.other = y := by
  cases side <;> rfl

/-- Another endpoint on the side. -/
@[simp] theorem pair_put (z : Endpoint) : (pair x y side).put z side = pair z y side := by
  cases side <;> rfl

/-- The pair as seen from the other side. -/
theorem pair_swap (x y : Endpoint) (side : Side) : pair y x side.other = pair x y side := by
  cases side <;> rfl

/-- The endpoints of a pair that is reached are coupled. -/
theorem Reached.coupled (reached : start.Reached (pair x y side)) (settled : start.Settled) :
    ∃ sent received, Coupled x y sent received := by
  obtain ⟨sent, received, coupled⟩ := (reached.settled settled).linked.side side
  rw [pair_side, pair_other] at coupled
  exact ⟨sent, received, coupled⟩

/-- What was read at one end leads what was written at the other. -/
theorem Reached.popped_prefix (reached : start.Reached (pair x y side))
    (settled : start.Settled) : x.popped <+: y.accepted := by
  obtain ⟨sent, received, coupled⟩ := reached.coupled settled
  exact (List.prefix_append _ _).trans coupled.symm.delivered.1

/-- A legal call on one endpoint returns and leads on. -/
theorem Reached.advance (reached : start.Reached (pair x y side)) (settled : start.Settled)
    (call : EndpointCall) (legal : x.Legal y call) :
    ∃ next, x.step y.sent call = .ok next ∧ start.Reached (pair next y side) ∧
      x.connection.Ages next.connection := by
  -- The two endpoints are coupled, so the call returns.
  obtain ⟨sent, received, coupled⟩ := reached.coupled settled
  obtain ⟨next, emitted, stepped, -⟩ := coupled.step legal
  refine ⟨next, stepped, ?_, Endpoint.step_ages stepped⟩
  obtain ⟨calls, along, ended⟩ := reached
  -- The call continues the run that has led here.
  have allowed : (pair x y side).Legal (side, call) := by
    change ((pair x y side).side side).Legal ((pair x y side).side side.other) call
    rw [pair_side, pair_other]
    exact legal
  have continued : ∀ mid, runCalls System.step start calls = .ok mid →
      Throughout System.step System.Legal mid [(side, call)] := by
    intro mid reached
    cases Except.ok.inj (reached.symm.trans ended)
    refine ⟨allowed, ?_⟩
    split
    · trivial
    · trivial
  refine ⟨calls ++ [(side, call)], Throughout.append_iff.mpr ⟨along, continued⟩, ?_⟩
  rw [runCalls_append_ok]
  refine ⟨_, ended, runCalls_cons_ok.mpr ⟨_, ?_, runCalls_nil _ _⟩⟩
  unfold System.step
  rw [pair_side, pair_other, stepped, ok_bind, pair_put, pure_eq_ok]

end System

namespace TCPSpongeSocket

variable {α ρ υ : Type} [FdAdapter α ρ υ]

/-- The endpoint that a socket runs, with its history. -/
def endpoint (s : TCPSpongeSocket α) : Endpoint where
  connection := s.tcp
  accepted := s.fromOwner
  closed := s.outboundShutdown
  popped := s.toOwner
  sent := s.handed

/-- What the network and the owner may do: a packet that brings a segment was sent by the peer, and
the owner writes few bytes. -/
def Admissible (peer : TCPSpongeSocket α) (name : RuleName) (answers : Answers ρ υ)
    (s : TCPSpongeSocket α) : Prop :=
  match name with
  | .incoming =>
    match FdAdapter.read s.datagramAdapter answers.arriving with
    | .ok (some _, _, _) =>
      ∃ packet ∈ peer.packets, FdAdapter.payload α answers.arriving = some packet
    | _ => True
  | .outbound =>
    match answers.data with
    | .returned data =>
      s.fromOwner.length + data.length + s.tcp.cfg.sendCapacity + peer.tcp.cfg.recvCapacity <
        2 ^ 31 - 2
    | .failed _ => True
  | .inbound => True
  | .outgoing => True

instance (peer : TCPSpongeSocket α) (name : RuleName) (answers : Answers ρ υ)
    (s : TCPSpongeSocket α) : Decidable (Admissible peer name answers s) :=
  match name with
  | .incoming => by unfold Admissible; dsimp only; split <;> infer_instance
  | .outbound => by unfold Admissible; dsimp only; split <;> infer_instance
  | .inbound => .isTrue trivial
  | .outgoing => .isTrue trivial

variable [Transparent α ρ υ]

/-- What a socket has queued and sent can be carried and read. -/
structure Sound (s : TCPSpongeSocket α) : Prop where
  /-- The queued segments fit into datagrams. -/
  modest : s.tcp.Modest
  /-- The adapter holds back only what it was given. -/
  holds : Transparent.Holds s.datagramAdapter s.handed
  /-- Every packet can only be read as a segment that the adapter was given. -/
  packets : ∀ packet ∈ s.packets, Decodes α s.handed packet
  /-- The owner was told of the end cleanly, or because of an error. -/
  told : s.inboundShutdown = true →
    s.finishedCleanly = true ∨ s.tcp.inboundStream.error = true

/-- What the owner was told stays true while the connection goes on. -/
theorem Sound.told_ages {s : TCPSpongeSocket α} (sound : s.Sound) {c : TCPConnection}
    (ages : s.tcp.Ages c) (shut : s.inboundShutdown = true) :
    s.finishedCleanly = true ∨ c.inboundStream.error = true := by
  -- A clean end was told, or the stream had an error, which it keeps.
  rcases sound.told shut with clean | failed
  · exact .inl clean
  · rcases ages.error with ⟨-, inn, -⟩ | ⟨-, inn⟩
    · exact .inr inn
    · exact .inr (inn.trans failed)

/-- A socket and its peer, tied to a run of their endpoints. -/
structure Tied (start : System) (side : Side) (peer s : TCPSpongeSocket α) : Prop where
  /-- The run starts from a settled system. -/
  settled : start.Settled
  /-- It has led to where the sockets are. -/
  reached : start.Reached (.pair s.endpoint peer.endpoint side)
  /-- The socket is sound. -/
  here : s.Sound
  /-- So is its peer. -/
  there : peer.Sound
  /-- A clean end was reported to the owner only behind everything that the peer's owner wrote. -/
  finished : s.finishedCleanly = true →
    s.toOwner = peer.fromOwner ∧ peer.outboundShutdown = true
  /-- And the other way round. -/
  peerFinished : peer.finishedCleanly = true →
    peer.toOwner = s.fromOwner ∧ s.outboundShutdown = true

namespace Tied

variable {start : System} {side : Side} {peer s : TCPSpongeSocket α}

/-- The sockets as seen from the other side. -/
theorem symm (tied : Tied start side peer s) : Tied start side.other s peer :=
  ⟨tied.settled, by rw [System.pair_swap]; exact tied.reached, tied.there, tied.here,
    tied.peerFinished, tied.finished⟩

/-- The endpoints of tied sockets are coupled. -/
theorem coupled (tied : Tied start side peer s) :
    ∃ sent received, Coupled s.endpoint peer.endpoint sent received :=
  tied.reached.coupled tied.settled

/-- The adapter may change and send packets, as long as they can be read. -/
theorem adapter (tied : Tied start side peer s) {adapter : α} {sent : List Bytes}
    (held : Transparent.Holds adapter s.handed)
    (decoded : ∀ packet ∈ sent, Decodes α s.handed packet) :
    Tied start side peer { s with datagramAdapter := adapter, packets := s.packets ++ sent } := by
  -- Only the packets and the adapter of this side have changed.
  refine ⟨tied.settled, tied.reached, ⟨tied.here.modest, held, ?_, tied.here.told⟩, tied.there,
    tied.finished, tied.peerFinished⟩
  intro packet member
  rcases List.mem_append.mp member with old | new
  · -- A packet that was sent before.
    exact tied.here.packets packet old
  · -- A packet that is sent now.
    exact decoded packet new

/-- The connection goes on to a state that the run of the endpoints reaches. -/
theorem connection (tied : Tied start side peer s) {c : TCPConnection}
    (reached : start.Reached (.pair (s.endpoint.withConnection c) peer.endpoint side))
    (ages : s.tcp.Ages c) (modest : c.Modest) : Tied start side peer { s with tcp := c } :=
  ⟨tied.settled, reached,
    ⟨modest, tied.here.holds, tied.here.packets, fun shut => tied.here.told_ages ages shut⟩,
    tied.there, tied.finished, tied.peerFinished⟩

/-- The connection may be opened. -/
theorem connect (tied : Tied start side peer s) {c : TCPConnection}
    (connected : s.tcp.connect = .ok c) : Tied start side peer { s with tcp := c } := by
  obtain ⟨next, stepped, reached, ages⟩ :=
    -- A connect is a call of the endpoint, so the run goes on with it.
    tied.reached.advance tied.settled .connect trivial
  unfold Endpoint.step at stepped
  obtain ⟨found, again, done⟩ := bind_eq_ok.mp stepped
  cases Except.ok.inj done
  cases Except.ok.inj (connected.symm.trans again)
  exact tied.connection reached ages (tied.here.modest.connect connected)

/-- Noticing the last acknowledgment changes nothing else. -/
theorem noteAcked (tied : Tied start side peer s) : Tied start side peer s.noteAcked := by
  -- The flag it sets is not one of those that the tie is about.
  unfold TCPSpongeSocket.noteAcked
  split
  · exact ⟨tied.settled, tied.reached, ⟨tied.here.modest, tied.here.holds, tied.here.packets,
      tied.here.told⟩, tied.there, tied.finished, tied.peerFinished⟩
  · exact tied

/-- A segment that the peer has sent is given to the connection. -/
theorem deliver (tied : Tied start side peer s) {seg got : TCPSegment}
    (member : seg ∈ peer.handed) (arrives : seg.Arrives got) :
    ∃ c, s.deliver (some got) = .ok { s with tcp := c } ∧
      Tied start side peer { s with tcp := c } := by
  -- The segment has its position among those that the peer has sent.
  obtain ⟨position, found⟩ := List.getElem?_of_mem member
  obtain ⟨next, stepped, reached, ages⟩ :=
    tied.reached.advance tied.settled (.deliver position) trivial
  -- The connection does not see the ports and the checksum, in which the segments differ.
  unfold Endpoint.step at stepped
  have same : peer.endpoint.sent[position]? = some seg := found
  simp only [same] at stepped
  obtain ⟨c, received, done⟩ := bind_eq_ok.mp stepped
  cases Except.ok.inj done
  have got_ok : s.tcp.segmentReceived got = .ok c :=
    (s.tcp.segmentReceived_arrives arrives).trans received
  refine ⟨c, ?_, tied.connection reached ages (tied.here.modest.segmentReceived got_ok)⟩
  unfold TCPSpongeSocket.deliver
  dsimp only
  rw [got_ok]
  rfl

/-- Rule 1 gives the connection what the peer has sent. -/
theorem incoming (tied : Tied start side peer s) (answers : Answers ρ υ)
    (admissible : Admissible peer .incoming answers s) :
    Settles Failure.Environmental (fun next => Tied start side peer next ∧
      next.outboundShutdown = s.outboundShutdown ∧
      (FdAdapter.fd next.datagramAdapter).readCount =
        (FdAdapter.fd s.datagramAdapter).readCount + 1) (s.incoming answers) := by
  unfold TCPSpongeSocket.incoming
  apply (Transparent.read_settles s.datagramAdapter s.handed answers.arriving tied.here.holds).bind
  intro out read settled
  obtain ⟨got, sent, adapter⟩ := out
  obtain ⟨held, decoded, counted⟩ := settled
  have kept := tied.adapter held decoded
  -- Noticing the last acknowledgment leaves the adapter and the owner's flag.
  have noted : ∀ socket : TCPSpongeSocket α, socket.noteAcked.datagramAdapter =
      socket.datagramAdapter ∧ socket.noteAcked.outboundShutdown = socket.outboundShutdown := by
    intro socket
    unfold TCPSpongeSocket.noteAcked
    split <;> exact ⟨rfl, rfl⟩
  cases got with
  | none =>
    -- The adapter had no segment in the datagram.
    refine ⟨kept.noteAcked, (noted _).2, ?_⟩
    rw [(noted _).1]
    exact counted
  | some got =>
    -- The packet was one of the peer, so it holds a segment that the peer has handed over.
    unfold Admissible at admissible
    dsimp only at admissible
    rw [read] at admissible
    obtain ⟨packet, member, payload⟩ := admissible
    obtain ⟨seg, handed, arrives⟩ :=
      tied.there.packets packet member _ _ got sent adapter payload read
    obtain ⟨c, delivered, kept⟩ := kept.deliver handed arrives
    dsimp only
    rw [delivered]
    refine ⟨kept.noteAcked, (noted _).2, ?_⟩
    rw [(noted _).1]
    exact counted

/-- The end of the outbound stream is passed on. -/
theorem endOutbound (tied : Tied start side peer s) :
    ∃ next, s.endOutbound = .ok next ∧ Tied start side peer next ∧
      next.threadData = s.threadData := by
  obtain ⟨next, stepped, reached, ages⟩ :=
    -- The end of the input is a call of the endpoint.
    tied.reached.advance tied.settled .endInputStream trivial
  unfold Endpoint.step at stepped
  obtain ⟨c, ended, done⟩ := bind_eq_ok.mp stepped
  cases Except.ok.inj done
  have fine : s.tcp.endInputStream = .ok c := ended
  refine ⟨{ s with tcp := c, outboundShutdown := true }, ?_, ⟨tied.settled, reached, ?_, tied.there,
    tied.finished, fun told => ⟨(tied.peerFinished told).1, rfl⟩⟩, rfl⟩
  · -- The socket makes the same call.
    unfold TCPSpongeSocket.endOutbound
    rw [fine]
    rfl
  · -- Nothing else of the socket is changed by it.
    exact ⟨tied.here.modest.perform .endInputStream fine, tied.here.holds,
      tied.here.packets, fun shut => tied.here.told_ages ages shut⟩

/-- Data of the owner is passed on, all of it. -/
theorem write (tied : Tied start side peer s) {data : Bytes} (writing : s.outboundShutdown = false)
    (fits : data.length ≤ s.tcp.remainingOutboundCapacity)
    (few : s.fromOwner.length + data.length + s.tcp.cfg.sendCapacity + peer.tcp.cfg.recvCapacity <
      2 ^ 31 - 2) (threadData : FileDescriptor) :
    ∃ c, s.tcp.write data = .ok (c, data.length) ∧
      Tied start side peer { s with threadData, tcp := c, fromOwner := s.fromOwner ++ data } := by
  have all : (s.tcp.sender.stream.write data).2 = data.length := by
    -- The owner was read for no more than there is room for, so everything is accepted.
    have room : data.length ≤ s.tcp.sender.stream.remainingCapacity := fits
    unfold ByteStream.write
    rw [if_pos room]
  have legal : s.endpoint.Legal peer.endpoint (.write data) := by
    refine ⟨writing, ?_⟩
    change (s.fromOwner ++ data.take (s.tcp.sender.stream.write data).2).length +
      s.tcp.cfg.sendCapacity + peer.tcp.cfg.recvCapacity < 2 ^ 31 - 2
    rw [all, List.take_length, List.length_append]
    exact few
  -- The write is a legal call of the endpoint, so the run goes on with it.
  obtain ⟨next, stepped, reached, ages⟩ := tied.reached.advance tied.settled _ legal
  unfold Endpoint.step at stepped
  obtain ⟨⟨c, count⟩, written, done⟩ := bind_eq_ok.mp stepped
  cases Except.ok.inj done
  have wrote : s.tcp.write data = .ok (c, count) := written
  have amount : count = data.length := (TCPConnection.write_ok.mp wrote).2.symm.trans all
  subst amount
  simp only [List.take_length] at reached
  refine ⟨c, wrote, tied.settled, reached, ?_, tied.there, tied.finished, ?_⟩
  · -- The segments that it sends are modest.
    refine ⟨tied.here.modest.perform (.write data) ?_, tied.here.holds, tied.here.packets,
      fun shut => tied.here.told_ages ages shut⟩
    unfold TCPConnection.perform
    dsimp only
    rw [wrote]
    rfl
  · -- The owner of the peer cannot have been told of an end that has not come.
    intro told
    have ended := (tied.peerFinished told).2
    rw [writing] at ended
    cases ended

/-- Rule 2 passes on what the owner writes, and the end of it. -/
theorem outbound (tied : Tied start side peer s) (answers : Answers ρ υ)
    (writing : s.outboundShutdown = false)
    (admissible : Admissible peer .outbound answers s) :
    Settles Failure.Environmental (fun next => Tied start side peer next ∧
      next.threadData.readCount = s.threadData.readCount + 1) (s.outbound answers) := by
  unfold TCPSpongeSocket.outbound
  apply (s.threadData.read_settles s.tcp.remainingOutboundCapacity answers.data).bind
  intro out _ got
  obtain ⟨data, threadData⟩ := out
  -- The admissible amounts are about the bytes that the read has answered with.
  obtain ⟨answered, fits, fd⟩ := got
  unfold Admissible at admissible
  dsimp only at admissible fits
  rw [answered] at admissible
  obtain ⟨c, wrote, kept⟩ := tied.write writing fits admissible threadData
  dsimp only
  rw [wrote]
  simp only [ofFault, ok_bind]
  have counted : threadData.readCount = s.threadData.readCount + 1 :=
    congrArg FileDescriptor.readCount fd
  split
  · -- The write has accepted all bytes, so the assertion of the source holds.
    contradiction
  · split
    · -- The owner has no more, so the stream is ended.
      obtain ⟨next, ended, kept, same⟩ := kept.endOutbound
      rw [ended]
      exact ⟨kept, by rw [same]; exact counted⟩
    · exact ⟨kept, counted⟩

/-- The owner is told of the end of the incoming data, if it has come. -/
theorem endInbound (tied : Tied start side peer s) (answers : Answers ρ υ) :
    Settles Failure.Environmental (fun next => Tied start side peer next ∧
      next.outboundShutdown = s.outboundShutdown ∧
      (next.threadData.writeCount = s.threadData.writeCount ∨
        next.threadData.writeCount = s.threadData.writeCount + 1)) (s.endInbound answers) := by
  unfold TCPSpongeSocket.endInbound
  split
  · -- The stream is at its end or has failed.
    rename_i ends
    unfold FileDescriptor.shutdownWrite
    cases answers.shutdown with
    -- The shutdown failed, for which the environment is to blame.
    | failed errno => trivial
    | returned done =>
      simp only [systemCall, ok_bind]
      refine ⟨⟨tied.settled, tied.reached,
        ⟨tied.here.modest, tied.here.holds, tied.here.packets, ?_⟩, tied.there, ?_,
        tied.peerFinished⟩, rfl, .inr rfl⟩
      · -- The owner was told of a failed stream, or of one that had ended cleanly.
        intro _
        cases s.tcp.inboundStream.error with
        | true => exact .inr rfl
        | false => exact .inl (by simp)
      intro told
      cases before : s.finishedCleanly with
      -- The clean end had been told before.
      | true => exact tied.finished before
      | false =>
        -- Without an error, the stream is at its end, and everything was delivered.
        have clean : s.tcp.inboundStream.error = false := by
          change (s.finishedCleanly || !s.tcp.inboundStream.error) = true at told
          rw [before] at told
          simpa using told
        rw [clean, Bool.or_false] at ends
        unfold ByteStream.eof at ends
        rw [Bool.and_eq_true, beq_iff_eq] at ends
        obtain ⟨sent, received, coupled⟩ := tied.coupled
        obtain ⟨whole, closed⟩ := coupled.symm.delivered.2 ends.1
        have empty : s.tcp.inboundStream.buffer = [] := List.length_eq_zero_iff.mp ends.2
        have delivered : s.toOwner ++ s.tcp.inboundStream.buffer = peer.fromOwner := whole
        rw [empty, List.append_nil] at delivered
        exact ⟨delivered, closed⟩
  · -- The end has not come.
    exact ⟨tied, rfl, .inl rfl⟩

/-- The owner takes some of the bytes that wait. -/
theorem pop (tied : Tied start side peer s) (count : Nat)
    (inside : count ≤ s.tcp.inboundStream.buffer.length) (threadData : FileDescriptor) :
    ∃ inbound, s.tcp.inboundStream.popOutput count = .ok inbound ∧
      Tied start side peer { s with
        threadData
        tcp := s.tcp.withInbound inbound
        toOwner := s.toOwner ++ s.tcp.inboundStream.buffer.take count } := by
  -- The bytes are in the buffer, so the call returns.
  have popped := ByteStream.popOutput_of_le inside
  obtain ⟨next, stepped, reached, -⟩ :=
    tied.reached.advance tied.settled (.reader (.pop count)) trivial
  -- The reader of the endpoint pops the same bytes.
  have served : s.tcp.inboundStream.serve (.pop count) =
      .ok (s.tcp.inboundStream.buffer.take count, s.tcp.inboundStream.taken count) := by
    unfold ByteStream.serve
    dsimp only
    rw [popped]
    rfl
  have same : next = s.endpoint.served (s.tcp.inboundStream.buffer.take count)
      (s.tcp.inboundStream.taken count) := by
    unfold Endpoint.step at stepped
    change (s.tcp.inboundStream.serve (.pop count) >>= fun served =>
      pure (s.endpoint.served served.1 served.2)) = _ at stepped
    rw [served] at stepped
    exact (Except.ok.inj stepped).symm
  subst same
  refine ⟨_, popped, tied.settled, reached, ⟨⟨tied.here.modest.sender, tied.here.modest.queue⟩,
    tied.here.holds, tied.here.packets, tied.here.told⟩, tied.there, ?_, tied.peerFinished⟩
  -- Behind a clean end, there is nothing more to take.
  intro told
  obtain ⟨whole, closed⟩ := tied.finished told
  refine ⟨?_, closed⟩
  have more : s.toOwner ++ s.tcp.inboundStream.buffer.take count <+: peer.fromOwner :=
    reached.popped_prefix tied.settled
  apply more.eq_of_length_le
  rw [← whole, List.length_append]
  omega

/-- Rule 3 passes on what the connection has assembled, and the end of it. -/
theorem inbound (tied : Tied start side peer s) (answers : Answers ρ υ) :
    Settles Failure.Environmental (fun next => Tied start side peer next ∧
      next.outboundShutdown = s.outboundShutdown ∧
      next.threadData.writeCount ≠ s.threadData.writeCount) (s.inbound answers) := by
  unfold TCPSpongeSocket.inbound
  -- The kernel accepts some of the bytes, and these are popped.
  apply (s.threadData.writeFront_settles 65536 s.tcp.inboundStream answers.accepted).bind
  intro out _ written
  obtain ⟨count, -, inside, rfl⟩ := written
  obtain ⟨inbound, popped, kept⟩ := tied.pop count inside s.threadData.registerWrite
  rw [ByteStream.popOutput_of_le inside] at popped
  cases Except.ok.inj popped
  -- The end is looked for afterwards, at which the descriptor may be written once more.
  apply (kept.endInbound answers).mono
  intro next ended
  obtain ⟨kept, flag, writes⟩ := ended
  refine ⟨kept, flag, ?_⟩
  unfold FileDescriptor.registerWrite at writes
  dsimp only at writes
  grind

/-- The segments of the queue are given to the adapter one by one. -/
theorem drain :
    ∀ (queue : List TCPSegment) (answers : Nat → υ) (s : TCPSpongeSocket α),
      Tied start side peer s → s.tcp.segmentsOut = queue →
      Settles Failure.Environmental (fun next => Tied start side peer next ∧
        next.outboundShutdown = s.outboundShutdown ∧ next.tcp.segmentsOut = [])
        (TCPSpongeSocket.drain answers queue s) := by
  -- Induction on the queue, whose segments are handed over in order.
  intro queue
  induction queue with
  | nil =>
    intro answers s tied empty
    exact ⟨tied, rfl, empty⟩
  | cons seg rest ih =>
    intro answers s tied front
    unfold TCPSpongeSocket.drain
    -- A modest segment fits into a datagram, so the adapter does not refuse it.
    have modest : seg.Modest := tied.here.modest.queue seg (by rw [front]; exact List.mem_cons_self)
    apply (Transparent.write_settles s.datagramAdapter s.handed seg (answers 0) tied.here.holds
      modest).bind
    intro out _ settled
    obtain ⟨sent, adapter⟩ := out
    obtain ⟨held, decoded⟩ := settled
    obtain ⟨next, stepped, reached, -⟩ :=
      -- The endpoint transmits the segment that was just handed over.
      tied.reached.advance tied.settled .transmit trivial
    have moved : next = { s.endpoint with
        connection := { s.tcp with segmentsOut := rest }
        sent := s.handed ++ [seg] } := by
      have queue : s.endpoint.connection.segmentsOut = seg :: rest := front
      rw [← Except.ok.inj stepped]
      unfold Endpoint.transmitted
      rw [queue]
      rfl
    subst moved
    have kept : Tied start side peer { s with
        datagramAdapter := adapter
        tcp := { s.tcp with segmentsOut := rest }
        handed := s.handed ++ [seg]
        packets := s.packets ++ sent } := by
      refine ⟨tied.settled, reached, ⟨⟨tied.here.modest.sender, ?_⟩, held, ?_, tied.here.told⟩,
        tied.there, tied.finished, tied.peerFinished⟩
      · -- What is left of the queue is modest.
        intro other member
        exact tied.here.modest.queue other (by rw [front]; exact List.mem_cons_of_mem _ member)
      · -- The packets from before are still packets of segments that were handed over.
        intro packet member
        rcases List.mem_append.mp member with old | new
        · exact (tied.here.packets packet old).mono (List.subset_append_left _ _)
        · exact decoded packet new
    exact ih (fun n => answers (n + 1)) _ kept rfl

/-- Time passes for the connection and for the adapter. -/
theorem tick (tied : Tied start side peer s) (ms : Nat) (answer : υ) :
    Settles Failure.Environmental (Tied start side peer) (s.tick ms answer) := by
  unfold TCPSpongeSocket.tick
  -- What the adapter sends at a tick can be decoded, and the connection does not see it.
  apply (Transparent.tick_settles s.datagramAdapter s.handed ms answer tied.here.holds).bind
  intro out _ settled
  obtain ⟨held, decoded⟩ := settled
  obtain ⟨next, stepped, reached, ages⟩ :=
    tied.reached.advance tied.settled (.tick ms) trivial
  cases Except.ok.inj stepped
  exact (tied.connection reached ages (tied.here.modest.tick ms)).adapter held decoded

end Tied

/-- Two fresh sockets are tied. -/
theorem tied_new {cfgA cfgB : TCPConfig} {isnA isnB : WrappingInt32} {a b : α}
    (settled : (System.start cfgA cfgB isnA isnB).Settled) (heldA : Transparent.Holds a [])
    (heldB : Transparent.Holds b []) :
    Tied (System.start cfgA cfgB isnA isnB) .a { datagramAdapter := b, tcp := .new cfgB isnB }
      { datagramAdapter := a, tcp := .new cfgA isnA } :=
  ⟨settled, .refl _, ⟨TCPConnection.modest_new cfgA isnA, heldA, by simp, nofun⟩,
    ⟨TCPConnection.modest_new cfgB isnB, heldB, by simp, nofun⟩, nofun, nofun⟩

end TCPSpongeSocket

end Sponge
