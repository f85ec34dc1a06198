import Sponge.Socket.OverEthernet
import Sponge.Socket.SocketPair

/-! Runs of two sockets: what one owner reads is what the other one wrote, and only the environment
can make a socket fail. -/

namespace Sponge

namespace TCPSpongeSocket

variable {α ρ υ : Type} [FdAdapter α ρ υ]

/-- What a rule relies on when it is called: the owner's data is read only before its end. -/
def Armed (name : RuleName) (s : TCPSpongeSocket α) : Prop :=
  match name with
  | .outbound => s.outboundShutdown = false
  | .incoming | .inbound | .outgoing => True

/-- What the proof has to know about a rule is only whether it is armed. -/
def status : EventLoop.Status RuleName (TCPSpongeSocket α) where
  live _ _ := True
  armed := Armed
  gone _ _ := True

/-- Every rule stays armed while the flag of the owner stays as it is. -/
theorem outside_of_eq {s next : TCPSpongeSocket α} (names : List RuleName)
    (same : next.outboundShutdown = s.outboundShutdown) : status.Outside names s next := by
  -- Only the rule for the owner's data is armed by a flag.
  intro other _
  refine ⟨id, ?_, id⟩
  intro armed
  cases other with
  | outbound => exact same.trans armed
  | incoming => trivial
  | inbound => trivial
  | outgoing => trivial

/-- Only the rule that reads the owner's data relies on that flag. -/
theorem outside_outbound (s next : TCPSpongeSocket α) : status.Outside [.outbound] s next := by
  -- The other rules are armed whatever happens.
  intro other different
  refine ⟨id, ?_, id⟩
  intro _
  cases other with
  | outbound => exact absurd (List.mem_singleton.mpr rfl) different
  | incoming => trivial
  | inbound => trivial
  | outgoing => trivial

variable [Transparent α ρ υ]

/-- The four rules keep the sockets tied. -/
theorem guarded (start : System) (side : Side) (peer : TCPSpongeSocket α) :
    EventLoop.Guarded (table (α := α) (ρ := ρ) (υ := υ)) Failure.Environmental
      (Tied start side peer) status (Admissible peer) where
  arms := by
    intro name s _ _ _ interested
    cases name with
    | outbound =>
      -- The interest of this rule tests the flag that arms it.
      change (s.tcp.active && !s.outboundShutdown &&
        decide (0 < s.tcp.remainingOutboundCapacity)) = true at interested
      simp only [Bool.and_eq_true, Bool.not_eq_true'] at interested
      exact interested.1.2
    | incoming => trivial
    | inbound => trivial
    | outgoing => trivial
  cancels := by
    intro name s tied _
    cases name with
    | outbound =>
      -- Cancelling this rule ends the outbound stream, whose segments stay in the connection.
      obtain ⟨next, ended, kept, -⟩ := tied.endOutbound
      change Settles _ _ s.endOutbound
      rw [ended]
      exact ⟨kept, trivial, outside_outbound s next⟩
    -- No other rule has anything to do when it is cancelled.
    | incoming => exact ⟨tied, trivial, .refl status _ s⟩
    | inbound => exact ⟨tied, trivial, .refl status _ s⟩
    | outgoing => exact ⟨tied, trivial, .refl status _ s⟩
  calls := by
    intro name answers s tied _ armed admissible
    cases name with
    | incoming =>
      -- A datagram is read, so the descriptor has been read once more.
      apply (tied.incoming answers admissible).mono
      intro next called
      obtain ⟨kept, flag, counted⟩ := called
      refine ⟨kept, trivial, outside_of_eq _ flag, .inl ?_⟩
      change (FdAdapter.fd s.datagramAdapter).readCount ≠
        (FdAdapter.fd next.datagramAdapter).readCount
      rw [counted]
      grind
    | outbound =>
      -- Bytes are read from the owner, unless the owner has finished.
      apply (tied.outbound answers armed admissible).mono
      intro next called
      obtain ⟨kept, counted⟩ := called
      refine ⟨kept, trivial, outside_outbound s next, .inl ?_⟩
      change s.threadData.readCount ≠ next.threadData.readCount
      rw [counted]
      grind
    | inbound =>
      -- Bytes are written to the owner, or the end is reported.
      apply (tied.inbound answers).mono
      intro next called
      obtain ⟨kept, flag, counted⟩ := called
      exact ⟨kept, trivial, outside_of_eq _ flag, .inl counted.symm⟩
    | outgoing =>
      -- The adapter may drop everything, but then the queue is empty all the same.
      apply (Tied.drain s.tcp.segmentsOut answers.outgoing s tied rfl).mono
      intro next called
      obtain ⟨kept, flag, drained⟩ := called
      refine ⟨kept, trivial, outside_of_eq _ flag, .inr ?_⟩
      change (!next.tcp.segmentsOut.isEmpty) = false
      rw [drained]
      rfl
  polled := (by decide : "EventLoop: error on polled file descriptor" ∈ kernelErrors)

end TCPSpongeSocket

namespace TcpThread

variable {α ρ υ : Type}

/-- Behind a loop the socket is what it was, unless the environment fails. -/
theorem leave_settles (t : TcpThread α) (turn : Turn ρ υ) :
    Settles Failure.Environmental
      (fun next => next.socket = t.socket ∧ next.rules = t.rules) (t.leave turn) := by
  unfold leave
  cases t.stage with
  | connecting => exact ⟨rfl, rfl⟩
  | accepting => exact ⟨rfl, rfl⟩
  | running =>
    -- The call that shuts the owner's socket down may fail, for which the environment is to blame.
    apply (systemCall_settles "shutdown" turn.shutdown).bind
    intro _ _ _
    exact ⟨rfl, rfl⟩
  | finished => exact ⟨rfl, rfl⟩

variable [FdAdapter α ρ υ]

/-- What happens during a turn is admissible. -/
def Admissible (peer t : TcpThread α) (turn : Turn ρ υ) : Prop :=
  t.stage.condition t.socket.tcp.state = true →
    EventLoop.Meets TCPSpongeSocket.table (TCPSpongeSocket.Admissible peer.socket) t.rules t.socket
      turn.poll

instance (peer t : TcpThread α) (turn : Turn ρ υ) : Decidable (Admissible peer t turn) :=
  inferInstanceAs (Decidable (_ → _))

/-- What the rules and the passing of time keep, a turn keeps. -/
theorem step_keeps {t : TcpThread α} {inv : TCPSpongeSocket α → Prop}
    {cond : TCPSpongeSocket.RuleName → Answers ρ υ → TCPSpongeSocket α → Prop}
    (guarded : EventLoop.Guarded TCPSpongeSocket.table Failure.Environmental inv
      TCPSpongeSocket.status cond)
    (ticks : ∀ s, inv s → ∀ (ms : Nat) (answer : υ),
      Settles Failure.Environmental inv (s.tick ms answer))
    (order : t.rules.Sublist TCPSpongeSocket.rules) (holds : inv t.socket) (turn : Turn ρ υ)
    (meets : t.stage.condition t.socket.tcp.state = true →
      EventLoop.Meets TCPSpongeSocket.table cond t.rules t.socket turn.poll) :
    Settles Failure.Environmental
      (fun next => inv next.socket ∧ next.rules.Sublist TCPSpongeSocket.rules) (t.step turn) := by
  -- The loop waits once more, or it is over.
  unfold TcpThread.step
  split
  · rename_i goes
    have distinct : t.rules.Nodup := List.Nodup.sublist order (by decide)
    apply (guarded.waitNextEvent distinct holds (fun _ _ => trivial) (meets goes)).bind
    intro out _ waited
    obtain ⟨ret, rules, socket⟩ := out
    obtain ⟨kept, -, left⟩ := waited
    have fewer := left.order.trans order
    dsimp only
    split
    · -- The wait reports that the loop is to be left.
      apply (leave_settles { t with rules, socket } turn).mono
      intro next same
      rw [same.1, same.2]
      exact ⟨kept, fewer⟩
    · split
      · -- Time has passed, and the connection is told.
        apply (ticks socket kept (sub64 turn.now t.baseTime) turn.tick).bind
        intro next _ ticked
        exact ⟨ticked, fewer⟩
      · -- The connection is not told of time once it is over.
        exact ⟨kept, fewer⟩
  · -- The condition of the loop no longer holds.
    apply (t.leave_settles turn).mono
    intro next same
    rw [same.1, same.2]
    exact ⟨holds, order⟩

variable [Transparent α ρ υ]

/-- A socket that was opened with a configuration, by connecting or by listening. -/
def Opened (cfg : TCPConfig) (isn : WrappingInt32) (t : TcpThread α) : Prop :=
  ∃ (adapter : α) (adapterCfg : FdAdapterConfig) (now : Nat), Transparent.Holds adapter [] ∧
    (connect adapter cfg isn adapterCfg now = .ok t ∨
      t = listenAndAccept adapter cfg isn adapterCfg now)

/-- An opened socket is a fresh one, whose connection may have sent its SYN. -/
theorem Opened.socket {cfg : TCPConfig} {isn : WrappingInt32} {t : TcpThread α}
    (opened : Opened cfg isn t) :
    t.rules = TCPSpongeSocket.rules ∧ ∃ (adapter : α) (c : TCPConnection),
      Transparent.Holds adapter [] ∧ t.socket = { datagramAdapter := adapter, tcp := c } ∧
        (c = .new cfg isn ∨ (TCPConnection.new cfg isn).connect = .ok c) := by
  obtain ⟨adapter, adapterCfg, now, held, connected | rfl⟩ := opened
  · -- A client sends its SYN before its loop begins.
    unfold connect at connected
    obtain ⟨c, connects, done⟩ := bind_eq_ok.mp connected
    dsimp only at done
    split at done
    · cases done
    · cases Except.ok.inj done
      exact ⟨rfl, _, c, Transparent.holds_setConfig adapter [] adapterCfg held, rfl,
        .inr (ofFault_ok.mp connects)⟩
  · -- A server only tells its adapter to listen.
    refine ⟨rfl, _, _, ?_, rfl, .inl rfl⟩
    apply Transparent.holds_setListening
    exact Transparent.holds_setConfig adapter [] adapterCfg held

/-- A thread and its peer, tied to a run of their endpoints. -/
structure Tied (start : System) (side : Side) (peer t : TcpThread α) : Prop where
  /-- Their sockets are tied. -/
  sockets : TCPSpongeSocket.Tied start side peer.socket t.socket
  /-- Rules are only ever dropped. -/
  here : t.rules.Sublist TCPSpongeSocket.rules
  /-- On the other side as well. -/
  there : peer.rules.Sublist TCPSpongeSocket.rules

namespace Tied

variable {start : System} {side : Side} {peer t : TcpThread α}

/-- The threads as seen from the other side. -/
theorem symm (tied : Tied start side peer t) : Tied start side.other t peer :=
  ⟨tied.sockets.symm, tied.there, tied.here⟩

/-- A turn keeps the threads tied, or fails because of the environment. -/
theorem step (tied : Tied start side peer t) (turn : Turn ρ υ)
    (admissible : Admissible peer t turn) :
    Settles Failure.Environmental (Tied start side peer) (t.step turn) := by
  -- The peer does not move, so its part of the tie is the old one.
  apply (step_keeps (TCPSpongeSocket.guarded start side peer.socket) (fun _ tied => tied.tick)
    tied.here tied.sockets turn admissible).mono
  intro next kept
  exact ⟨kept.1, kept.2, tied.there⟩

end Tied

end TcpThread

/-- Two sockets whose packets cross a network. -/
structure Sockets (α : Type) where
  /-- The first socket. -/
  a : TcpThread α
  /-- The second socket. -/
  b : TcpThread α

namespace Sockets

variable {α ρ υ : Type} [FdAdapter α ρ υ]

/-- The socket on a side. -/
def side (sockets : Sockets α) : Side → TcpThread α
  | .a => sockets.a
  | .b => sockets.b

/-- The sockets with another one on a side. -/
def put (sockets : Sockets α) (t : TcpThread α) : Side → Sockets α
  | .a => { sockets with a := t }
  | .b => { sockets with b := t }

/-- The endpoints that the sockets run. -/
def system (sockets : Sockets α) : System := ⟨sockets.a.socket.endpoint, sockets.b.socket.endpoint⟩

/-- A turn of the thread on one side. -/
def step (sockets : Sockets α) (turn : Side × Turn ρ υ) : Except Failure (Sockets α) := do
  let t ← (sockets.side turn.1).step turn.2
  return sockets.put t turn.1

/-- What happens during a turn on one side is admissible. -/
def Admissible (sockets : Sockets α) (turn : Side × Turn ρ υ) : Prop :=
  TcpThread.Admissible (sockets.side turn.1.other) (sockets.side turn.1) turn.2

instance (sockets : Sockets α) (turn : Side × Turn ρ υ) : Decidable (sockets.Admissible turn) :=
  inferInstanceAs (Decidable (TcpThread.Admissible _ _ _))

variable [Transparent α ρ υ]

/-- The sockets are tied to a run of their endpoints. -/
def Tied (start : System) (sockets : Sockets α) : Prop :=
  TcpThread.Tied start .a sockets.b sockets.a

/-- The sockets are tied as seen from either side. -/
theorem Tied.side {start : System} {sockets : Sockets α} (tied : sockets.Tied start)
    (side : Side) :
    TcpThread.Tied start side (sockets.side side.other) (sockets.side side) := by
  cases side with
  | a => exact tied
  | b => exact tied.symm

/-- A turn keeps the sockets tied, or fails because of the environment. -/
theorem Tied.step {start : System} {sockets : Sockets α} (tied : sockets.Tied start)
    {turn : Side × Turn ρ υ} (admissible : sockets.Admissible turn) :
    Settles Failure.Environmental (Tied start) (sockets.step turn) := by
  obtain ⟨side, turn⟩ := turn
  unfold Sockets.step
  -- One thread takes its turn, and the tie is symmetric in the two.
  apply ((tied.side side).step turn admissible).bind
  intro t _ kept
  cases side with
  | a => exact kept
  | b => exact kept.symm

/-- Two sockets that were opened are tied. -/
theorem tied_opened {cfgA cfgB : TCPConfig} {isnA isnB : WrappingInt32} {sockets : Sockets α}
    (roomA : cfgA.sendCapacity + cfgB.recvCapacity < 2 ^ 31 - 2)
    (roomB : cfgB.sendCapacity + cfgA.recvCapacity < 2 ^ 31 - 2)
    (openedA : sockets.a.Opened cfgA isnA) (openedB : sockets.b.Opened cfgB isnB) :
    sockets.Tied (System.start cfgA cfgB isnA isnB) := by
  obtain ⟨rulesA, adapterA, c, heldA, socketA, stateA⟩ := openedA.socket
  obtain ⟨rulesB, adapterB, d, heldB, socketB, stateB⟩ := openedB.socket
  have fresh := TCPSpongeSocket.tied_new (System.settled_start isnA isnB roomA roomB) heldA heldB
  -- Each side may have connected already, in whatever order.
  have first : TCPSpongeSocket.Tied (System.start cfgA cfgB isnA isnB) .a
      { datagramAdapter := adapterB, tcp := .new cfgB isnB }
      { datagramAdapter := adapterA, tcp := c } := by
    rcases stateA with rfl | connected
    · exact fresh
    · exact fresh.connect connected
  have both : TCPSpongeSocket.Tied (System.start cfgA cfgB isnA isnB) .a
      { datagramAdapter := adapterB, tcp := d } { datagramAdapter := adapterA, tcp := c } := by
    rcases stateB with rfl | connected
    · exact first
    · exact (first.symm.connect connected).symm
  exact ⟨by rw [socketA, socketB]; exact both, by rw [rulesA], by rw [rulesB]⟩

section Exchange

/-- A turn of a socket over UDP, in which one of the polled descriptors is ready. -/
def turnAt (position : Nat) (revents : Revents) (arriving : SysResult (Address × Bytes))
    (sizes : Nat → Nat) (data : Bytes) (accepted : Nat) :
    Turn (SysResult (Address × Bytes)) (SysResult Nat) :=
  let answers : Answers (SysResult (Address × Bytes)) (SysResult Nat) :=
    ⟨arriving, fun n => .returned (sizes n), .returned data, .returned accepted, .returned ()⟩
  { poll := .ready (List.replicate position (({} : Revents), answers) ++ [(revents, answers)])
    now := 0
    tick := .returned 0 }

/-- A turn in which a datagram arrives. -/
def receives (source : Address) (packet : Bytes) :
    Turn (SysResult (Address × Bytes)) (SysResult Nat) :=
  turnAt 0 { pollIn := true } (.returned (source, packet)) (fun _ => 0) [] 0

/-- A turn in which the owner has written something, or has nothing more to write. -/
def ownerWrites (data : Bytes) : Turn (SysResult (Address × Bytes)) (SysResult Nat) :=
  turnAt 1 { pollIn := true } (.failed 11) (fun _ => 0) data 0

/-- The address of the client. -/
def clientAddress : Address := ⟨0x0a000001, 4000⟩

/-- The address of the server. -/
def serverAddress : Address := ⟨0x0a000002, 80⟩

/-- A socket that listens. -/
def server : TcpThread TCPOverUDPSocketAdapter :=
  .listenAndAccept {} System.narrow ⟨4294967294⟩ { source := serverAddress } 0

/-- A socket that connects to it. -/
def client : TcpThread TCPOverUDPSocketAdapter :=
  match TcpThread.connect {} System.narrow ⟨7⟩
    { source := clientAddress, destination := serverAddress } 0 with
  | .ok t => t
  | .error _ => server

/-- A handshake, two bytes and their end, which arrives before them, and a reader that takes one
byte at a time. -/
def exchange : List (Side × Turn (SysResult (Address × Bytes)) (SysResult Nat)) :=
  [(.a, turnAt 3 { pollOut := true } (.failed 11) (fun _ => 20) [] 0),
    (.b, receives clientAddress
      [15, 160, 0, 80, 0, 0, 0, 7, 0, 0, 0, 0, 80, 2, 0, 0, 160, 6, 0, 0]),
    (.b, turnAt 3 { pollOut := true } (.failed 11) (fun _ => 20) [] 0),
    (.a, receives serverAddress
      [0, 80, 15, 160, 255, 255, 255, 254, 0, 0, 0, 8, 80, 18, 0, 4, 159, 242, 0, 0]),
    (.a, ownerWrites []), (.a, ownerWrites [1, 2]), (.a, ownerWrites []),
    (.a, turnAt 2 { pollOut := true } (.failed 11) (fun n => if n = 1 then 22 else 20) [] 0),
    (.b, receives clientAddress
      [15, 160, 0, 80, 0, 0, 0, 10, 255, 255, 255, 255, 80, 17, 0, 4, 159, 240, 0, 0]),
    (.b, ownerWrites []),
    (.b, receives clientAddress
      [15, 160, 0, 80, 0, 0, 0, 8, 255, 255, 255, 255, 80, 16, 0, 4, 158, 241, 0, 0, 1, 2]),
    (.b, turnAt 2 { pollOut := true } (.failed 11) (fun _ => 0) [] 1),
    (.b, turnAt 2 { pollOut := true } (.failed 11) (fun _ => 0) [] 1)]

/-- The client was opened. -/
theorem opened_client : client.Opened System.narrow ⟨7⟩ :=
  ⟨{}, { source := clientAddress, destination := serverAddress }, 0, trivial,
    .inl (by decide +kernel)⟩

/-- So was the server. -/
theorem opened_server : server.Opened System.narrow ⟨4294967294⟩ :=
  ⟨{}, { source := serverAddress }, 0, trivial, .inr rfl⟩

end Exchange

section Runs

variable {cfgA cfgB : TCPConfig} {isnA isnB : WrappingInt32}

/-- Whatever two sockets do, their connections do a legal run of the two endpoints, and a socket
fails only when its environment does: no call of the TCP code throws or diverges, no packet fails
to be built or parsed, no write is refused, and no busy wait is detected. -/
theorem sockets_refine_endpoints (sockets : Sockets α) (turns : List (Side × Turn ρ υ))
    (roomA : cfgA.sendCapacity + cfgB.recvCapacity < 2 ^ 31 - 2)
    (roomB : cfgB.sendCapacity + cfgA.recvCapacity < 2 ^ 31 - 2)
    (openedA : sockets.a.Opened cfgA isnA) (openedB : sockets.b.Opened cfgB isnB)
    (admissible : Throughout step Admissible sockets turns) :
    Settles Failure.Environmental
      (fun last => (System.start cfgA cfgB isnA isnB).Reached last.system)
      (runCalls step sockets turns) := by
  -- The tie is the invariant of the run, and it includes what is to be shown.
  have tied := tied_opened roomA roomB openedA openedB
  apply (admissible.settles (Tied (System.start cfgA cfgB isnA isnB))
    (fun _ _ tied admissible => tied.step admissible) tied).mono
  intro last tied
  exact tied.sockets.reached

/-- The exchange is a run of the endpoints. -/
theorem sockets_refine_endpoints_exchange :
    Settles Failure.Environmental
      (fun last => (System.start System.narrow System.narrow ⟨7⟩ ⟨4294967294⟩).Reached last.system)
      (runCalls step (⟨client, server⟩ : Sockets TCPOverUDPSocketAdapter) exchange) :=
  sockets_refine_endpoints ⟨client, server⟩ exchange (by decide) (by decide) opened_client
    opened_server (by decide +kernel)

/-- What the owner of one socket has read leads what the owner of the other one wrote, and once the
end was reported cleanly it is all of it. -/
theorem sockets_deliver (sockets last : Sockets α) (turns : List (Side × Turn ρ υ))
    (roomA : cfgA.sendCapacity + cfgB.recvCapacity < 2 ^ 31 - 2)
    (roomB : cfgB.sendCapacity + cfgA.recvCapacity < 2 ^ 31 - 2)
    (openedA : sockets.a.Opened cfgA isnA) (openedB : sockets.b.Opened cfgB isnB)
    (admissible : Throughout step Admissible sockets turns)
    (returned : runCalls step sockets turns = .ok last) (side : Side) :
    (last.side side).socket.toOwner <+: (last.side side.other).socket.fromOwner ∧
      ((last.side side).socket.finishedCleanly = true →
        (last.side side).socket.toOwner = (last.side side.other).socket.fromOwner ∧
          (last.side side.other).socket.outboundShutdown = true) := by
  -- The same invariant, at the end of a run that returned.
  have tied := tied_opened roomA roomB openedA openedB
  have settled := (admissible.settles (Tied (System.start cfgA cfgB isnA isnB))
    (fun _ _ tied admissible => tied.step admissible) tied).of_ok returned
  have sockets := (settled.side side).sockets
  exact ⟨sockets.reached.popped_prefix sockets.settled, sockets.finished⟩

/-- In the exchange, the server gets both bytes, and then the end. -/
theorem sockets_deliver_exchange :
    ∃ last, runCalls step (⟨client, server⟩ : Sockets TCPOverUDPSocketAdapter) exchange =
        .ok last ∧ last.b.socket.finishedCleanly = true ∧ last.b.socket.toOwner = [1, 2] ∧
      last.b.socket.toOwner = last.a.socket.fromOwner ∧
        last.a.socket.outboundShutdown = true := by
  -- The run is evaluated, and the rest follows from the theorem.
  obtain ⟨last, returned, clean, bytes⟩ : ∃ last,
      runCalls step (⟨client, server⟩ : Sockets TCPOverUDPSocketAdapter) exchange = .ok last ∧
        last.b.socket.finishedCleanly = true ∧ last.b.socket.toOwner = [1, 2] :=
    exists_runCalls (by decide +kernel)
  have delivered := sockets_deliver ⟨client, server⟩ last exchange (by decide) (by decide)
    opened_client opened_server (by decide +kernel) returned .b
  exact ⟨last, returned, clean, bytes, delivered.2 clean⟩

end Runs

end Sockets

end Sponge
