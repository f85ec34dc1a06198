import Sponge.Apps.StreamCopyLaws
import Sponge.Socket.SocketRuns

/-! Two programs that copy streams over sockets: what one prints is what the other one was given. -/

namespace Sponge

namespace TCPSpongeSocket

variable {α ρ υ : Type}

/-- The part of a socket that its owner sees is the same. -/
structure SameOwner (s next : TCPSpongeSocket α) : Prop where
  /-- The stream socket. -/
  threadData : next.threadData = s.threadData
  /-- What was read from the owner. -/
  fromOwner : next.fromOwner = s.fromOwner
  /-- What was written to the owner. -/
  toOwner : next.toOwner = s.toOwner
  /-- Whether the owner was told of the end. -/
  inboundShutdown : next.inboundShutdown = s.inboundShutdown

variable {s next : TCPSpongeSocket α}

/-- Ending the outbound stream does not concern the owner. -/
theorem endOutbound_owner (done : s.endOutbound = .ok next) : s.SameOwner next := by
  -- The connection changes, and nothing that the owner sees.
  unfold endOutbound at done
  obtain ⟨c, -, done⟩ := bind_eq_ok.mp done
  cases Except.ok.inj done
  exact ⟨rfl, rfl, rfl, rfl⟩

/-- Rule 2 reads from the owner what the kernel gives it. -/
theorem outbound_owner {answers : Answers ρ υ} (done : s.outbound answers = .ok next) :
    ∃ data, answers.data = .returned data ∧ next.fromOwner = s.fromOwner ++ data ∧
      (next.threadData.eof = true → s.threadData.eof = true ∨ data = []) ∧
      next.toOwner = s.toOwner ∧ next.inboundShutdown = s.inboundShutdown := by
  unfold outbound at done
  obtain ⟨⟨data, threadData⟩, read, done⟩ := bind_eq_ok.mp done
  obtain ⟨⟨c, amount⟩, -, done⟩ := bind_eq_ok.mp done
  dsimp only at done
  obtain ⟨answered, -, fd⟩ := FileDescriptor.read_ok read
  have ended : threadData.eof = true → s.threadData.eof = true ∨ data = [] := by
    -- The descriptor is at its end because it was before, or because this read has found the end.
    intro eof
    rw [fd] at eof
    rcases (Bool.or_eq_true _ _).mp eof with before | now
    · exact .inl before
    · rw [Bool.and_eq_true, List.isEmpty_iff] at now
      exact .inr now.2
  refine ⟨data, answered, ?_⟩
  split at done
  · -- A write that the connection refuses throws, so the call has not returned.
    cases done
  · split at done
    · -- The end of the data is passed on to the connection at once.
      have same := endOutbound_owner done
      refine ⟨same.fromOwner, ?_, same.toOwner, same.inboundShutdown⟩
      rw [same.threadData]
      exact ended
    · -- More data may follow.
      cases Except.ok.inj done
      exact ⟨rfl, ended, rfl, rfl⟩

/-- Rule 3 writes to the owner only when the kernel takes it, and reads nothing. -/
theorem inbound_owner {answers : Answers ρ υ} (done : s.inbound answers = .ok next) :
    (∃ count, answers.accepted = .returned count) ∧ s.toOwner <+: next.toOwner ∧
      next.fromOwner = s.fromOwner ∧ next.threadData.eof = s.threadData.eof := by
  -- The data is popped after the kernel has taken it.
  unfold inbound at done
  obtain ⟨⟨data, threadData, stream⟩, written, done⟩ := bind_eq_ok.mp done
  obtain ⟨count, answered, -, same⟩ :=
    (s.threadData.writeFront_settles 65536 s.tcp.inboundStream answers.accepted).of_ok written
  have registered : threadData = s.threadData.registerWrite := congrArg (fun out => out.2.1) same
  refine ⟨⟨count, answered⟩, ?_⟩
  dsimp only at done
  unfold endInbound at done
  split at done
  · -- The last byte was taken, and the end follows it.
    obtain ⟨fd, shut, done⟩ := bind_eq_ok.mp done
    unfold FileDescriptor.shutdownWrite at shut
    obtain ⟨_, -, shut⟩ := bind_eq_ok.mp shut
    cases Except.ok.inj shut
    cases Except.ok.inj done
    refine ⟨List.prefix_append _ _, rfl, ?_⟩
    rw [registered]
    rfl
  · -- There is more to write later.
    cases Except.ok.inj done
    refine ⟨List.prefix_append _ _, rfl, ?_⟩
    rw [registered]
    rfl

variable [FdAdapter α ρ υ]

/-- Rule 1 does not concern the owner. -/
theorem incoming_owner {answers : Answers ρ υ} (done : s.incoming answers = .ok next) :
    s.SameOwner next := by
  unfold incoming at done
  obtain ⟨⟨seg, sent, adapter⟩, -, done⟩ := bind_eq_ok.mp done
  obtain ⟨mid, delivered, done⟩ := bind_eq_ok.mp done
  have same : s.SameOwner mid := by
    -- The segment, if there is one, changes the connection only.
    cases seg with
    | none =>
      cases Except.ok.inj delivered
      exact ⟨rfl, rfl, rfl, rfl⟩
    | some seg =>
      obtain ⟨c, -, done⟩ := bind_eq_ok.mp delivered
      cases Except.ok.inj done
      exact ⟨rfl, rfl, rfl, rfl⟩
  cases Except.ok.inj done
  -- Noting that everything was acknowledged sets a flag of the socket.
  unfold noteAcked
  split
  · exact ⟨same.threadData, same.fromOwner, same.toOwner, same.inboundShutdown⟩
  · exact same

/-- Writing segments to the adapter does not concern the owner. -/
theorem drain_owner :
    ∀ (queue : List TCPSegment) (answers : Nat → υ) (s : TCPSpongeSocket α),
      drain answers queue s = .ok next → s.SameOwner next := by
  -- Each segment goes to the adapter, which the owner does not see.
  intro queue
  induction queue with
  | nil =>
    intro answers s done
    cases Except.ok.inj done
    exact ⟨rfl, rfl, rfl, rfl⟩
  | cons seg rest ih =>
    intro answers s done
    unfold drain at done
    obtain ⟨⟨sent, adapter⟩, -, done⟩ := bind_eq_ok.mp done
    have same := ih _ _ done
    exact ⟨same.threadData, same.fromOwner, same.toOwner, same.inboundShutdown⟩

/-- The passing of time does not concern the owner. -/
theorem tick_owner {ms : Nat} {answer : υ} (done : s.tick ms answer = .ok next) :
    s.SameOwner next := by
  unfold tick at done
  obtain ⟨⟨sent, adapter⟩, -, done⟩ := bind_eq_ok.mp done
  cases Except.ok.inj done
  exact ⟨rfl, rfl, rfl, rfl⟩

end TCPSpongeSocket

/-- A program: a copy loop, and the thread that runs its socket. -/
structure Program (α : Type) where
  /-- The thread. -/
  thread : TcpThread α
  /-- The copy loop. -/
  loop : CopyLoop := {}

/-- What can happen in a program. -/
inductive ProgramCall (ρ υ : Type) where
  /-- A turn of the thread. -/
  | tcp (turn : Turn ρ υ)
  /-- A turn of the copy loop. -/
  | copy (poll : PollResult BidirectionalStreamCopy.Answers)

namespace Program

variable {α ρ υ : Type}

/-- What a read may bring of a stream of which `sent` was written and `got` was read: what comes
next of it, or its end, behind everything. -/
def ReadsOn (answer : SysResult Bytes) (got sent : Bytes) (ended : Prop) : Prop :=
  match answer with
  | .returned data => got ++ data <+: sent ∧ (data = [] → got = sent ∧ ended)
  | .failed _ => True

instance (answer : SysResult Bytes) (got sent : Bytes) (ended : Prop) [Decidable ended] :
    Decidable (ReadsOn answer got sent ended) :=
  match answer with
  | .returned _ => inferInstanceAs (Decidable (_ ∧ _))
  | .failed _ => .isTrue trivial

/-- Behind the end there is nothing left to read. -/
theorem ReadsOn.complete {data got sent : Bytes} {ended : Prop}
    (reads : ReadsOn (.returned data) got sent ended)
    (spent : (got = sent ∧ ended) ∨ data = []) : got ++ data = sent ∧ ended := by
  obtain ⟨front, last⟩ := reads
  rcases spent with ⟨all, shut⟩ | none
  · -- All that was written had been read before, so there is no room for more data.
    have none : data = [] := by
      have short := front.length_le
      rw [List.length_append, ← all] at short
      exact List.length_eq_zero_iff.mp (by omega)
    rw [none, List.append_nil]
    exact ⟨all, shut⟩
  · -- The read has found the end, which the kernel reports only behind everything.
    rw [none, List.append_nil]
    exact last none

/-- What the kernel may do with the data between a copy loop and its thread: the thread reads on in
what the loop has written, and it cannot write any more once it has shut down. -/
def PipedOut (loop : CopyLoop) (name : TCPSpongeSocket.RuleName) (answers : Answers ρ υ)
    (s : TCPSpongeSocket α) : Prop :=
  match name with
  | .outbound => ReadsOn answers.data s.fromOwner loop.copy.toSocket
      (loop.copy.outboundShutdown = true ∨ loop.returned = true)
  | .inbound => s.inboundShutdown = true → ∀ count, answers.accepted ≠ .returned count
  | .incoming | .outgoing => True

/-- And the other way round: the loop reads on in what the thread has written. -/
def PipedIn (thread : TcpThread α) (name : BidirectionalStreamCopy.RuleName)
    (answers : BidirectionalStreamCopy.Answers) (s : BidirectionalStreamCopy) : Prop :=
  match name with
  | .readSocket => ReadsOn answers.data s.fromSocket thread.socket.toOwner
      (thread.socket.inboundShutdown = true ∨ thread.stage = .finished)
  | .readInput | .writeSocket | .writeOutput => True

instance (loop : CopyLoop) (name : TCPSpongeSocket.RuleName) (answers : Answers ρ υ)
    (s : TCPSpongeSocket α) : Decidable (PipedOut loop name answers s) :=
  match name with
  | .outbound => inferInstanceAs (Decidable (ReadsOn _ _ _ _))
  | .inbound =>
    match accepted : answers.accepted with
    | .returned count =>
      decidable_of_iff (s.inboundShutdown = false) (by
        unfold PipedOut
        simp [accepted])
    | .failed _ => .isTrue (by
        unfold PipedOut
        simp [accepted])
  | .incoming => .isTrue trivial
  | .outgoing => .isTrue trivial

instance (thread : TcpThread α) (name : BidirectionalStreamCopy.RuleName)
    (answers : BidirectionalStreamCopy.Answers) (s : BidirectionalStreamCopy) :
    Decidable (PipedIn thread name answers s) :=
  match name with
  | .readSocket => inferInstanceAs (Decidable (ReadsOn _ _ _ _))
  | .readInput => .isTrue trivial
  | .writeSocket => .isTrue trivial
  | .writeOutput => .isTrue trivial

/-- The same data, as a thread whose loop goes on sees it. -/
structure Fed (loop : CopyLoop) (s : TCPSpongeSocket α) : Prop where
  /-- The thread has read the front of what the loop wrote. -/
  outbound : s.fromOwner <+: loop.copy.toSocket
  /-- The loop has read the front of what the thread wrote. -/
  inbound : loop.copy.fromSocket <+: s.toOwner
  /-- Where the thread has seen the end, it has read everything there will be. -/
  ownerEnded : s.threadData.eof = true → s.fromOwner = loop.copy.toSocket ∧
    (loop.copy.outboundShutdown = true ∨ loop.returned = true)
  /-- Where the loop has seen the end, the thread has shut down. -/
  socketEnded : loop.copy.socket.eof = true →
    loop.copy.fromSocket = s.toOwner ∧ s.inboundShutdown = true

/-- What does not concern the owner leaves the data. -/
theorem Fed.same {loop : CopyLoop} {s next : TCPSpongeSocket α} (fed : Fed loop s)
    (same : s.SameOwner next) : Fed loop next := by
  -- Each clause speaks of fields that have not changed.
  obtain ⟨threadData, fromOwner, toOwner, inboundShutdown⟩ := same
  refine ⟨?_, ?_, ?_, ?_⟩
  · rw [fromOwner]
    exact fed.outbound
  · rw [toOwner]
    exact fed.inbound
  · rw [threadData, fromOwner]
    exact fed.ownerEnded
  · rw [toOwner, inboundShutdown]
    exact fed.socketEnded

/-- Rule 2 of a socket reads on in what the loop wrote. -/
theorem Fed.read {loop : CopyLoop} {s next : TCPSpongeSocket α} {answers : Answers ρ υ}
    (fed : Fed loop s) (piped : PipedOut loop .outbound answers s)
    (done : s.outbound answers = .ok next) : Fed loop next := by
  obtain ⟨data, answered, fromOwner, ended, toOwner, inboundShutdown⟩ :=
    TCPSpongeSocket.outbound_owner done
  change ReadsOn answers.data _ _ _ at piped
  rw [answered] at piped
  -- The new data continues what was read, and the end of it is only seen behind everything.
  refine ⟨?_, ?_, ?_, ?_⟩
  · rw [fromOwner]
    exact piped.1
  · rw [toOwner]
    exact fed.inbound
  · intro eof
    rw [fromOwner]
    exact piped.complete ((ended eof).imp_left fed.ownerEnded)
  · rw [toOwner, inboundShutdown]
    exact fed.socketEnded

/-- Rule 3 of a socket writes only as long as it has not shut down. -/
theorem Fed.write {loop : CopyLoop} {s next : TCPSpongeSocket α} {answers : Answers ρ υ}
    (fed : Fed loop s) (piped : PipedOut loop .inbound answers s)
    (done : s.inbound answers = .ok next) : Fed loop next := by
  obtain ⟨⟨count, accepted⟩, more, fromOwner, eof⟩ := TCPSpongeSocket.inbound_owner done
  -- What the loop has read is still in front of what the thread writes.
  refine ⟨?_, fed.inbound.trans more, ?_, ?_⟩
  · rw [fromOwner]
    exact fed.outbound
  · rw [eof, fromOwner]
    exact fed.ownerEnded
  · -- A thread that has shut down could not have written.
    intro ended
    exact absurd accepted (piped (fed.socketEnded ended).2 count)

/-- The same data, as a loop that goes on sees it. -/
structure Drawn (thread : TcpThread α) (s : BidirectionalStreamCopy) : Prop where
  /-- The thread has read the front of what the loop wrote. -/
  outbound : thread.socket.fromOwner <+: s.toSocket
  /-- The loop has read the front of what the thread wrote. -/
  inbound : s.fromSocket <+: thread.socket.toOwner
  /-- Where the thread has seen the end, the loop has shut down. -/
  ownerEnded : thread.socket.threadData.eof = true →
    thread.socket.fromOwner = s.toSocket ∧ s.outboundShutdown = true
  /-- Where the loop has seen the end, it has read everything there will be. -/
  socketEnded : s.socket.eof = true → s.fromSocket = thread.socket.toOwner ∧
    (thread.socket.inboundShutdown = true ∨ thread.stage = .finished)

/-- Rule 3 of a copy reads on in what the thread wrote. -/
theorem Drawn.read {thread : TcpThread α} {s next : BidirectionalStreamCopy}
    {answers : BidirectionalStreamCopy.Answers} (drawn : Drawn thread s)
    (piped : PipedIn thread .readSocket answers s)
    (done : BidirectionalStreamCopy.readSocket answers s = .ok next) : Drawn thread next := by
  obtain ⟨data, eof, answered, -, ended, rfl⟩ :=
    (BidirectionalStreamCopy.readSocket_settles answers s).of_ok done
  change ReadsOn answers.data _ _ _ at piped
  rw [answered] at piped
  -- The loop sees the end only behind everything that the thread wrote.
  refine ⟨drawn.outbound, piped.1, drawn.ownerEnded, ?_⟩
  intro eof'
  exact piped.complete (((Bool.or_eq_true _ _).mp eof').imp drawn.socketEnded ended)

/-- Rule 2 of a copy writes only as long as it has not shut down. -/
theorem Drawn.write {thread : TcpThread α} {s next : BidirectionalStreamCopy}
    {answers : BidirectionalStreamCopy.Answers} (drawn : Drawn thread s)
    (goes : s.outboundShutdown = false)
    (done : BidirectionalStreamCopy.writeSocket answers s = .ok next) : Drawn thread next := by
  obtain ⟨count, writes, -, -, -, rfl⟩ :=
    (BidirectionalStreamCopy.writeSocket_settles answers s).of_ok done
  -- What the thread has read is still in front of what the loop writes.
  refine ⟨drawn.outbound.trans (List.prefix_append _ _), drawn.inbound, ?_, drawn.socketEnded⟩
  -- A loop that has shut down would not have been called to write.
  intro ended
  cases goes.symm.trans (drawn.ownerEnded ended).2

/-- The rules of a copy keep it faithful and in step with its thread. -/
theorem guarded_drawn (thread : TcpThread α) :
    EventLoop.Guarded BidirectionalStreamCopy.table Failure.Environmental
      (fun s => s.Faithful ∧ Drawn thread s) BidirectionalStreamCopy.status
      (PipedIn thread) := by
  refine (BidirectionalStreamCopy.guarded.also ?_ ?_).strengthen
    fun _ _ _ piped => ⟨trivial, piped⟩
  · -- Cancelling a rule shuts down at most, and moves no data.
    intro name s next _ drawn done
    cases name with
    | readInput | writeSocket | readSocket | writeOutput =>
      cases Except.ok.inj done
      exact ⟨drawn.outbound, drawn.inbound, drawn.ownerEnded, drawn.socketEnded⟩
  · -- Two of the rules move data between the loop and the thread, and the others do not.
    intro name answers s next _ drawn armed piped done
    cases name with
    | readInput =>
      obtain ⟨data, eof, -, -, rfl⟩ :=
        (BidirectionalStreamCopy.readInput_settles answers s).of_ok done
      exact ⟨drawn.outbound, drawn.inbound, drawn.ownerEnded, drawn.socketEnded⟩
    | writeSocket => exact drawn.write armed done
    | readSocket => exact drawn.read piped done
    | writeOutput =>
      obtain ⟨count, -, -, rfl⟩ :=
        (BidirectionalStreamCopy.writeOutput_settles answers s).of_ok done
      exact ⟨drawn.outbound, drawn.inbound, drawn.ownerEnded, drawn.socketEnded⟩

variable [FdAdapter α ρ υ]

/-- Performs one turn. -/
def step (p : Program α) : ProgramCall ρ υ → Except Failure (Program α)
  | .tcp turn => do
    let thread ← p.thread.step turn
    return { p with thread }
  | .copy poll => do
    let loop ← p.loop.step poll
    return { p with loop }

/-- What happens in a turn is admissible: packets come from the peer, and the kernel carries the
data between the loop and the thread. -/
def Admissible (p peer : Program α) : ProgramCall ρ υ → Prop
  | .tcp turn => p.thread.stage.condition p.thread.socket.tcp.state = true →
    EventLoop.Meets TCPSpongeSocket.table
      (fun name answers s => TCPSpongeSocket.Admissible peer.thread.socket name answers s ∧
        PipedOut p.loop name answers s) p.thread.rules p.thread.socket turn.poll
  | .copy poll => p.loop.returned = false →
    EventLoop.Meets BidirectionalStreamCopy.table (PipedIn p.thread) p.loop.rules p.loop.copy poll

instance (p peer : Program α) :
    DecidablePred (p.Admissible peer : ProgramCall ρ υ → Prop)
  | .tcp _ => inferInstanceAs (Decidable (_ → _))
  | .copy _ => inferInstanceAs (Decidable (_ → _))

/-- The data between the copy loop and the thread of a program. -/
structure Joined (p : Program α) : Prop where
  /-- The thread has read the front of what the loop wrote. -/
  outbound : p.thread.socket.fromOwner <+: p.loop.copy.toSocket
  /-- The loop has read the front of what the thread wrote. -/
  inbound : p.loop.copy.fromSocket <+: p.thread.socket.toOwner
  /-- Where the thread has seen the end, it has read everything there will be. -/
  ownerEnded : p.thread.socket.threadData.eof = true →
    p.thread.socket.fromOwner = p.loop.copy.toSocket ∧
      (p.loop.copy.outboundShutdown = true ∨ p.loop.returned = true)
  /-- Where the loop has seen the end, it has read everything there will be. -/
  socketEnded : p.loop.copy.socket.eof = true →
    p.loop.copy.fromSocket = p.thread.socket.toOwner ∧
      (p.thread.socket.inboundShutdown = true ∨ p.thread.stage = .finished)

/-- A turn of the loop keeps it faithful and joined to the thread. -/
theorem Joined.copy {p : Program α} (joined : p.Joined) (copying : p.loop.Copying)
    (poll : PollResult BidirectionalStreamCopy.Answers)
    (meets : p.loop.returned = false → EventLoop.Meets BidirectionalStreamCopy.table
      (PipedIn p.thread) p.loop.rules p.loop.copy poll) :
    Settles Failure.Environmental
      (fun next => next.Copying ∧ Joined { p with loop := next }) (p.loop.step poll) := by
  unfold CopyLoop.step
  split
  · -- A loop that has returned does nothing.
    exact ⟨copying, joined⟩
  · -- While the loop runs, an end that the thread has seen can only come from a shutdown.
    rename_i goes
    have drawn : Drawn p.thread p.loop.copy := by
      refine ⟨joined.outbound, joined.inbound, ?_, joined.socketEnded⟩
      intro ended
      obtain ⟨all, shut⟩ := joined.ownerEnded ended
      exact ⟨all, shut.resolve_right goes⟩
    have distinct : p.loop.rules.Nodup := List.Nodup.sublist copying.left.order (by decide)
    apply ((guarded_drawn p.thread).waitNextEvent distinct ⟨copying.faithful, drawn⟩
      copying.left.live (meets (Bool.not_eq_true _ |>.mp goes))).bind
    intro out _ waited
    obtain ⟨⟨faithful, after⟩, outside, left⟩ := waited
    refine ⟨⟨faithful, copying.left.trans left outside⟩, after.outbound, after.inbound, ?_,
      after.socketEnded⟩
    intro ended
    obtain ⟨all, shut⟩ := after.ownerEnded ended
    exact ⟨all, .inl shut⟩

variable [Transparent α ρ υ]

/-- The rules of a socket keep it tied to its peer and fed by its owner. -/
theorem guarded_fed (start : System) (side : Side) (peer : TCPSpongeSocket α) (loop : CopyLoop) :
    EventLoop.Guarded (TCPSpongeSocket.table (α := α) (ρ := ρ) (υ := υ)) Failure.Environmental
      (fun s => TCPSpongeSocket.Tied start side peer s ∧ Fed loop s) TCPSpongeSocket.status
      (fun name answers s => TCPSpongeSocket.Admissible peer name answers s ∧
        PipedOut loop name answers s) := by
  refine (TCPSpongeSocket.guarded start side peer).also ?_ ?_
  · -- Only the cancellation of rule 2 does anything, and it ends the outbound stream.
    intro name s next _ fed done
    cases name with
    | outbound => exact fed.same (TCPSpongeSocket.endOutbound_owner done)
    | incoming | inbound | outgoing =>
      cases Except.ok.inj done
      exact fed
  · -- Rules 2 and 3 move data between the owner and the thread.
    intro name answers s next _ fed _ piped done
    cases name with
    | incoming => exact fed.same (TCPSpongeSocket.incoming_owner done)
    | outbound => exact fed.read piped done
    | inbound => exact fed.write piped done
    | outgoing => exact fed.same (TCPSpongeSocket.drain_owner _ _ _ done)

/-- A turn of the thread keeps it tied to its peer and joined to the loop. -/
theorem Joined.tcp {start : System} {side : Side} {peer p : Program α} (joined : p.Joined)
    (tied : TcpThread.Tied start side peer.thread p.thread) (turn : Turn ρ υ)
    (admissible : p.Admissible peer (.tcp turn)) :
    Settles Failure.Environmental
      (fun next => TcpThread.Tied start side peer.thread next ∧ Joined { p with thread := next })
      (p.thread.step turn) := by
  by_cases finished : p.thread.stage = .finished
  · -- A thread that has finished does nothing.
    have same : p.thread.step turn = .ok p.thread := by
      unfold TcpThread.step TcpThread.leave
      rw [finished]
      rfl
    rw [same]
    exact ⟨tied, joined⟩
  · -- While the thread runs, an end that the loop has seen can only come from a shutdown.
    have fed : Fed p.loop p.thread.socket := by
      refine ⟨joined.outbound, joined.inbound, joined.ownerEnded, ?_⟩
      intro ended
      obtain ⟨all, shut⟩ := joined.socketEnded ended
      exact ⟨all, shut.resolve_right finished⟩
    apply (TcpThread.step_keeps (guarded_fed start side peer.thread.socket p.loop) ?_ tied.here
      ⟨tied.sockets, fed⟩ turn admissible).mono
    · -- The end that the loop has seen is still that of a shutdown.
      intro next kept
      obtain ⟨⟨sockets, after⟩, order⟩ := kept
      refine ⟨⟨sockets, order, tied.there⟩, after.outbound, after.inbound, after.ownerEnded, ?_⟩
      intro ended
      obtain ⟨all, shut⟩ := after.socketEnded ended
      exact ⟨all, .inl shut⟩
    · -- Between two waits time passes, which does not concern the owner.
      intro s both ms answer
      apply (both.1.tick ms answer).also
      intro next done _
      exact both.2.same (TCPSpongeSocket.tick_owner done)

end Program

/-- Two programs whose packets cross a network. -/
structure Programs (α : Type) where
  /-- The first program. -/
  a : Program α
  /-- The second program. -/
  b : Program α

namespace Programs

variable {α ρ υ : Type}

/-- The program on a side. -/
def side (programs : Programs α) : Side → Program α
  | .a => programs.a
  | .b => programs.b

/-- The programs with another one on a side. -/
def put (programs : Programs α) (p : Program α) : Side → Programs α
  | .a => { programs with a := p }
  | .b => { programs with b := p }

/-- Two programs that begin to copy over their sockets. -/
def start (sockets : Sockets α) : Programs α := ⟨{ thread := sockets.a }, { thread := sockets.b }⟩

variable [FdAdapter α ρ υ]

/-- A turn on one side. -/
def step (programs : Programs α) (call : Side × ProgramCall ρ υ) :
    Except Failure (Programs α) := do
  let p ← (programs.side call.1).step call.2
  return programs.put p call.1

/-- What happens in a turn on one side is admissible. -/
def Admissible (programs : Programs α) (call : Side × ProgramCall ρ υ) : Prop :=
  (programs.side call.1).Admissible (programs.side call.1.other) call.2

instance (programs : Programs α) (call : Side × ProgramCall ρ υ) :
    Decidable (programs.Admissible call) :=
  inferInstanceAs (Decidable (Program.Admissible _ _ _))

variable [Transparent α ρ υ]

/-- The threads are tied to a run of their endpoints, and each loop is joined to its thread. -/
structure Sound (system : System) (programs : Programs α) : Prop where
  /-- The threads are tied. -/
  tied : TcpThread.Tied system .a programs.b.thread programs.a.thread
  /-- Each loop is joined to its thread. -/
  joined : ∀ side, (programs.side side).Joined
  /-- Each loop copies faithfully. -/
  copying : ∀ side, (programs.side side).loop.Copying

/-- The threads are tied as seen from either side. -/
theorem Sound.side {system : System} {programs : Programs α} (sound : programs.Sound system)
    (side : Side) : TcpThread.Tied system side (programs.side side.other).thread
      (programs.side side).thread := by
  cases side with
  | a => exact sound.tied
  | b => exact sound.tied.symm

/-- A program on one side goes on, tied to the other one. -/
theorem Sound.put {system : System} {programs : Programs α} (sound : programs.Sound system)
    (side : Side) {p : Program α}
    (tied : TcpThread.Tied system side (programs.side side.other).thread p.thread)
    (joined : p.Joined) (copying : p.loop.Copying) : (programs.put p side).Sound system := by
  -- Seen from either side, one program is new and the other one is as before.
  cases side with
  | a =>
    refine ⟨tied, ?_, ?_⟩
    · intro viewed
      cases viewed with
      | a => exact joined
      | b => exact sound.joined .b
    · intro viewed
      cases viewed with
      | a => exact copying
      | b => exact sound.copying .b
  | b =>
    refine ⟨tied.symm, ?_, ?_⟩
    · intro viewed
      cases viewed with
      | a => exact sound.joined .a
      | b => exact joined
    · intro viewed
      cases viewed with
      | a => exact sound.copying .a
      | b => exact copying

/-- A turn keeps the programs sound, or fails because of the environment. -/
theorem Sound.step {system : System} {programs : Programs α} (sound : programs.Sound system)
    {call : Side × ProgramCall ρ υ} (admissible : programs.Admissible call) :
    Settles Failure.Environmental (Sound system) (programs.step call) := by
  obtain ⟨side, call⟩ := call
  have tied := sound.side side
  have joined := sound.joined side
  have copying := sound.copying side
  -- A turn is one of the thread or one of the loop, and leaves the other part of the program.
  unfold Programs.step Program.step
  cases call with
  | tcp turn =>
    -- The thread moves, and the loop stays.
    apply Settles.bind ((joined.tcp tied turn admissible).bind ?_) ?_
    · exact fun p => TcpThread.Tied system side (programs.side side.other).thread p.thread ∧
        p.Joined ∧ p.loop.Copying
    · intro next _ kept
      exact ⟨kept.1, kept.2, copying⟩
    · intro p _ kept
      exact sound.put side kept.1 kept.2.1 kept.2.2
  | copy poll =>
    -- The loop moves, and the thread stays.
    apply Settles.bind ((joined.copy copying poll admissible).bind ?_) ?_
    · exact fun p => TcpThread.Tied system side (programs.side side.other).thread p.thread ∧
        p.Joined ∧ p.loop.Copying
    · intro next _ kept
      exact ⟨tied, kept.2, kept.1⟩
    · intro p _ kept
      exact sound.put side kept.1 kept.2.1 kept.2.2

/-- Programs over sockets that were opened are sound. -/
theorem sound_start {cfgA cfgB : TCPConfig} {isnA isnB : WrappingInt32} {sockets : Sockets α}
    (roomA : cfgA.sendCapacity + cfgB.recvCapacity < 2 ^ 31 - 2)
    (roomB : cfgB.sendCapacity + cfgA.recvCapacity < 2 ^ 31 - 2)
    (openedA : sockets.a.Opened cfgA isnA) (openedB : sockets.b.Opened cfgB isnB) :
    (start sockets).Sound (System.start cfgA cfgB isnA isnB) := by
  -- At first nothing has been written anywhere, and nothing has been shut down.
  have fresh : ∀ (t : TcpThread α) cfg isn, t.Opened cfg isn →
      Program.Joined { thread := t } := by
    intro t cfg isn opened
    obtain ⟨-, adapter, c, -, same, -⟩ := opened.socket
    refine ⟨?_, List.nil_prefix, ?_, nofun⟩
    · rw [same]
    · rw [same]
      nofun
  refine ⟨Sockets.tied_opened roomA roomB openedA openedB, ?_, ?_⟩
  · intro side
    cases side with
    | a => exact fresh _ _ _ openedA
    | b => exact fresh _ _ _ openedB
  · intro side
    cases side with
    | a => exact CopyLoop.copying_start
    | b => exact CopyLoop.copying_start

/-- What one program prints is the front of what the other one was given to read, through two copy
loops, two threads and the network between them. Once every one of them has seen the end, without
a reset, it is all of it. Nothing but the environment can make either program fail. -/
theorem programs_deliver {cfgA cfgB : TCPConfig} {isnA isnB : WrappingInt32} (sockets : Sockets α)
    (calls : List (Side × ProgramCall ρ υ))
    (roomA : cfgA.sendCapacity + cfgB.recvCapacity < 2 ^ 31 - 2)
    (roomB : cfgB.sendCapacity + cfgA.recvCapacity < 2 ^ 31 - 2)
    (openedA : sockets.a.Opened cfgA isnA) (openedB : sockets.b.Opened cfgB isnB)
    (admissible : Throughout step Admissible (start sockets) calls) :
    Settles Failure.Environmental (fun last => ∀ side,
      let here := last.side side
      let there := last.side side.other
      here.loop.copy.toOutput <+: there.loop.copy.fromInput ∧
        (here.loop.copy.inboundShutdown = true → here.loop.copy.socket.eof = true →
          here.thread.socket.finishedCleanly = true →
          there.thread.socket.threadData.eof = true → there.loop.copy.outboundShutdown = true →
          here.loop.copy.toOutput = there.loop.copy.fromInput ∧ there.loop.copy.InputSpent))
      (runCalls step (start sockets) calls) := by
  -- Every turn keeps the programs sound, and a sound pair of programs has delivered in order.
  apply (admissible.settles (Sound (System.start cfgA cfgB isnA isnB))
    (fun _ _ sound admissible => sound.step admissible)
    (sound_start roomA roomB openedA openedB)).mono
  intro last sound side
  have printed := (sound.copying side).faithful.inbound
  have given := (sound.copying side.other).faithful.outbound
  have received := sound.joined side
  have sent := sound.joined side.other
  have threads := (sound.side side).sockets
  have carried := threads.reached.popped_prefix threads.settled
  intro here there
  constructor
  · -- Every stage has passed on the front of what it got.
    calc here.loop.copy.toOutput
      _ <+: here.loop.copy.fromSocket := ⟨_, printed.split⟩
      _ <+: here.thread.socket.toOwner := received.inbound
      _ <+: there.thread.socket.fromOwner := carried
      _ <+: there.loop.copy.toSocket := sent.outbound
      _ <+: there.loop.copy.fromInput := ⟨_, given.split⟩
  · -- With every end seen, each stage has passed on everything.
    intro closed eof clean ended shut
    obtain ⟨all, spent⟩ := given.complete shut
    refine ⟨?_, spent⟩
    calc here.loop.copy.toOutput
      _ = here.loop.copy.fromSocket := (printed.complete closed).1
      _ = here.thread.socket.toOwner := (received.socketEnded eof).1
      _ = there.thread.socket.fromOwner := (threads.finished clean).1
      _ = there.loop.copy.toSocket := (sent.ownerEnded ended).1
      _ = there.loop.copy.fromInput := all

/-- The client is given two bytes and their end, which go through the exchange of the sockets, and
the server prints them. -/
def session : List (Side × ProgramCall (SysResult (Address × Bytes)) (SysResult Nat)) :=
  [(.a, .copy (CopyLoop.readyAt 0 { pollIn := true } [1, 2] 0)),
    (.a, .copy (CopyLoop.readyAt 1 { pollOut := true } [] 2)),
    (.a, .copy (CopyLoop.readyAt 0 { pollIn := true } [] 0)),
    (.a, .copy (CopyLoop.readyAt 0 { pollOut := true } [] 0))] ++
    Sockets.exchange.map (fun turn => (turn.1, .tcp turn.2)) ++
    [(.b, .copy (CopyLoop.readyAt 2 { pollIn := true } [1, 2] 0)),
      (.b, .copy (CopyLoop.readyAt 3 { pollOut := true } [] 2)),
      (.b, .copy (CopyLoop.readyAt 2 { pollIn := true } [] 0)),
      (.b, .copy (CopyLoop.readyAt 2 { pollOut := true } [] 0))]

/-- The server prints both bytes, which is all that the client was given. -/
theorem programs_deliver_session :
    ∃ last : Programs TCPOverUDPSocketAdapter,
      runCalls step (start ⟨Sockets.client, Sockets.server⟩) session = .ok last ∧
        last.b.loop.copy.toOutput = [1, 2] ∧
        last.b.loop.copy.toOutput = last.a.loop.copy.fromInput := by
  obtain ⟨last, done, closed, eof, clean, ended, shut, printed⟩ :
      ∃ last : Programs TCPOverUDPSocketAdapter,
        runCalls step (start ⟨Sockets.client, Sockets.server⟩) session = .ok last ∧
        last.b.loop.copy.inboundShutdown = true ∧ last.b.loop.copy.socket.eof = true ∧
        last.b.thread.socket.finishedCleanly = true ∧
        last.a.thread.socket.threadData.eof = true ∧
        last.a.loop.copy.outboundShutdown = true ∧ last.b.loop.copy.toOutput = [1, 2] :=
    exists_runCalls (by decide +kernel)
  have delivered := (programs_deliver ⟨Sockets.client, Sockets.server⟩ session (by decide)
    (by decide) Sockets.opened_client Sockets.opened_server (by decide +kernel)).of_ok done .b
  exact ⟨last, done, printed, (delivered.2 closed eof clean ended shut).1⟩

end Programs

end Sponge
