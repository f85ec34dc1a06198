import Sponge.Apps.StreamCopy

/-! A program that copies streams copies them: nothing is lost, doubled or reordered, and when it
returns by itself nothing is left behind. -/

namespace Sponge

namespace BidirectionalStreamCopy

/-- One direction of the copy: a stream between what was taken from its source and what was given
to its sink, where the source may be spent, the sink cut off, and the end passed on. -/
structure Carried (stream : ByteStream) (taken given : Bytes) (spent cut : Prop) (shut : Bool) :
    Prop where
  /-- What was not given yet is in the stream. -/
  split : given ++ stream.buffer = taken
  /-- The stream has its size. -/
  capacity : stream.capacity = toInt32 (1048576 : Nat)
  /-- It holds no more than that. -/
  room : stream.buffer.length ≤ 1048576
  /-- Nothing sets an error. -/
  clean : stream.error = false
  /-- The stream ends with its source. -/
  ends : spent → stream.ended = true
  /-- Otherwise it ends only because the sink is cut off. -/
  because : stream.ended = true → spent ∨ cut
  /-- The end is passed on behind everything. -/
  last : shut = true → stream.buffer = [] ∧ spent

namespace Carried

variable {stream : ByteStream} {taken given : Bytes} {spent spent' cut cut' : Prop} {shut : Bool}

/-- Nothing has been copied yet. -/
theorem new : Carried (.new 1048576) [] [] False False false :=
  ⟨rfl, rfl, by simp [ByteStream.new], rfl, False.elim, nofun, nofun⟩

/-- The room that is left. -/
theorem remaining (carried : Carried stream taken given spent cut shut) :
    stream.remainingCapacity = 1048576 - stream.buffer.length :=
  ByteStream.remainingCapacity_new (by decide) carried.capacity carried.room

/-- More is taken from a source that is not spent, and perhaps its end is seen. -/
theorem fill (carried : Carried stream taken given spent cut shut) (goes : ¬ spent) {data : Bytes}
    (fits : data.length ≤ stream.remainingCapacity) {ended : Bool} (after : spent' ↔ ended = true) :
    Carried (if ended then (stream.appended data).endInput else stream.appended data)
      (taken ++ data) given spent' cut shut := by
  have whole : given ++ (stream.buffer ++ data) = taken ++ data := by
    rw [← List.append_assoc, carried.split]
  have room : (stream.buffer ++ data).length ≤ 1048576 := by
    have left := carried.remaining
    have small := carried.room
    rw [List.length_append]
    omega
  -- The end was not passed on yet, since the source was not spent.
  have unshut : shut = true → False := fun is => goes (carried.last is).2
  cases ended with
  | true =>
    -- The source is spent now, and the stream is told so.
    exact ⟨whole, carried.capacity, room, carried.clean, fun _ => rfl,
      fun _ => .inl (after.mpr rfl), fun is => (unshut is).elim⟩
  | false =>
    -- The stream goes on, and if it had ended that was because the sink was cut off.
    refine ⟨whole, carried.capacity, room, carried.clean, ?_, ?_, fun is => (unshut is).elim⟩
    · intro ends
      cases after.mp ends
    · intro ended
      exact .inr ((carried.because ended).resolve_left goes)

/-- Some is given to a sink that is not cut off, and perhaps the end is passed on. -/
theorem give (carried : Carried stream taken given spent cut shut) (goes : ¬ cut) {count : Nat}
    (inside : count ≤ stream.buffer.length) {ended : Bool}
    (eof : ended = true → (stream.taken count).eof = true) :
    Carried (stream.taken count) taken (given ++ stream.buffer.take count) spent cut
      (shut || ended) := by
  refine ⟨?_, carried.capacity, ?_, carried.clean, carried.ends, carried.because, ?_⟩
  · -- What was given and what is left are still all that was taken.
    change given ++ stream.buffer.take count ++ stream.buffer.drop count = taken
    rw [List.append_assoc, List.take_append_drop]
    exact carried.split
  · change (stream.buffer.drop count).length ≤ _
    have small := carried.room
    rw [List.length_drop]
    omega
  · -- The end was passed on before, or it is now.
    intro done
    rw [Bool.or_eq_true] at done
    rcases done with before | now
    · -- Nothing was left in the stream then, and nothing is now.
      obtain ⟨empty, ends⟩ := carried.last before
      refine ⟨?_, ends⟩
      change stream.buffer.drop count = []
      rw [empty, List.drop_nil]
    · -- The stream is at its end, and the sink is not what has ended it.
      have both := eof now
      unfold ByteStream.eof at both
      rw [Bool.and_eq_true, beq_iff_eq] at both
      exact ⟨List.length_eq_zero_iff.mp both.2, (carried.because both.1).resolve_right goes⟩

/-- Where the end was passed on, everything was. -/
theorem complete (carried : Carried stream taken given spent cut shut) (done : shut = true) :
    given = taken ∧ spent := by
  -- The end is passed on only from an empty stream.
  obtain ⟨empty, spent⟩ := carried.last done
  have whole := carried.split
  rw [empty, List.append_nil] at whole
  exact ⟨whole, spent⟩

/-- The source is spent. -/
theorem stop (carried : Carried stream taken given spent cut shut) (now : spent') :
    Carried stream.endInput taken given spent' cut shut :=
  ⟨carried.split, carried.capacity, carried.room, carried.clean, fun _ => rfl, fun _ => .inl now,
    fun is => ⟨(carried.last is).1, now⟩⟩

/-- The sink is cut off. -/
theorem cut_off (carried : Carried stream taken given spent cut shut) (now : cut') :
    Carried stream.endInput taken given spent cut' shut :=
  ⟨carried.split, carried.capacity, carried.room, carried.clean, fun _ => rfl, fun _ => .inr now,
    carried.last⟩

/-- The same, as far as it can be told. -/
theorem congr (carried : Carried stream taken given spent cut shut) (source : spent' ↔ spent)
    (sink : cut' ↔ cut) : Carried stream taken given spent' cut' shut := by
  rw [propext source, propext sink]
  exact carried

end Carried

/-- Reading into a stream fails only because of the environment. -/
theorem fill_settles (fd : FileDescriptor) (stream : ByteStream) (answer : SysResult Bytes) :
    Settles Failure.Environmental (fun out => ∃ data eof, answer = .returned data ∧
      data.length ≤ stream.remainingCapacity ∧ (eof = true → data = []) ∧
      out = (data, { fd with eof := fd.eof || eof, readCount := fd.readCount + 1 },
        if fd.eof || eof then (stream.appended data).endInput else stream.appended data))
      (fill fd stream answer) := by
  unfold fill
  apply (fd.read_settles stream.remainingCapacity answer).bind
  intro out _ read
  obtain ⟨data, after⟩ := out
  obtain ⟨answered, fits, same⟩ := read
  dsimp only at answered fits same
  refine ⟨data, decide (0 < stream.remainingCapacity) && data.isEmpty, answered, fits, ?_, ?_⟩
  · -- The end of a file is an empty read with room for more.
    intro ended
    rw [Bool.and_eq_true, List.isEmpty_iff] at ended
    exact ended.2
  · rw [ByteStream.write_of_fits stream data fits, same]

/-- The input gives no more. -/
def InputSpent (s : BidirectionalStreamCopy) : Prop :=
  s.input.eof = true ∨ .readInput ∈ s.cancelled

/-- The socket gives no more. -/
def SocketSpent (s : BidirectionalStreamCopy) : Prop :=
  s.socket.eof = true ∨ .readSocket ∈ s.cancelled

/-- Both directions are carried. -/
structure Faithful (s : BidirectionalStreamCopy) : Prop where
  /-- From the input to the socket. -/
  outbound : Carried s.outbound s.fromInput s.toSocket s.InputSpent (.writeSocket ∈ s.cancelled)
    s.outboundShutdown
  /-- From the socket to the output. -/
  inbound : Carried s.inbound s.fromSocket s.toOutput s.SocketSpent (.writeOutput ∈ s.cancelled)
    s.inboundShutdown
  /-- The output is closed only with the end of the inbound stream. -/
  closed : s.output.closed = true → s.inboundShutdown = true

/-- What a rule relies on when it is called. -/
def Armed (name : RuleName) (s : BidirectionalStreamCopy) : Prop :=
  match name with
  | .readInput => s.input.eof = false
  | .writeSocket => s.outboundShutdown = false
  | .readSocket => s.socket.eof = false
  | .writeOutput => s.inboundShutdown = false

/-- What is known of the rules. -/
def status : EventLoop.Status RuleName BidirectionalStreamCopy where
  live name s := name ∉ s.cancelled
  armed := Armed
  gone name s := name ∈ s.cancelled

variable {s next : BidirectionalStreamCopy} {answers : Answers}

/-- What rule 1 does, unless the environment fails. -/
theorem readInput_settles (answers : Answers) (s : BidirectionalStreamCopy) :
    Settles Failure.Environmental (fun next => ∃ data eof, answers.data = .returned data ∧
      data.length ≤ s.outbound.remainingCapacity ∧ next = { s with
        input := { s.input with eof := s.input.eof || eof, readCount := s.input.readCount + 1 }
        outbound := if s.input.eof || eof then (s.outbound.appended data).endInput
          else s.outbound.appended data
        fromInput := s.fromInput ++ data }) (readInput answers s) := by
  unfold readInput
  -- The rule adds nothing to what filling a stream does, apart from its record.
  apply (fill_settles s.input s.outbound answers.data).bind
  intro out _ filled
  obtain ⟨data, eof, answered, fits, -, rfl⟩ := filled
  exact ⟨data, eof, answered, fits, rfl⟩

/-- What rule 3 does, unless the environment fails. -/
theorem readSocket_settles (answers : Answers) (s : BidirectionalStreamCopy) :
    Settles Failure.Environmental (fun next => ∃ data eof, answers.data = .returned data ∧
      data.length ≤ s.inbound.remainingCapacity ∧ (eof = true → data = []) ∧ next = { s with
        socket := { s.socket with eof := s.socket.eof || eof, readCount := s.socket.readCount + 1 }
        inbound := if s.socket.eof || eof then (s.inbound.appended data).endInput
          else s.inbound.appended data
        fromSocket := s.fromSocket ++ data }) (readSocket answers s) := by
  unfold readSocket
  -- As for rule 1, and here the end of the data matters to the thread on the other side.
  apply (fill_settles s.socket s.inbound answers.data).bind
  intro out _ filled
  obtain ⟨data, eof, answered, fits, ended, rfl⟩ := filled
  exact ⟨data, eof, answered, fits, ended, rfl⟩

/-- What rule 2 does, unless the environment fails. -/
theorem writeSocket_settles (answers : Answers) (s : BidirectionalStreamCopy) :
    Settles Failure.Environmental (fun next => ∃ count writes, answers.accepted = .returned count ∧
      count ≤ s.outbound.buffer.length ∧ (writes = 1 ∨ writes = 2) ∧ next = { s with
        socket := { s.socket with writeCount := s.socket.writeCount + writes }
        outbound := s.outbound.taken count
        outboundShutdown := s.outboundShutdown || (s.outbound.taken count).eof
        toSocket := s.toSocket ++ s.outbound.buffer.take count }) (writeSocket answers s) := by
  unfold writeSocket
  apply (s.socket.writeFront_settles maxCopyLength s.outbound answers.accepted).bind
  intro out _ written
  obtain ⟨count, answered, inside, rfl⟩ := written
  dsimp only
  split
  · -- The end is passed on, which counts as another write.
    rename_i eof
    unfold FileDescriptor.shutdownWrite
    cases answers.finish with
    | failed errno => trivial
    | returned done =>
      refine ⟨count, 2, answered, inside, .inr rfl, ?_⟩
      rw [eof, Bool.or_true]
      simp only [FileDescriptor.registerWrite, UInt32.add_assoc]
      rfl
  · -- The stream goes on.
    rename_i more
    refine ⟨count, 1, answered, inside, .inl rfl, ?_⟩
    rw [Bool.not_eq_true _ |>.mp more, Bool.or_false]
    rfl

/-- What rule 4 does, unless the environment fails. -/
theorem writeOutput_settles (answers : Answers) (s : BidirectionalStreamCopy) :
    Settles Failure.Environmental (fun next => ∃ count, answers.accepted = .returned count ∧
      count ≤ s.inbound.buffer.length ∧ next = { s with
        output := { s.output with
          eof := s.output.eof || (s.inbound.taken count).eof
          closed := s.output.closed || (s.inbound.taken count).eof
          writeCount := s.output.writeCount + 1 }
        inbound := s.inbound.taken count
        inboundShutdown := s.inboundShutdown || (s.inbound.taken count).eof
        toOutput := s.toOutput ++ s.inbound.buffer.take count }) (writeOutput answers s) := by
  unfold writeOutput
  apply (s.output.writeFront_settles maxCopyLength s.inbound answers.accepted).bind
  intro out _ written
  obtain ⟨count, answered, inside, rfl⟩ := written
  dsimp only
  split
  · -- The end is passed on by closing the output.
    rename_i eof
    unfold FileDescriptor.close
    cases answers.finish with
    | failed errno => trivial
    | returned done =>
      refine ⟨count, answered, inside, ?_⟩
      rw [eof]
      simp only [Bool.or_true]
      rfl
  · -- The output stays open.
    rename_i more
    refine ⟨count, answered, inside, ?_⟩
    rw [Bool.not_eq_true _ |>.mp more]
    simp only [Bool.or_false]
    rfl

/-- A rule that is added to the cancelled ones is not one of the others. -/
theorem mem_cancelled_iff {cancelled : List RuleName} {name other : RuleName}
    (different : other ≠ name) : other ∈ cancelled ++ [name] ↔ other ∈ cancelled := by
  rw [List.mem_append, List.mem_singleton, or_iff_left different]

/-- Cancelling any rule keeps the copy faithful. -/
theorem Faithful.cancel (faithful : s.Faithful) (name : RuleName) :
    ∃ next, (table name).cancel s = .ok next ∧ next.Faithful ∧
      next.cancelled = s.cancelled ++ [name] ∧ ∀ other, Armed other s → Armed other next := by
  have here : name ∈ s.cancelled ++ [name] := List.mem_append_right _ (List.mem_singleton.mpr rfl)
  cases name with
  | readInput =>
    -- A reader that is gone ends its stream, as a source that is spent.
    refine ⟨_, rfl, ⟨?_, ?_, faithful.closed⟩, rfl, ?_⟩
    · exact (faithful.outbound.stop (.inr here)).congr Iff.rfl (mem_cancelled_iff (by decide))
    · exact faithful.inbound.congr (or_congr_right (mem_cancelled_iff (by decide)))
        (mem_cancelled_iff (by decide))
    · intro other armed
      cases other <;> exact armed
  | writeSocket =>
    -- A writer that is gone cuts its stream off.
    refine ⟨_, rfl, ⟨?_, ?_, faithful.closed⟩, rfl, ?_⟩
    · exact (faithful.outbound.cut_off here).congr
        (or_congr_right (mem_cancelled_iff (by decide))) Iff.rfl
    · exact faithful.inbound.congr (or_congr_right (mem_cancelled_iff (by decide)))
        (mem_cancelled_iff (by decide))
    · intro other armed
      cases other <;> exact armed
  | readSocket =>
    -- The same for the other direction.
    refine ⟨_, rfl, ⟨?_, ?_, faithful.closed⟩, rfl, ?_⟩
    · exact faithful.outbound.congr (or_congr_right (mem_cancelled_iff (by decide)))
        (mem_cancelled_iff (by decide))
    · exact (faithful.inbound.stop (.inr here)).congr Iff.rfl (mem_cancelled_iff (by decide))
    · intro other armed
      cases other <;> exact armed
  | writeOutput =>
    refine ⟨_, rfl, ⟨?_, ?_, faithful.closed⟩, rfl, ?_⟩
    · exact faithful.outbound.congr (or_congr_right (mem_cancelled_iff (by decide)))
        (mem_cancelled_iff (by decide))
    · exact (faithful.inbound.cut_off here).congr
        (or_congr_right (mem_cancelled_iff (by decide))) Iff.rfl
    · intro other armed
      cases other <;> exact armed

/-- Calling any rule that is live and armed keeps the copy faithful, and uses its descriptor. -/
theorem Faithful.call (faithful : s.Faithful) (name : RuleName) (live : name ∉ s.cancelled)
    (armed : Armed name s) (answers : Answers) :
    Settles Failure.Environmental (fun next => next.Faithful ∧ next.cancelled = s.cancelled ∧
      (∀ other, other ≠ name → Armed other s → Armed other next) ∧
      (table name).serviceCount s ≠ (table name).serviceCount next)
      ((table name).callback answers s) := by
  cases name with
  | readInput =>
    -- A reader is called only as long as its source is not spent.
    apply (readInput_settles answers s).mono
    rintro next ⟨data, eof, -, fits, rfl⟩
    have goes : ¬ s.InputSpent := by
      rintro (ended | cancelled)
      · cases armed.symm.trans ended
      · exact live cancelled
    refine ⟨⟨?_, faithful.inbound, faithful.closed⟩, rfl, ?_, ?_⟩
    · apply faithful.outbound.fill goes fits
      exact or_iff_left live
    · intro other different armed
      cases other with
      | readInput => exact absurd rfl different
      | writeSocket => exact armed
      | readSocket => exact armed
      | writeOutput => exact armed
    · -- The event loop sees that the descriptor was used.
      change s.input.readCount ≠ s.input.readCount + 1
      grind
  | readSocket =>
    apply (readSocket_settles answers s).mono
    rintro next ⟨data, eof, -, fits, -, rfl⟩
    have goes : ¬ s.SocketSpent := by
      -- As for rule 1.
      rintro (ended | cancelled)
      · cases armed.symm.trans ended
      · exact live cancelled
    refine ⟨⟨faithful.outbound, ?_, faithful.closed⟩, rfl, ?_, ?_⟩
    · apply faithful.inbound.fill goes fits
      exact or_iff_left live
    · intro other different armed
      cases other with
      | readInput => exact armed
      | writeSocket => exact armed
      | readSocket => exact absurd rfl different
      | writeOutput => exact armed
    · change s.socket.readCount ≠ s.socket.readCount + 1
      grind
  | writeSocket =>
    apply (writeSocket_settles answers s).mono
    rintro next ⟨count, writes, -, inside, twice, rfl⟩
    -- A writer is called only as long as it was not cut off.
    refine ⟨⟨faithful.outbound.give live inside id, faithful.inbound, faithful.closed⟩, rfl, ?_, ?_⟩
    · intro other different armed
      cases other with
      | readInput => exact armed
      | writeSocket => exact absurd rfl different
      | readSocket => exact armed
      | writeOutput => exact armed
    · change s.socket.writeCount ≠ s.socket.writeCount + writes
      -- One write, or two if the end was passed on.
      rcases twice with rfl | rfl
      · grind
      · grind
  | writeOutput =>
    apply (writeOutput_settles answers s).mono
    rintro next ⟨count, -, inside, rfl⟩
    refine ⟨⟨faithful.outbound, faithful.inbound.give live inside id, ?_⟩, rfl, ?_, ?_⟩
    · -- Closing the output is how its end is passed on.
      intro closed
      dsimp only at closed ⊢
      rw [Bool.or_eq_true] at closed ⊢
      exact closed.imp_left faithful.closed
    · intro other different armed
      cases other with
      | readInput => exact armed
      | writeSocket => exact armed
      | readSocket => exact armed
      | writeOutput => exact absurd rfl different
    · change s.output.writeCount ≠ s.output.writeCount + 1
      grind

/-- The four rules keep the copy faithful. -/
theorem guarded : EventLoop.Guarded table Failure.Environmental Faithful status
    (fun _ _ _ => True) where
  arms := by
    intro name s faithful _ usable interested
    -- A reader is not at the end of its file; a writer has something left, or the end.
    cases name with
    | readInput => exact Bool.not_eq_true _ |>.mp fun ended => usable (.inl ⟨rfl, ended⟩)
    | readSocket => exact Bool.not_eq_true _ |>.mp fun ended => usable (.inl ⟨rfl, ended⟩)
    | writeSocket =>
      cases shut : s.outboundShutdown with
      | false => exact shut
      | true =>
        -- After the shutdown the stream is empty, and the writer has no interest any more.
        have empty := (faithful.outbound.last shut).1
        simp [table, ByteStream.bufferEmpty, empty, shut] at interested
    | writeOutput =>
      cases shut : s.inboundShutdown with
      | false => exact shut
      | true =>
        -- The same for the output.
        have empty := (faithful.inbound.last shut).1
        simp [table, ByteStream.bufferEmpty, empty, shut] at interested
  cancels := by
    intro name s faithful _
    obtain ⟨next, cancelled, kept, list, armed⟩ := faithful.cancel name
    rw [cancelled]
    refine ⟨kept, ?_, ?_⟩
    · -- The cancelled rule is gone.
      change name ∈ next.cancelled
      rw [list]
      exact List.mem_append_right _ (List.mem_singleton.mpr rfl)
    · -- Every other rule is where it was.
      intro other different
      rw [List.mem_singleton] at different
      have same : other ∈ next.cancelled ↔ other ∈ s.cancelled := by
        rw [list]
        exact mem_cancelled_iff different
      exact ⟨mt same.mp, armed other, same.mpr⟩
  calls := by
    intro name answers s faithful live armed _
    apply (faithful.call name live armed answers).mono
    intro next called
    obtain ⟨kept, list, others, served⟩ := called
    refine ⟨kept, ?_, ?_, .inl served⟩
    · -- A call cancels nothing.
      change name ∉ next.cancelled
      rw [list]
      exact live
    · -- Every other rule is as it was.
      intro other different
      rw [List.mem_singleton] at different
      have same : other ∈ next.cancelled ↔ other ∈ s.cancelled := by rw [list]
      exact ⟨mt same.mp, others other different, same.mpr⟩
  polled := (by decide : "EventLoop: error on polled file descriptor" ∈ kernelErrors)

end BidirectionalStreamCopy

namespace CopyLoop

open BidirectionalStreamCopy (table status Faithful guarded)

/-- The loop of a faithful copy, whose rules are those that were not cancelled. -/
structure Copying (loop : CopyLoop) : Prop where
  /-- The copy is faithful. -/
  faithful : loop.copy.Faithful
  /-- A rule is left until it is cancelled. -/
  left : status.Left BidirectionalStreamCopy.rules loop.rules loop.copy

/-- Nothing has been copied yet. -/
theorem copying_start : Copying {} := by
  -- No file has ended, and no rule was cancelled.
  have spent : ∀ name : BidirectionalStreamCopy.RuleName,
      (false = true ∨ name ∈ ([] : List BidirectionalStreamCopy.RuleName)) ↔ False := by
    intro name
    simp
  refine ⟨⟨?_, ?_, nofun⟩, .refl fun _ _ => List.not_mem_nil⟩
  · exact BidirectionalStreamCopy.Carried.new.congr (spent _)
      (iff_false_intro List.not_mem_nil)
  · exact BidirectionalStreamCopy.Carried.new.congr (spent _)
      (iff_false_intro List.not_mem_nil)

/-- A turn keeps the copy faithful, or fails because of the environment. -/
theorem Copying.step {loop : CopyLoop} (copying : loop.Copying)
    (poll : PollResult BidirectionalStreamCopy.Answers) :
    Settles Failure.Environmental Copying (loop.step poll) := by
  unfold CopyLoop.step
  split
  · -- A loop that has returned does nothing.
    exact copying
  · -- A wait of the event loop keeps what all its rules keep.
    have distinct : loop.rules.Nodup := List.Nodup.sublist copying.left.order (by decide)
    apply (guarded.waitNextEvent distinct copying.faithful copying.left.live
      (.of_forall (fun _ _ _ => trivial) loop.rules loop.copy poll)).bind
    intro out _ waited
    obtain ⟨kept, outside, left⟩ := waited
    exact ⟨kept, copying.left.trans left outside⟩

/-- Whatever the kernel does, the program copies: what it has written is the front of what it has
read, in both directions, and it passes an end on only behind everything that came before it. It
fails only when its environment does: no busy wait is detected and no pop is overlong. -/
theorem streams_copied (polls : List (PollResult BidirectionalStreamCopy.Answers)) :
    Settles Failure.Environmental (fun last : CopyLoop =>
      last.copy.toSocket <+: last.copy.fromInput ∧ last.copy.toOutput <+: last.copy.fromSocket ∧
        (last.copy.outboundShutdown = true →
          last.copy.toSocket = last.copy.fromInput ∧ last.copy.InputSpent) ∧
        (last.copy.inboundShutdown = true →
          last.copy.toOutput = last.copy.fromSocket ∧ last.copy.SocketSpent))
      (runCalls step {} polls) := by
  have along : Throughout step (fun _ _ => True) ({} : CopyLoop) polls :=
    .of_forall polls _ fun _ _ => trivial
  -- Every turn keeps the copy faithful, whatever the kernel answers.
  apply (along.settles Copying (fun _ poll copying _ => copying.step poll) copying_start).mono
  intro last copying
  obtain ⟨outbound, inbound, -⟩ := copying.faithful
  exact ⟨⟨_, outbound.split⟩, ⟨_, inbound.split⟩, outbound.complete, inbound.complete⟩

/-- Cancelling a rule does not concern the interest of a rule that was added before it. -/
theorem rules_apart :
    BidirectionalStreamCopy.rules.Pairwise (fun name other => ∀ s next,
      (table other).cancel s = .ok next → (table name).interest next = (table name).interest s) := by
  unfold BidirectionalStreamCopy.rules
  refine .cons ?_ (.cons ?_ (.cons ?_ (.cons ?_ .nil)))
  -- Only a writer looks at the end of its stream, which no rule behind it sets.
  · -- Behind rule 1 come three others, none of which touches the stream that it fills.
    intro other member s next cancelled
    cases other with
    | readInput => simp at member
    | writeSocket | readSocket | writeOutput =>
      cases Except.ok.inj cancelled
      rfl
  · -- The same behind rule 2.
    intro other member s next cancelled
    cases other with
    | readInput | writeSocket => simp at member
    | readSocket | writeOutput =>
      cases Except.ok.inj cancelled
      rfl
  · -- And behind rule 3.
    intro other member s next cancelled
    cases other with
    | readInput | writeSocket | readSocket => simp at member
    | writeOutput =>
      cases Except.ok.inj cancelled
      rfl
  · intro other member
    cases member

/-- A loop that was not interrupted has returned because no rule that is left has any interest. -/
def Idle (loop : CopyLoop) : Prop :=
  loop.returned = true → ∀ name ∈ loop.rules, (table name).interest loop.copy = false

/-- A turn that is not interrupted returns only from an idle loop. -/
theorem idle_step {loop next : CopyLoop} {poll : PollResult BidirectionalStreamCopy.Answers}
    (order : loop.rules.Sublist BidirectionalStreamCopy.rules) (idle : loop.Idle)
    (undisturbed : poll ≠ .failed EventLoop.eintr) (stepped : loop.step poll = .ok next) :
    next.Idle := by
  unfold CopyLoop.step at stepped
  split at stepped
  · -- A loop that has returned stays as it is.
    cases Except.ok.inj stepped
    exact idle
  · -- The loop returns now: a signal has interrupted it, or no rule had any interest.
    obtain ⟨⟨ret, rules, copy⟩, waited, done⟩ := bind_eq_ok.mp stepped
    cases Except.ok.inj done
    intro returned
    cases of_decide_eq_true returned
    rcases EventLoop.waitNextEvent_exit waited with interrupted | ⟨pollfds, set, unasked, left⟩
    · exact absurd interrupted undisturbed
    · -- Without interest in the first round, a rule has none at the end of it either.
      intro name member
      dsimp only at member
      rw [left] at member
      obtain ⟨pollfd, inside, rfl⟩ := List.mem_map.mp member
      exact EventLoop.setUp_uninterested loop.rules loop.copy
        (List.Pairwise.sublist order rules_apart) set pollfd inside (unasked pollfd inside)

/-- When a reader would read if it were left and the writer has nothing to do, the end was passed
on. -/
theorem shut_of_idle {stream : ByteStream} {taken given : Bytes} {spent cut : Prop} {shut : Bool}
    (carried : BidirectionalStreamCopy.Carried stream taken given spent cut shut)
    (reader : 0 < stream.remainingCapacity → spent)
    (writer : (!stream.bufferEmpty || (stream.eof && !shut)) = false) : shut = true := by
  rw [Bool.or_eq_false_iff] at writer
  have empty : stream.buffer = [] := by
    -- A writer without interest has nothing to write.
    have none := writer.1
    unfold ByteStream.bufferEmpty at none
    simpa using none
  -- An empty stream has room, so its source must be spent, and with it the stream.
  have room : 0 < stream.remainingCapacity := by
    rw [carried.remaining, empty]
    decide
  have ended := carried.ends (reader room)
  have eof : stream.eof = true := by
    -- A spent and empty stream is at its end, and only the shutdown takes the interest from its
    -- writer.
    unfold ByteStream.eof ByteStream.inputEnded
    rw [ended, empty]
    rfl
  have done := writer.2
  rw [eof] at done
  simpa using done

/-- When the program returns although no signal has interrupted it, and its socket and its output
have not been cut off, then everything it has read was copied and both ends were passed on. -/
theorem copy_returns_complete {last : CopyLoop}
    (polls : List (PollResult BidirectionalStreamCopy.Answers))
    (undisturbed : ∀ poll ∈ polls, poll ≠ .failed EventLoop.eintr)
    (done : runCalls step {} polls = .ok last) (returned : last.returned = true) :
    (.writeSocket ∈ last.rules → last.copy.outboundShutdown = true ∧
      last.copy.toSocket = last.copy.fromInput ∧ last.copy.InputSpent) ∧
    (.writeOutput ∈ last.rules ∨ last.copy.output.closed = true →
      last.copy.inboundShutdown = true ∧
        last.copy.toOutput = last.copy.fromSocket ∧ last.copy.SocketSpent) := by
  have along : Throughout step (fun _ poll => poll ≠ .failed EventLoop.eintr) ({} : CopyLoop)
      polls := .of_forall polls _ undisturbed
  have both : last.Copying ∧ last.Idle := by
    -- The loop is faithful and idle at the end of every run without signals.
    refine along.invariant (fun loop => loop.Copying ∧ loop.Idle) ?_ ⟨copying_start, nofun⟩ done
    intro loop poll next held calm stepped
    obtain ⟨copying, idle⟩ := held
    exact ⟨(copying.step poll).of_ok stepped, idle_step copying.left.order idle calm stepped⟩
  obtain ⟨copying, idle⟩ := both
  have lacks := idle returned
  obtain ⟨outbound, inbound, closed⟩ := copying.faithful
  have clean : last.copy.outbound.error = false ∧ last.copy.inbound.error = false :=
    ⟨outbound.clean, inbound.clean⟩
  constructor
  · -- A reader that is still there has no interest, so there is no room; one that is gone is spent.
    intro left
    have shut : last.copy.outboundShutdown = true := by
      apply shut_of_idle outbound ?_ (lacks .writeSocket left)
      intro room
      by_cases kept : BidirectionalStreamCopy.RuleName.readInput ∈ last.rules
      · have none := lacks _ kept
        simp [table, clean, room] at none
      · exact .inr (copying.left.gone _ (by decide) kept)
    exact ⟨shut, outbound.complete shut⟩
  · -- The output is complete if its writer is still there, or because it was closed.
    intro left
    have shut : last.copy.inboundShutdown = true := by
      rcases left with left | gone
      · apply shut_of_idle inbound ?_ (lacks .writeOutput left)
        intro room
        by_cases kept : BidirectionalStreamCopy.RuleName.readSocket ∈ last.rules
        · have none := lacks _ kept
          simp [table, clean, room] at none
        · exact .inr (copying.left.gone _ (by decide) kept)
      · exact closed gone
    exact ⟨shut, inbound.complete shut⟩

/-- A wait in which one of the polled descriptors is ready. -/
def readyAt (position : Nat) (revents : Revents) (data : Bytes) (accepted : Nat) :
    PollResult BidirectionalStreamCopy.Answers :=
  let answers : BidirectionalStreamCopy.Answers :=
    ⟨.returned data, .returned accepted, .returned ()⟩
  .ready (List.replicate position (({} : Revents), answers) ++ [(revents, answers)])

/-- Two bytes and their end go out one by one, and one byte and its end come in. -/
def session : List (PollResult BidirectionalStreamCopy.Answers) :=
  [readyAt 0 { pollIn := true } [1, 2] 0, readyAt 1 { pollOut := true } [] 1,
    readyAt 0 { pollIn := true } [] 0, readyAt 0 { pollOut := true } [] 1,
    readyAt 1 { pollIn := true } [9] 0, readyAt 2 { pollOut := true } [] 1,
    readyAt 1 { pollIn := true } [] 0, readyAt 1 { pollOut := true } [] 0, .timeout]

/-- The session ends by itself, and everything was copied. -/
theorem copy_returns_complete_session :
    ∃ last : CopyLoop, runCalls step {} session = .ok last ∧ last.returned = true ∧
      last.copy.toSocket = [1, 2] ∧ last.copy.toSocket = last.copy.fromInput ∧
      last.copy.toOutput = [9] ∧ last.copy.toOutput = last.copy.fromSocket := by
  obtain ⟨last, done, returned, left, closed, out, inn⟩ : ∃ last : CopyLoop,
      runCalls step {} session = .ok last ∧ last.returned = true ∧ .writeSocket ∈ last.rules ∧
        last.copy.output.closed = true ∧ last.copy.toSocket = [1, 2] ∧
        last.copy.toOutput = [9] := exists_runCalls (by decide +kernel)
  have calm : ∀ poll ∈ session, poll ≠ .failed EventLoop.eintr := by
    -- No poll of the session is interrupted.
    unfold session
    simp [readyAt]
  obtain ⟨outbound, inbound⟩ := copy_returns_complete session calm done returned
  exact ⟨last, done, returned, out, (outbound left).2.1, inn, (inbound (.inr closed)).2.1⟩

end CopyLoop

end Sponge
