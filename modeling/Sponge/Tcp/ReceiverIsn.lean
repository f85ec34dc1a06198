import Sponge.Stream.ReassemblerGrowth
import Sponge.Tcp.ReceiverLaws

/-! The acknowledgment number of a receiver follows its last SYN, not its first. -/

namespace Sponge

namespace TCPReceiver

/-- A handled segment is noted and at most one payload is handed over. -/
theorem segmentReceived_ok {r r' : TCPReceiver} {seg : TCPSegment}
    (received : r.segmentReceived seg = .ok r') :
    r'.isn = (r.noteSyn seg.header).isn ∧ r'.syned = (r.noteSyn seg.header).syned ∧
      (r'.reassembler = r.reassembler ∨
        ∃ idx, r.reassembler.pushSubstring seg.payload idx seg.header.fin = .ok r'.reassembler) := by
  -- Wherever the payload is placed, the initial number is not touched again.
  have pushed : ∀ {idx : Nat}, (r.noteSyn seg.header).push seg idx = .ok r' →
      r'.isn = (r.noteSyn seg.header).isn ∧ r'.syned = (r.noteSyn seg.header).syned ∧
      (r'.reassembler = r.reassembler ∨
        ∃ idx, r.reassembler.pushSubstring seg.payload idx seg.header.fin =
          .ok r'.reassembler) := by
    intro idx found
    obtain ⟨reassembler, pushes, rfl⟩ := push_ok.mp found
    rw [noteSyn_reassembler] at pushes
    exact ⟨rfl, rfl, .inr ⟨idx, pushes⟩⟩
  rw [segmentReceived] at received
  cases syn : seg.header.syn with
  | true =>
    -- A SYN places its payload at index zero.
    simp only [syn, Bool.not_true, Bool.and_false, Bool.false_eq_true, if_false, if_true]
      at received
    exact pushed received
  | false =>
    have same : r.noteSyn seg.header = r := by simp [noteSyn, syn]
    have kept : (.ok r : Except Fault TCPReceiver) = .ok r' → r = r' := Except.ok.inj
    simp only [syn, Bool.not_false, Bool.and_true, Bool.false_eq_true, if_false] at received
    -- Without a SYN, the segment may come too early or have no index.
    split at received
    · -- The segment comes before any SYN.
      rw [← kept received, same]
      exact ⟨rfl, rfl, .inl rfl⟩
    · obtain ⟨abs, _, placed⟩ := bind_eq_ok.mp received
      split at placed
      · -- The segment claims the position of the SYN.
        rw [pure_eq_ok] at placed
        rw [← kept placed, same]
        exact ⟨rfl, rfl, .inl rfl⟩
      · -- The payload has an index.
        rw [← same] at placed
        exact pushed placed

end TCPReceiver

namespace ReceiverRun

/-- The sequence number of the first segment that carries SYN. -/
def firstSyn : List ReceiverCall → Option WrappingInt32
  | [] => none
  | .segment seg :: rest => if seg.header.syn then some seg.header.seqno else firstSyn rest
  | .reader _ :: rest => firstSyn rest

/-- The absolute number of the next expected position, counting SYN and FIN. -/
def ackPoint (t : ReceiverRun) : Nat :=
  1 + t.receiver.streamOut.bytesWritten + if t.receiver.streamOut.inputEnded then 1 else 0

/-- The acknowledgment number is the initial one plus the position, and never moves back. -/
def FollowsFrom (capacity : Nat) (i : WrappingInt32) (calls : List ReceiverCall) : Prop :=
  ∀ before t, before <+: calls → runCalls step (start capacity) before = .ok t →
    firstSyn before = some i →
    t.receiver.ackno.map (fun ackno => ackno.rawValue.toNat) =
        some ((i.rawValue.toNat + t.ackPoint) % 2 ^ 32) ∧
      ∀ call next, before ++ [call] <+: calls → t.step call = .ok next →
        t.ackPoint ≤ next.ackPoint

variable {t next : ReceiverRun} {call : ReceiverCall}

/-- The acknowledgment number counts from the sequence number noted last. -/
theorem ackno_eq (syned : t.receiver.syned = true) :
    t.receiver.ackno.map (fun ackno => ackno.rawValue.toNat) =
      some ((t.receiver.isn.rawValue.toNat + t.ackPoint) % 2 ^ 32) := by
  -- The sums of the source are taken modulo the size of a word, as the wrapping is.
  simp only [TCPReceiver.ackno, syned, ackPoint, add64, Bool.not_true, Bool.false_eq_true,
    if_false, Option.map_some, wrap_toNat]
  split
  · congr 1; omega
  · congr 1; omega

/-- A reader's call that returns hands over leading bytes, or leaves the run alone. -/
theorem step_reader {call : ByteStream.ReaderCall} (steps : t.step (.reader call) = .ok next) :
    next = t ∨ ∃ len ≤ t.receiver.streamOut.buffer.length,
      next = t.served (t.receiver.streamOut.buffer.take len) (t.receiver.streamOut.taken len) := by
  simp only [step, bind_eq_ok, pure_eq_ok, Except.ok.injEq] at steps
  obtain ⟨served, serves, rfl⟩ := steps
  rcases ByteStream.serve_ok serves with ⟨len, inside, rfl⟩ | rfl
  · -- Bytes were taken.
    exact .inr ⟨len, inside, rfl⟩
  · -- The call took nothing.
    exact .inl (by simp [ReceiverRun.served])

/-- A segment's call that returns left the popped bytes alone. -/
theorem step_segment {seg : TCPSegment} (steps : t.step (.segment seg) = .ok next) :
    next.popped = t.popped ∧ t.receiver.segmentReceived seg = .ok next.receiver := by
  simp only [step, bind_eq_ok, pure_eq_ok, Except.ok.injEq] at steps
  obtain ⟨receiver, received, rfl⟩ := steps
  exact ⟨rfl, received⟩

/-- Handing bytes over leaves the assembled bytes as they are. -/
theorem assembled_served (t : ReceiverRun) (len : Nat) :
    (t.served (t.receiver.streamOut.buffer.take len)
      (t.receiver.streamOut.taken len)).assembled = t.assembled := by
  simp only [assembled, StreamReassembler.assembled, served, TCPReceiver.withOutput_output,
    ByteStream.taken, TCPReceiver.streamOut, StreamReassembler.streamOut, List.append_assoc,
    List.take_append_drop]

/-- No call takes back assembled bytes. -/
theorem assembled_le (steps : t.step call = .ok next) : t.assembled ≤ next.assembled := by
  -- A pop moves bytes to what was popped, and a push only adds to the buffer.
  cases call with
  | segment seg =>
    obtain ⟨popped, received⟩ := step_segment steps
    simp only [assembled, StreamReassembler.assembled, List.length_append, popped]
    rcases (TCPReceiver.segmentReceived_ok received).2.2 with same | ⟨idx, pushed⟩
    · rw [same]
    · have := StreamReassembler.pushSubstring_buffer_le pushed
      omega
  | reader call =>
    rcases step_reader steps with rfl | ⟨len, _, rfl⟩
    · exact Nat.le_refl _
    · rw [assembled_served]

/-- The counters of the inbound stream are those of its bytes. -/
def Counted (t : ReceiverRun) : Prop := t.receiver.streamOut.Counts t.popped

/-- The buffered bytes are among the assembled ones. -/
theorem buffer_le_assembled (t : ReceiverRun) :
    t.receiver.streamOut.buffer.length ≤ t.assembled := by
  rw [assembled, StreamReassembler.assembled, List.length_append]
  exact Nat.le_add_left _ _

/-- With a small buffer, a call keeps the counters and never reopens the stream. -/
theorem Counted.step (counted : t.Counted) (steps : t.step call = .ok next)
    (short : next.receiver.streamOut.buffer.length < 2 ^ 31) :
    next.Counted ∧ (t.receiver.streamOut.ended = true → next.receiver.streamOut.ended = true) := by
  cases call with
  | segment seg =>
    obtain ⟨popped, received⟩ := step_segment steps
    rw [Counted, popped]
    -- The segment is dropped, or its payload is pushed.
    rcases (TCPReceiver.segmentReceived_ok received).2.2 with same | ⟨idx, pushed⟩
    · simp only [TCPReceiver.streamOut, same]
      exact ⟨counted, id⟩
    · exact StreamReassembler.pushSubstring_grows counted pushed short
  | reader call =>
    rcases step_reader steps with rfl | ⟨len, inside, rfl⟩
    · exact ⟨counted, id⟩
    · exact ⟨ByteStream.Counts.taken counted inside, id⟩

/-- With exact counters, the position counts the assembled bytes. -/
theorem Counted.ackPoint_eq (counted : t.Counted) (few : t.assembled < 2 ^ 31) :
    t.ackPoint = 1 + t.assembled + if t.receiver.streamOut.ended then 1 else 0 := by
  have written : t.receiver.streamOut.bytesWritten = t.assembled :=
    -- The write counter is exact as long as it has not wrapped.
    ByteStream.Counts.bytesWritten counted few
  rw [ackPoint, written]
  rfl

/-- The position never moves back. -/
theorem Counted.ackPoint_le (counted : t.Counted) (steps : t.step call = .ok next)
    (few : next.assembled < 2 ^ 31) : t.ackPoint ≤ next.ackPoint := by
  -- The assembled bytes become more, and an end that was reached stays.
  have grows := assembled_le steps
  obtain ⟨kept, ended⟩ := counted.step steps (Nat.lt_of_le_of_lt next.buffer_le_assembled few)
  rw [counted.ackPoint_eq (by omega), kept.ackPoint_eq few]
  cases finished : t.receiver.streamOut.ended with
  | false => simp only [Bool.false_eq_true, if_false]; omega
  | true => simp only [ended finished, if_true]; omega

/-- The counters are exact wherever a run has gone below the sign bit. -/
theorem counted_run {capacity : Nat} {calls : List ReceiverCall}
    (returned : runCalls step (start capacity) calls = .ok t) (few : t.assembled < 2 ^ 31) :
    t.Counted := by
  -- The invariant of the run has the bound on the bytes as its assumption.
  refine runCalls_invariant (fun t => t.assembled < 2 ^ 31 → t.Counted) ?_
    (fun _ => ByteStream.counts_new capacity) returned few
  intro state call next held steps few
  have grows := assembled_le steps
  exact ((held (by omega)).step steps (Nat.lt_of_le_of_lt next.buffer_le_assembled few)).1

/-- A run never takes back assembled bytes. -/
theorem assembled_run_le {calls : List ReceiverCall} {start last : ReceiverRun}
    (returned : runCalls step start calls = .ok last) : start.assembled ≤ last.assembled :=
  runCalls_invariant (fun t => start.assembled ≤ t.assembled)
    (fun _ _ _ held steps => held.trans (assembled_le steps)) (Nat.le_refl _) returned

/-- A call that carries SYN sets the initial number, and every other call keeps it. -/
theorem isn_step (steps : t.step call = .ok next) :
    match firstSyn [call] with
    | some i => next.receiver.isn = i ∧ next.receiver.syned = true
    | none => next.receiver.isn = t.receiver.isn ∧ next.receiver.syned = t.receiver.syned := by
  cases call with
  | segment seg =>
    obtain ⟨_, received⟩ := step_segment steps
    obtain ⟨isn, syned, _⟩ := TCPReceiver.segmentReceived_ok received
    rw [isn, syned]
    -- Only a SYN is noted.
    cases syn : seg.header.syn with
    | true => simp [firstSyn, syn, TCPReceiver.noteSyn]
    | false => simp [firstSyn, syn, TCPReceiver.noteSyn]
  | reader call =>
    rcases step_reader steps with rfl | ⟨len, _, rfl⟩
    · exact ⟨rfl, rfl⟩
    · exact ⟨rfl, rfl⟩

/-- The first SYN of two runs in a row. -/
theorem firstSyn_append (calls more : List ReceiverCall) :
    firstSyn (calls ++ more) = (firstSyn calls).or (firstSyn more) := by
  -- Reads are passed over, and the search ends at a SYN.
  induction calls with
  | nil => simp [firstSyn]
  | cons call rest ih =>
    cases call with
    | segment seg =>
      simp only [List.cons_append, firstSyn]
      split
      · rfl
      · exact ih
    | reader call => simpa only [List.cons_append, firstSyn] using ih

/-- When every SYN repeats the first one, a receiver keeps its initial number. -/
theorem isn_fixed {capacity : Nat} {i : WrappingInt32} {calls : List ReceiverCall}
    (repeated : ∀ seg, .segment seg ∈ calls → seg.header.syn = true → seg.header.seqno = i)
    (returned : runCalls step (start capacity) calls = .ok t) (first : firstSyn calls = some i) :
    t.receiver.isn = i ∧ t.receiver.syned = true := by
  -- Induction on the calls from the last one, which may carry a SYN of its own.
  induction calls using List.reverseRecOn generalizing t with
  | nil => simp [firstSyn] at first
  | append_singleton calls call ih =>
    obtain ⟨mid, before, last⟩ := runCalls_append_ok.mp returned
    obtain ⟨after, steps, done⟩ := runCalls_cons_ok.mp last
    rw [runCalls_nil, Except.ok.injEq] at done
    subst done
    have noted := isn_step steps
    rw [firstSyn_append] at first
    cases syn : firstSyn [call] with
    | some j =>
      rw [syn] at noted
      -- The last call carries SYN itself, with the same sequence number.
      cases call with
      | reader call => simp [firstSyn] at syn
      | segment seg =>
        simp only [firstSyn] at syn
        split at syn
        · rename_i carries
          rw [Option.some.injEq, repeated seg (by simp) carries] at syn
          rw [syn]
          exact noted
        · simp at syn
    | none =>
      -- The last call carries none, so the number is the one of before.
      rw [syn] at noted first
      rw [Option.or_none] at first
      obtain ⟨isn, syned⟩ := ih (fun seg member => repeated seg (by simp [member])) before first
      exact ⟨noted.1.trans isn, noted.2.trans syned⟩

/-- The acknowledgment number counts from the first SYN exactly when every SYN repeats it. -/
theorem follows_iff_syn_repeated (capacity : Nat) (i : WrappingInt32) (calls : List ReceiverCall)
    (t : ReceiverRun) (returned : runCalls step (start capacity) calls = .ok t)
    (few : t.assembled < 2 ^ 31) (first : firstSyn calls = some i) :
    FollowsFrom capacity i calls ↔
      ∀ seg, .segment seg ∈ calls → seg.header.syn = true → seg.header.seqno = i := by
  constructor
  · intro follows seg member syn
    -- Right after that segment, the number noted last is its own.
    obtain ⟨before, after, rfl⟩ := List.append_of_mem member
    rw [show before ++ .segment seg :: after = before ++ [.segment seg] ++ after by simp]
      at returned first follows
    obtain ⟨state, reached, _⟩ := runCalls_append_ok.mp returned
    obtain ⟨mid, _, last⟩ := runCalls_append_ok.mp reached
    obtain ⟨next, steps, done⟩ := runCalls_cons_ok.mp last
    rw [runCalls_nil, Except.ok.injEq] at done
    subst done
    have carries : firstSyn [.segment seg] = some seg.header.seqno := by simp [firstSyn, syn]
    have noted := isn_step steps
    rw [carries] at noted
    have early : firstSyn (before ++ [.segment seg]) = some i := by
      rw [firstSyn_append, firstSyn_append, carries] at first
      rw [firstSyn_append, carries]
      -- The first SYN is in the part before the segment, or it is the segment's.
      cases found : firstSyn before with
      | some j => simpa [found] using first
      | none => simpa [found] using first
    have formula := (follows _ _ (List.prefix_append _ _) reached early).1
    rw [ackno_eq noted.2, noted.1, Option.some.injEq] at formula
    have word := seg.header.seqno.rawValue.toNat_lt
    have word' := i.rawValue.toNat_lt
    exact WrappingInt32.ext (UInt32.toNat_inj.mp (by omega))
  · -- The first SYN is repeated, so the number noted last is always the same.
    rintro repeated before s ⟨after, rfl⟩ reached early
    obtain ⟨state, reached', rest⟩ := runCalls_append_ok.mp returned
    rw [reached, Except.ok.injEq] at reached'
    subst reached'
    -- Later calls assemble more, so the bound holds here as well.
    have grows := assembled_run_le rest
    obtain ⟨isn, syned⟩ := isn_fixed (fun seg member => repeated seg (by simp [member])) reached
      early
    refine ⟨by rw [ackno_eq syned, isn], ?_⟩
    rintro call next ⟨later, same⟩ steps
    -- The call is the first of the rest of the run.
    rw [List.append_assoc, List.append_cancel_left_eq, List.singleton_append] at same
    rw [← same] at rest
    obtain ⟨next', steps', rest'⟩ := runCalls_cons_ok.mp rest
    rw [steps, Except.ok.injEq] at steps'
    subst steps'
    have remaining := assembled_run_le rest'
    exact (counted_run reached (by omega)).ackPoint_le steps (by omega)

/-- A SYN that arrives twice, with the data out of order around its second copy. -/
def repeatedSyn : List ReceiverCall :=
  [.segment { header := { seqno := ⟨4294967295⟩, syn := true } },
    .segment { header := { seqno := ⟨1⟩ }, payload := [2] },
    .segment { header := { seqno := ⟨4294967295⟩, syn := true } },
    .segment { header := { seqno := ⟨0⟩, fin := true }, payload := [1, 2] }]

/-- A repeated SYN leaves the acknowledgment number counting from the first. -/
theorem follows_iff_syn_repeated_twice :
    FollowsFrom 8 ⟨4294967295⟩ repeatedSyn ↔
      ∀ seg, .segment seg ∈ repeatedSyn → seg.header.syn = true →
        seg.header.seqno = ⟨4294967295⟩ := by
  have ran : ∃ t, runCalls step (start 8) repeatedSyn = .ok t ∧ t.assembled < 2 ^ 31 :=
    -- The run is evaluated for the number of its bytes.
    exists_runCalls (by decide +kernel)
  obtain ⟨t, returned, few⟩ := ran
  exact follows_iff_syn_repeated 8 _ _ t returned few (by decide)

/-- A second SYN with another sequence number rebases the acknowledgment number. -/
theorem second_syn_rebases :
    ∃ t, runCalls step (start 8)
        [.segment { header := { seqno := ⟨0⟩, syn := true } },
          .segment { header := { seqno := ⟨100⟩, syn := true } }] = .ok t ∧
      t.assembled < 2 ^ 31 ∧
      firstSyn [.segment { header := { seqno := ⟨0⟩, syn := true } },
        .segment { header := { seqno := ⟨100⟩, syn := true } }] = some ⟨0⟩ ∧
      t.ackPoint = 1 ∧ t.receiver.ackno = some ⟨101⟩ :=
  exists_runCalls (by decide +kernel)

end ReceiverRun

end Sponge
