import Sponge.Tcp.SenderAccounts

/-! What a late duplicate of an accepted acknowledgment does to a sender. -/

namespace Sponge

namespace TCPSender

variable {s s' : TCPSender}

/-- An acknowledgment is beyond what was sent, or repeats what the sender knows already. -/
def BringsNothing (s : TCPSender) (ackno : WrappingInt32) (windowSize : UInt16) : Prop :=
  ∃ ackabs, unwrap ackno s.isn s.stream.bytesRead = .ok ackabs ∧
    (s.nextSeqnoAbsolute < ackabs ∨
      (windowSize.toNat = s.window ∧ offeredRight ackabs windowSize.toNat ≤ s.windowRight ∧
        -- The oldest outstanding segment is not wholly before the number.
        ∀ seg rest, s.outstandings = seg :: rest →
          ∃ first, unwrap seg.header.seqno s.isn s.stream.bytesRead = .ok first ∧
            ackabs ≤ sub64 (add64 seg.lengthInSequenceSpace first) 1))

/-- An acknowledgment leaves a sender alone exactly when it brings nothing. -/
theorem ackReceived_eq_self_iff {ackno : WrappingInt32} {windowSize : UInt16} :
    s.ackReceived ackno windowSize = .ok s ↔ s.BringsNothing ackno windowSize := by
  rw [ackReceived, BringsNothing, bind_eq_ok]
  refine exists_congr fun ackabs => and_congr_right fun _ => ?_
  -- Beyond the next position an acknowledgment is ignored altogether.
  by_cases beyond : s.nextSeqnoAbsolute < ackabs
  · simp [beyond]
  rw [if_neg beyond, bind_eq_ok]
  simp only [beyond, false_or]
  constructor
  · rintro ⟨⟨kept, inFlights⟩, drops, same⟩
    rw [pure_eq_ok, Except.ok.injEq] at same
    -- An unchanged sender has the same window, edge and queue.
    have window : windowSize.toNat = s.window := congrArg TCPSender.window same
    have queue : kept = s.outstandings := congrArg TCPSender.outstandings same
    have edge : (if decide (s.windowRight < offeredRight ackabs windowSize.toNat) = true then
        offeredRight ackabs windowSize.toNat else s.windowRight) = s.windowRight :=
      congrArg TCPSender.windowRight same
    refine ⟨window, ?_, ?_⟩
    · -- The edge would have moved.
      by_contra moved
      rw [if_pos (by simpa using moved)] at edge
      omega
    · -- The first segment decides whether anything is dropped.
      intro seg rest front
      rw [front, dropAcked] at drops
      obtain ⟨first, found, drops⟩ := bind_eq_ok.mp drops
      refine ⟨first, found, ?_⟩
      -- A first segment wholly before the number would have been dropped.
      by_contra before
      rw [if_pos (by omega)] at drops
      have shorter := (dropAcked_suffix drops).length_le
      rw [queue, front, List.length_cons] at shorter
      omega
  · rintro ⟨window, edge, front⟩
    -- The queue is scanned from the front, so the first segment decides.
    have drops : dropAcked s.isn s.stream.bytesRead ackabs s.outstandings s.inFlights =
        .ok (s.outstandings, s.inFlights) := by
      cases queue : s.outstandings with
      | nil => rfl
      | cons seg rest =>
        obtain ⟨first, found, kept⟩ := front seg rest queue
        rw [dropAcked, found, ok_bind]
        dsimp only
        rw [if_neg (by omega)]
    refine ⟨_, drops, ?_⟩
    have still : ¬ s.windowRight < sub64 (add64 ackabs s.window) 1 := by
      -- The offer does not reach beyond the edge.
      rw [← window]
      exact Nat.not_lt.mpr edge
    simp [pure_eq_ok, afterDrop, still, window]

/-- A sender that has drawn all consequences of the acknowledgments it accepted. -/
structure Settled (acks : List (Nat × Nat)) (s : TCPSender) (emitted : List TCPSegment) : Prop where
  /-- The counters are accounted for. -/
  accounted : s.Accounted emitted
  /-- The right edge is at least as far as every window that was offered. -/
  offered : ∀ ack ∈ acks, offeredRight ack.1 ack.2 ≤ s.windowRight
  /-- Every accepted number is the offset of the one received. -/
  numbers : ∀ ack ∈ acks, ack.1 < 2 ^ 32
  /-- Nothing is acknowledged before it is sent. -/
  sent : highest acks ≤ s.nextSeqnoAbsolute
  /-- The oldest outstanding segment reaches at least up to the highest acknowledged number. -/
  front : ∀ seg rest, s.outstandings = seg :: rest →
    highest acks ≤ s.base + seg.lengthInSequenceSpace

namespace Settled

variable {acks : List (Nat × Nat)} {emitted : List TCPSegment}

/-- The arithmetic of the sender is exact while fewer than `2 ^ 32` bytes have been read. -/
theorem steady (settled : Settled acks s emitted) (word : (payloads emitted).length < 2 ^ 32) :
    s.Steady := by
  have := settled.accounted.next_le
  exact ⟨by rw [Fits]; omega, settled.accounted.tracked.counted⟩

/-- The facts carry over to a sender that differs in other fields only. -/
theorem congr (settled : Settled acks s emitted) (accounted : s'.Accounted emitted)
    (next : s'.nextSeqnoAbsolute = s.nextSeqnoAbsolute)
    (outstandings : s'.outstandings = s.outstandings)
    (windowRight : s'.windowRight = s.windowRight) : Settled acks s' emitted := by
  -- The four fields are all that being settled is about.
  refine ⟨accounted, ?_, settled.numbers, ?_, ?_⟩
  · rw [windowRight]; exact settled.offered
  · rw [next]; exact settled.sent
  · rw [outstandings, base, next, outstandings]; exact settled.front

/-- An emitted segment goes to the end of the queue. -/
theorem extended (settled : Settled acks s emitted) {seg : TCPSegment}
    (accounted : s'.Accounted (emitted ++ [seg]))
    (next : s'.nextSeqnoAbsolute = s.nextSeqnoAbsolute + seg.lengthInSequenceSpace)
    (queue : s'.outstandings = s.outstandings ++ [seg])
    (windowRight : s'.windowRight = s.windowRight) : Settled acks s' (emitted ++ [seg]) := by
  have sent := settled.sent
  have total := settled.accounted.tracked.base_add
  -- The base is where the queue begins, which does not move.
  have base : s'.base = s.base := by
    rw [TCPSender.base, TCPSender.base, next, queue, occupied_append, occupied_cons, occupied_nil]
    omega
  refine ⟨accounted, ?_, settled.numbers, by omega, ?_⟩
  · -- No segment moves the edge of the window.
    rw [windowRight]; exact settled.offered
  · intro front rest split
    rw [queue] at split
    rw [base]
    -- The new segment is in front only if the queue was empty.
    cases old : s.outstandings with
    | nil =>
      rw [old, List.nil_append, List.cons.injEq] at split
      rw [old, occupied_nil] at total
      rw [← split.1]
      omega
    | cons first others =>
      rw [old, List.cons_append, List.cons.injEq] at split
      rw [← split.1]
      exact settled.front first others old

/-- Every way of emitting a segment keeps the sender settled. -/
theorem emits (settled : Settled acks s emitted) (fits : s.Fits) {seg : TCPSegment}
    (emits : Emits s seg s') : Settled acks s' (emitted ++ [seg]) := by
  have accounted := settled.accounted.emits fits emits
  -- All three ways append one segment to the queue.
  cases emits with
  | turn isOpen => exact settled.extended accounted rfl rfl rfl
  | probe closed idle waiting => exact settled.extended accounted rfl rfl rfl
  | probeFin closed idle ready empty => exact settled.extended accounted rfl rfl rfl

/-- An accepted acknowledgment settles the sender anew. -/
theorem acknowledged (settled : Settled acks s emitted) {ackabs windowSize : Nat}
    {gone kept : List TCPSegment} (split : s.outstandings = gone ++ kept)
    (low : (payloads emitted).length < 2 ^ 31) (accepted : ackabs ≤ s.nextSeqnoAbsolute)
    (stopped : ∀ seg rest, kept = seg :: rest →
      ackabs < s.base + occupied gone + seg.lengthInSequenceSpace) :
    Settled (acks ++ [(ackabs, windowSize)]) (s.acknowledged ackabs windowSize kept) emitted := by
  have old := settled.accounted
  have fins := old.lowFins low
  have total := old.tracked.base_add
  -- What was dropped and what is left are the queue of before.
  rw [split, occupied_append] at total
  have base : (s.acknowledged ackabs windowSize kept).base = s.base + occupied gone := by
    change s.nextSeqnoAbsolute - occupied kept = _
    omega
  refine ⟨⟨old.tracked.acknowledged split _ _, old.capacity, old.written, old.syns, ?_,
    fun _ => fins⟩, ?_, ?_, ?_, ?_⟩
  · exact fins.trans (Nat.le_add_right _ _)
  · intro ack member
    change _ ≤ max s.windowRight (offeredRight ackabs windowSize)
    rcases List.mem_append.mp member with earlier | now
    · -- An earlier offer is still below the edge.
      have := settled.offered ack earlier
      omega
    · -- The edge is at least what is offered now.
      rw [List.mem_singleton.mp now]
      exact Nat.le_max_right _ _
  · intro ack member
    rcases List.mem_append.mp member with earlier | now
    · -- An earlier number.
      exact settled.numbers ack earlier
    · -- The number of this acknowledgment is one of what was sent, which is little.
      rw [List.mem_singleton.mp now]
      have next := old.next_le_low low
      have : ackabs ≤ s.nextSeqnoAbsolute := accepted
      show ackabs < 2 ^ 32
      omega
  · -- The highest number is among those sent.
    rw [highest_concat]
    have sent := settled.sent
    change max (highest acks) ackabs ≤ s.nextSeqnoAbsolute
    omega
  · intro seg rest front
    have front : kept = seg :: rest := front
    have now := stopped seg rest front
    rw [highest_concat, base]
    -- The old front is either still there or wholly before the new one.
    cases dropped : gone with
    | nil =>
      have before := settled.front seg rest (by rw [split, dropped, front]; rfl)
      rw [dropped, occupied_nil] at now
      rw [occupied_nil]
      omega
    | cons first others =>
      have before := settled.front first (others ++ kept) (by rw [split, dropped]; rfl)
      rw [dropped, occupied_cons] at now
      rw [occupied_cons]
      omega

/-- A duplicate below the highest acknowledged number drops nothing and moves nothing. -/
theorem replayed (settled : Settled acks s emitted) {ackno : WrappingInt32} {windowSize : UInt16}
    (low : (payloads emitted).length < 2 ^ 31)
    (earlier : (offsetFrom ackno s.isn, windowSize.toNat) ∈ acks)
    (older : offsetFrom ackno s.isn < highest acks) :
    s.ackReceived ackno windowSize = .ok { s with window := windowSize.toNat } := by
  -- Few bytes were sent, so all counters are exact.
  have accounted := settled.accounted
  have sent := settled.sent
  have next := accounted.next_le_low low
  have reads := accounted.bytesRead_low low
  have edge : offeredRight (offsetFrom ackno s.isn) windowSize.toNat ≤ s.windowRight :=
    settled.offered _ earlier
  rcases ackReceived_low accounted.tracked (by omega) (by omega) ackno windowSize with
    ⟨beyond, _⟩ | ⟨_, gone, kept, split, received, reached, _⟩
  · -- A number below the highest one was sent, so it is not beyond the next position.
    omega
  · -- The front of the queue is past the duplicate, so nothing is dropped.
    have none : gone = [] := by
      by_contra some
      obtain ⟨first, others, dropped⟩ := List.exists_cons_of_ne_nil some
      have before := settled.front first (others ++ kept) (by rw [split, dropped]; rfl)
      have popped := reached some
      rw [dropped, occupied_cons] at popped
      omega
    rw [none, List.nil_append] at split
    have still : decide (s.windowRight < offeredRight (offsetFrom ackno s.isn) windowSize.toNat) =
        false := by
      simp only [decide_eq_false_iff_not]
      omega
    have flights := accounted.tracked.flights
    rw [received, TCPSender.acknowledged, afterDrop, still, Nat.max_eq_left edge, ← split,
      ← flights]
    simp

/-- A duplicate leaves a settled sender alone exactly when it brings nothing new. -/
theorem replay_iff (settled : Settled acks s emitted) {ackno : WrappingInt32} {windowSize : UInt16}
    (word : (payloads emitted).length < 2 ^ 32)
    (earlier : (offsetFrom ackno s.isn, windowSize.toNat) ∈ acks)
    (older : offsetFrom ackno s.isn < highest acks) :
    s.ackReceived ackno windowSize = .ok s ↔
      ((payloads emitted).length < 2 ^ 31 ∧ windowSize.toNat = s.window) ∨
        (2 ^ 31 ≤ (payloads emitted).length ∧
          (payloads emitted).length < offsetFrom ackno s.isn) := by
  rcases Nat.lt_or_ge (payloads emitted).length (2 ^ 31) with low | high
  · -- Only the window is overwritten, so it has to be the same.
    rw [settled.replayed low earlier older, Except.ok.injEq]
    constructor
    · -- The window is the one field that is written.
      intro same
      exact .inl ⟨low, congrArg TCPSender.window same⟩
    · rintro (⟨_, same⟩ | ⟨high, _⟩)
      · rw [same]
      · omega
  · -- The read counter shows a number near 2^64, against which small numbers do not unwrap.
    have next := settled.accounted.next_le
    have reads := settled.accounted.bytesRead_high high word
    rw [ackReceived_high (by omega) (by omega), reads]
    constructor
    · -- What returns the same sender was ignored.
      intro same
      split at same
      · simp at same
      · exact .inr ⟨high, by omega⟩
    · -- The number is beyond what was sent, so it is ignored.
      rintro (⟨low, _⟩ | ⟨_, beyond⟩)
      · omega
      · rw [if_neg (by omega)]

end Settled

end TCPSender

namespace SenderRun

/-- The invariant of a run with fewer than `2 ^ 32` accepted bytes. -/
structure Settled (t : SenderRun) : Prop where
  /-- The sender has drawn all consequences of the acknowledgments. -/
  sender : t.sender.Settled t.acks t.emitted
  /-- The accepted bytes are in the emitted payloads and the buffer. -/
  content : payloads t.emitted ++ t.sender.stream.buffer = t.accepted
  /-- There are fewer than `2 ^ 32`. -/
  word : t.accepted.length < 2 ^ 32

variable {t next : SenderRun} {call : SenderCall}

/-- A new sender is settled. -/
theorem settled_start (capacity : Nat) (retxTimeout : UInt16) (isn : WrappingInt32) :
    (start capacity retxTimeout isn).Settled := by
  refine ⟨⟨TCPSender.accounted_new capacity retxTimeout isn, ?_, ?_, ?_, ?_⟩, rfl, ?_⟩
  all_goals simp [start, TCPSender.new, highest]

/-- Fewer than `2 ^ 32` bytes have been read. -/
theorem Settled.reads_lt (settled : t.Settled) : (payloads t.emitted).length < 2 ^ 32 := by
  have word := settled.word
  rw [← settled.content, List.length_append] at word
  omega

/-- An acknowledgment that returns keeps a run settled. -/
theorem Settled.ack (settled : t.Settled) {ackno : WrappingInt32} {windowSize : UInt16}
    (steps : t.step (.ack ackno windowSize) = .ok next) : next.Settled := by
  simp only [step, bind_eq_ok, pure_eq_ok, Except.ok.injEq] at steps
  obtain ⟨sender, received, ackabs, found, rfl⟩ := steps
  have word := settled.reads_lt
  have accounted := settled.sender.accounted
  rcases Nat.lt_or_ge (payloads t.emitted).length (2 ^ 31) with low | high
  · -- The number unwraps to its offset from the initial one.
    have next := accounted.next_le_low low
    have reads := accounted.bytesRead_low low
    rw [unwrap_low _ _ (by omega), Except.ok.injEq] at found
    subst found
    rcases TCPSender.ackReceived_low accounted.tracked (by omega) (by omega) ackno windowSize with
      ⟨beyond, ignored⟩ | ⟨accepted, gone, kept, split, acknowledged, _, stopped⟩
    · -- The acknowledgment is ignored, and not noted.
      rw [ignored, Except.ok.injEq] at received
      subst received
      rw [noteAck, if_pos beyond]
      exact settled
    · -- The acknowledgment is accepted, and noted.
      rw [acknowledged, Except.ok.injEq] at received
      subst received
      rw [noteAck, if_neg (by omega)]
      exact ⟨settled.sender.acknowledged split low accepted stopped, settled.content,
        settled.word⟩
  · -- The counter is negative once half the range was sent.
    have next := accounted.next_le
    have reads := accounted.bytesRead_high high word
    rw [TCPSender.ackReceived_high (by omega) (by omega)] at received
    rw [unwrap_high _ _ (by omega) (by omega)] at found
    -- With a negative counter, what returns at all was ignored.
    split at received
    · -- The reading does not end, so the call has not returned.
      simp at received
    · rename_i ignored
      rw [if_neg ignored, Except.ok.injEq] at found
      rw [Except.ok.injEq] at received
      subst received
      rw [noteAck, if_pos (by omega)]
      exact settled

/-- Every call that returns keeps a run settled. -/
theorem Settled.step (settled : t.Settled) (steps : t.step call = .ok next)
    (below : next.accepted.length < 2 ^ 32) : next.Settled := by
  have accounted := settled.sender.accounted
  have word := settled.word
  cases call with
  | write data =>
    -- The accepted bytes are those sent and those buffered.
    rw [SenderRun.step, Except.ok.injEq] at steps
    subst steps
    have content : payloads t.emitted ++ (t.sender.stream.write data).1.buffer =
        t.accepted ++ data.take (t.sender.stream.write data).2 := by
      rw [ByteStream.write_buffer, ← List.append_assoc, settled.content]
    have size := congrArg List.length content
    rw [List.length_append] at size
    dsimp only at below
    refine ⟨settled.sender.congr (accounted.write data (by omega)) rfl rfl rfl, content, below⟩
  | endInput =>
    -- The end of the input is not counted.
    rw [SenderRun.step, Except.ok.injEq] at steps
    subst steps
    refine ⟨settled.sender.congr ?_ rfl rfl rfl, settled.content, word⟩
    exact ⟨accounted.tracked.congr rfl rfl rfl rfl rfl rfl, accounted.capacity, accounted.written,
      accounted.syns, accounted.fins, accounted.lowFins⟩
  | fillWindow =>
    simp only [SenderRun.step, bind_eq_ok, pure_eq_ok, Except.ok.injEq] at steps
    obtain ⟨sender, filled, rfl⟩ := steps
    -- The bytes that bound the counters are those sent so far and those still buffered.
    obtain ⟨new, out, _, ⟨kept, content⟩, _⟩ := TCPSender.fillWindow_invariant
      (fun mid sofar => TCPSender.Settled t.acks mid sofar ∧
        payloads sofar ++ mid.stream.buffer = t.accepted)
      (fun mid sofar holds => holds.1.steady (by
        have := congrArg List.length holds.2
        rw [List.length_append] at this
        omega))
      (fun mid seg after sofar holds emits => by
        have size := congrArg List.length holds.2
        rw [List.length_append] at size
        exact ⟨holds.1.emits (holds.1.steady (by omega)).fits emits,
          (emits.content sofar).trans holds.2⟩)
      ⟨settled.sender, settled.content⟩ filled
    rw [out, List.drop_left]
    exact ⟨kept, content, word⟩
  | ack ackno windowSize => exact settled.ack steps
  | tick ms =>
    -- Repeating a segment does not change the account.
    rw [SenderRun.step, Except.ok.injEq] at steps
    subst steps
    obtain ⟨again, timePassed, rto, recount, ticked, _⟩ := t.sender.tick_eq ms
    simp only [ticked]
    exact ⟨settled.sender.congr
      (accounted.congr (accounted.tracked.congr rfl rfl rfl rfl rfl rfl) rfl rfl rfl) rfl rfl rfl,
      settled.content, word⟩
  | collect =>
    -- The owner takes what was queued.
    rw [SenderRun.step, Except.ok.injEq] at steps
    subst steps
    exact ⟨settled.sender.congr
      (accounted.congr (accounted.tracked.congr rfl rfl rfl rfl rfl rfl) rfl rfl rfl) rfl rfl rfl,
      settled.content, word⟩

/-- No call takes back accepted bytes. -/
theorem accepted_le (steps : t.step call = .ok next) :
    t.accepted.length ≤ next.accepted.length := by
  -- Only a write accepts bytes.
  cases call with
  | write data =>
    rw [step, Except.ok.injEq] at steps
    rw [← steps, List.length_append]
    exact Nat.le_add_right _ _
  | fillWindow =>
    simp only [step, bind_eq_ok, pure_eq_ok, Except.ok.injEq] at steps
    obtain ⟨sender, _, rfl⟩ := steps
    exact Nat.le_refl _
  | ack ackno windowSize =>
    simp only [step, bind_eq_ok, pure_eq_ok, Except.ok.injEq] at steps
    obtain ⟨sender, _, ackabs, _, rfl⟩ := steps
    exact Nat.le_refl _
  | endInput | tick | collect =>
    rw [step, Except.ok.injEq] at steps
    rw [← steps]

/-- A run with fewer than `2 ^ 32` accepted bytes is settled. -/
theorem settled_run {capacity : Nat} {retxTimeout : UInt16} {isn : WrappingInt32}
    {calls : List SenderCall}
    (returned : runCalls step (start capacity retxTimeout isn) calls = .ok t)
    (below : t.accepted.length < 2 ^ 32) : t.Settled := by
  -- The invariant has the bound on the bytes as its assumption.
  refine runCalls_invariant (fun t => t.accepted.length < 2 ^ 32 → t.Settled) ?_
    (fun _ => settled_start capacity retxTimeout isn) returned below
  intro state call next held steps below
  have grows := accepted_le steps
  exact (held (by omega)).step steps below

/-- A late duplicate is harmless exactly when it brings nothing: its window is the current one. -/
theorem duplicate_harmless_iff (capacity : Nat) (retxTimeout : UInt16) (isn : WrappingInt32)
    (calls : List SenderCall) (t : SenderRun)
    (returned : runCalls step (start capacity retxTimeout isn) calls = .ok t)
    (ackabs : Nat) (windowSize : UInt16) (earlier : (ackabs, windowSize.toNat) ∈ t.acks)
    (older : ackabs < highest t.acks) :
    (t.sender.ackReceived (wrap ackabs t.sender.isn) windowSize = .ok t.sender ↔
        t.sender.BringsNothing (wrap ackabs t.sender.isn) windowSize) ∧
      (t.accepted.length < 2 ^ 32 →
        (t.sender.BringsNothing (wrap ackabs t.sender.isn) windowSize ↔
          ((payloads t.emitted).length < 2 ^ 31 ∧ windowSize.toNat = t.sender.window) ∨
            (2 ^ 31 ≤ (payloads t.emitted).length ∧ (payloads t.emitted).length < ackabs))) := by
  refine ⟨TCPSender.ackReceived_eq_self_iff, fun below => ?_⟩
  have settled := settled_run returned below
  -- Accepted numbers are below one turn, so they are their own offsets.
  have same : offsetFrom (wrap ackabs t.sender.isn) t.sender.isn = ackabs := by
    have word : ackabs < 2 ^ 32 := settled.sender.numbers _ earlier
    rw [offsetFrom_wrap, Nat.mod_eq_of_lt word]
  rw [← TCPSender.ackReceived_eq_self_iff]
  have replay := settled.sender.replay_iff settled.reads_lt (by rw [same]; exact earlier)
    (by rw [same]; exact older)
  rwa [same] at replay

/-- Three bytes acknowledged one after another under the same window. -/
def steadyWindow : List SenderCall :=
  [.fillWindow, .ack ⟨1⟩ 2, .write [1, 2, 3], .fillWindow, .ack ⟨3⟩ 2, .fillWindow]

/-- A duplicate that repeats the current window changes nothing. -/
theorem duplicate_harmless_iff_steady :
    ∃ t, runCalls step (start 10 100 ⟨0⟩) steadyWindow = .ok t ∧
      (1, (2 : UInt16).toNat) ∈ t.acks ∧ 1 < highest t.acks ∧
      t.sender.ackReceived (wrap 1 t.sender.isn) 2 = .ok t.sender := by
  -- The run is evaluated, and the duplicate is one of its acknowledgments.
  have ran : ∃ t, runCalls step (start 10 100 ⟨0⟩) steadyWindow = .ok t ∧
      (1, (2 : UInt16).toNat) ∈ t.acks ∧ 1 < highest t.acks ∧ t.accepted.length < 2 ^ 32 ∧
      (payloads t.emitted).length < 2 ^ 31 ∧ (2 : UInt16).toNat = t.sender.window :=
    exists_runCalls (by decide +kernel)
  obtain ⟨t, returned, earlier, older, below, low, window⟩ := ran
  obtain ⟨harmless, simpler⟩ := duplicate_harmless_iff 10 100 ⟨0⟩ _ t returned 1 2 earlier older
  exact ⟨t, returned, earlier, older, harmless.mpr ((simpler below).mpr (.inl ⟨low, window⟩))⟩

/-- A duplicate with an outdated window overwrites the current one. -/
theorem duplicate_overwrites_window :
    ∃ t, runCalls step (start 10 100 ⟨0⟩)
        [.fillWindow, .ack ⟨1⟩ 10, .write [1, 2, 3, 4, 5, 6, 7], .fillWindow, .ack ⟨8⟩ 0] = .ok t ∧
      (1, (10 : UInt16).toNat) ∈ t.acks ∧ 1 < highest t.acks ∧ t.sender.window = 0 ∧
      t.sender.ackReceived (wrap 1 t.sender.isn) 10 = .ok { t.sender with window := 10 } :=
  exists_runCalls (by decide +kernel)

end SenderRun

end Sponge
