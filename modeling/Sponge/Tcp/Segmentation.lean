import Sponge.Tcp.FillProgress

/-! Filling an open window cuts the waiting bytes into full segments, with the FIN on the last. -/

namespace Sponge

/-- Bytes cut into segments of 1000 from a position on, the last of which may be shorter and may
carry FIN. Without bytes, there is a segment only for the FIN. -/
def segmentation (isn : WrappingInt32) (next : Nat) (bytes : Bytes) (fin : Bool) :
    List TCPSegment :=
  let count := max ((bytes.length + 999) / 1000) fin.toNat
  (List.range count).map fun i => {
    header := { seqno := wrap (next + 1000 * i) isn, fin := fin && decide (i + 1 = count) }
    payload := (bytes.drop (1000 * i)).take 1000 }

section Segmentation

variable {isn : WrappingInt32} {next : Nat} {bytes : Bytes} {fin : Bool}

/-- Nothing is cut into no segments. -/
theorem segmentation_nil : segmentation isn next [] false = [] := rfl

/-- Bytes that fit one segment, or none with the FIN, make one segment. -/
theorem segmentation_last (short : bytes.length ≤ 1000) (some : bytes ≠ [] ∨ fin = true) :
    segmentation isn next bytes fin =
      [{ header := { seqno := wrap next isn, fin := fin }, payload := bytes }] := by
  -- Less than a full segment is one segment, and so is a lone FIN.
  have count : max ((bytes.length + 999) / 1000) fin.toNat = 1 := by
    have bit := Bool.toNat_le fin
    rcases some with waiting | carries
    · have := List.length_pos_iff.mpr waiting
      omega
    · rw [carries, Bool.toNat_true]
      omega
  simp [segmentation, count, List.take_of_length_le short]

/-- More bytes than fit one segment begin with a full one. -/
theorem segmentation_cons (long : 1000 < bytes.length) :
    segmentation isn next bytes fin =
      { header := { seqno := wrap next isn }, payload := bytes.take 1000 } ::
        segmentation isn (next + 1000) (bytes.drop 1000) fin := by
  have bit := Bool.toNat_le fin
  -- What is left still needs a segment, so the FIN is not on the first.
  obtain ⟨rest, count, more⟩ : ∃ rest, max ((bytes.length + 999) / 1000) fin.toNat = rest + 1 ∧
      max (((bytes.drop 1000).length + 999) / 1000) fin.toNat = rest := by
    rw [List.length_drop]
    exact ⟨_, by omega, rfl⟩
  have later : rest ≠ 0 := by
    rw [← more, List.length_drop]
    omega
  simp only [segmentation, count, more, List.range_succ_eq_map, List.map_cons, List.map_map]
  refine List.cons_eq_cons.mpr ⟨?_, ?_⟩
  · -- The first segment is full, and not the last.
    simp [later]
  · -- The others are those of the remaining bytes, counted from one position later.
    refine List.map_congr_left fun i _ => ?_
    simp only [Function.comp_apply, List.drop_drop, Nat.succ_eq_add_one, Nat.add_left_inj]
    rw [show next + 1000 * (i + 1) = next + 1000 + 1000 * i by omega,
      show 1000 * (i + 1) = 1000 + 1000 * i by omega]

end Segmentation

namespace TCPSender

/-- The number of positions between the next one and the right edge of the window. -/
def room (s : TCPSender) : Nat := s.windowRight + 1 - s.nextSeqnoAbsolute

/-- The FIN is to be sent: the input has ended, no FIN was emitted, and behind the waiting bytes
there is room for it. -/
def finDue (s : TCPSender) (emitted : List TCPSegment) : Bool :=
  s.stream.inputEnded && emitted.all (fun seg => !seg.header.fin) &&
    decide (s.stream.bufferSize + 1 ≤ s.room)

/-- The segments that a sender past its SYN owes to an open window. -/
def owed (s : TCPSender) (emitted : List TCPSegment) : List TCPSegment :=
  segmentation s.isn s.nextSeqnoAbsolute (s.stream.buffer.take s.room) (s.finDue emitted)

variable {s s' : TCPSender} {accepted : Bytes} {emitted : List TCPSegment}

/-- No segment carries FIN exactly when every one is found without it. -/
theorem all_unfinished_iff : emitted.all (fun seg => !seg.header.fin) = true ↔ NoFin emitted := by
  simp [NoFin]

/-- When the FIN is to be sent. -/
theorem finDue_iff : s.finDue emitted = true ↔ s.stream.ended = true ∧ NoFin emitted ∧
    s.stream.buffer.length + 1 ≤ s.room := by
  simp only [finDue, Bool.and_eq_true, decide_eq_true_eq, all_unfinished_iff, and_assoc]
  rfl

/-- With nothing waiting inside the window and no FIN due, nothing is owed. -/
theorem owed_nil (nothing : s.room = 0 ∨ s.stream.buffer = []) (fin : s.finDue emitted = false) :
    s.owed emitted = [] := by
  have bytes : s.stream.buffer.take s.room = [] := by
    -- Nothing is inside the window, or nothing is waiting.
    rcases nothing with full | empty
    · rw [full, List.take_zero]
    · rw [empty, List.take_nil]
  rw [owed, bytes, fin, segmentation_nil]

/-- A sender whose window counts as filled owes nothing. -/
theorem Orderly.owed_filled (orderly : s.Orderly accepted emitted)
    (started : 0 < s.nextSeqnoAbsolute) (filled : s.windowFilled = true) : s.owed emitted = [] := by
  have nothing : s.room = 0 ∨ s.stream.buffer = [] ∧ s.readyToFin = false := by
    -- A window that is not filled would have room, and something to fill it with.
    by_contra more
    obtain ⟨inside, waiting⟩ := not_or.mp more
    have isOpen : s.windowFilled = false := by
      refine windowFilled_eq_false.mpr ⟨by rw [room] at inside; omega, fun _ => ?_⟩
      by_cases empty : s.stream.buffer = []
      · exact .inr (by simpa [empty] using waiting)
      · exact .inl empty
    simp [filled] at isOpen
  refine owed_nil (nothing.imp_right And.left) ?_
  by_contra due
  obtain ⟨ended, none, fits⟩ := finDue_iff.mp (by simpa using due)
  rcases nothing with full | ⟨empty, unready⟩
  · -- The window has no room for a FIN.
    omega
  · -- Without a FIN, only the position of the FIN has not been sent.
    have next := orderly.next_of_noFin none
    have content := orderly.content
    have small := orderly.small
    rw [empty, List.append_nil] at content
    rw [content, if_neg (mt orderly.emitted_nil_iff.mp (by omega))] at next
    simp only [readyToFin, ByteStream.eof, ByteStream.inputEnded, ended, empty,
      orderly.bytesWritten, List.length_nil, beq_self_eq_true, Bool.true_and,
      decide_eq_false_iff_not] at unready
    rw [add64_of_lt (by omega)] at unready
    omega

/-- Past the SYN, a turn of the loop sends as many bytes as fit the window and one segment. -/
theorem turnSize_eq (started : 0 < s.nextSeqnoAbsolute) (isOpen : s.windowFilled = false)
    (word : s.windowRight < 2 ^ 64) :
    s.turnSize = min (s.stream.buffer.take s.room).length 1000 := by
  obtain ⟨inside, _⟩ := windowFilled_eq_false.mp isOpen
  rw [turnSize, payloadRoom_eq inside word, if_neg (by omega), List.length_take, room]
  omega

/-- Past the SYN, no turn of the loop sends it again. -/
theorem turnSyn_eq_false (started : 0 < s.nextSeqnoAbsolute) : s.turnSyn = false := by
  rw [turnSyn, decide_eq_false_iff_not]
  omega

/-- Without SYN, a segment occupies its bytes and the FIN. -/
theorem nextSegment_length_fin {size : Nat} (inside : size ≤ s.stream.buffer.length) (fin : Bool) :
    (s.nextSegment size false fin).lengthInSequenceSpace = size + fin.toNat := by
  -- Each flag takes one position beside the payload.
  have length := nextSegment_length inside false fin
  cases fin with
  | true => simpa using length
  | false => simpa using length

/-- Past the SYN, the segment of a turn occupies its bytes and the FIN. -/
theorem turnSegment_length (started : 0 < s.nextSeqnoAbsolute) :
    s.turnSegment.lengthInSequenceSpace = s.turnSize + s.turnFin.toNat := by
  rw [turnSegment, turnSyn_eq_false started, nextSegment_length_fin s.turnSize_le_length]

/-- A turn of the loop sends the FIN with the last waiting byte, where there is room for it. -/
theorem turnFin_iff (started : 0 < s.nextSeqnoAbsolute) (unsent : s.finSent = false) :
    s.turnFin = true ↔ s.stream.ended = true ∧ s.turnSize = s.stream.buffer.length ∧
      s.turnSize + 1 ≤ s.room := by
  -- One more position is left behind the payload.
  have fits : s.nextSeqnoAbsolute + (s.turnSize + false.toNat) ≤ s.windowRight ↔
      s.turnSize + 1 ≤ s.room := by
    rw [room, Bool.toNat_false]
    omega
  have inside := s.turnSize_le_length
  have sends : s.turnFin = true ↔ s.stream.ended = true ∧ s.turnSize = s.stream.buffer.length ∧
      s.nextSeqnoAbsolute + (s.turnSize + false.toNat) ≤ s.windowRight := by
    rw [turnFin, turnSyn_eq_false started, nextSegment_length_fin inside, unsent, Bool.not_false,
      Bool.and_true, Bool.and_eq_true, decide_eq_true_eq, eof_taken inside, and_assoc]
  exact sends.trans (and_congr_right' (and_congr_right' fits))

/-- A turn of the loop uses up the room that its segment occupies. -/
theorem room_turned (started : 0 < s.nextSeqnoAbsolute) :
    s.turned.room = s.room - (s.turnSize + s.turnFin.toNat) := by
  have next : s.turned.nextSeqnoAbsolute =
      s.nextSeqnoAbsolute + s.turnSegment.lengthInSequenceSpace := rfl
  have edge : s.turned.windowRight = s.windowRight := rfl
  -- The edge of the window stays, and the next position moves by the length of the segment.
  rw [room, room, next, edge, turnSegment_length started]
  omega

/-- A turn of the loop takes its bytes from the buffer. -/
theorem buffer_turned (s : TCPSender) :
    s.turned.stream.buffer = s.stream.buffer.drop s.turnSize := rfl

/-- The segment of a turn carries no FIN exactly when none is in the longer list either. -/
theorem noFin_concat : NoFin (emitted ++ [s.turnSegment]) ↔ NoFin emitted ∧ s.turnFin = false := by
  simp only [NoFin, List.mem_append, List.mem_singleton]
  -- The longer list ends with the segment of the turn.
  constructor
  · intro all
    exact ⟨fun seg member => all seg (.inl member), all _ (.inr rfl)⟩
  · rintro ⟨before, last⟩ seg (old | rfl)
    · exact before seg old
    · exact last

namespace Orderly

/-- The last turn inside the window settles everything that was owed. -/
theorem owed_last (orderly : s.Orderly accepted emitted) (started : 0 < s.nextSeqnoAbsolute)
    (isOpen : s.windowFilled = false) (short : (s.stream.buffer.take s.room).length ≤ 1000) :
    s.owed emitted = s.turnSegment :: s.turned.owed (emitted ++ [s.turnSegment]) := by
  -- The window is open, so no FIN was sent, and this turn sends something.
  have none := orderly.noFin_of_open isOpen
  have unsent := orderly.unsent_of_noFin none
  have turn := turn_of_open isOpen orderly.tracked.word
  obtain ⟨_, more⟩ := windowFilled_eq_false.mp isOpen
  have size := turnSize_eq started isOpen orderly.tracked.word
  rw [Nat.min_eq_left short, List.length_take] at size
  have fin := turnFin_iff started unsent
  have after := room_turned started
  have due : s.finDue emitted = s.turnFin := by
    -- The turn takes all bytes that are inside the window, so the FIN is on it if it is due.
    rw [Bool.eq_iff_iff, finDue_iff, fin]
    constructor
    · rintro ⟨ended, _, fits⟩
      exact ⟨ended, by omega, by omega⟩
    · rintro ⟨ended, whole, fits⟩
      exact ⟨ended, none, by omega⟩
  have bytes : s.stream.buffer.take s.room = s.stream.buffer.take s.turnSize := by
    rw [size, ← List.take_eq_take_min]
  have some : s.stream.buffer.take s.room ≠ [] ∨ s.turnFin = true := by
    -- A turn that sends no byte sends the FIN.
    by_cases empty : s.stream.buffer = []
    · have ready := (more started).resolve_left (by simp [empty])
      exact .inr (turn.fin_of_ready empty started ready unsent)
    · left
      have := turn.size_pos started empty
      rw [bytes, ← List.length_pos_iff, List.length_take]
      omega
  -- Either the window is full now, or every byte is sent, and the FIN with the last if it is due.
  have rest : s.turned.owed (emitted ++ [s.turnSegment]) = [] := by
    refine owed_nil ?_ ?_
    · -- The window ends before the bytes do, or behind them.
      rcases Nat.le_total s.room s.stream.buffer.length with full | whole
      · left
        omega
      · right
        rw [buffer_turned, size, Nat.min_eq_right whole, List.drop_length]
    · -- A FIN that is still due would have been sent with this turn.
      by_contra still
      obtain ⟨ended, unfinished, fits⟩ := finDue_iff.mp (by simpa using still)
      have sends : s.turnFin = true := fin.mpr ⟨ended, by omega, by omega⟩
      simp [(noFin_concat.mp unfinished).2] at sends
  have plain := turnSyn_eq_false started
  rw [rest, owed, due, segmentation_last short some, bytes, turnSegment, plain]
  rfl

/-- A turn that leaves bytes inside the window sends the first full segment of what was owed. -/
theorem owed_full (orderly : s.Orderly accepted emitted) (started : 0 < s.nextSeqnoAbsolute)
    (isOpen : s.windowFilled = false) (long : 1000 < (s.stream.buffer.take s.room).length) :
    s.owed emitted = s.turnSegment :: s.turned.owed (emitted ++ [s.turnSegment]) := by
  have none := orderly.noFin_of_open isOpen
  have size := turnSize_eq started isOpen orderly.tracked.word
  rw [Nat.min_eq_right (by omega)] at size
  have lengths := long
  rw [List.length_take] at lengths
  have fin : s.turnFin = false := by
    -- Bytes are left behind the segment, so the FIN is not on it.
    by_contra sends
    have := (turnFin_iff started (orderly.unsent_of_noFin none)).mp (by simpa using sends)
    omega
  have after := room_turned started
  rw [size, fin, Bool.toNat_false] at after
  have next : s.turned.nextSeqnoAbsolute = s.nextSeqnoAbsolute + 1000 := by
    have moved : s.turned.nextSeqnoAbsolute =
        s.nextSeqnoAbsolute + s.turnSegment.lengthInSequenceSpace := rfl
    rw [moved, turnSegment_length started, size, fin, Bool.toNat_false]
  -- The remaining bytes end at the same edge, and the FIN is due behind them as before.
  have bytes : s.turned.stream.buffer.take s.turned.room =
      (s.stream.buffer.take s.room).drop 1000 := by
    rw [buffer_turned, size, after, List.drop_take]
  have due : s.turned.finDue (emitted ++ [s.turnSegment]) = s.finDue emitted := by
    have left : s.turned.stream.buffer.length = s.stream.buffer.length - 1000 := by
      rw [buffer_turned, size, List.length_drop]
    rw [Bool.eq_iff_iff, finDue_iff, finDue_iff, noFin_concat, left, after]
    have ended : s.turned.stream.ended = s.stream.ended := rfl
    rw [ended]
    constructor
    · rintro ⟨finished, ⟨unfinished, _⟩, fits⟩
      exact ⟨finished, unfinished, by omega⟩
    · rintro ⟨finished, unfinished, fits⟩
      exact ⟨finished, ⟨unfinished, fin⟩, by omega⟩
  have plain := turnSyn_eq_false started
  -- The segment carries the first thousand bytes.
  have first : s.turnSegment = { header := { seqno := wrap s.nextSeqnoAbsolute s.isn }
                                 payload := (s.stream.buffer.take s.room).take 1000 } := by
    rw [turnSegment, plain, fin, size, List.take_take, Nat.min_eq_left (by omega)]
    rfl
  have isn : s.turned.isn = s.isn := rfl
  rw [owed, segmentation_cons long, owed, bytes, due, next, isn, first]

/-- Every turn of the loop sends the first segment of what was owed. -/
theorem owed_turned (orderly : s.Orderly accepted emitted) (started : 0 < s.nextSeqnoAbsolute)
    (isOpen : s.windowFilled = false) :
    s.owed emitted = s.turnSegment :: s.turned.owed (emitted ++ [s.turnSegment]) := by
  rcases Nat.lt_or_ge 1000 (s.stream.buffer.take s.room).length with long | short
  · exact orderly.owed_full started isOpen long
  · exact orderly.owed_last started isOpen short

/-- The loop emits what is owed, and leaves a window that counts as filled. -/
theorem fillLoop_owed : ∀ (turns : Nat) {s s' : TCPSender} {emitted : List TCPSegment},
    s.Orderly accepted emitted → 0 < s.nextSeqnoAbsolute → fillLoop turns s = .ok s' →
    s'.segmentsOut = s.segmentsOut ++ s.owed emitted ∧ s'.windowFilled = true := by
  -- The induction is on the turns, and every turn moves one segment from what is owed to the queue.
  intro turns
  induction turns with
  | zero => simp [fillLoop]
  | succ turns ih =>
    intro s s' emitted orderly started looped
    rw [fillLoop] at looped
    cases filled : s.windowFilled with
    | true =>
      -- The loop stops, and nothing more is owed.
      rw [filled, if_pos rfl, Except.ok.injEq] at looped
      subst looped
      rw [orderly.owed_filled started filled, List.append_nil]
      exact ⟨rfl, filled⟩
    | false =>
      -- The turn sends the first of what is owed.
      rw [filled, if_neg (by decide), sendSegment_eq orderly.steady.fits, ok_bind] at looped
      obtain ⟨out, done⟩ := ih (orderly.emits (.turn filled)) s.turn_positive looped
      refine ⟨?_, done⟩
      rw [out, orderly.owed_turned started filled, turned, TCPSender.sent, List.append_assoc]
      rfl

/-- An open window is filled with what is owed to it, and there is nothing left to send after. -/
theorem fillWindow_owed (orderly : s.Orderly accepted emitted) (started : 0 < s.nextSeqnoAbsolute)
    (advertised : s.window ≠ 0) :
    ∃ s', s.fillWindow = .ok s' ∧ s'.segmentsOut = s.segmentsOut ++ s.owed emitted ∧
      s'.fillWindow = .ok s' := by
  obtain ⟨s', _, filled, _⟩ := orderly.fillWindow
  have looped := filled
  rw [fillWindow_of_not_probes fun probes => advertised probes.1] at looped
  obtain ⟨out, done⟩ := fillLoop_owed _ orderly started looped
  refine ⟨s', filled, out, ?_⟩
  -- The window is as open as before, but counts as filled.
  have still : ¬ s'.Probes := by
    intro probes
    rw [Probes, (Filled.of_fillWindow filled).window] at probes
    exact advertised probes.1
  rw [fillWindow_of_not_probes still, fillLoop, if_pos done]

end Orderly

end TCPSender

namespace SenderRun

/-- Past the SYN and with an open window, filling the window emits the first waiting bytes that fit
in full segments and one last one, with the FIN if it is due, and a second time emits nothing. -/
theorem fills_canonically (capacity : Nat) (retxTimeout : UInt16) (isn : WrappingInt32)
    (calls : List SenderCall) (t : SenderRun)
    (legal : Throughout step Legal (start capacity retxTimeout isn) calls)
    (returned : runCalls step (start capacity retxTimeout isn) calls = .ok t)
    (started : 0 < t.sender.nextSeqnoAbsolute) (advertised : t.sender.window ≠ 0) :
    ∃ s', t.sender.fillWindow = .ok s' ∧
      s'.segmentsOut = t.sender.segmentsOut ++
        segmentation t.sender.isn t.sender.nextSeqnoAbsolute
          (t.sender.stream.buffer.take t.sender.room) (t.sender.finDue t.emitted) ∧
      s'.fillWindow = .ok s' := by
  -- The sender is orderly at the end of every legal run.
  obtain ⟨last, ran, orderly⟩ := legal.returns Orderly (fun _ _ held => held.step)
    ⟨TCPSender.orderly_new capacity retxTimeout isn, by simp [start]⟩
  rw [returned, Except.ok.injEq] at ran
  subst ran
  exact orderly.sender.fillWindow_owed started advertised

/-- A handshake after which three bytes and the end of the input are waiting. -/
def threeWaiting : List SenderCall :=
  [.fillWindow, .collect, .ack ⟨1⟩ 4, .write [1, 2, 3], .endInput]

/-- Three bytes and the FIN fill a window of four in one segment. -/
theorem fills_canonically_three :
    ∃ t s', runCalls step (start 10 100 ⟨0⟩) threeWaiting = .ok t ∧
      t.sender.fillWindow = .ok s' ∧ s'.segmentsOut = segmentation ⟨0⟩ 1 [1, 2, 3] true := by
  -- The state of the sender, evaluated.
  obtain ⟨t, returned, started, advertised, isn, next, bytes, fin, out⟩ : ∃ t,
      runCalls step (start 10 100 ⟨0⟩) threeWaiting = .ok t ∧ 0 < t.sender.nextSeqnoAbsolute ∧
        t.sender.window ≠ 0 ∧ t.sender.isn = ⟨0⟩ ∧ t.sender.nextSeqnoAbsolute = 1 ∧
        t.sender.stream.buffer.take t.sender.room = [1, 2, 3] ∧
        t.sender.finDue t.emitted = true ∧ t.sender.segmentsOut = [] :=
    exists_runCalls (by decide +kernel)
  obtain ⟨s', filled, sent, _⟩ := fills_canonically 10 100 ⟨0⟩ threeWaiting t (by decide +kernel)
    returned started advertised
  rw [isn, next, bytes, fin, out, List.nil_append] at sent
  exact ⟨t, s', returned, filled, sent⟩

end SenderRun

end Sponge
