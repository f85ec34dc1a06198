import Sponge.Tcp.ConnectionSender

/-! Nothing follows the FIN of a connection that accepts no byte after it. -/

namespace Sponge

/-- A list of segments can be searched for a FIN. -/
instance (segments : List TCPSegment) : Decidable (NoFin segments) :=
  inferInstanceAs (Decidable (∀ seg ∈ segments, seg.header.fin = false))

namespace TCPSegment

/-- A segment of a stream that started at a sequence number occupies an absolute position. -/
def Occupies (isn : WrappingInt32) (seg : TCPSegment) (position : Nat) : Prop :=
  offsetFrom seg.header.seqno isn ≤ position ∧
    position < offsetFrom seg.header.seqno isn + seg.lengthInSequenceSpace

instance (isn : WrappingInt32) (seg : TCPSegment) (position : Nat) :
    Decidable (seg.Occupies isn position) := inferInstanceAs (Decidable (_ ∧ _))

/-- The absolute position of a FIN, which is the last of its segment. -/
def finPosition (isn : WrappingInt32) (seg : TCPSegment) : Nat :=
  offsetFrom seg.header.seqno isn + seg.lengthInSequenceSpace - 1

/-- A copy occupies the positions of the original. -/
theorem Copies.length {copy original : TCPSegment} (copies : copy.Copies original) :
    copy.lengthInSequenceSpace = original.lengthInSequenceSpace := by
  obtain ⟨_, syn, fin, payload⟩ := copies
  simp only [lengthInSequenceSpace, syn, fin, payload]

end TCPSegment

namespace TCPSender.Orderly

variable {s : TCPSender} {accepted : Bytes} {sent : List TCPSegment}

/-- An error on the stream keeps the sender orderly. -/
theorem setError (orderly : s.Orderly accepted sent) :
    Orderly { s with stream := s.stream.setError } accepted sent :=
  ⟨orderly.tracked.congr rfl rfl rfl rfl rfl rfl, orderly.content, orderly.written, orderly.small,
    orderly.positive, orderly.syn, orderly.fin, orderly.finSent, orderly.started⟩

/-- Every emitted segment starts where its sequence number says and ends before the next one. -/
theorem position (orderly : s.Orderly accepted sent) {before after : List TCPSegment}
    {seg : TCPSegment} (split : sent = before ++ seg :: after) :
    offsetFrom seg.header.seqno s.isn = occupied before ∧
      occupied before + seg.lengthInSequenceSpace ≤ s.nextSeqnoAbsolute := by
  have header := orderly.tracked.consecutive.header split
  have total := orderly.tracked.next_eq
  have next := orderly.next_le
  have small := orderly.small
  rw [split, occupied_append, occupied_cons] at total
  refine ⟨?_, by omega⟩
  -- All positions together are fewer than the numbers of a header.
  rw [header, Nat.zero_add, offsetFrom_wrap, Nat.mod_eq_of_lt (by omega)]

/-- Being orderly, with a fixed initial number, is kept by every operation of a sender. -/
theorem rule (accepted : Bytes) (isn : WrappingInt32) :
    SenderRule fun s sent => s.Orderly accepted sent ∧ s.isn = isn where
  fill := by
    -- Filling the window emits behind what was emitted.
    intro s sent holds
    obtain ⟨s', new, filled, out, kept, same, _⟩ := holds.1.fillWindow
    exact ⟨s', new, filled, out, kept, same.trans holds.2⟩
  ack := by
    -- An acknowledgment emits nothing.
    intro s sent holds sentSyn ackno windowSize
    obtain ⟨s', acks, kept, same, _, out, _⟩ := holds.1.ackReceived sentSyn ackno windowSize
    exact ⟨s', acks, out, kept, same.trans holds.2⟩
  quiet := fun holds segmentsOut timePassed rto recount =>
    ⟨holds.1.congr segmentsOut timePassed rto recount, holds.2⟩
  error := fun holds => ⟨holds.1.setError, holds.2⟩
  queue := fun holds _ member => holds.1.tracked.queue.subset member
  flights := fun holds => holds.1.tracked.flights
  positive := fun holds => holds.1.positive

end TCPSender.Orderly

namespace ConnectionRun

/-- A write adds no byte once the FIN has been sent, and never too many for the counters. -/
def KeepsFin (t : ConnectionRun) (call : ConnectionCall) : Prop :=
  (t.accepted ++ t.connection.acceptedBy call).length < 2 ^ 31 ∧
    (NoFin t.emitted ∨ t.connection.acceptedBy call = [])

instance (t : ConnectionRun) (call : ConnectionCall) : Decidable (t.KeepsFin call) :=
  inferInstanceAs (Decidable (_ ∧ _))

/-- The sender of a run is orderly, and the history of the run agrees with it. -/
def Ordered (isn : WrappingInt32) (t : ConnectionRun) (sent : List TCPSegment) : Prop :=
  t.connection.sender.Orderly t.accepted sent ∧ t.connection.sender.isn = isn ∧ t.Recorded sent

variable {isn : WrappingInt32} {t next : ConnectionRun} {call : ConnectionCall}
  {sent : List TCPSegment}

/-- What a call does to the stream keeps the sender orderly. -/
theorem Ordered.prepared (ordered : t.Ordered isn sent) (keeps : t.KeepsFin call) :
    (t.connection.prepared call).Orderly (t.accepted ++ t.connection.acceptedBy call) sent ∧
      (t.connection.prepared call).isn = isn := by
  obtain ⟨orderly, start, recorded⟩ := ordered
  -- Only a write adds to what was accepted.
  have same : t.connection.sender.Orderly (t.accepted ++ []) sent := by rwa [List.append_nil]
  refine ⟨?_, ?_⟩
  · cases call with
    | write data => exact orderly.write data (keeps.2.imp_left recorded.noFin_iff.mp) keeps.1
    | endInputStream => exact same.endInput
    | connect | tick ms | segment seg | reader call => exact same
  · cases call <;> exact start

/-- A call keeps the order, and what it makes the sender emit comes after the rest. -/
theorem Ordered.step (ordered : t.Ordered isn sent) (keeps : t.KeepsFin call)
    (steps : t.step call = .ok next) : ∃ new, next.Ordered isn (sent ++ new) := by
  -- The rule of the sender says how its history grows.
  obtain ⟨new, ⟨orderly, start⟩, recorded⟩ := (TCPSender.Orderly.rule _ isn).perform
    (ordered.prepared keeps) ordered.2.2 steps
  obtain ⟨c, _, rfl⟩ := step_ok.mp steps
  exact ⟨new, orderly, start, recorded⟩

/-- Every state of a run that keeps the condition is ordered. -/
theorem ordered_run {cfg : TCPConfig} {calls : List ConnectionCall}
    (along : Throughout step KeepsFin (start cfg isn) calls)
    (returned : runCalls step (start cfg isn) calls = .ok t) : ∃ sent, t.Ordered isn sent := by
  refine Throughout.invariant (fun t => ∃ sent, t.Ordered isn sent) ?_ along ?_ returned
  · -- The step.
    rintro state call next ⟨sent, ordered⟩ keeps steps
    obtain ⟨new, after⟩ := ordered.step keeps steps
    exact ⟨sent ++ new, after⟩
  · -- A new connection has sent nothing.
    exact ⟨[], TCPSender.orderly_new _ _ _, rfl, recorded_start cfg isn⟩

/-- What was emitted stays in the history. -/
theorem emitted_mono {calls : List ConnectionCall}
    (returned : runCalls step t calls = .ok next) : t.emitted ⊆ next.emitted := by
  -- A call adds to the history.
  refine runCalls_invariant (fun state => t.emitted ⊆ state.emitted) ?_ (List.Subset.refl _)
    returned
  intro state call after kept steps
  obtain ⟨c, _, rfl⟩ := step_ok.mp steps
  exact List.subset_append_of_subset_left _ kept

/-- Nothing that an ordered run has sent lies behind a FIN that it has sent. -/
theorem Ordered.fin_last (ordered : t.Ordered isn sent) {fin : TCPSegment}
    (emitted : fin ∈ t.emitted) (carries : fin.header.fin = true) :
    t.connection.sender.nextSeqnoAbsolute = fin.finPosition isn + 1 ∧
      ∀ seg ∈ t.emitted, ∀ position, seg.Occupies isn position →
        position ≤ fin.finPosition isn := by
  obtain ⟨orderly, rfl, recorded⟩ := ordered
  -- Whatever occupies a position repeats a segment of the sender, which ends before the next one.
  have within : ∀ seg ∈ t.emitted, 0 < seg.lengthInSequenceSpace → ∃ before original after,
      sent = before ++ original :: after ∧ seg.Copies original := by
    intro seg member positive
    rcases recorded.genuine seg member with ⟨original, known, copies⟩ | ⟨syn, fin, payload⟩
    · obtain ⟨before, after, split⟩ := List.append_of_mem known
      exact ⟨before, original, after, split, copies⟩
    · simp [TCPSegment.lengthInSequenceSpace, syn, fin, payload] at positive
  -- The FIN is on the last segment, which ends at the next position.
  have last : fin.finPosition t.connection.sender.isn + 1 =
      t.connection.sender.nextSeqnoAbsolute := by
    have positive : 0 < fin.lengthInSequenceSpace := by
      simp [TCPSegment.lengthInSequenceSpace, carries]
    obtain ⟨before, original, after, split, copies⟩ := within fin emitted positive
    have none := orderly.last_of_fin split (copies.2.2.1.symm.trans carries)
    have starts := (orderly.position split).1
    have total := orderly.tracked.next_eq
    rw [split, none, occupied_append, occupied_cons, occupied_nil, ← copies.length] at total
    rw [TCPSegment.finPosition, copies.1]
    omega
  refine ⟨last.symm, ?_⟩
  rintro seg member position ⟨above, below⟩
  -- Any other segment ends before the next position.
  obtain ⟨before, original, after, split, copies⟩ := within seg member (by omega)
  obtain ⟨starts, ends⟩ := orderly.position split
  rw [copies.1, copies.length] at below
  omega

/-- Once a FIN was sent, no segment occupies a later position and none is assigned any more. -/
theorem nothing_follows_fin {cfg : TCPConfig} {isn : WrappingInt32}
    {calls more : List ConnectionCall} {t last : ConnectionRun} {fin : TCPSegment}
    (along : Throughout step KeepsFin (start cfg isn) (calls ++ more))
    (emits : runCalls step (start cfg isn) calls = .ok t) (emitted : fin ∈ t.emitted)
    (carries : fin.header.fin = true) (goes : runCalls step t more = .ok last) :
    last.connection.sender.nextSeqnoAbsolute = fin.finPosition isn + 1 ∧
      ∀ seg ∈ last.emitted, ∀ position, seg.Occupies isn position →
        position ≤ fin.finPosition isn := by
  obtain ⟨sent, ordered⟩ := ordered_run along (runCalls_append_ok.mpr ⟨t, emits, goes⟩)
  exact ordered.fin_last (emitted_mono goes emitted) carries

/-- An endpoint that writes a byte and closes. -/
def byteThenFin : List ConnectionCall :=
  [.connect,
    .segment { header := { seqno := ⟨9⟩, syn := true, ack := true, ackno := ⟨1⟩, win := 100 } },
    .write [7], .endInputStream]

/-- A timeout, and then the acknowledgment of the FIN. -/
def finAcknowledged : List ConnectionCall :=
  [.tick 1000, .segment { header := { seqno := ⟨10⟩, ack := true, ackno := ⟨3⟩, win := 100 } }]

/-- The FIN behind one byte stays the last position when it is sent again and acknowledged. -/
theorem nothing_follows_fin_retransmitted :
    ∃ t last fin, runCalls step (start {} ⟨0⟩) byteThenFin = .ok t ∧ fin ∈ t.emitted ∧
      fin.header.fin = true ∧ runCalls step t finAcknowledged = .ok last ∧
      last.connection.sender.nextSeqnoAbsolute = fin.finPosition ⟨0⟩ + 1 := by
  -- The run is evaluated, and the FIN is found in its history.
  have ran : ∃ t, runCalls step (start {} ⟨0⟩) byteThenFin = .ok t ∧
      (∃ fin ∈ t.emitted, fin.header.fin = true) ∧
      (runCalls step t finAcknowledged).isOk = true := exists_runCalls (by decide +kernel)
  obtain ⟨t, returned, ⟨fin, emitted, carries⟩, fine⟩ := ran
  obtain ⟨last, later⟩ := exists_ok_of_isOk fine
  have after := nothing_follows_fin (by decide +kernel) returned emitted carries later
  exact ⟨t, last, fin, returned, emitted, carries, later, after.1⟩

/-- A write after the FIN is accepted, and its byte is sent behind the FIN. -/
theorem byte_follows_fin :
    ∃ t, runCalls step (start {} ⟨0⟩) byteThenFin = .ok t ∧
      (∃ fin ∈ t.emitted, fin.header.fin = true ∧ fin.finPosition ⟨0⟩ = 2) ∧
      t.connection.sender.nextSeqnoAbsolute = 3 ∧
      (t.step (.write [8])).toOption.map (fun next =>
        (next.connection.sender.nextSeqnoAbsolute,
          next.emitted.any fun seg => decide (seg.Occupies ⟨0⟩ 3))) = some (4, true) :=
  exists_runCalls (by decide +kernel)

end ConnectionRun

end Sponge
