import Sponge.Tcp.ReceiverLaws
import Sponge.Tcp.SenderSequence

/-! One direction of a connection: how the bytes that a sender emits are assembled at its peer. -/

namespace Sponge

/-- A segment repeats what an emitted one carries, or carries nothing. -/
def Genuine (emitted : List TCPSegment) (seg : TCPSegment) : Prop :=
  (∃ original ∈ emitted, seg.header.seqno = original.header.seqno ∧
    seg.header.syn = original.header.syn ∧ seg.header.fin = original.header.fin ∧
    seg.payload = original.payload) ∨
  (seg.header.syn = false ∧ seg.header.fin = false ∧ seg.payload = [])

/-- What was genuine stays so when more is emitted. -/
theorem Genuine.mono {emitted emitted' : List TCPSegment} {seg : TCPSegment}
    (genuine : Genuine emitted seg) (more : emitted <+: emitted') : Genuine emitted' seg := by
  rcases genuine with ⟨original, member, same⟩ | empty
  · exact .inl ⟨original, more.subset member, same⟩
  · exact .inr empty

/-- An emitted segment is genuine. -/
theorem genuine_of_mem {emitted : List TCPSegment} {seg : TCPSegment} (member : seg ∈ emitted) :
    Genuine emitted seg :=
  .inl ⟨seg, member, rfl, rfl, rfl, rfl⟩

/-- A reassembler holds bytes of a stream, parts of which have been emitted. -/
structure Reassembles (emitted : List TCPSegment) (accepted : Bytes) (r : StreamReassembler)
    (popped : Bytes) : Prop where
  /-- The reassembler keeps its own invariant. -/
  sound : r.Sound popped
  /-- The output is a leading part of the emitted bytes. -/
  content : popped ++ r.output.buffer <+: payloads emitted
  /-- Every waiting byte is the one that was emitted at its index. -/
  stored : ∀ i value, Stored r.m.entries i value → (payloads emitted)[i]? = some value
  /-- The end is only known once the FIN was emitted, behind all accepted bytes. -/
  endIdx : r.endIdx = 2 ^ 64 - 1 ∨ (¬ NoFin emitted ∧ r.endIdx = accepted.length)
  /-- The output only ends once it has all accepted bytes. -/
  ended : r.output.ended = true → ¬ NoFin emitted ∧ r.assembled popped = accepted.length

namespace Reassembles

variable {emitted : List TCPSegment} {accepted popped : Bytes} {r : StreamReassembler}

/-- A fresh reassembler holds nothing. -/
theorem new (capacity : Nat) : Reassembles [] [] (.new capacity) [] := by
  -- Nothing was emitted, so there is nothing to disagree with.
  refine ⟨StreamReassembler.sound_new capacity, List.prefix_refl _, ?_, .inl rfl, ?_⟩
  · rintro i value ⟨run, member, _⟩
    simp [StreamReassembler.new, OrderedMap.empty] at member
  · simp [StreamReassembler.new, ByteStream.new]

/-- No more is assembled than was emitted. -/
theorem assembled_le (held : Reassembles emitted accepted r popped) :
    r.assembled popped ≤ (payloads emitted).length :=
  held.content.length_le

/-- More may be emitted, and more may be accepted before the FIN. -/
theorem grows (held : Reassembles emitted accepted r popped) {emitted' : List TCPSegment}
    {accepted' : Bytes} (more : emitted <+: emitted')
    (fixed : ¬ NoFin emitted → accepted' = accepted) :
    Reassembles emitted' accepted' r popped := by
  have kept : ¬ NoFin emitted → ¬ NoFin emitted' :=
    fun some none => some fun seg member => none seg (more.subset member)
  -- What has been sent stays where it is.
  have bytes : payloads emitted <+: payloads emitted' := by
    obtain ⟨new, rfl⟩ := more
    rw [payloads_append]
    exact List.prefix_append _ _
  refine ⟨held.sound, held.content.trans bytes, ?_, ?_, ?_⟩
  · intro i value found
    have known := held.stored i value found
    obtain ⟨rest, whole⟩ := bytes
    rw [← whole, List.getElem?_append_left (List.getElem?_eq_some_iff.mp known).1, known]
  · -- Once a FIN was emitted, no more bytes are accepted, so the end stays right.
    rcases held.endIdx with unknown | ⟨some, index⟩
    · exact .inl unknown
    · exact .inr ⟨kept some, by rw [fixed some, index]⟩
  · intro finished
    obtain ⟨some, whole⟩ := held.ended finished
    exact ⟨kept some, by rw [fixed some, whole]⟩

/-- The error flag of the output does not matter. -/
theorem setError (held : Reassembles emitted accepted r popped) :
    Reassembles emitted accepted { r with output := r.output.setError } popped :=
  ⟨⟨⟨held.sound.counts.read, held.sound.counts.written⟩, held.sound.small, held.sound.placed,
    held.sound.waiting, held.sound.counted⟩, held.content, held.stored, held.endIdx, held.ended⟩

/-- Taking bytes from the output changes nothing but who holds them. -/
theorem taken (held : Reassembles emitted accepted r popped) {len : Nat}
    (inside : len ≤ r.output.buffer.length) :
    Reassembles emitted accepted { r with output := r.output.taken len }
      (popped ++ r.output.buffer.take len) := by
  -- What was popped and what is buffered are together the same.
  have same : popped ++ r.output.buffer.take len ++ (r.output.taken len).buffer =
      popped ++ r.output.buffer := by
    rw [ByteStream.taken, List.append_assoc, List.take_append_drop]
  refine ⟨held.sound.taken inside, ?_, held.stored, held.endIdx, ?_⟩
  · rw [same]
    exact held.content
  · rw [StreamReassembler.assembled, same]
    exact held.ended

/-- A slice of the emitted bytes can be pushed. -/
theorem pushes (held : Reassembles emitted accepted r popped)
    (sent : (payloads emitted).length ≤ accepted.length)
    (near : accepted.length + r.capacity < 2 ^ 31) {data : Bytes} {index : Nat} (eof : Bool)
    (word : index < 2 ^ 32)
    (inside : data ≠ [] → index + data.length ≤ (payloads emitted).length) :
    ∃ r', r.pushSubstring data index eof = .ok r' ∧
      StreamReassembler.Pushed popped r r' data index eof := by
  have written := held.assembled_le
  have before : popped.length ≤ r.assembled popped := by
    simp only [StreamReassembler.assembled, List.length_append]
    omega
  have edge : r.edge popped = popped.length + r.capacity := rfl
  have small : data ≠ [] ∨ data.length = 0 := by
    -- An empty payload may have any index, as that of a repeated FIN has.
    cases data with
    | nil => exact .inr rfl
    | cons first rest => exact .inl (List.cons_ne_nil _ _)
  have short : index + data.length < 2 ^ 64 - 1 := by
    rcases small with some | none
    · have := inside some
      omega
    · omega
  -- Every index in play is below half the 32-bit range, so the narrowing is exact.
  have signs : r.SignsKept popped data index := by
    intro nonempty reaches
    have := inside (List.length_pos_iff.mp nonempty)
    exact ⟨signKept_of_near (by omega) (by omega), fun _ => signKept_of_near (by omega) (by omega)⟩
  obtain ⟨r', pushes, bounded, absorbs⟩ :=
    StreamReassembler.pushSubstring_spec held.sound short signs eof
  exact ⟨r', pushes, absorbs (by omega)⟩

/-- A pushed slice of the emitted bytes is absorbed. -/
theorem push (held : Reassembles emitted accepted r popped)
    (sent : (payloads emitted).length ≤ accepted.length)
    (near : accepted.length + r.capacity < 2 ^ 31) {data : Bytes} {index : Nat} {eof : Bool}
    (word : index < 2 ^ 32)
    (inside : data ≠ [] → index + data.length ≤ (payloads emitted).length)
    (slice : ∀ i value, PlacedAt index data i value → (payloads emitted)[i]? = some value)
    (final : eof = true → ¬ NoFin emitted ∧ index + data.length = accepted.length) :
    ∃ r', r.pushSubstring data index eof = .ok r' ∧ Reassembles emitted accepted r' popped ∧
      r'.capacity = r.capacity ∧ r.assembled popped ≤ r'.assembled popped ∧
      (r.output.ended = true → r'.output.ended = true) := by
  obtain ⟨r', pushes, pushed⟩ := held.pushes sent near eof word inside
  obtain ⟨bytes, buffer, origin⟩ := pushed.moved
  have content : popped ++ r'.output.buffer <+: payloads emitted := by
    -- The bytes that went to the output were stored before, or came with the push.
    rw [buffer, ← List.append_assoc]
    refine prefix_extend held.content fun i value found => ?_
    rcases origin i value found with stored | new
    · exact held.stored i value stored
    · exact slice i value new
  have more : r.assembled popped ≤ r'.assembled popped := by
    simp only [StreamReassembler.assembled, buffer, List.length_append]
    omega
  have whole : r'.assembled popped ≤ (payloads emitted).length := content.length_le
  have known : r'.endIdx = 2 ^ 64 - 1 ∨ (¬ NoFin emitted ∧ r'.endIdx = accepted.length) := by
    -- The end is the one that was known, or the one that the push has told.
    rw [pushed.endIdx]
    cases eof with
    | true => exact .inr ⟨(final rfl).1, (final rfl).2⟩
    | false => exact held.endIdx
  refine ⟨r', pushes, ⟨pushed.sound, content, ?_, known, ?_⟩, pushed.capacity, more, ?_⟩
  · -- What is stored was stored before, or came with the push.
    intro i value found
    rcases pushed.stored i value found with stored | new
    · exact held.stored i value stored
    · exact slice i value new
  · -- The end was reached before, or by this push.
    intro finished
    rcases pushed.ended.mp finished with already | reached
    · obtain ⟨some, total⟩ := held.ended already
      exact ⟨some, by omega⟩
    · rcases known with unknown | ⟨some, total⟩
      · -- The end is not known, so it was not reached.
        omega
      · exact ⟨some, by omega⟩
  · exact fun already => pushed.ended.mpr (.inl already)

end Reassembles

namespace TCPReceiver

/-- The absolute number of the next expected position, or zero before the SYN. -/
def ackPoint (r : TCPReceiver) : Nat :=
  if r.syned then 1 + r.streamOut.bytesWritten + (if r.streamOut.inputEnded then 1 else 0) else 0

/-- The acknowledgment number is that of the next expected position. -/
theorem ackno_eq_some {r : TCPReceiver} {ackno : WrappingInt32} (found : r.ackno = some ackno) :
    r.syned = true ∧ ackno = wrap r.ackPoint r.isn := by
  rw [TCPReceiver.ackno] at found
  split at found
  · simp at found
  · rename_i syned
    have syned : r.syned = true := by simpa using syned
    refine ⟨syned, ?_⟩
    rw [ackPoint, if_pos syned]
    rw [Option.some.injEq] at found
    -- The SYN and the FIN count as one position each.
    rw [← found, wrap_eq_iff]
    split <;> simp only [add64] <;> omega

/-- A receiver that has moved on from another: it keeps the initial number and takes nothing back. -/
structure Advances (r r' : TCPReceiver) : Prop where
  /-- The SYN is kept, with its number. -/
  syned : r.syned = true → r'.syned = true ∧ r'.isn = r.isn
  /-- The next expected position does not move back. -/
  ackPoint : r.ackPoint ≤ r'.ackPoint

/-- A segment's acknowledgment number is one that the receiver has reached. -/
def Acks (r : TCPReceiver) (seg : TCPSegment) : Prop :=
  seg.header.ack = true →
    r.syned = true ∧ ∃ point ≤ r.ackPoint, seg.header.ackno = wrap point r.isn

/-- A position that was reached stays reached. -/
theorem Acks.mono {r r' : TCPReceiver} {seg : TCPSegment} (acks : r.Acks seg)
    (advances : r.Advances r') : r'.Acks seg := by
  -- The number is one of the same count, of which more has been reached.
  intro carries
  obtain ⟨syned, point, reached, number⟩ := acks carries
  obtain ⟨syned', isn⟩ := advances.syned syned
  exact ⟨syned', point, reached.trans advances.ackPoint, by rw [number, isn]⟩

end TCPReceiver

/-- One direction of a connection, from a sender to the receiver of its peer. -/
structure Flow (s : TCPSender) (accepted : Bytes) (emitted : List TCPSegment) (r : TCPReceiver)
    (popped : Bytes) : Prop where
  /-- The receiver assembles what was emitted. -/
  data : Reassembles emitted accepted r.reassembler popped
  /-- The receiver counts from the number of the sender's SYN. -/
  isn : r.syned = true → r.isn = s.isn ∧ emitted ≠ []
  /-- Everything dropped from the sender's queue has been assembled. -/
  acked : s.base ≤ r.ackPoint

namespace Flow

variable {s s' : TCPSender} {accepted popped : Bytes} {emitted : List TCPSegment} {r : TCPReceiver}
  {seg : TCPSegment}

/-- Nothing has flowed between two fresh endpoints. -/
theorem new (capacity room : Nat) (retxTimeout : UInt16) (isn : WrappingInt32) :
    Flow (.new capacity retxTimeout isn) [] [] (.new room) [] :=
  ⟨.new room, by simp [TCPReceiver.new], by simp [TCPSender.base, TCPSender.new]⟩

/-- The next expected position counts the assembled bytes. -/
theorem ackPoint_eq (flow : Flow s accepted emitted r popped) :
    r.ackPoint = if r.syned then 1 + r.reassembler.assembled popped +
      (if r.reassembler.output.ended then 1 else 0) else 0 := by
  have written : r.streamOut.bytesWritten = r.reassembler.assembled popped :=
    -- The receiver's write counter has not wrapped.
    flow.data.sound.bytesWritten
  rw [TCPReceiver.ackPoint, written]
  rfl

/-- Nothing is expected behind what the sender has sent. -/
theorem ackPoint_le (flow : Flow s accepted emitted r popped)
    (orderly : s.Orderly accepted emitted) :
    r.ackPoint ≤ s.nextSeqnoAbsolute := by
  have assembled := flow.data.assembled_le
  have content := congrArg List.length orderly.content
  rw [List.length_append] at content
  rw [flow.ackPoint_eq]
  -- Before the SYN nothing is expected.
  split
  · rename_i syned
    have some := (flow.isn syned).2
    -- The FIN is only expected to have come if it was emitted.
    by_cases none : NoFin emitted
    · -- Without FIN the sender has sent the SYN and the emitted bytes.
      have next := orderly.next_of_noFin none
      rw [if_neg some] at next
      split
      · rename_i finished
        exact absurd none (flow.data.ended finished).1
      · omega
    · -- With FIN all accepted bytes were emitted.
      have next := (orderly.next_of_fin none).1
      split
      · rename_i finished
        have := (flow.data.ended finished).2
        omega
      · omega
  · exact Nat.zero_le _

/-- The sender goes on, and drops nothing that has not been assembled. -/
theorem sends (flow : Flow s accepted emitted r popped) {emitted' : List TCPSegment}
    {accepted' : Bytes} (more : emitted <+: emitted')
    (fixed : ¬ NoFin emitted → accepted' = accepted) (isn : s'.isn = s.isn)
    (base : s'.base ≤ r.ackPoint) : Flow s' accepted' emitted' r popped := by
  -- The receiver has not moved.
  refine ⟨flow.data.grows more fixed, ?_, base⟩
  -- A history that is longer is not empty either.
  intro syned
  obtain ⟨same, some⟩ := flow.isn syned
  refine ⟨by rw [same, isn], ?_⟩
  rintro rfl
  exact some (List.prefix_nil.mp more)

/-- An acknowledgment from the peer drops only what has been assembled. -/
theorem acknowledged (flow : Flow s accepted emitted r popped)
    (orderly : s.Orderly accepted emitted) (acks : r.Acks seg) (carries : seg.header.ack = true)
    (sentSyn : 0 < s.nextSeqnoAbsolute) :
    ∃ s', s.ackReceived seg.header.ackno seg.header.win = .ok s' ∧ s'.Orderly accepted emitted ∧
      Flow s' accepted emitted r popped ∧ s'.stream = s.stream ∧
      s'.segmentsOut = s.segmentsOut := by
  obtain ⟨s', received, kept, isn, stream, queue, base⟩ :=
    orderly.ackReceived sentSyn seg.header.ackno seg.header.win
  refine ⟨s', received, kept, ⟨flow.data, ?_, ?_⟩, stream, queue⟩
  · rw [isn]
    exact flow.isn
  · -- The peer acknowledges a position that it had reached, which is small enough to unwrap.
    obtain ⟨syned, point, reached, number⟩ := acks carries
    have next := flow.ackPoint_le orderly
    have bound := orderly.next_le
    have small := orderly.small
    rw [number, (flow.isn syned).1, offsetFrom_wrap, Nat.mod_eq_of_lt (by omega)] at base
    have := flow.acked
    omega

/-- The payload of an emitted segment is placed behind those of the segments before it. -/
theorem segmentIndex_eq (flow : Flow s accepted emitted r popped)
    (orderly : s.Orderly accepted emitted) {before after : List TCPSegment} {original : TCPSegment}
    (split : emitted = before ++ original :: after)
    (number : seg.header.seqno = original.header.seqno)
    (syn : seg.header.syn = original.header.syn) {idx : Nat}
    (index : r.segmentIndex seg = some idx) : idx = (payloads before).length := by
  have first := orderly.syn before original after split
  rw [TCPReceiver.segmentIndex, syn] at index
  -- The SYN is on the first segment, whose payload is at index zero.
  cases carries : original.header.syn with
  | true =>
    rw [carries, if_pos rfl, Option.some.injEq] at index
    rw [first.mp carries, ← index, payloads_nil, List.length_nil]
  | false =>
    have later : before ≠ [] := fun none => by simp [first.mpr none] at carries
    -- Before any later segment, the SYN takes one position and the FIN none.
    have place := orderly.occupied_of_noFin ⟨original :: after, split.symm⟩
      (orderly.noFin_before split)
    rw [if_neg later] at place
    have header := orderly.tracked.consecutive.header split
    rw [Nat.zero_add] at header
    have next := orderly.tracked.consecutive.le_stop split
    have bound := orderly.next_le
    have small := orderly.small
    rw [carries, if_neg (by simp)] at index
    split at index
    · simp at index
    · rename_i syned
      rw [number, header, (flow.isn (by simpa using syned)).1, offsetFrom_wrap,
        Nat.mod_eq_of_lt (by omega), place] at index
      simpa using index.symm

/-- A segment places its payload where the emitted bytes have it, and its flags are the sender's. -/
structure Agrees (s : TCPSender) (accepted : Bytes) (emitted : List TCPSegment) (seg : TCPSegment)
    (idx : Nat) : Prop where
  /-- The payload lies within the emitted bytes. -/
  inside : seg.payload ≠ [] → idx + seg.payload.length ≤ (payloads emitted).length
  /-- It is a slice of them. -/
  slice : ∀ i value, PlacedAt idx seg.payload i value → (payloads emitted)[i]? = some value
  /-- A FIN comes behind all accepted bytes. -/
  fin : seg.header.fin = true → ¬ NoFin emitted ∧ idx + seg.payload.length = accepted.length
  /-- A SYN has the initial sequence number. -/
  syn : seg.header.syn = true → seg.header.seqno = s.isn ∧ emitted ≠ []

/-- A segment that repeats an emitted one agrees with the emitted bytes. -/
theorem agrees_of_copy (flow : Flow s accepted emitted r popped)
    (orderly : s.Orderly accepted emitted) {original : TCPSegment} (member : original ∈ emitted)
    (number : seg.header.seqno = original.header.seqno)
    (syn : seg.header.syn = original.header.syn) (fin : seg.header.fin = original.header.fin)
    (payload : seg.payload = original.payload) {idx : Nat}
    (index : r.segmentIndex seg = some idx) : Agrees s accepted emitted seg idx := by
  -- The segments before the original determine where its payload is.
  obtain ⟨before, after, split⟩ := List.append_of_mem member
  have place := flow.segmentIndex_eq orderly split number syn index
  have whole : payloads emitted = payloads before ++ (original.payload ++ payloads after) := by
    rw [split, payloads_append, payloads_cons]
  constructor
  · -- The payload ends where the segments after it begin.
    intro _
    simp only [payload, place, whole, List.length_append]
    omega
  · -- Each byte is found behind those of the segments before.
    rw [payload, place]
    rintro i value ⟨offset, found, rfl⟩
    rw [whole, List.getElem?_append_right (by omega), Nat.add_sub_cancel_left,
      List.getElem?_append_left (List.getElem?_eq_some_iff.mp found).1, found]
  · intro carries
    rw [fin] at carries
    have some : ¬ NoFin emitted := fun none => by simp [none original member] at carries
    refine ⟨some, ?_⟩
    -- The FIN is on the last segment, and the buffer was empty then.
    have content := congrArg List.length orderly.content
    rw [(orderly.next_of_fin some).2.2, whole, orderly.last_of_fin split carries] at content
    rw [payload, place]
    simpa using content
  · -- The SYN has the initial number.
    intro carries
    rw [syn] at carries
    have header := orderly.tracked.consecutive.header split
    rw [(orderly.syn before original after split).mp carries, occupied_nil] at header
    exact ⟨by rw [number, header]; exact wrap_zero _, List.ne_nil_of_mem member⟩

/-- Every genuine segment agrees with the emitted bytes. -/
theorem agrees (flow : Flow s accepted emitted r popped) (orderly : s.Orderly accepted emitted)
    (genuine : Genuine emitted seg) {idx : Nat} (index : r.segmentIndex seg = some idx) :
    Agrees s accepted emitted seg idx := by
  rcases genuine with ⟨original, member, number, syn, fin, payload⟩ | ⟨syn, fin, payload⟩
  · -- The segment repeats an emitted one.
    exact flow.agrees_of_copy orderly member number syn fin payload index
  · -- The segment is empty, and says nothing about the stream.
    refine ⟨fun some => absurd payload some, ?_, by simp [fin], by simp [syn]⟩
    rintro i value ⟨offset, found, _⟩
    simp [payload] at found

/-- A receiver that took in more than another, counting from the same number, has advanced. -/
theorem advances (flow : Flow s accepted emitted r popped) (r' : TCPReceiver)
    (held : Reassembles emitted accepted r'.reassembler popped)
    (kept : r.syned = true → r'.syned = true)
    (noted : r'.syned = true → r'.isn = s.isn ∧ emitted ≠ [])
    (more : r.reassembler.assembled popped ≤ r'.reassembler.assembled popped)
    (ends : r.reassembler.output.ended = true → r'.reassembler.output.ended = true) :
    r.Advances r' ∧ Flow s accepted emitted r' popped := by
  -- Each part of the acknowledgment point can only grow.
  have further : r.ackPoint ≤ r'.ackPoint := by
    have written : r'.streamOut.bytesWritten = r'.reassembler.assembled popped :=
      held.sound.bytesWritten
    rw [flow.ackPoint_eq, TCPReceiver.ackPoint, written]
    -- The SYN, the bytes and the FIN.
    split
    · rename_i syned
      rw [if_pos (kept syned)]
      split
      · rename_i finished
        have ended : r'.streamOut.inputEnded = true := ends finished
        rw [if_pos ended]
        omega
      · omega
    · exact Nat.zero_le _
  refine ⟨⟨fun syned => ⟨kept syned, ?_⟩, further⟩, held, noted, flow.acked.trans further⟩
  exact (noted (kept syned)).1.trans (flow.isn syned).1.symm

/-- A genuine segment advances the receiver and keeps the direction intact. -/
theorem receives (flow : Flow s accepted emitted r popped) (orderly : s.Orderly accepted emitted)
    (near : accepted.length + r.reassembler.capacity < 2 ^ 31) (genuine : Genuine emitted seg) :
    ∃ r', r.segmentReceived seg = .ok r' ∧ r'.reassembler.capacity = r.reassembler.capacity ∧
      r.Advances r' ∧ Flow s accepted emitted r' popped := by
  -- The bytes that were emitted are some of those that were accepted.
  have content := congrArg List.length orderly.content
  rw [List.length_append] at content
  have written : r.streamOut.bytesWritten = r.reassembler.assembled popped :=
    flow.data.sound.bytesWritten
  rw [r.segmentReceived_eq seg (by rw [written]; exact flow.data.sound.small)]
  cases index : r.segmentIndex seg with
  -- The segment has no place in the stream, so it is dropped.
  | none => exact ⟨r, rfl, rfl, ⟨fun syned => ⟨syned, rfl⟩, Nat.le_refl _⟩, flow⟩
  | some idx =>
    have agrees := flow.agrees orderly genuine index
    obtain ⟨reassembler, pushes, held, capacity, more, ends⟩ := flow.data.push (by omega) near
      (TCPReceiver.segmentIndex_lt index) agrees.inside agrees.slice agrees.fin
    -- The noted SYN is the sender's, so it repeats what was known.
    have noted : (r.noteSyn seg.header).syned = true →
        (r.noteSyn seg.header).isn = s.isn ∧ emitted ≠ [] := by
      rw [TCPReceiver.noteSyn]
      split
      · rename_i carries
        exact fun _ => agrees.syn carries
      · exact flow.isn
    have kept : r.syned = true → (r.noteSyn seg.header).syned = true := by
      intro syned
      rw [TCPReceiver.noteSyn]
      split
      · rfl
      · exact syned
    refine ⟨{ r.noteSyn seg.header with reassembler := reassembler }, ?_, capacity,
      flow.advances _ held kept noted more ends⟩
    exact TCPReceiver.push_ok.mpr ⟨reassembler, by rw [TCPReceiver.noteSyn_reassembler, pushes], rfl⟩

/-- The reader takes bytes. -/
theorem taken (flow : Flow s accepted emitted r popped) {len : Nat}
    (inside : len ≤ r.reassembler.output.buffer.length) :
    Flow s accepted emitted { r with
      reassembler := { r.reassembler with output := r.reassembler.output.taken len } }
      (popped ++ r.reassembler.output.buffer.take len) :=
  ⟨flow.data.taken inside, flow.isn, flow.acked⟩

end Flow

end Sponge
