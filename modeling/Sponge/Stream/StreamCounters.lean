import Sponge.Stream.ByteStreamLaws
import Sponge.Lib.Runs

/-! The counters of a byte stream against the bytes that really passed through it, on every run. -/

namespace Sponge

/-- A call on a byte stream. -/
inductive StreamCall where
  /-- `write`. -/
  | write (data : Bytes)
  /-- `read` or `pop_output`. -/
  | reader (call : ByteStream.ReaderCall)
  /-- `end_input`. -/
  | endInput
  /-- `set_error`. -/
  | setError
deriving DecidableEq, Repr

/-- A byte stream with an account of the bytes that it took in and gave out. -/
structure StreamTally where
  /-- The stream. -/
  stream : ByteStream
  /-- The sum of the numbers that `write` returned. -/
  accepted : Nat
  /-- The bytes that were popped. -/
  popped : Bytes
deriving DecidableEq, Repr

namespace StreamTally

/-- A new stream has seen nothing. -/
def new (capacity : Nat) : StreamTally := ⟨.new capacity, 0, []⟩

/-- Performs a call and keeps the account. -/
def step (t : StreamTally) : StreamCall → Except Fault StreamTally
  | .write data =>
    let (stream, count) := t.stream.write data
    .ok { t with stream := stream, accepted := t.accepted + count }
  | .reader call => do
    let (bytes, stream) ← t.stream.serve call
    return { t with stream := stream, popped := t.popped ++ bytes }
  | .endInput => .ok { t with stream := t.stream.endInput }
  | .setError => .ok { t with stream := t.stream.setError }

/-- The counters show the totals, and their difference is what is buffered. -/
def CountersExact (t : StreamTally) : Prop :=
  t.stream.bytesWritten = t.accepted ∧ t.stream.bytesRead = t.popped.length ∧
    sub64 t.stream.bytesWritten t.stream.bytesRead = t.stream.bufferSize

/-- The counters of a stream hold the totals as far as an `int` can. -/
structure Tallied (capacity : Nat) (t : StreamTally) : Prop where
  /-- The stream was made with this capacity. -/
  room : t.stream.capacity = toInt32 capacity
  /-- The buffer never outgrows the capacity. -/
  within : t.stream.buffer.length ≤ capacity
  /-- What was accepted and not popped is buffered. -/
  balance : t.accepted = (t.popped ++ t.stream.buffer).length
  /-- The counters narrow the totals. -/
  counts : t.stream.Counts t.popped

variable {capacity : Nat} {t : StreamTally}

/-- A new stream has its account. -/
theorem Tallied.new (capacity : Nat) : (StreamTally.new capacity).Tallied capacity :=
  ⟨rfl, Nat.zero_le _, rfl, ByteStream.counts_new capacity⟩

/-- Bytes that fit are accepted and counted. -/
theorem Tallied.appended (tallied : t.Tallied capacity) {data : Bytes}
    (fits : t.stream.bufferSize + data.length ≤ capacity) :
    Tallied capacity { t with
      stream := t.stream.appended data, accepted := t.accepted + data.length } := by
  have balance := tallied.balance
  refine ⟨tallied.room, ?_, ?_, tallied.counts.appended data⟩
  · -- The buffer stays within the capacity.
    rw [ByteStream.appended, List.length_append]
    exact fits
  · -- The bytes accepted are those popped and those in the buffer.
    simp only [ByteStream.appended, List.length_append] at balance ⊢
    omega

/-- Buffered bytes are taken and counted. -/
theorem Tallied.taken (tallied : t.Tallied capacity) {len : Nat}
    (inside : len ≤ t.stream.buffer.length) :
    Tallied capacity { t with
      stream := t.stream.taken len, popped := t.popped ++ t.stream.buffer.take len } := by
  have bounded := tallied.within
  refine ⟨tallied.room, ?_, ?_, tallied.counts.taken inside⟩
  · -- The buffer becomes shorter.
    simp only [ByteStream.taken, List.length_drop]
    omega
  · -- What is popped leaves the buffer from its front.
    rw [tallied.balance, ByteStream.taken, List.append_assoc, List.take_append_drop]

/-- A write accepts the leading bytes that there is room for. -/
theorem Tallied.write (tallied : t.Tallied capacity) (small : capacity < 2 ^ 31) (data : Bytes) :
    t.step (.write data) = .ok { t with
      stream := t.stream.appended (data.take (capacity - t.stream.bufferSize)),
      accepted := t.accepted + (data.take (capacity - t.stream.bufferSize)).length } := by
  rw [StreamTally.step, ByteStream.write_min small tallied.room tallied.within]
  rfl

/-- A call of the reader takes some of the buffered bytes. -/
theorem Tallied.reader (tallied : t.Tallied capacity) (small : capacity < 2 ^ 31)
    (call : ByteStream.ReaderCall) :
    ∃ len ≤ t.stream.buffer.length, t.step (.reader call) = .ok { t with
      stream := t.stream.taken len, popped := t.popped ++ t.stream.buffer.take len } := by
  have bounded := tallied.within
  obtain ⟨len, inside, served⟩ := tallied.counts.serve (by omega) call
  exact ⟨len, inside, by rw [StreamTally.step, served]; rfl⟩

/-- Every call returns, and keeps the account. -/
theorem Tallied.step (tallied : t.Tallied capacity) (small : capacity < 2 ^ 31)
    (call : StreamCall) : ∃ next, t.step call = .ok next ∧ next.Tallied capacity := by
  cases call with
  | write data =>
    -- A write accepts what fits.
    refine ⟨_, tallied.write small data, tallied.appended ?_⟩
    have bounded : t.stream.bufferSize ≤ capacity := tallied.within
    rw [List.length_take]
    omega
  | reader call =>
    -- A reader takes what is there.
    obtain ⟨len, inside, served⟩ := tallied.reader small call
    exact ⟨_, served, tallied.taken inside⟩
  -- Neither flag touches the buffer or a counter.
  | endInput =>
    exact ⟨_, rfl, tallied.room, tallied.within, tallied.balance, tallied.counts.1,
      tallied.counts.2⟩
  | setError =>
    exact ⟨_, rfl, tallied.room, tallied.within, tallied.balance, tallied.counts.1,
      tallied.counts.2⟩

/-- Every run returns, with its account kept. -/
theorem exists_tallied (small : capacity < 2 ^ 31) (calls : List StreamCall) :
    ∃ last, runCalls step (.new capacity) calls = .ok last ∧ last.Tallied capacity := by
  have along : Throughout step (fun _ _ => True) (.new capacity) calls :=
    -- No call has a condition to meet.
    .of_forall calls _ (fun _ _ => trivial)
  exact along.returns (Tallied capacity) (fun _ call tallied _ => tallied.step small call)
    (.new capacity)

/-- A total that a sign-extended `int` can show. -/
def Shown (total : Nat) : Prop := total < 2 ^ 31 ∨ 2 ^ 64 - 2 ^ 31 ≤ total

/-- A narrowed total widens back to itself exactly when it can be shown. -/
theorem ofInt_toInt32_iff {total : Nat} (word : total < 2 ^ 64) :
    ofInt (toInt32 total) = total ↔ Shown total := by
  simp only [ofInt, toInt32, Shown]
  omega

/-- The counters are exact exactly when both totals can be shown. -/
theorem Tallied.countersExact_iff (tallied : t.Tallied capacity) (word : t.accepted < 2 ^ 64) :
    t.CountersExact ↔ Shown t.accepted ∧ Shown t.popped.length := by
  have balance := tallied.balance
  rw [List.length_append] at balance
  have written : t.stream.bytesWritten = ofInt (toInt32 t.accepted) := by
    -- Each counter is an `int` that is shown as a word.
    rw [ByteStream.bytesWritten, tallied.counts.written, tallied.balance]
  have read : t.stream.bytesRead = ofInt (toInt32 t.popped.length) := by
    rw [ByteStream.bytesRead, tallied.counts.read]
  rw [CountersExact, written, read, ofInt_toInt32_iff word, ofInt_toInt32_iff (by omega)]
  constructor
  · -- The third of the three facts follows from the other two.
    rintro ⟨accepted, popped, _⟩
    exact ⟨accepted, popped⟩
  · rintro ⟨accepted, popped⟩
    -- Exact counters differ by what was accepted and not yet popped.
    refine ⟨accepted, popped, ?_⟩
    rw [(ofInt_toInt32_iff word).mpr accepted, (ofInt_toInt32_iff (by omega)).mpr popped,
      sub64_of_le (by omega) word, ByteStream.bufferSize]
    omega

/-- On every run of fewer than `2 ^ 64` bytes, the counters are exact exactly when both totals can
be shown by an `int`. -/
theorem countersExact_iff_shown (small : capacity < 2 ^ 31) (calls : List StreamCall) :
    ∃ last, runCalls step (.new capacity) calls = .ok last ∧
      (last.accepted < 2 ^ 64 →
        (last.CountersExact ↔ Shown last.accepted ∧ Shown last.popped.length)) := by
  obtain ⟨last, returned, tallied⟩ := exists_tallied small calls
  exact ⟨last, returned, tallied.countersExact_iff⟩

/-- A short run in which a write is cut off and a pop is refused. -/
theorem countersExact_iff_shown_short :
    4 < 2 ^ 31 ∧
    ∃ last, runCalls step (.new 4) [.write [1, 2, 3, 4, 5], .reader (.pop 9), .reader (.read 1)] =
      .ok last ∧ (last.accepted < 2 ^ 64 →
        (last.CountersExact ↔ Shown last.accepted ∧ Shown last.popped.length)) :=
  ⟨by decide, countersExact_iff_shown (by decide) _⟩

/-- Data that fits is accepted whole. -/
theorem Tallied.write_all (tallied : t.Tallied capacity) (small : capacity < 2 ^ 31) {data : Bytes}
    (fits : t.stream.bufferSize + data.length ≤ capacity) :
    t.step (.write data) = .ok { t with
      stream := t.stream.appended data, accepted := t.accepted + data.length } := by
  rw [tallied.write small, List.take_of_length_le (by omega)]

/-- A read of the whole buffer empties it. -/
theorem Tallied.read_all (tallied : t.Tallied capacity) (small : capacity < 2 ^ 31) :
    t.step (.reader (.read t.stream.buffer.length)) = .ok { t with
      stream := t.stream.taken t.stream.buffer.length
      popped := t.popped ++ t.stream.buffer.take t.stream.buffer.length } := by
  have bounded := tallied.within
  rw [StreamTally.step, ByteStream.serve, ByteStream.read_of_small (.inr (by omega)), Nat.min_self]
  rfl

/-- Data that fits is accepted a second time once it has been read. -/
theorem write_read_write (small : capacity < 2 ^ 31) {data : Bytes}
    (fits : data.length ≤ capacity) :
    ∃ last, runCalls step (.new capacity)
        [.write data, .reader (.read data.length), .write data] = .ok last ∧
      last.Tallied capacity ∧ last.accepted = data.length + data.length := by
  have fresh := Tallied.new capacity
  have room : (StreamTally.new capacity).stream.bufferSize + data.length ≤ capacity := by
    -- The new stream is empty.
    simpa [StreamTally.new, ByteStream.new, ByteStream.bufferSize] using fits
  -- The first write fills the buffer, and the read empties it again.
  have filled := fresh.appended room
  have emptied := filled.taken (Nat.le_refl _)
  have room' : (((StreamTally.new capacity).stream.appended data).taken
      ((StreamTally.new capacity).stream.appended data).buffer.length).bufferSize + data.length ≤
        capacity := by
    simpa [ByteStream.taken, ByteStream.bufferSize] using fits
  refine ⟨_, runCalls_cons_ok.mpr ⟨_, fresh.write_all small room,
    runCalls_cons_ok.mpr ⟨_, filled.read_all small,
      runCalls_cons_ok.mpr ⟨_, emptied.write_all small room', runCalls_nil _ _⟩⟩⟩,
    emptied.appended room', ?_⟩
  simp [StreamTally.new]

/-- Once `2 ^ 31` bytes have been written, the counter shows a number near the top of the range. -/
theorem sign_bit_miscounted :
    ∃ last, runCalls step (.new (2 ^ 30)) [.write (List.replicate (2 ^ 30) 0),
        .reader (.read (2 ^ 30)), .write (List.replicate (2 ^ 30) 0)] = .ok last ∧
      last.accepted = 2 ^ 31 ∧ last.stream.bytesWritten = 2 ^ 64 - 2 ^ 31 ∧
      ¬ last.CountersExact := by
  -- The strings are too long to be evaluated, so the general lemma gives the state.
  have fits : (List.replicate (2 ^ 30) (0 : UInt8)).length ≤ 2 ^ 30 := by
    rw [List.length_replicate]
  obtain ⟨last, returned, tallied, accepted⟩ :=
    write_read_write (show 2 ^ 30 < 2 ^ 31 by decide) fits
  rw [List.length_replicate] at accepted returned
  have written : last.stream.bytesWritten = ofInt (toInt32 last.accepted) := by
    -- The counter has passed into the negative numbers.
    rw [ByteStream.bytesWritten, tallied.counts.written, tallied.balance]
  have shown : last.stream.bytesWritten = 2 ^ 64 - 2 ^ 31 := by
    rw [written, accepted, ofInt_toInt32_high (by omega) (by omega)]
    omega
  refine ⟨last, returned, by omega, shown, ?_⟩
  rintro ⟨exact, _, _⟩
  omega

end StreamTally

end Sponge
