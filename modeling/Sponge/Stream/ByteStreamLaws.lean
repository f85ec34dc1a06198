import Sponge.Stream.ByteStream

/-! Accounting of a byte stream: what is accepted, what is read, and when the counters are exact. -/

namespace Sponge

namespace ByteStream

/-- The counters of a stream agree with the bytes that passed through it. -/
structure Counts (s : ByteStream) (popped : Bytes) : Prop where
  /-- The read counter holds the number of popped bytes. -/
  read : s.totalRead = toInt32 popped.length
  /-- The write counter holds the number of popped and buffered bytes. -/
  written : s.written = toInt32 (popped ++ s.buffer).length

/-- A fresh stream has seen no bytes. -/
theorem counts_new (capacity : Nat) : (new capacity).Counts [] :=
  ⟨by simp [new, toInt32], by simp [new, toInt32]⟩

/-- The read counter is exact below the sign bit. -/
theorem Counts.bytesRead {s : ByteStream} {popped : Bytes} (counts : s.Counts popped)
    (small : popped.length < 2 ^ 31) : s.bytesRead = popped.length := by
  rw [ByteStream.bytesRead, counts.read]
  exact ofInt_toInt32 small

/-- The write counter is exact below the sign bit. -/
theorem Counts.bytesWritten {s : ByteStream} {popped : Bytes} (counts : s.Counts popped)
    (small : (popped ++ s.buffer).length < 2 ^ 31) :
    s.bytesWritten = (popped ++ s.buffer).length := by
  rw [ByteStream.bytesWritten, counts.written]
  exact ofInt_toInt32 small

/-- The stream after its reader has taken a number of buffered bytes. -/
def taken (s : ByteStream) (len : Nat) : ByteStream :=
  { s with buffer := s.buffer.drop len, totalRead := toInt32 (s.totalRead + len) }

/-- Removing buffered bytes moves them from the buffer to the reader. -/
theorem popOutput_of_le {s : ByteStream} {len : Nat} (inside : len ≤ s.buffer.length) :
    s.popOutput len = .ok (s.taken len) := by
  -- The substring runs from the popped length to the end of the buffer.
  simp [popOutput, substr_of_le inside, taken]

/-- A pop that returns removed only bytes that were there. -/
theorem popOutput_ok {s s' : ByteStream} {len : Nat} (popped : s.popOutput len = .ok s') :
    len ≤ s.buffer.length ∧ s' = s.taken len := by
  -- The substring throws if it starts behind the end of the buffer.
  by_cases inside : len ≤ s.buffer.length
  · rw [popOutput_of_le inside, Except.ok.injEq] at popped
    exact ⟨inside, popped.symm⟩
  · simp [popOutput, substr, Nat.lt_of_not_le inside] at popped

/-- Reading a length that fits in an `int` takes that many bytes, or all there are. -/
theorem read_of_small {s : ByteStream} {len : Nat}
    (small : len < 2 ^ 31 ∨ s.buffer.length < 2 ^ 31) :
    s.read len = .ok (s.buffer.take (min len s.buffer.length),
      s.taken (min len s.buffer.length)) := by
  -- The clipped length is the smaller of the two, so it survives the conversion.
  have clipped : (if s.buffer.length < len then s.buffer.length else len) =
      min len s.buffer.length := by
    split <;> omega
  have same : ofInt (toInt32 ((min len s.buffer.length : Nat) : Int)) =
      min len s.buffer.length := ofInt_toInt32 (by omega)
  simp only [read, clipped, same, peekOutput]
  rw [popOutput_of_le (Nat.min_le_right _ _)]
  simp only [ok_bind, pure_eq_ok]

/-- Popped bytes stay counted. -/
theorem Counts.taken {s : ByteStream} {popped : Bytes} (counts : s.Counts popped) {len : Nat}
    (inside : len ≤ s.buffer.length) : (s.taken len).Counts (popped ++ s.buffer.take len) := by
  constructor
  · -- The read counter grows by what is popped.
    simp only [ByteStream.taken, counts.read, toInt32_add, List.length_append, List.length_take,
      Nat.min_eq_left inside, Nat.cast_add]
  · -- What is popped and what stays are the buffer of before.
    rw [ByteStream.taken, List.append_assoc, List.take_append_drop]
    exact counts.written

/-- A call of the reader on a stream. -/
inductive ReaderCall where
  /-- `read`. -/
  | read (len : Nat)
  /-- `pop_output`. -/
  | pop (len : Nat)
deriving DecidableEq, Repr

/-- The bytes a reader's call takes, and the stream it leaves. -/
def serve (s : ByteStream) : ReaderCall → Except Fault (Bytes × ByteStream)
  | .read len => s.read len
  | .pop len =>
    match s.popOutput len with
    | .ok popped => .ok (s.peekOutput len, popped)
    -- The exception of an overlong pop leaves the stream as it was.
    | .error _ => .ok ([], s)

/-- A call of the reader that returns hands over leading bytes, or leaves the stream alone. -/
theorem serve_ok {s : ByteStream} {call : ReaderCall} {result : Bytes × ByteStream}
    (served : s.serve call = .ok result) :
    (∃ len ≤ s.buffer.length, result = (s.buffer.take len, s.taken len)) ∨ result = ([], s) := by
  -- A pop of too much is caught, and changes nothing.
  cases call with
  | read len =>
    -- A read takes no more than there is.
    simp only [ByteStream.serve, read, bind_eq_ok, pure_eq_ok, Except.ok.injEq] at served
    obtain ⟨after, popped, rfl⟩ := served
    obtain ⟨inside, rfl⟩ := popOutput_ok popped
    exact .inl ⟨_, inside, rfl⟩
  | pop len =>
    -- The bytes are looked at, and then popped.
    rw [ByteStream.serve] at served
    split at served
    · rename_i popped
      obtain ⟨inside, rfl⟩ := popOutput_ok popped
      rw [Except.ok.injEq] at served
      exact .inl ⟨len, inside, served.symm⟩
    · rw [Except.ok.injEq] at served
      exact .inr served.symm

/-- Every call of the reader takes some of the buffered bytes. -/
theorem Counts.serve {s : ByteStream} {popped : Bytes} (counts : s.Counts popped)
    (small : s.buffer.length < 2 ^ 31) (call : ReaderCall) :
    ∃ len ≤ s.buffer.length, s.serve call = .ok (s.buffer.take len, s.taken len) := by
  cases call with
  -- The length that is peeked at is the one that is popped.
  | read len => exact ⟨_, Nat.min_le_right len _, read_of_small (.inr small)⟩
  | pop len =>
    by_cases inside : len ≤ s.buffer.length
    · exact ⟨len, inside, by simp only [ByteStream.serve, popOutput_of_le inside, peekOutput]⟩
    · -- A pop that fails takes nothing.
      have kept : s.taken 0 = s := by
        simp only [ByteStream.taken, List.drop_zero, counts.read, Nat.cast_zero, Int.add_zero,
          toInt32_idem]
        rw [← counts.read]
      refine ⟨0, Nat.zero_le _, ?_⟩
      rw [kept, ByteStream.serve]
      cases overlong : s.popOutput len with
      | error fault => rfl
      | ok after => exact absurd (popOutput_ok overlong).1 inside

/-- The stream after bytes have been accepted. -/
def appended (s : ByteStream) (data : Bytes) : ByteStream :=
  { s with buffer := s.buffer ++ data, written := toInt32 (s.written + data.length) }

/-- Accepting bytes in two parts is accepting them at once. -/
theorem appended_append (s : ByteStream) (first second : Bytes) :
    (s.appended first).appended second = s.appended (first ++ second) := by
  simp [appended, toInt32_add, Int.add_assoc]

/-- Accepting nothing changes nothing that the counter still shows. -/
theorem Counts.appended_nil {s : ByteStream} {popped : Bytes} (counts : s.Counts popped) :
    s.appended [] = s := by
  have written : toInt32 s.written = s.written := by
    rw [counts.written, toInt32_idem]
  simp [appended, written]

/-- Accepted bytes are counted. -/
theorem Counts.appended {s : ByteStream} {popped : Bytes} (counts : s.Counts popped)
    (data : Bytes) : (s.appended data).Counts popped := by
  constructor
  · -- Nothing was read.
    exact counts.read
  · -- The write counter grows by the bytes that are appended.
    simp only [ByteStream.appended, counts.written, toInt32_add, List.length_append, Nat.cast_add,
      Int.add_assoc]

/-- A write that fits is accepted whole. -/
theorem write_of_fits (s : ByteStream) (data : Bytes) (fits : data.length ≤ s.remainingCapacity) :
    s.write data = (s.appended data, data.length) := by
  simp [write, fits, appended]

/-- A write appends the leading part of the data that it reports. -/
theorem write_buffer (s : ByteStream) (data : Bytes) :
    (s.write data).1.buffer = s.buffer ++ data.take (s.write data).2 := by
  -- All of the data is written, or as much as the count says.
  simp only [write]
  split
  · rw [List.take_length]
  · rfl

/-- A write does not touch the read counter. -/
theorem write_totalRead (s : ByteStream) (data : Bytes) :
    (s.write data).1.totalRead = s.totalRead := by
  simp only [write]
  split <;> rfl

/-- A write never removes buffered bytes. -/
theorem write_buffer_le (s : ByteStream) (data : Bytes) :
    s.buffer.length ≤ (s.write data).1.buffer.length := by
  rw [write_buffer, List.length_append]
  omega

/-- A write adds at most the data. -/
theorem write_buffer_le_add (s : ByteStream) (data : Bytes) :
    (s.write data).1.buffer.length ≤ s.buffer.length + data.length := by
  rw [write_buffer, List.length_append, List.length_take]
  omega

/-- A write whose count does not turn negative accepts a leading part of the data. -/
theorem write_of_count (s : ByteStream) (data : Bytes)
    (nonnegative : ¬ data.length ≤ s.remainingCapacity → 0 ≤ toInt32 s.remainingCapacity) :
    ∃ count ≤ data.length, s.write data = (s.appended (data.take count), count) := by
  by_cases fits : data.length ≤ s.remainingCapacity
  · -- All of the data fits.
    exact ⟨data.length, Nat.le_refl _, by rw [write_of_fits s data fits, List.take_length]⟩
  · -- The accepted count is what the remaining capacity narrows to.
    have positive := nonnegative fits
    obtain ⟨count, counted⟩ := Int.eq_ofNat_of_zero_le positive
    have range := (toInt32_range s.remainingCapacity).2
    have same : ofInt (toInt32 s.remainingCapacity) = count := by
      rw [counted]
      exact ofInt_natCast (by omega)
    have less : count ≤ data.length := by
      have word : toInt32 s.remainingCapacity ≤ s.remainingCapacity := by
        simp only [toInt32] at positive ⊢
        omega
      omega
    refine ⟨count, less, ?_⟩
    simp only [write, if_neg fits]
    rw [same, counted, appended, List.length_take, Nat.min_eq_left less]

/-- A negative count takes all the data that could be stored. -/
theorem take_of_negative {s : ByteStream} {data : Bytes}
    (beyond : ¬ data.length ≤ s.remainingCapacity) (negative : toInt32 s.remainingCapacity < 0)
    (short : (s.write data).1.buffer.length < 2 ^ 63) :
    s.buffer.length + data.length = (s.write data).1.buffer.length := by
  -- The count, taken for a size, is larger than any data.
  have range := (toInt32_range s.remainingCapacity).1
  have wide := ofInt_of_neg negative (by omega)
  simp only [write, if_neg beyond, List.length_append, List.length_take] at short ⊢
  omega

/-- A write into a short stream accepts a leading part of the data. -/
theorem write_eq (s : ByteStream) (data : Bytes)
    (short : (s.write data).1.buffer.length < 2 ^ 31) :
    ∃ count ≤ data.length, s.write data = (s.appended (data.take count), count) := by
  -- A negative count would have stored all of the data, which the bound on the buffer excludes.
  refine s.write_of_count data fun beyond => ?_
  by_contra negative
  have taken := take_of_negative beyond (by omega) (by omega)
  have kept : toInt32 s.remainingCapacity = s.remainingCapacity := toInt32_natCast (by omega)
  omega

/-- With an `int` capacity, every write that fits a string accepts a leading part of the data. -/
theorem write_of_int {s : ByteStream} (int : toInt32 s.capacity = s.capacity) (data : Bytes)
    (short : (s.write data).1.buffer.length < 2 ^ 63) :
    ∃ count ≤ data.length, s.write data = (s.appended (data.take count), count) := by
  refine s.write_of_count data fun beyond => ?_
  by_contra negative
  have taken := take_of_negative beyond (by omega) short
  have range := toInt32_range s.capacity
  rw [int] at range
  -- The room of a nonnegative capacity is small, and that of a negative one exceeds every string.
  simp only [remainingCapacity, sub64, ofInt, toInt32] at beyond negative
  omega

/-- Accepting bytes uses up exactly their room. -/
theorem remainingCapacity_appended {s : ByteStream} {data : Bytes}
    (fits : data.length ≤ s.remainingCapacity) :
    (s.appended data).remainingCapacity = s.remainingCapacity - data.length := by
  have word : ofInt s.capacity < 2 ^ 64 := by
    -- The capacity is a word, so the subtraction does not wrap.
    simp only [ofInt]
    omega
  simp only [remainingCapacity, appended, sub64, List.length_append] at fits ⊢
  omega

/-- Below the sign bit, the remaining capacity is the capacity less the buffered bytes. -/
theorem remainingCapacity_new {s : ByteStream} {capacity : Nat} (small : capacity < 2 ^ 31)
    (room : s.capacity = toInt32 capacity) (within : s.buffer.length ≤ capacity) :
    s.remainingCapacity = capacity - s.buffer.length := by
  rw [remainingCapacity, room, ofInt_toInt32 small]
  exact sub64_of_le within (by omega)

/-- With a capacity below the sign bit, a write accepts exactly what there is room for. -/
theorem write_min {s : ByteStream} {capacity : Nat} (small : capacity < 2 ^ 31)
    (room : s.capacity = toInt32 capacity) (within : s.buffer.length ≤ capacity) (data : Bytes) :
    s.write data = (s.appended (data.take (capacity - s.buffer.length)),
      (data.take (capacity - s.buffer.length)).length) := by
  have remaining := remainingCapacity_new small room within
  rw [← remaining]
  by_cases fits : data.length ≤ s.remainingCapacity
  · rw [write_of_fits s data fits, List.take_of_length_le fits]
  · -- The count that limits the substring is the remaining capacity, unchanged by the narrowing.
    have kept : toInt32 s.remainingCapacity = s.remainingCapacity := toInt32_natCast (by omega)
    simp only [write, if_neg fits, kept, appended, List.length_take]
    rw [ofInt_natCast (by omega), Nat.min_eq_left (by omega)]

end ByteStream

end Sponge
