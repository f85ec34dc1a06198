import Sponge.Wire.Buffer

/-! File descriptors: the state that the handles to one share, and a buffer written in parts. -/

namespace Sponge

/-- What the code around the kernel throws. -/
inductive Failure where
  /-- `unix_error`: a system call failed. -/
  | unix (attempt : String) (errno : Nat)
  /-- `std::runtime_error`. -/
  | runtime (what : String)
  /-- An exception of the code that handles packets. -/
  | packet (thrown : Exception)
  /-- A call of the TCP code that does not return. -/
  | fault (fault : Fault)
  /-- No exception, but a system call that has not returned. -/
  | blocked
deriving DecidableEq, Repr

/-- A call into the code that handles packets. -/
def ofPacket {α : Type} : Except Exception α → Except Failure α
  | .ok value => .ok value
  | .error thrown => .error (.packet thrown)

/-- A call into the TCP code. -/
def ofFault {α : Type} : Except Fault α → Except Failure α
  | .ok value => .ok value
  | .error fault => .error (.fault fault)

/-- A call into the code that handles packets returns what that code returns. -/
@[simp] theorem ofPacket_ok {α : Type} {outcome : Except Exception α} {value : α} :
    ofPacket outcome = .ok value ↔ outcome = .ok value := by
  cases outcome <;> simp [ofPacket]

/-- A call into the TCP code returns what that code returns. -/
@[simp] theorem ofFault_ok {α : Type} {outcome : Except Fault α} {value : α} :
    ofFault outcome = .ok value ↔ outcome = .ok value := by
  cases outcome <;> simp [ofFault]

/-- How the kernel answers a system call. -/
inductive SysResult (α : Type) where
  /-- The call returns something. -/
  | returned (value : α)
  /-- The call fails and sets `errno`. -/
  | failed (errno : Nat)
deriving DecidableEq, Repr

/-- `SystemCall`: the result of a system call, or an exception that names the attempt. -/
def systemCall {α : Type} (attempt : String) : SysResult α → Except Failure α
  | .returned value => .ok value
  | .failed errno => .error (.unix attempt errno)

/-- A checked system call returns what the kernel returns. -/
@[simp] theorem systemCall_ok {α : Type} {attempt : String} {answer : SysResult α} {value : α} :
    systemCall attempt answer = .ok value ↔ answer = .returned value := by
  cases answer <;> simp [systemCall]

/-- The state `FDWrapper` of an open file, shared by every handle to it. -/
structure FileDescriptor where
  /-- A read has met the end of the file. -/
  eof : Bool := false
  /-- The descriptor was closed. -/
  closed : Bool := false
  /-- The number of reads, as far as an `unsigned` counts. -/
  readCount : UInt32 := 0
  /-- The number of writes. -/
  writeCount : UInt32 := 0
deriving DecidableEq, Repr

namespace FileDescriptor

/-- Counts a read. -/
def registerRead (fd : FileDescriptor) : FileDescriptor :=
  { fd with readCount := fd.readCount + 1 }

/-- Counts a write. -/
def registerWrite (fd : FileDescriptor) : FileDescriptor :=
  { fd with writeCount := fd.writeCount + 1 }

/-- The largest read. -/
def readBufferSize : Nat := 1024 * 1024

/-- Reads up to a number of bytes. -/
def read (fd : FileDescriptor) (limit : Nat) (answer : SysResult Bytes) :
    Except Failure (Bytes × FileDescriptor) := do
  let str ← systemCall "read" answer
  -- Nothing was read although something was asked for: the file has ended.
  let fd := if 0 < limit ∧ str.length = 0 then { fd with eof := true } else fd
  if min readBufferSize limit < str.length then
    .error (.runtime "read() read more than requested")
  else return (str, fd.registerRead)

/-- Closes the descriptor. -/
def close (fd : FileDescriptor) (answer : SysResult Unit) : Except Failure FileDescriptor := do
  systemCall "close" answer
  return { fd with eof := true, closed := true }

/-- `Socket::shutdown(SHUT_WR)`. -/
def shutdownWrite (fd : FileDescriptor) (answer : SysResult Unit) :
    Except Failure FileDescriptor := do
  systemCall "shutdown" answer
  return fd.registerWrite

/-- A read that returns gives what the kernel gave, within the limit. -/
theorem read_ok {fd fd' : FileDescriptor} {limit : Nat} {answer : SysResult Bytes} {data : Bytes}
    (done : fd.read limit answer = .ok (data, fd')) :
    answer = .returned data ∧ data.length ≤ limit ∧
      fd' = { fd with
        eof := fd.eof || (decide (0 < limit) && data.isEmpty)
        readCount := fd.readCount + 1 } := by
  unfold read at done
  obtain ⟨str, answered, done⟩ := bind_eq_ok.mp done
  dsimp only at done
  -- The kernel was asked for at most the limit, and a larger answer throws.
  split at done
  · cases done
  · rename_i fits
    simp only [pure_eq_ok, Except.ok.injEq, Prod.mk.injEq] at done
    obtain ⟨rfl, rfl⟩ := done
    refine ⟨systemCall_ok.mp answered, by omega, ?_⟩
    by_cases ended : 0 < limit ∧ str.length = 0
    · -- An empty answer to a read for something is the end.
      have empty : str = [] := List.length_eq_zero_iff.mp ended.2
      simp [registerRead, ended.1, empty]
    · -- Any other answer leaves the flag.
      have flag : (decide (0 < limit) && str.isEmpty) = false := by
        simpa [List.isEmpty_iff] using ended
      rw [if_neg ended, flag, Bool.or_false]
      rfl

end FileDescriptor

/-- A call of `FileDescriptor::write` on its way. -/
structure Writing where
  /-- The descriptor. -/
  fd : FileDescriptor
  /-- What is left to write. -/
  buffer : BufferViewList
  /-- How many bytes the kernel has taken. -/
  totalBytesWritten : Nat := 0
  /-- What the kernel has taken, system call by system call. -/
  chunks : List Bytes := []

/-- How a call with a loop of system calls stands. -/
inductive Ending where
  /-- It waits for a system call. -/
  | blocked
  /-- It threw. -/
  | threw (why : Failure)
  /-- It returned. -/
  | returned
deriving DecidableEq, Repr

namespace Writing

/-- One turn of the loop: the kernel takes some of what is left. -/
def turn (w : Writing) (answer : SysResult Nat) : Except Failure Writing := do
  let bytesWritten ← systemCall "writev" answer
  if bytesWritten = 0 ∧ w.buffer.size ≠ 0 then
    .error (.runtime "write returned 0 given non-empty input buffer")
  else if w.buffer.size < bytesWritten then
    .error (.runtime "write wrote more than length of input buffer")
  else
    match w.buffer.removePrefix bytesWritten with
    | (_, .error thrown) => .error (.packet thrown)
    | (rest, .ok ()) =>
      return {
        fd := w.fd.registerWrite
        buffer := rest
        totalBytesWritten := w.totalBytesWritten + bytesWritten
        chunks := w.chunks ++ [w.buffer.concatenate.take bytesWritten] }

/-- The loop, with the answers that the kernel gives to its system calls. -/
def run (writeAll : Bool) : List (SysResult Nat) → Writing → Writing × Ending
  | [], w => (w, .blocked)
  | answer :: answers, w =>
    match w.turn answer with
    | .error why => (w, .threw why)
    | .ok next =>
      if writeAll && next.buffer.size != 0 then run writeAll answers next else (next, .returned)

end Writing

/-- Writes a buffer, once or until all of it is written. -/
def FileDescriptor.write (fd : FileDescriptor) (buffer : BufferViewList) (writeAll : Bool)
    (answers : List (SysResult Nat)) : Writing × Ending :=
  Writing.run writeAll answers { fd, buffer }

namespace Writing

variable {w next : Writing} {answer : SysResult Nat}

/-- The kernel may answer a turn with any positive number of bytes that are there. -/
def Fair (w : Writing) (count : Nat) : Prop :=
  count ≤ w.buffer.size ∧ (w.buffer.size ≠ 0 → count ≠ 0)

/-- What a turn does when the kernel takes some bytes. -/
theorem turn_returned {count : Nat} (fair : w.Fair count) :
    ∃ rest : BufferViewList, rest.concatenate = w.buffer.concatenate.drop count ∧
      w.turn (.returned count) = .ok {
        fd := w.fd.registerWrite
        buffer := rest
        totalBytesWritten := w.totalBytesWritten + count
        chunks := w.chunks ++ [w.buffer.concatenate.take count] } := by
  obtain ⟨removed, left⟩ := BufferViewList.removes w.buffer count
  rw [if_pos fair.1] at removed
  refine ⟨(w.buffer.removePrefix count).1, left, ?_⟩
  -- Both checks pass, so the prefix is removed.
  simp only [turn, systemCall, ok_bind]
  rw [if_neg (by intro zero; exact fair.2 zero.2 zero.1), if_neg (Nat.not_lt.mpr fair.1)]
  split
  · rename_i failed
    rw [failed] at removed
    cases removed
  · rename_i rest done
    rw [done]
    rfl

/-- A turn throws exactly when the kernel fails, takes nothing, or takes more than there is. -/
theorem turn_threw {why : Failure} (threw : w.turn answer = .error why) :
    (∃ errno, answer = .failed errno ∧ why = .unix "writev" errno) ∨
      ∃ count, answer = .returned count ∧ ¬ w.Fair count := by
  cases answer with
  | failed errno =>
    -- The kernel has failed.
    simp only [turn, systemCall, error_bind, Except.error.injEq] at threw
    exact .inl ⟨errno, rfl, threw.symm⟩
  | returned count =>
    -- A fair answer does not throw.
    refine .inr ⟨count, rfl, fun fair => ?_⟩
    obtain ⟨rest, -, done⟩ := turn_returned fair
    rw [done] at threw
    cases threw

/-- A turn that does not throw had a fair answer. -/
theorem turn_ok (done : w.turn answer = .ok next) :
    ∃ count, answer = .returned count ∧ w.Fair count ∧
      next.buffer.concatenate = w.buffer.concatenate.drop count ∧
      next.fd = w.fd.registerWrite ∧
      next.totalBytesWritten = w.totalBytesWritten + count ∧
      next.chunks = w.chunks ++ [w.buffer.concatenate.take count] := by
  cases answer with
  | failed errno =>
    -- A failed call throws.
    simp only [turn, systemCall, error_bind] at done
    cases done
  | returned count =>
    have fair : w.Fair count := by
      -- An unfair answer would have thrown.
      simp only [turn, systemCall, ok_bind] at done
      split at done
      · cases done
      · split at done
        · cases done
        · rename_i nonzero inside
          exact ⟨Nat.le_of_not_lt inside, fun left zero => nonzero ⟨zero, left⟩⟩
    obtain ⟨rest, left, turned⟩ := turn_returned fair
    rw [turned, Except.ok.injEq] at done
    subst done
    exact ⟨count, rfl, fair, left, rfl, rfl, rfl⟩

/-- A call on its way has handed over the front of the buffer it started with. -/
structure Partway (fd : FileDescriptor) (whole : Bytes) (w : Writing) : Prop where
  /-- What the kernel has taken and what is left make up the whole. -/
  split : w.chunks.flatten ++ w.buffer.concatenate = whole
  /-- The total counts what the kernel has taken. -/
  total : w.totalBytesWritten = w.chunks.flatten.length
  /-- Every system call is counted, and nothing else about the descriptor changes. -/
  counted : w.fd = { fd with writeCount := fd.writeCount + UInt32.ofNat w.chunks.length }
  /-- The kernel never takes nothing of something. -/
  nonempty : whole ≠ [] → ∀ chunk ∈ w.chunks, chunk ≠ []

/-- A call that has done nothing yet. -/
theorem Partway.start (fd : FileDescriptor) (buffer : BufferViewList) :
    Partway fd buffer.concatenate { fd, buffer } :=
  ⟨rfl, rfl, by simp, by simp⟩

/-- A turn hands over some more. -/
theorem Partway.turn {fd : FileDescriptor} {whole : Bytes} (partway : Partway fd whole w)
    (more : whole ≠ [] → w.buffer.size ≠ 0) (done : w.turn answer = .ok next) :
    Partway fd whole next ∧ next.chunks.length = w.chunks.length + 1 := by
  obtain ⟨count, -, fair, left, registered, total, chunks⟩ := turn_ok done
  have taken : (w.buffer.concatenate.take count).length = count := by
    -- The kernel took no more than there was.
    have inside := fair.1
    rw [BufferViewList.size_eq] at inside
    exact List.length_take_of_le inside
  refine ⟨⟨?_, ?_, ?_, ?_⟩, by rw [chunks, List.length_append]; rfl⟩
  · -- What was taken moves from the buffer to the chunks.
    rw [chunks, left, List.flatten_append, List.append_assoc]
    simpa using partway.split
  · -- The total counts what was taken.
    rw [total, chunks, List.flatten_append, List.length_append, partway.total]
    simp [taken]
  · -- The descriptor counts the calls.
    rw [registered, partway.counted, chunks]
    simp [FileDescriptor.registerWrite, UInt32.ofNat_add, UInt32.add_assoc]
  · -- Bytes were left, so the kernel took at least one of them.
    intro some chunk member
    rw [chunks, List.mem_append, List.mem_singleton] at member
    cases member with
    | inl before => exact partway.nonempty some chunk before
    | inr now =>
      intro empty
      rw [now] at empty
      rw [empty, List.length_nil] at taken
      exact fair.2 (more some) taken.symm

/-- How a call ends, given where it stands and the answers it has used. -/
structure Ended (writeAll : Bool) (answers : List (SysResult Nat)) (w : Writing)
    (ending : Ending) : Prop where
  /-- A call that returns has written everything, or was to write only once. -/
  returned : ending = .returned →
    (writeAll = true → w.buffer.concatenate = []) ∧ (writeAll = false → w.chunks.length = 1)
  /-- A call throws on the first answer that is not fair. -/
  threw : ∀ why, ending = .threw why → ∃ answer, answers[w.chunks.length]? = some answer ∧
    ((∃ errno, answer = .failed errno ∧ why = .unix "writev" errno) ∨
      ∃ count, answer = .returned count ∧ ¬ w.Fair count)
  /-- A call that still waits has used every answer. -/
  blocked : ending = .blocked → w.chunks.length = answers.length

/-- The loop hands over the front of the buffer, whatever the kernel answers. -/
theorem run_partway {fd : FileDescriptor} {whole : Bytes} (writeAll : Bool) :
    ∀ (answers used : List (SysResult Nat)) (w : Writing), Partway fd whole w →
      (whole ≠ [] → w.buffer.size ≠ 0) → used.length = w.chunks.length →
      (writeAll = false → w.chunks = []) →
      Partway fd whole (run writeAll answers w).1 ∧
        Ended writeAll (used ++ answers) (run writeAll answers w).1 (run writeAll answers w).2 := by
  -- Induction on the answers: those before have led to where the call stands.
  intro answers
  induction answers with
  | nil =>
    -- The answers are used up, so the call still waits.
    intro used w partway _ position _
    unfold run
    refine ⟨partway, ?_, ?_, ?_⟩
    · intro done
      cases done
    · intro why done
      cases done
    · intro _
      simp [position]
  | cons answer answers ih =>
    intro used w partway more position once
    unfold run
    cases turned : w.turn answer with
    | error why =>
      -- The turn throws, and the call with it.
      refine ⟨partway, ?_, ?_, ?_⟩
      · intro done
        cases done
      · intro why' same
        cases same
        exact ⟨answer, by rw [← position]; simp, turn_threw turned⟩
      · intro done
        cases done
    | ok next =>
      obtain ⟨kept, longer⟩ := partway.turn more turned
      dsimp only
      split
      · -- Something is left and all is to be written: the loop goes on.
        rename_i again
        simp only [Bool.and_eq_true, bne_iff_ne, ne_eq] at again
        have result := ih (used ++ [answer]) next kept (fun _ => again.2)
          (by rw [List.length_append, position, longer]; rfl)
          (fun single => by rw [again.1] at single; cases single)
        rw [List.append_assoc, List.singleton_append] at result
        exact result
      · -- Everything is written, or one turn was all that was asked for.
        rename_i stops
        simp only [Bool.and_eq_true, bne_iff_ne, ne_eq, not_and, Decidable.not_not] at stops
        refine ⟨kept, ?_, ?_, ?_⟩
        · intro _
          refine ⟨fun all => ?_, fun single => ?_⟩
          · -- Nothing is left.
            have none := stops all
            rw [BufferViewList.size_eq] at none
            exact List.length_eq_zero_iff.mp none
          · -- There was one turn.
            rw [longer, once single]
            rfl
        · intro why done
          cases done
        · intro done
          cases done

/-- When the kernel takes at least a byte each time and everything in the end, the loop returns. -/
theorem run_returns :
    ∀ (counts : List Nat) (w : Writing), (∀ count ∈ counts, 0 < count) →
      counts.sum = w.buffer.size → w.buffer.size ≠ 0 →
      (run true (counts.map .returned) w).2 = .returned ∧
        (run true (counts.map .returned) w).1.chunks.map List.length =
          w.chunks.map List.length ++ counts := by
  -- Induction on the counts: after the last one nothing is left, before it something is.
  intro counts
  induction counts with
  | nil =>
    -- Without an answer nothing can be left to write.
    intro w _ sum some
    exact absurd sum.symm some
  | cons count counts ih =>
    intro w positive sum some
    rw [List.sum_cons] at sum
    have here : 0 < count := positive count (by simp)
    have fair : w.Fair count := ⟨by omega, fun _ => by omega⟩
    obtain ⟨next, turned⟩ : ∃ next, w.turn (.returned count) = .ok next := by
      obtain ⟨rest, -, turned⟩ := turn_returned fair
      exact ⟨_, turned⟩
    obtain ⟨same, equal, -, left, -, -, chunks⟩ := turn_ok turned
    cases equal
    have size : next.buffer.size = counts.sum := by
      rw [BufferViewList.size_eq, left, List.length_drop, ← BufferViewList.size_eq]
      omega
    have taken : (w.buffer.concatenate.take count).length = count := by
      rw [List.length_take, ← BufferViewList.size_eq]
      omega
    rw [List.map_cons, run, turned]
    dsimp only
    by_cases last : counts.sum = 0
    · -- This was the last count.
      rw [if_neg (by simp [size, last])]
      have none : counts = [] := by
        cases counts with
        | nil => rfl
        | cons next others =>
          have := positive next (by simp)
          rw [List.sum_cons] at last
          omega
      simp [none, chunks, taken]
    · -- Something is left, so the loop goes on.
      rw [if_pos (by simp [size, last])]
      have result := ih next
        (fun other member => positive other (List.mem_cons_of_mem _ member)) size.symm
        (by rw [size]; exact last)
      refine ⟨result.1, result.2.trans ?_⟩
      simp [chunks, taken]

end Writing

namespace FileDescriptor

/-- However the kernel splits a write, it gets the front of the buffer in order, and all of it when
a call that is to write everything returns. -/
theorem write_hands_over_front (fd : FileDescriptor) (buffer : BufferViewList) (writeAll : Bool)
    (answers : List (SysResult Nat)) :
    let (w, ending) := fd.write buffer writeAll answers
    w.chunks.flatten = buffer.concatenate.take w.totalBytesWritten ∧
      w.buffer.concatenate = buffer.concatenate.drop w.totalBytesWritten ∧
      w.totalBytesWritten ≤ buffer.size ∧
      w.fd = { fd with writeCount := fd.writeCount + UInt32.ofNat w.chunks.length } ∧
      (buffer.size ≠ 0 → ∀ chunk ∈ w.chunks, chunk ≠ []) ∧
      (ending = .returned → writeAll = true → w.totalBytesWritten = buffer.size) ∧
      w.Ended writeAll answers ending ∧
      -- The loop ends: no kernel that takes a byte at a time can keep it from returning.
      ∀ counts : List Nat, writeAll = true → answers = counts.map .returned →
        (∀ count ∈ counts, 0 < count) → counts.sum = buffer.size → buffer.size ≠ 0 →
        ending = .returned ∧ w.chunks.map List.length = counts := by
  dsimp only
  have size := buffer.size_eq
  have more : buffer.concatenate ≠ [] → buffer.size ≠ 0 := by
    intro some none
    rw [size] at none
    exact some (List.length_eq_zero_iff.mp none)
  have ends : ∀ counts : List Nat, writeAll = true → answers = counts.map .returned →
      (∀ count ∈ counts, 0 < count) → counts.sum = buffer.size → buffer.size ≠ 0 →
      (fd.write buffer writeAll answers).2 = .returned ∧
        (fd.write buffer writeAll answers).1.chunks.map List.length = counts := by
    intro counts all given positive sum some
    rw [all, given]
    exact Writing.run_returns counts { fd, buffer } positive sum some
  -- The loop starts with the whole buffer.
  obtain ⟨partway, ended⟩ : Writing.Partway fd buffer.concatenate
        (fd.write buffer writeAll answers).1 ∧
      Writing.Ended writeAll answers (fd.write buffer writeAll answers).1
        (fd.write buffer writeAll answers).2 :=
    Writing.run_partway writeAll answers [] _ (Writing.Partway.start fd buffer) more rfl
      (fun _ => rfl)
  generalize fd.write buffer writeAll answers = result at partway ended ends
  -- The whole is what was taken followed by what is left.
  have whole := partway.split
  have length := congrArg List.length whole
  rw [List.length_append, ← partway.total, ← size] at length
  refine ⟨?_, ?_, by omega, partway.counted, ?_, ?_, ended, ends⟩
  · rw [← whole, partway.total, List.take_left]
  · rw [← whole, partway.total, List.drop_left]
  · -- A chunk is empty only if the whole buffer was.
    intro some
    apply partway.nonempty
    intro empty
    rw [size, empty] at some
    exact some rfl
  · -- Nothing is left, so the total is the size.
    intro returned all
    rw [(ended.returned returned).1 all, List.length_nil] at length
    omega

end FileDescriptor

end Sponge
