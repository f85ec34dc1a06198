import Sponge.Io.EventLoopLaws
import Sponge.Stream.ByteStreamLaws

/-! Failures of the environment, and the calls on a descriptor that fail in no other way. -/

namespace Sponge

/-- The texts of the errors that report what the kernel did. -/
def kernelErrors : List String :=
  ["read() read more than requested", "write returned 0 given non-empty input buffer",
    "write wrote more than length of input buffer", "recvfrom (oversized datagram)",
    "datagram payload too big for sendmsg()", "EventLoop: error on polled file descriptor"]

/-- A failure of the environment, as opposed to one of the program. -/
def Failure.Environmental : Failure → Prop
  | .unix _ _ => True
  | .runtime what => what ∈ kernelErrors
  | .packet _ => False
  | .fault _ => False
  | .blocked => False

/-- A system call fails only because of the environment. -/
theorem systemCall_settles {α : Type} (attempt : String) (answer : SysResult α) :
    Settles Failure.Environmental (fun value => answer = .returned value)
      (systemCall attempt answer) := by
  cases answer with
  | returned value => rfl
  | failed errno => trivial

/-- A read fails only because of the environment. -/
theorem FileDescriptor.read_settles (fd : FileDescriptor) (limit : Nat)
    (answer : SysResult Bytes) :
    Settles Failure.Environmental (fun out =>
      answer = .returned out.1 ∧ out.1.length ≤ limit ∧
        out.2 = { fd with
          eof := fd.eof || (decide (0 < limit) && out.1.isEmpty)
          readCount := fd.readCount + 1 }) (fd.read limit answer) := by
  cases done : fd.read limit answer with
  | ok out => exact read_ok done
  | error why =>
    unfold FileDescriptor.read at done
    cases answer with
    | failed errno =>
      -- The call itself failed.
      simp only [systemCall, error_bind, Except.error.injEq] at done
      rw [← done]
      trivial
    | returned data =>
      simp only [systemCall, ok_bind] at done
      split at done
      · -- The kernel returned more than was asked for.
        rw [Except.error.injEq] at done
        rw [← done]
        exact (by decide : "read() read more than requested" ∈ kernelErrors)
      · cases done

/-- A turn of a write fails only because of the environment. -/
theorem Writing.turn_settles (w : Writing) (answer : SysResult Nat) :
    Settles Failure.Environmental (fun next => ∃ count, answer = .returned count ∧ w.Fair count ∧
      next.fd = w.fd.registerWrite ∧ next.totalBytesWritten = w.totalBytesWritten + count ∧
      next.chunks = w.chunks ++ [w.buffer.concatenate.take count]) (w.turn answer) := by
  cases turned : w.turn answer with
  | ok next =>
    obtain ⟨count, answered, fair, -, fd, total, chunks⟩ := turn_ok turned
    exact ⟨count, answered, fair, fd, total, chunks⟩
  | error why =>
    cases answer with
    | failed errno =>
      -- The call itself failed.
      simp only [turn, systemCall, error_bind, Except.error.injEq] at turned
      rw [← turned]
      trivial
    | returned count =>
      -- Each of the two checks has its own text, and past them the prefix can be removed.
      have unfair : ¬ w.Fair count := by
        intro fair
        obtain ⟨rest, -, done⟩ := turn_returned fair
        cases done.symm.trans turned
      simp only [turn, systemCall, ok_bind] at turned
      split at turned
      · -- The kernel took nothing, though there was something to take.
        rw [Except.error.injEq] at turned
        rw [← turned]
        exact (by decide : "write returned 0 given non-empty input buffer" ∈ kernelErrors)
      · rename_i nonzero
        split at turned
        · -- The kernel took more than there was.
          rw [Except.error.injEq] at turned
          rw [← turned]
          exact (by decide : "write wrote more than length of input buffer" ∈ kernelErrors)
        · -- An answer that passes both checks is fair.
          rename_i inside
          exact absurd ⟨Nat.le_of_not_lt inside, fun left zero => nonzero ⟨zero, left⟩⟩ unfair

namespace FileDescriptor

/-- Writes the front of a stream once, and pops what was written. -/
def writeFront (fd : FileDescriptor) (limit : Nat) (stream : ByteStream) (answer : SysResult Nat) :
    Except Failure (Bytes × FileDescriptor × ByteStream) :=
  let buffer := stream.peekOutput (min limit stream.bufferSize)
  -- A write may be partial, and only what was written is popped.
  match fd.write ⟨[buffer]⟩ false [answer] with
  | (_, .blocked) => .error .blocked
  | (_, .threw why) => .error why
  | (w, .returned) => do
    let stream ← ofFault (stream.popOutput w.totalBytesWritten)
    return (w.chunks.flatten, w.fd, stream)

/-- Writing the front of a stream fails only because of the environment. -/
theorem writeFront_settles (fd : FileDescriptor) (limit : Nat) (stream : ByteStream)
    (answer : SysResult Nat) :
    Settles Failure.Environmental (fun out => ∃ count, answer = .returned count ∧
      count ≤ stream.buffer.length ∧
      out = (stream.buffer.take count, fd.registerWrite, stream.taken count))
      (fd.writeFront limit stream answer) := by
  have settled := Writing.turn_settles
    { fd, buffer := ⟨[stream.peekOutput (min limit stream.bufferSize)]⟩ } answer
  unfold writeFront FileDescriptor.write Writing.run
  dsimp only
  -- The loop of the write makes one turn.
  generalize Writing.turn _ answer = turned at settled ⊢
  cases turned with
  | error why => exact settled
  | ok w =>
    obtain ⟨count, answered, fair, registered, total, chunks⟩ := settled
    simp only [Bool.false_and, Bool.false_eq_true, if_false]
    -- What is shown to the kernel is the front of the buffer, up to the limit.
    have shown : (BufferViewList.mk
        [stream.peekOutput (min limit stream.bufferSize)]).concatenate =
        stream.buffer.take (min limit stream.buffer.length) := by
      simp [BufferViewList.concatenate, ByteStream.peekOutput, ByteStream.bufferSize]
    have inside := fair.1
    rw [BufferViewList.size_eq] at inside
    dsimp only at inside chunks total registered
    rw [shown] at inside chunks
    rw [List.length_take] at inside
    -- Of what was shown to the kernel, the front was taken.
    rw [List.take_take, Nat.min_eq_left (by omega)] at chunks
    have whole : count ≤ stream.buffer.length := by omega
    rw [total, Nat.zero_add, ByteStream.popOutput_of_le whole, chunks]
    refine ⟨count, answered, whole, ?_⟩
    simp [registered]

end FileDescriptor

end Sponge
