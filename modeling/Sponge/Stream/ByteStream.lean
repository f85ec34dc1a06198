import Sponge.Lib.Word
import Sponge.Outcome

/-! The in-order byte stream between a writer and a reader. -/

namespace Sponge

/-- A finite stream with its counters kept in signed 32-bit integers. -/
structure ByteStream where
  /-- Room for buffered bytes. -/
  capacity : Int
  /-- The field `end`: the writer has finished. -/
  ended : Bool
  /-- Bytes popped so far. -/
  totalRead : Int
  /-- Bytes accepted so far. -/
  written : Int
  /-- Bytes accepted and not yet popped. -/
  buffer : Bytes
  /-- The stream suffered an error. -/
  error : Bool
deriving DecidableEq, Repr

namespace ByteStream

/-- Constructs a stream with room for a number of bytes. -/
def new (capacity : Nat) : ByteStream :=
  -- The `size_t` argument is narrowed to the `int` field.
  ⟨toInt32 capacity, false, 0, 0, [], false⟩

/-- The number of additional bytes that the stream has space for. -/
def remainingCapacity (s : ByteStream) : Nat := sub64 (ofInt s.capacity) s.buffer.length

/-- Writes as many bytes as fit, and returns how many were accepted. -/
def write (s : ByteStream) (data : Bytes) : ByteStream × Nat :=
  if data.length ≤ s.remainingCapacity then
    ({ s with buffer := s.buffer ++ data, written := toInt32 (s.written + data.length) },
      data.length)
  else
    -- The count passes through an `int` before it limits the substring.
    let count := toInt32 s.remainingCapacity
    ({ s with
        buffer := s.buffer ++ data.take (ofInt count)
        written := toInt32 (s.written + count) },
      ofInt count)

/-- Copies the next bytes of the stream. -/
def peekOutput (s : ByteStream) (len : Nat) : Bytes := s.buffer.take len

/-- Removes bytes from the buffer. -/
def popOutput (s : ByteStream) (len : Nat) : Except Fault ByteStream := do
  -- An overlong pop throws before any field changes.
  let rest ← substr s.buffer len s.buffer.length
  return { s with buffer := rest, totalRead := toInt32 (s.totalRead + len) }

/-- Copies and then pops the next bytes of the stream. -/
def read (s : ByteStream) (len : Nat) : Except Fault (Bytes × ByteStream) := do
  -- The clipped length is held in an `int`.
  let clipped : Nat := if s.buffer.length < len then s.buffer.length else len
  let l := toInt32 clipped
  let res := s.peekOutput (ofInt l)
  let popped ← s.popOutput (ofInt l)
  return (res, popped)

/-- Signals that the writer has finished. -/
def endInput (s : ByteStream) : ByteStream := { s with ended := true }

/-- Records that the stream suffered an error. -/
def setError (s : ByteStream) : ByteStream := { s with error := true }

/-- The writer has finished. -/
def inputEnded (s : ByteStream) : Bool := s.ended

/-- The number of bytes that can be read at once. -/
def bufferSize (s : ByteStream) : Nat := s.buffer.length

/-- Nothing can be read. -/
def bufferEmpty (s : ByteStream) : Bool := s.buffer.length == 0

/-- The reader has reached the end. -/
def eof (s : ByteStream) : Bool := s.inputEnded && s.buffer.length == 0

/-- The counter of accepted bytes, widened to `size_t`. -/
def bytesWritten (s : ByteStream) : Nat := ofInt s.written

/-- The counter of popped bytes, widened to `size_t`. -/
def bytesRead (s : ByteStream) : Nat := ofInt s.totalRead

end ByteStream

end Sponge
