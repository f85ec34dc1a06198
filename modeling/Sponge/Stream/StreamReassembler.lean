import Sponge.Lib.Observed
import Sponge.Lib.OrderedMap
import Sponge.Stream.ByteStream

/-! The assembly of out-of-order and overlapping substrings into an in-order byte stream. -/

namespace Sponge

/-- A reassembler: the stream it writes to and the substrings still waiting. -/
structure StreamReassembler where
  /-- The reassembled in-order byte stream. -/
  output : ByteStream
  /-- The maximum number of bytes. -/
  capacity : Nat
  /-- The number of bytes waiting. -/
  unassembled : Nat
  /-- The waiting substrings, each under the index of its last byte. -/
  m : OrderedMap Bytes
  /-- The index after the last byte of the stream, once it is known. -/
  endIdx : Nat
deriving DecidableEq, Repr

/-- The index of the first byte of a map entry, in 64-bit arithmetic. -/
def firstIdx (entry : Nat × Bytes) : Nat := add64 (sub64 entry.1 entry.2.length) 1

/-- Joins two overlapping substrings at their indices. -/
def combine (s1 s2 : Bytes) (index1 index2 : Nat) : Except Fault Bytes := do
  let (left, right, in1, in2) :=
    if index1 < index2 then (s1, s2, index1, index2) else (s2, s1, index2, index1)
  if add64 in2 right.length ≤ add64 in1 left.length then return left
  -- Past the end of the left part, the right one continues.
  let rest ← substr right (sub64 (add64 in1 left.length) in2) right.length
  return left ++ rest

/-- A call of `combine` or `write` that a push makes on its way. -/
inductive PushCall where
  /-- Two substrings are joined at their indices. -/
  | combine (s1 s2 : Bytes) (index1 index2 : Nat)
  /-- Data is written to the output, as it is then. -/
  | write (output : ByteStream) (data : Bytes)
deriving DecidableEq, Repr

namespace StreamReassembler

/-- Constructs a reassembler that will store up to a number of bytes. -/
def new (capacity : Nat) : StreamReassembler :=
  -- The unknown end is `SIZE_MAX`.
  ⟨ByteStream.new capacity, capacity, 0, .empty, 2 ^ 64 - 1⟩

/-- The reassembled stream. -/
def streamOut (r : StreamReassembler) : ByteStream := r.output

/-- The room between an index and the right edge of the window, as an `int`. -/
def overflow (r : StreamReassembler) (rb : Nat) : Int :=
  -- The 64-bit difference is narrowed when it is returned.
  toInt32 (sub64 (sub64 (add64 r.output.bytesRead r.capacity) 1) rb)

/-- The entries from the lower bound on that start at or before an index. -/
def overlapped (r : StreamReassembler) (lb rb : Nat) : List (Nat × Bytes) :=
  (r.m.lowerBound lb).takeWhile (fun entry => firstIdx entry ≤ rb)

/-- The data without the part that has already been written. -/
def clipLeft (r : StreamReassembler) (data : Bytes) (index : Nat) : Except Fault Bytes :=
  if index < r.output.bytesWritten then
    substr data (sub64 r.output.bytesWritten index) data.length
  else .ok data

section Observed

-- An observer hears of each call of `combine` and of `write` when it is made.
variable {m : Type → Type} [Monad m] (trace : PushCall → m PUnit)

/-- Joins two overlapping substrings. -/
def combineWith (s1 s2 : Bytes) (index1 index2 : Nat) : ExceptT Fault m Bytes := do
  trace (.combine s1 s2 index1 index2)
  .mk (pure (combine s1 s2 index1 index2))

/-- Writes to the output. -/
def writeWith (output : ByteStream) (data : Bytes) : m ByteStream := do
  trace (.write output data)
  return (output.write data).1

/-- Writes the leading entries that continue the output, and drops them from the map. -/
def flushEntriesWith (output : ByteStream) (unassembled : Nat) :
    (entries : List (Nat × Bytes)) → m (ByteStream × Nat × { rest // rest <:+ entries })
  | [] => return (output, unassembled, ⟨[], List.suffix_refl _⟩)
  | entry :: rest =>
    if output.bytesWritten = firstIdx entry then do
      let output ← writeWith trace output entry.2
      let (output, unassembled, left) ←
        flushEntriesWith output (sub64 unassembled entry.2.length) rest
      return (output, unassembled, ⟨left.1, left.2.trans (List.suffix_cons entry rest)⟩)
    else return (output, unassembled, ⟨entry :: rest, List.suffix_refl _⟩)

/-- The flush loop: everything that can be put into the stream is put there. -/
def flushWith (r : StreamReassembler) : m StreamReassembler := do
  let (output, unassembled, rest) ← flushEntriesWith trace r.output r.unassembled r.m.entries
  return { r with output, unassembled, m := r.m.ofSuffix rest.1 rest.2 }

/-- Stores clipped data under its last index, merged with every entry it overlaps. -/
def storeWith (r : StreamReassembler) (d : Bytes) (lb rb : Nat) :
    ExceptT Fault m StreamReassembler :=
  match r.overlapped lb rb with
  | [] =>
    let icount := add64 (sub64 rb lb) 1
    return { r with m := r.m.set rb d, unassembled := add64 r.unassembled icount }
  | fit :: more => do
    let eit := (fit :: more).getLast (List.cons_ne_nil _ _)
    let ecount := ((fit :: more).map (fun entry => entry.2.length)).foldl add64 0
    let icount := add64 (sub64 (max rb eit.1) (min lb (firstIdx fit))) 1
    let ins ← combineWith trace fit.2 d (firstIdx fit) lb
    let ins ← combineWith trace eit.2 ins (firstIdx eit) (min lb (firstIdx fit))
    let kept := r.m.eraseRun lb (fun entry => firstIdx entry ≤ rb)
    return { r with
      m := kept.set (max rb eit.1) ins
      unassembled := sub64 (add64 r.unassembled icount) ecount }

/-- Clips data to the window, and goes on with what is left of it and its two indices. -/
def clipThen {β : Type} (r : StreamReassembler) (data : Bytes) (index : Nat) (nothing : β)
    (keep : Bytes → Nat → Nat → ExceptT Fault m β) : ExceptT Fault m β :=
  if data.length = 0 then return nothing
  else
    let rb := sub64 (add64 index data.length) 1
    -- Data wholly before the written part is dropped, and a leading overlap is cut off.
    if index < r.output.bytesWritten ∧ rb < r.output.bytesWritten then return nothing
    else do
      let lb := if index < r.output.bytesWritten then r.output.bytesWritten else index
      let d ← .mk (pure (r.clipLeft data index))
      -- Data wholly past the capacity is dropped, and a trailing excess is cut off.
      if r.overflow rb < 0 then
        if r.overflow lb < 0 then return nothing
        else
          let rb := sub64 (add64 r.output.bytesRead r.capacity) 1
          keep (d.take (add64 (sub64 rb lb) 1)) lb rb
      else keep d lb rb

/-- Clips data to the window, stores it and flushes what has become contiguous. -/
def addTempCashWith (r : StreamReassembler) (data : Bytes) (index : Nat) :
    ExceptT Fault m StreamReassembler :=
  r.clipThen data index r fun d lb rb => do
    let stored ← r.storeWith trace d lb rb
    ExceptT.lift (stored.flushWith trace)

/-- Receives a substring and writes any newly contiguous bytes into the stream. -/
def pushSubstringWith (r : StreamReassembler) (data : Bytes) (index : Nat) (eof : Bool) :
    ExceptT Fault m StreamReassembler := do
  let noted := if eof then { r with endIdx := add64 index data.length } else r
  let added ← noted.addTempCashWith trace data index
  if added.output.bytesWritten = added.endIdx then
    return { added with output := added.output.endInput }
  else return added

end Observed

/-- Writes the leading entries that continue the output, and drops them from the map. -/
def flushEntries (output : ByteStream) (unassembled : Nat) (entries : List (Nat × Bytes)) :
    ByteStream × Nat × List (Nat × Bytes) :=
  let (output, unassembled, rest) := Observable.result fun _ _ trace =>
    flushEntriesWith trace output unassembled entries
  (output, unassembled, rest.1)

/-- The flush loop: everything that can be put into the stream is put there. -/
def flush (r : StreamReassembler) : StreamReassembler :=
  Observable.result fun _ _ trace => r.flushWith trace

/-- Stores clipped data under its last index, merged with every entry it overlaps. -/
def store (r : StreamReassembler) (d : Bytes) (lb rb : Nat) : Except Fault StreamReassembler :=
  Observable.result fun _ _ trace => (r.storeWith trace d lb rb).run

/-- Clips data to the window, stores it and flushes what has become contiguous. -/
def addTempCash (r : StreamReassembler) (data : Bytes) (index : Nat) :
    Except Fault StreamReassembler :=
  Observable.result fun _ _ trace => (r.addTempCashWith trace data index).run

/-- Receiving a substring, for whoever watches. -/
def pushing (r : StreamReassembler) (data : Bytes) (index : Nat) (eof : Bool) :
    Observable PushCall (Except Fault StreamReassembler) :=
  fun _ _ trace => (r.pushSubstringWith trace data index eof).run

/-- Receives a substring and writes any newly contiguous bytes into the stream. -/
def pushSubstring (r : StreamReassembler) (data : Bytes) (index : Nat) (eof : Bool) :
    Except Fault StreamReassembler :=
  (r.pushing data index eof).result

/-- The number of bytes in the substrings stored but not yet reassembled. -/
def unassembledBytes (r : StreamReassembler) : Nat := r.unassembled

/-- No substring is waiting to be assembled. -/
def isEmpty (r : StreamReassembler) : Bool := r.unassembled == 0

section Equations

/-- Unobserved, joining is joining. -/
theorem run_combineWith (s1 s2 : Bytes) (index1 index2 : Nat) :
    Id.run (combineWith (fun _ => pure ()) s1 s2 index1 index2).run =
      combine s1 s2 index1 index2 := rfl

variable (r : StreamReassembler) (output : ByteStream) (unassembled : Nat)

@[simp] theorem flushEntries_nil :
    flushEntries output unassembled [] = (output, unassembled, []) := rfl

/-- An entry is flushed if it continues the output. -/
theorem flushEntries_cons (entry : Nat × Bytes) (rest : List (Nat × Bytes)) :
    flushEntries output unassembled (entry :: rest) =
      if output.bytesWritten = firstIdx entry then
        flushEntries (output.write entry.2).1 (sub64 unassembled entry.2.length) rest
      else (output, unassembled, entry :: rest) := by
  rw [flushEntries, Observable.result, flushEntriesWith]
  by_cases continues : output.bytesWritten = firstIdx entry
  · simp only [if_pos continues]
    rfl
  · simp only [if_neg continues]
    rfl

/-- Flushing only removes leading entries. -/
theorem flushEntries_suffix (entries : List (Nat × Bytes)) :
    (flushEntries output unassembled entries).2.2 <:+ entries :=
  (Observable.result fun _ _ trace => flushEntriesWith trace output unassembled entries).2.2.2

@[simp] theorem flush_output :
    r.flush.output = (flushEntries r.output r.unassembled r.m.entries).1 := rfl

@[simp] theorem flush_unassembled :
    r.flush.unassembled = (flushEntries r.output r.unassembled r.m.entries).2.1 := rfl

@[simp] theorem flush_entries :
    r.flush.m.entries = (flushEntries r.output r.unassembled r.m.entries).2.2 := rfl

/-- Data is stored as it is, or joined with the first and the last entry that it overlaps. -/
theorem store_def (d : Bytes) (lb rb : Nat) :
    r.store d lb rb =
      match r.overlapped lb rb with
      | [] =>
        let icount := add64 (sub64 rb lb) 1
        .ok { r with m := r.m.set rb d, unassembled := add64 r.unassembled icount }
      | fit :: more => do
        let eit := (fit :: more).getLast (List.cons_ne_nil _ _)
        let ecount := ((fit :: more).map (fun entry => entry.2.length)).foldl add64 0
        let icount := add64 (sub64 (max rb eit.1) (min lb (firstIdx fit))) 1
        let ins ← combine fit.2 d (firstIdx fit) lb
        let ins ← combine eit.2 ins (firstIdx eit) (min lb (firstIdx fit))
        let kept := r.m.eraseRun lb (fun entry => firstIdx entry ≤ rb)
        return { r with
          m := kept.set (max rb eit.1) ins
          unassembled := sub64 (add64 r.unassembled icount) ecount } := by
  rw [store, Observable.result, storeWith]
  cases r.overlapped lb rb with
  | nil => rfl
  | cons fit more =>
    dsimp only
    -- The two joins follow one another, and each of them may fail.
    rw [run_bind, run_combineWith]
    refine congrArg _ (funext fun ins => ?_)
    rw [run_bind, run_combineWith]
    exact congrArg _ (funext fun ins => run_pure _)

/-- Data is clipped, stored and flushed. -/
theorem addTempCash_def (data : Bytes) (index : Nat) :
    r.addTempCash data index =
      if data.length = 0 then .ok r
      else
        let rb := sub64 (add64 index data.length) 1
        if index < r.output.bytesWritten ∧ rb < r.output.bytesWritten then .ok r
        else do
          let lb := if index < r.output.bytesWritten then r.output.bytesWritten else index
          let d ← r.clipLeft data index
          if r.overflow rb < 0 then
            if r.overflow lb < 0 then return r
            else
              let rb := sub64 (add64 r.output.bytesRead r.capacity) 1
              let stored ← r.store (d.take (add64 (sub64 rb lb) 1)) lb rb
              return stored.flush
          else
            let stored ← r.store d lb rb
            return stored.flush := by
  -- The tests are the same with and without an observer, so they are compared one by one.
  rw [addTempCash, Observable.result, addTempCashWith, clipThen, run_ite, run_pure]
  refine ite_congr rfl (fun _ => rfl) fun _ => ?_
  dsimp only
  rw [run_ite, run_pure]
  refine ite_congr rfl (fun _ => rfl) fun _ => ?_
  rw [run_bind, run_mk]
  refine congrArg _ (funext fun d => ?_)
  rw [run_ite, run_ite, run_bind, run_bind, run_pure]
  rfl

/-- The end of the stream is noted, the data is added, and the output may have reached its end. -/
theorem pushSubstring_def (data : Bytes) (index : Nat) (eof : Bool) :
    r.pushSubstring data index eof = do
      let added ← (if eof then { r with endIdx := add64 index data.length } else r).addTempCash
        data index
      if added.output.bytesWritten = added.endIdx then
        return { added with output := added.output.endInput }
      else return added := by
  rw [pushSubstring, Observable.result, pushing, pushSubstringWith, run_bind]
  refine congrArg _ (funext fun added => ?_)
  rw [run_ite, run_pure, run_pure]
  rfl

end Equations

end StreamReassembler

end Sponge
