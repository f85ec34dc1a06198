import Sponge.Lib.Chunks
import Sponge.Wire.Parser

/-! Buffers that share their storage, the lists of them, and removing bytes at the front. -/

namespace Sponge

/-- A read-only string that can discard bytes from the front. -/
structure Buffer where
  /-- The string behind the buffer, unless it was discarded entirely. -/
  storage : Option Bytes := none
  /-- How many bytes of it were discarded. -/
  startingOffset : Nat := 0
  /-- No more bytes are discarded than there are. -/
  inside : ∀ stored ∈ storage, startingOffset ≤ stored.length := by simp

namespace Buffer

/-- A buffer that takes over a string. -/
def ofString (str : Bytes) : Buffer := { storage := some str }

/-- The contents. -/
def str (buffer : Buffer) : Bytes :=
  match buffer.storage with
  | none => []
  | some stored => stored.drop buffer.startingOffset

/-- What can be discarded lies inside the storage. -/
theorem inside_of_le {buffer : Buffer} {n : Nat} (enough : n ≤ buffer.str.length) :
    ∀ stored ∈ buffer.storage, buffer.startingOffset + n ≤ stored.length := by
  intro stored found
  -- The offset was inside, and the rest of the storage is what is visible.
  have bound := buffer.inside stored found
  rw [Option.mem_def] at found
  rw [str, found, List.length_drop] at enough
  omega

/-- Discards bytes at the front. -/
def removePrefix (buffer : Buffer) (n : Nat) : Except Exception Buffer :=
  if beyond : n > buffer.str.length then .error .outOfRange
  else
    let startingOffset := buffer.startingOffset + n
    -- The storage is given up once nothing of it is visible, and the offset stays.
    if buffer.storage.any fun stored => startingOffset == stored.length then
      .ok { startingOffset }
    else .ok ⟨buffer.storage, startingOffset, inside_of_le (Nat.le_of_not_lt beyond)⟩

/-- Discarding bytes that are there leaves the others. -/
theorem removePrefix_of_le {buffer : Buffer} {n : Nat} (enough : n ≤ buffer.str.length) :
    ∃ left, buffer.removePrefix n = .ok left ∧ left.str = buffer.str.drop n := by
  rw [removePrefix, dif_neg (Nat.not_lt.mpr enough)]
  dsimp only
  split
  · -- The last visible byte goes, and the storage with it.
    rename_i all
    obtain ⟨stored, found, same⟩ := by simpa only [Option.any_eq_true, beq_iff_eq] using all
    refine ⟨_, rfl, ?_⟩
    rw [str, str, found, List.drop_drop, List.drop_of_length_le (Nat.le_of_eq same.symm)]
  · refine ⟨_, rfl, ?_⟩
    simp only [str]
    cases buffer.storage with
    | none => simp
    | some stored => simp [List.drop_drop]

end Buffer

/-- The queue of buffers behind a list of buffers. -/
structure BufferDeque where
  /-- The buffers, first to last. -/
  buffers : List Buffer := []

namespace BufferDeque

/-- What is visible of the buffers. -/
def visible (list : BufferDeque) : BufferList := ⟨list.buffers.map Buffer.str⟩

/-- Appends the buffers of another list. -/
def append (list other : BufferDeque) : BufferDeque := ⟨list.buffers ++ other.buffers⟩

/-- The number of visible bytes. -/
def size (list : BufferDeque) : Nat := (list.buffers.map fun buffer => buffer.str.length).sum

/-- The visible bytes in order. -/
def concatenate (list : BufferDeque) : Bytes := (list.buffers.map Buffer.str).flatten

/-- The one buffer of the list, with an exception if it has several. -/
def toBuffer (list : BufferDeque) : Except Exception Buffer :=
  match list.buffers with
  | [] => .ok {}
  | [buffer] => .ok buffer
  | _ => .error .multiBuffer

/-- Discards bytes at the front: the list after the call, and how the call ended. -/
def removePrefix (list : BufferDeque) (n : Nat) : BufferDeque × Except Exception Unit :=
  let (buffers, result) := Chunks.dropFront Buffer.str Buffer.removePrefix .outOfRange
    list.buffers n
  (⟨buffers⟩, result)

/-- Appending is seen as appending. -/
theorem visible_append (list other : BufferDeque) :
    (list.append other).visible = list.visible.append other.visible := by
  simp [visible, append, BufferList.append]

/-- The size is that of what is visible. -/
theorem size_visible (list : BufferDeque) : list.visible.size = list.size := by
  rw [visible, BufferList.size, List.map_map, size]
  rfl

/-- The bytes are those of what is visible. -/
theorem concatenate_visible (list : BufferDeque) : list.visible.concatenate = list.concatenate :=
  rfl

/-- The one buffer is the one that is visible. -/
theorem toBuffer_visible (list : BufferDeque) :
    list.visible.toBuffer = list.toBuffer.map Buffer.str := by
  -- No buffer, one, or too many.
  rcases list with ⟨⟨⟩ | ⟨first, ⟨⟩ | ⟨second, rest⟩⟩⟩
  · rfl
  · rfl
  · rfl

end BufferDeque

/-- Views of several strings. -/
structure BufferViewList where
  /-- The views, first to last. -/
  views : List Bytes := []

namespace BufferViewList

/-- The views of the buffers of a list. -/
def ofBuffers (list : BufferDeque) : BufferViewList := ⟨list.buffers.map Buffer.str⟩

/-- The number of bytes in all views. -/
def size (list : BufferViewList) : Nat := (list.views.map List.length).sum

/-- The bytes of all views in order. -/
def concatenate (list : BufferViewList) : Bytes := list.views.flatten

/-- Discards bytes at the front: the list after the call, and how the call ended. -/
def removePrefix (list : BufferViewList) (n : Nat) : BufferViewList × Except Exception Unit :=
  -- The front of a view is removed by moving its start.
  let (views, result) := Chunks.dropFront id (fun view n => .ok (view.drop n)) .outOfRange
    list.views n
  (⟨views⟩, result)

end BufferViewList

/-- Removing bytes at the front of a list in several parts, as it should be. -/
structure DropsPrefix {σ : Type} (size : σ → Nat) (concatenate : σ → Bytes)
    (removePrefix : σ → Nat → σ × Except Exception Unit) (list : σ) : Prop where
  /-- As many bytes as there are can be removed, and exactly those are. -/
  succeeds : ∀ n ≤ size list, (removePrefix list n).2 = .ok () ∧
    concatenate (removePrefix list n).1 = (concatenate list).drop n ∧
    size (removePrefix list n).1 = size list - n
  /-- Removing more throws. -/
  throws : ∀ n, size list < n → (removePrefix list n).2 = .error .outOfRange
  /-- Removing twice ends as removing once does, and leaves the same bytes. -/
  twice : ∀ m n, (removePrefix list m).2 = .ok () →
    (removePrefix (removePrefix list m).1 n).2 = (removePrefix list (m + n)).2 ∧
    concatenate (removePrefix (removePrefix list m).1 n).1 =
      concatenate (removePrefix list (m + n)).1
  /-- If the first removal throws, so does removing at once. -/
  first : ∀ m n, (removePrefix list m).2 = .error .outOfRange →
    (removePrefix list (m + n)).2 = .error .outOfRange

/-- Bytes are removed exactly if they are there, and what is left is the rest of the string. -/
def Removes {σ : Type} (size : σ → Nat) (concatenate : σ → Bytes)
    (removePrefix : σ → Nat → σ × Except Exception Unit) : Prop :=
  ∀ list n, (removePrefix list n).2 =
      (if n ≤ size list then .ok () else .error .outOfRange) ∧
    concatenate (removePrefix list n).1 = (concatenate list).drop n

/-- A list of buffers removes bytes as far as they are there. -/
theorem BufferDeque.removes : Removes size concatenate removePrefix := by
  intro list n
  have trims : Chunks.Trims Buffer.str Buffer.removePrefix :=
    fun buffer n less => Buffer.removePrefix_of_le (Nat.le_of_lt less)
  rw [← size_visible, BufferList.size_eq]
  exact Chunks.dropFront_spec Exception.outOfRange trims list.buffers n

/-- The size of a list of views counts its bytes. -/
theorem BufferViewList.size_eq (list : BufferViewList) : list.size = list.concatenate.length := by
  rw [size, concatenate, List.length_flatten]

/-- A list of views removes bytes as far as they are there. -/
theorem BufferViewList.removes : Removes size concatenate removePrefix := by
  intro list n
  -- A view is cut without a check, and each cut stays inside the view.
  have trims : Chunks.Trims (id : Bytes → Bytes)
      (fun view n => (.ok (view.drop n) : Except Exception Bytes)) :=
    fun view n _ => ⟨view.drop n, rfl, rfl⟩
  have whole (views : List Bytes) : Chunks.whole id views = views.flatten := by
    rw [Chunks.whole, List.map_id]
  have spec := Chunks.dropFront_spec Exception.outOfRange trims list.views n
  rw [whole, whole] at spec
  rw [size_eq]
  exact spec

/-- The views of a list of buffers stay in step with it. -/
theorem BufferViewList.ofBuffers_removePrefix (list : BufferDeque) (n : Nat) :
    ((ofBuffers list).removePrefix n).2 = (list.removePrefix n).2 ∧
      ((ofBuffers list).removePrefix n).1.concatenate = (list.removePrefix n).1.concatenate := by
  have same : (ofBuffers list).size = list.size := by
    rw [← BufferDeque.size_visible]
    rfl
  -- Both succeed for the same numbers, and then drop the same bytes.
  obtain ⟨viewed, views⟩ := BufferViewList.removes (ofBuffers list) n
  obtain ⟨removed, buffers⟩ := BufferDeque.removes list n
  rw [viewed, removed, same, views, buffers]
  exact ⟨rfl, rfl⟩

/-- Removing bytes as far as they are there composes. -/
theorem Removes.dropsPrefix {σ : Type} {size : σ → Nat} {concatenate : σ → Bytes}
    {removePrefix : σ → Nat → σ × Except Exception Unit}
    (removes : Removes size concatenate removePrefix)
    (sized : ∀ list, size list = (concatenate list).length) (list : σ) :
    DropsPrefix size concatenate removePrefix list := by
  have left (n : Nat) : size (removePrefix list n).1 = size list - n := by
    rw [sized, (removes list n).2, List.length_drop, sized]
  refine ⟨fun n enough => ?_, fun n beyond => ?_, fun m n first => ?_, fun m n first => ?_⟩
  · -- There are enough bytes.
    exact ⟨by rw [(removes list n).1, if_pos enough], (removes list n).2, left n⟩
  · -- There are too few.
    rw [(removes list n).1, if_neg (Nat.not_le.mpr beyond)]
  · -- The first removal succeeded, so there were enough bytes for it.
    have enough : m ≤ size list := by
      by_contra beyond
      rw [(removes list m).1, if_neg beyond] at first
      cases first
    rw [(removes _ n).1, (removes _ n).2, (removes list m).2, left, (removes list (m + n)).1,
      (removes list (m + n)).2, List.drop_drop]
    exact ⟨if_congr (by omega) rfl rfl, rfl⟩
  · -- The first removal has thrown, so there are too few for both.
    have beyond : ¬ m ≤ size list := by
      intro enough
      rw [(removes list m).1, if_pos enough] at first
      cases first
    rw [(removes list (m + n)).1, if_neg (by omega)]

/-- Both kinds of lists remove bytes at the front as they should, however they are chunked. -/
theorem removePrefix_exact :
    (∀ list, DropsPrefix BufferDeque.size BufferDeque.concatenate BufferDeque.removePrefix list) ∧
    ∀ list, DropsPrefix BufferViewList.size BufferViewList.concatenate
      BufferViewList.removePrefix list := by
  have sized (list : BufferDeque) : list.size = list.concatenate.length := by
    rw [← BufferDeque.size_visible, BufferList.size_eq, BufferDeque.concatenate_visible]
  exact ⟨BufferDeque.removes.dropsPrefix sized,
    BufferViewList.removes.dropsPrefix BufferViewList.size_eq⟩

end Sponge
