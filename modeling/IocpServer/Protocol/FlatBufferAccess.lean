import IocpServer.Library.MemoryAccess
import IocpServer.Protocol.FlatBuffers

/-!
# The reads of the accessors

The accessors of a message follow the offsets they find and compare none of
them with the length of the buffer.  Here they run on memory in which the
buffer lies, with a record of what they read.  `WellFormedNotice` says in
terms of the buffer's bytes when no read leaves it.
-/

namespace IocpServer.Protocol

open IocpServer.Library

namespace FlatBufferAccess

/-- `flatbuffers::GetRoot`. -/
def getRoot (memory : Memory) : Accessed Int := do
  let offset ← memory.readWord 0 4
  return offset.toNat

/-- `GetVTable` of the table at a position. -/
def getVTable (memory : Memory) (table : Int) : Accessed Int := do
  let distance ← memory.readWord table 4
  return table - distance.toInt32.toInt

/-- `GetOptionalFieldOffset`. -/
def getOptionalFieldOffset
    (memory : Memory) (table : Int) (field : Nat) : Accessed Nat := do
  let vtable ← getVTable memory table
  let vtsize ← memory.readWord vtable 2
  if field < vtsize.toNat then
    let offset ← memory.readWord (vtable + field) 2
    return offset.toNat
  else
    return 0

/-- `GetField` of a field of some bytes, whose default is zero. -/
def getField
    (memory : Memory) (table : Int) (field size : Nat) :
    Accessed UInt32 := do
  let offset ← getOptionalFieldOffset memory table field
  if offset = 0 then
    return 0
  else
    memory.readWord (table + offset) size

/-- `GetPointer` to a string, and its `str()`. -/
def getString
    (memory : Memory) (table : Int) (field : Nat) :
    Accessed ByteString := do
  let offset ← getOptionalFieldOffset memory table field
  if offset = 0 then
    Memory.readNull []
  else
    let place := table + offset
    let distance ← memory.readWord place 4
    let start := place + distance.toNat
    let length ← memory.readWord start 4
    memory.readBytes (start + 4) length.toNat

/-- The accessors of a `NOTICE_LOBBYREADY`, in the order of the calls. -/
def noticeLobbyReady (memory : Memory) : Accessed LobbyReadyNotice := do
  let notice ← getRoot memory
  let lobbyKey ← getString memory notice 4
  let port ← getField memory notice 6 4
  let capacity ← getField memory notice 8 4
  let active ← getField memory notice 10 1
  return {
    lobbyKey := lobbyKey
    port := port.toInt32
    capacity := capacity.toInt32
    active := active != 0 }

/-- The accessors of a `NOTICE_LOBBYINFO`. -/
def noticeLobbyInfo (memory : Memory) : Accessed LobbyInfoNotice := do
  let notice ← getRoot memory
  let lobbyKey ← getString memory notice 4
  let current ← getField memory notice 6 4
  let remain ← getField memory notice 8 4
  let active ← getField memory notice 10 1
  return {
    lobbyKey := lobbyKey
    current := current.toInt32
    remain := remain.toInt32
    active := active != 0 }

end FlatBufferAccess

/-! ## The numbers in a buffer -/

/-- The number at a position of a buffer. -/
def numberAt (buffer : ByteString) (position : Int) (size : Nat) : UInt32 :=
  bytesWord (Memory.slice buffer position size)

/-- Where the root table starts. -/
def rootAt (buffer : ByteString) : Int :=
  (numberAt buffer 0 4).toNat

/-- Where its vtable starts. -/
def vtableAt (buffer : ByteString) : Int :=
  rootAt buffer - (numberAt buffer (rootAt buffer) 4).toInt32.toInt

/-- The size of the vtable. -/
def vtableSize (buffer : ByteString) : Nat :=
  (numberAt buffer (vtableAt buffer) 2).toNat

/-- The distance of a field from the table; zero if it is left out. -/
def fieldEntry (buffer : ByteString) (field : Nat) : Nat :=
  if field < vtableSize buffer then
    (numberAt buffer (vtableAt buffer + field) 2).toNat
  else
    0

/-- Where the key's string starts. -/
def keyAt (buffer : ByteString) : Int :=
  rootAt buffer + fieldEntry buffer 4 +
    (numberAt buffer (rootAt buffer + fieldEntry buffer 4) 4).toNat

/-- The length of the key. -/
def keyLength (buffer : ByteString) : Nat :=
  (numberAt buffer (keyAt buffer) 4).toNat

/-- The vtable's entry for a field is in the buffer. -/
structure EntryInside (buffer : ByteString) (field : Nat) : Prop where
  table : rootAt buffer + 4 ≤ buffer.length
  vtable : 0 ≤ vtableAt buffer
  vtableHead : vtableAt buffer + 2 ≤ buffer.length
  entry :
    field < vtableSize buffer →
      vtableAt buffer + field + 2 ≤ buffer.length

/-- The field is left out, or in the buffer. -/
structure FieldInside (buffer : ByteString) (field size : Nat) : Prop
    extends EntryInside buffer field where
  bytes :
    fieldEntry buffer field ≠ 0 →
      rootAt buffer + fieldEntry buffer field + size ≤ buffer.length

/-- The key is not left out, and in the buffer. -/
structure KeyInside (buffer : ByteString) : Prop
    extends EntryInside buffer 4 where
  present : fieldEntry buffer 4 ≠ 0
  offset :
    rootAt buffer + fieldEntry buffer 4 + 4 ≤ buffer.length
  length : keyAt buffer + 4 ≤ buffer.length
  text : keyAt buffer + 4 + keyLength buffer ≤ buffer.length

/-- A notice none of whose offsets leaves the buffer. -/
structure WellFormedNotice (buffer : ByteString) : Prop where
  root : 4 ≤ buffer.length
  key : KeyInside buffer
  second : FieldInside buffer 6 4
  third : FieldInside buffer 8 4
  active : FieldInside buffer 10 1

/-! ## When the accessors stay inside -/

namespace FlatBufferAccess

open Accessed

variable {memory : Memory} {buffer : ByteString}

theorem inside_getRoot :
    (getRoot memory).Inside buffer.length ↔ 4 ≤ buffer.length := by
  rw [getRoot, inside_bind, Memory.inside_readWord]
  simp only [inside_pure, and_true]
  omega

theorem value_getRoot
    (holds : memory.Holds buffer) (root : 4 ≤ buffer.length) :
    (getRoot memory).value = rootAt buffer := by
  have inside : (0 : Int) ≤ 0 ∧ (0 : Int) + (4 : Nat) ≤ buffer.length := by
    omega
  rw [getRoot, value_bind, Memory.readWord_value holds inside]
  rfl

theorem rootAt_nonneg (buffer : ByteString) : 0 ≤ rootAt buffer :=
  Int.natCast_nonneg _

theorem inside_getVTable :
    (getVTable memory (rootAt buffer)).Inside buffer.length ↔
      rootAt buffer + 4 ≤ buffer.length := by
  rw [getVTable, inside_bind, Memory.inside_readWord]
  simp only [inside_pure, and_true]
  exact and_iff_right (rootAt_nonneg buffer)

theorem value_getVTable
    (holds : memory.Holds buffer)
    (table : rootAt buffer + 4 ≤ buffer.length) :
    (getVTable memory (rootAt buffer)).value = vtableAt buffer := by
  rw [getVTable, value_bind,
    Memory.readWord_value holds ⟨rootAt_nonneg buffer, table⟩]
  rfl

/-- The entry of a field is read in three steps. -/
theorem inside_getOptionalFieldOffset
    (holds : memory.Holds buffer) (field : Nat) :
    (getOptionalFieldOffset memory (rootAt buffer) field).Inside
        buffer.length ↔
      EntryInside buffer field := by
  have steps :
      (getOptionalFieldOffset memory (rootAt buffer) field).Inside
          buffer.length ↔
        rootAt buffer + 4 ≤ buffer.length ∧
          (0 ≤ vtableAt buffer ∧
              vtableAt buffer + (2 : Nat) ≤ buffer.length) ∧
            (field < vtableSize buffer →
              0 ≤ vtableAt buffer + field ∧
                vtableAt buffer + field + (2 : Nat) ≤ buffer.length) := by
    refine inside_bind_iff inside_getVTable fun table => ?_
    rw [value_getVTable holds table]
    refine inside_bind_iff Memory.inside_readWord fun vtable => ?_
    rw [Memory.readWord_value holds vtable]
    change (if field < vtableSize buffer then _ else _ : Accessed Nat).Inside
      _ ↔ _
    split_ifs with listed
    · rw [inside_bind, Memory.inside_readWord]
      simp [listed]
    · simp [listed]
  rw [steps]
  constructor
  · rintro ⟨table, vtable, entry⟩
    exact ⟨table, vtable.1, vtable.2, fun listed => (entry listed).2⟩
  · rintro ⟨table, vtable, vtableHead, entry⟩
    refine ⟨table, ⟨vtable, vtableHead⟩, ?_⟩
    intro listed
    exact ⟨by omega, entry listed⟩

theorem value_getOptionalFieldOffset
    (holds : memory.Holds buffer) {field : Nat}
    (inside : EntryInside buffer field) :
    (getOptionalFieldOffset memory (rootAt buffer) field).value =
      fieldEntry buffer field := by
  rw [getOptionalFieldOffset, value_bind, value_getVTable holds inside.table,
    value_bind,
    Memory.readWord_value holds ⟨inside.vtable, inside.vtableHead⟩]
  change
    (if field < vtableSize buffer then _ else _ : Accessed Nat).value = _
  have nonneg := inside.vtable
  rw [fieldEntry]
  split_ifs with listed
  · rw [value_bind,
      Memory.readWord_value holds ⟨by omega, inside.entry listed⟩]
    rfl
  · rfl

/-- A field is read if it is not left out. -/
theorem inside_getField
    (holds : memory.Holds buffer) (field size : Nat) :
    (getField memory (rootAt buffer) field size).Inside buffer.length ↔
      FieldInside buffer field size := by
  have steps :
      (getField memory (rootAt buffer) field size).Inside buffer.length ↔
        EntryInside buffer field ∧
          (fieldEntry buffer field ≠ 0 →
            rootAt buffer + fieldEntry buffer field + size ≤
              buffer.length) := by
    refine
      inside_bind_iff (inside_getOptionalFieldOffset holds field)
        fun entry => ?_
    rw [value_getOptionalFieldOffset holds entry]
    have nonneg := rootAt_nonneg buffer
    split_ifs with missing
    · simp [missing]
    · rw [Memory.inside_readWord]
      simp only [ne_eq, missing, not_false_eq_true, forall_const]
      omega
  rw [steps]
  constructor
  · rintro ⟨entry, bytes⟩
    exact ⟨entry, bytes⟩
  · rintro ⟨entry, bytes⟩
    exact ⟨entry, bytes⟩

/-- A string is read in three more steps, and has to be there. -/
theorem inside_getString (holds : memory.Holds buffer) :
    (getString memory (rootAt buffer) 4).Inside buffer.length ↔
      KeyInside buffer := by
  have steps :
      (getString memory (rootAt buffer) 4).Inside buffer.length ↔
        EntryInside buffer 4 ∧
          fieldEntry buffer 4 ≠ 0 ∧
            rootAt buffer + fieldEntry buffer 4 + 4 ≤ buffer.length ∧
              keyAt buffer + 4 ≤ buffer.length ∧
                keyAt buffer + 4 + keyLength buffer ≤ buffer.length := by
    refine
      inside_bind_iff (inside_getOptionalFieldOffset holds 4)
        fun entry => ?_
    rw [value_getOptionalFieldOffset holds entry]
    have place : 0 ≤ rootAt buffer + fieldEntry buffer 4 :=
      Int.add_nonneg (rootAt_nonneg buffer) (Int.natCast_nonneg _)
    have start : 0 ≤ keyAt buffer :=
      Int.add_nonneg place (Int.natCast_nonneg _)
    split_ifs with missing
    · exact
        iff_of_false (Memory.not_inside_readNull []) fun present =>
          present.1 missing
    · rw [and_iff_right missing]
      refine
        inside_bind_iff
          (Memory.inside_readWord.trans (and_iff_right place))
          fun offset => ?_
      rw [Memory.readWord_value holds ⟨place, offset⟩]
      change
        (do
          let length ← memory.readWord (keyAt buffer) 4
          memory.readBytes (keyAt buffer + 4) length.toNat :
            Accessed ByteString).Inside buffer.length ↔ _
      refine
        inside_bind_iff
          (Memory.inside_readWord.trans (and_iff_right start))
          fun length => ?_
      rw [Memory.readWord_value holds ⟨start, length⟩,
        Memory.inside_readBytes]
      exact and_iff_right (Int.add_nonneg start (by decide))
  rw [steps]
  constructor
  · rintro ⟨entry, present, offset, length, text⟩
    exact ⟨entry, present, offset, length, text⟩
  · rintro ⟨entry, present, offset, length, text⟩
    exact ⟨entry, present, offset, length, text⟩

/-- The four fields of a notice, in the order they are read. -/
theorem inside_notice {Notice : Type}
    (holds : memory.Holds buffer)
    (make : ByteString → UInt32 → UInt32 → UInt32 → Notice) :
    (do
      let notice ← getRoot memory
      let lobbyKey ← getString memory notice 4
      let second ← getField memory notice 6 4
      let third ← getField memory notice 8 4
      let active ← getField memory notice 10 1
      return make lobbyKey second third active :
        Accessed Notice).Inside buffer.length ↔
      WellFormedNotice buffer := by
  have steps :
      (do
        let notice ← getRoot memory
        let lobbyKey ← getString memory notice 4
        let second ← getField memory notice 6 4
        let third ← getField memory notice 8 4
        let active ← getField memory notice 10 1
        return make lobbyKey second third active :
          Accessed Notice).Inside buffer.length ↔
        4 ≤ buffer.length ∧
          KeyInside buffer ∧
            FieldInside buffer 6 4 ∧
              FieldInside buffer 8 4 ∧ FieldInside buffer 10 1 := by
    refine inside_bind_iff inside_getRoot fun root => ?_
    rw [value_getRoot holds root]
    refine inside_bind_iff (inside_getString holds) fun _ => ?_
    refine inside_bind_iff (inside_getField holds 6 4) fun _ => ?_
    refine inside_bind_iff (inside_getField holds 8 4) fun _ => ?_
    rw [inside_bind, inside_getField holds 10 1]
    exact and_iff_left (inside_pure _)
  rw [steps]
  constructor
  · rintro ⟨root, key, second, third, active⟩
    exact ⟨root, key, second, third, active⟩
  · rintro ⟨root, key, second, third, active⟩
    exact ⟨root, key, second, third, active⟩

/-! ## What is read inside -/

theorem agrees_readScalar
    (holds : memory.Holds buffer) (position : Int) (size : Nat) :
    Agrees buffer.length (readScalar buffer position size) id
      (memory.readWord position size) := by
  intro inside
  rw [Memory.inside_readWord] at inside
  rw [Memory.readWord_value holds inside, readScalar,
    if_pos ⟨inside.1, by omega⟩, Memory.slice,
    List.drop_append_of_le_length (by omega),
    List.take_append_of_le_length (by rw [List.length_drop]; omega)]
  rfl

theorem agrees_getRoot (holds : memory.Holds buffer) :
    Agrees buffer.length (Protocol.getRoot buffer) (Table.mk buffer)
      (getRoot memory) :=
  (agrees_readScalar holds 0 4).bind fun _ _ => rfl

theorem agrees_getOptionalFieldOffset
    (holds : memory.Holds buffer) (position : Int) (field : Nat) :
    Agrees buffer.length
      ((Table.mk buffer position).getOptionalFieldOffset field) id
      (getOptionalFieldOffset memory position field) := by
  rw [getOptionalFieldOffset, getVTable, bind_pure_bind]
  refine (agrees_readScalar holds position 4).bind fun _ => ?_
  refine (agrees_readScalar holds _ 2).bind fun _ => ?_
  refine .ite (fun _ => ?_) fun _ _ => rfl
  exact (agrees_readScalar holds _ 2).bind fun _ _ => rfl

theorem agrees_getField
    (holds : memory.Holds buffer) (position : Int) (field size : Nat) :
    Agrees buffer.length ((Table.mk buffer position).getField field size) id
      (getField memory position field size) := by
  refine
    (agrees_getOptionalFieldOffset holds position field).bind fun _ => ?_
  exact .ite (fun _ _ => rfl) fun _ => agrees_readScalar holds _ size

theorem agrees_getString
    (holds : memory.Holds buffer) (position : Int) (field : Nat) :
    Agrees buffer.length ((Table.mk buffer position).getString field) id
      (getString memory position field) := by
  refine
    (agrees_getOptionalFieldOffset holds position field).bind fun _ => ?_
  refine .ite (fun _ => ?_) fun _ => ?_
  · intro inside
    exact absurd inside (Memory.not_inside_readNull [])
  · refine (agrees_readScalar holds _ 4).bind fun _ => ?_
    refine (agrees_readScalar holds _ 4).bind fun start => ?_
    intro inside
    simp only [id_eq, Memory.inside_readWord] at start
    simp only [id_eq, Memory.inside_readBytes] at inside
    have first := start.1
    have last := inside.2
    simp only [id_eq]
    rw [Memory.readBytes_value holds inside, if_pos (by omega), Memory.slice]
    congr 3
    omega

/-- A `NOTICE_LOBBYREADY` read inside its buffer is the one decoded. -/
theorem agrees_noticeLobbyReady (holds : memory.Holds buffer) :
    Agrees buffer.length (flatBuffers.noticeLobbyReady buffer) id
      (noticeLobbyReady memory) := by
  refine (agrees_getRoot holds).bind fun _ => ?_
  refine (agrees_getString holds _ 4).bind fun _ => ?_
  refine (agrees_getField holds _ 6 4).bind fun _ => ?_
  refine (agrees_getField holds _ 8 4).bind fun _ => ?_
  exact (agrees_getField holds _ 10 1).bind fun _ _ => rfl

/-- A `NOTICE_LOBBYINFO` read inside its buffer is the one decoded. -/
theorem agrees_noticeLobbyInfo (holds : memory.Holds buffer) :
    Agrees buffer.length (flatBuffers.noticeLobbyInfo buffer) id
      (noticeLobbyInfo memory) := by
  refine (agrees_getRoot holds).bind fun _ => ?_
  refine (agrees_getString holds _ 4).bind fun _ => ?_
  refine (agrees_getField holds _ 6 4).bind fun _ => ?_
  refine (agrees_getField holds _ 8 4).bind fun _ => ?_
  exact (agrees_getField holds _ 10 1).bind fun _ _ => rfl

end FlatBufferAccess

end IocpServer.Protocol
