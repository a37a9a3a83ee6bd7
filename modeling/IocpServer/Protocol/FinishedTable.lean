import IocpServer.Protocol.TableFields
import Mathlib.Data.List.Nodup

/-!
# The finished buffer of a table

`EndTable` writes the vtable and the distance to it, `Finish` the distance to
the root.  Whatever the fields are, the buffer starts with the root's
distance, then has the vtable, the table's distance to it, and the fields with
what was written before them; `BuiltTable` says where each of these is.
-/

namespace IocpServer.Protocol

open IocpServer.Library

/-! ## The end of a table -/

/-- The places `EndTable` writes in a vtable. -/
def vtablePlaces
    (vtableSize tableObjectSize root : Nat) (fieldLocs : List FieldLoc) :
    List (Nat × ByteString) :=
  (2, voffsetBytes tableObjectSize) ::
    (0, voffsetBytes vtableSize) ::
      fieldLocs.map fun location =>
        (location.id, voffsetBytes (root - location.off))

/-- The vtable `EndTable` writes. -/
def vtableOf
    (vtableSize tableObjectSize root : Nat) (fieldLocs : List FieldLoc) :
    ByteString :=
  overwriteAll (List.replicate vtableSize 0)
    (vtablePlaces vtableSize tableObjectSize root fieldLocs)

theorem writeScalars_eq
    (builder : FlatBufferBuilder) (scalars : List (Nat × ByteString)) :
    builder.writeScalars scalars =
      { builder with buf := overwriteAll builder.buf scalars } := by
  induction scalars generalizing builder with
  | nil => rfl
  | cons scalar scalars induction =>
      rw [FlatBufferBuilder.writeScalars, induction]
      rfl

theorem vtablePlaces_inside
    {vtableSize : Nat} {fieldLocs : List FieldLoc}
    (four : 4 ≤ vtableSize)
    (room : ∀ location ∈ fieldLocs, location.id + 2 ≤ vtableSize)
    (tableObjectSize root : Nat) :
    PlacesInside (vtablePlaces vtableSize tableObjectSize root fieldLocs)
      vtableSize := by
  intro place member
  simp only [vtablePlaces, List.mem_cons, List.mem_map] at member
  rcases member with rfl | rfl | ⟨location, present, rfl⟩
  · rw [voffsetBytes_length]
    omega
  · rw [voffsetBytes_length]
    omega
  · rw [voffsetBytes_length]
    exact room location present

/-- The bytes between the root and the end of the buffer. -/
def behindRoot (builder : FlatBufferBuilder) : ByteString :=
  List.replicate (paddingBytes builder.size 4) 0 ++ builder.buf

/-- The root's offset. -/
def rootOf (builder : FlatBufferBuilder) : Nat :=
  builder.size + paddingBytes builder.size 4 + 4

theorem behindRoot_length (builder : FlatBufferBuilder) :
    (behindRoot builder).length + 4 = rootOf builder := by
  rw [behindRoot, rootOf, List.length_append, List.length_replicate,
    FlatBufferBuilder.size]
  omega

theorem rootOf_aligned (builder : FlatBufferBuilder) :
    4 ∣ rootOf builder := by
  rw [rootOf, paddingBytes]
  omega

/-- A table with its vtable, which is in front of it. -/
def tableBytes
    (builder : FlatBufferBuilder) (start vtableSize : Nat) : ByteString :=
  vtableOf vtableSize (rootOf builder - start) (rootOf builder)
      builder.fieldLocs ++
    (wordBytes (UInt32.ofNat vtableSize) ++ behindRoot builder)

/-- `EndTable`: the vtable, the distance to it, and the table. -/
theorem endTable_eq
    (builder : FlatBufferBuilder) (start : Nat)
    (room :
      ∀ location ∈ builder.fieldLocs, location.id ≤ builder.maxVoffset) :
    builder.endTable start =
      ({ buf := tableBytes builder start (max (builder.maxVoffset + 2) 4)
         fieldLocs := []
         maxVoffset := 0
         minalign := max builder.minalign 4 },
        rootOf builder) := by
  generalize sizeEq : max (builder.maxVoffset + 2) 4 = vtableSize
  have located :
      (builder.pushElement (wordBytes 0)).size = rootOf builder :=
    builder.size_pushElement (wordBytes 0)
  let vtable :=
    vtableOf vtableSize (rootOf builder - start) (rootOf builder)
      builder.fieldLocs
  have inside :
      PlacesInside
        (vtablePlaces vtableSize (rootOf builder - start) (rootOf builder)
          builder.fieldLocs)
        (List.replicate vtableSize (0 : UInt8)).length := by
    rw [List.length_replicate]
    apply vtablePlaces_inside (by omega)
    intro location member
    have bound := room location member
    omega
  have vtableLength : vtable.length = vtableSize := by
    change (overwriteAll _ _).length = _
    rw [overwriteAll_length inside, List.length_replicate]
  have written :
      ((builder.pushElement (wordBytes 0)).writeVtable start).buf =
        vtable ++ (wordBytes 0 ++ behindRoot builder) := by
    change _ = overwriteAll _ _ ++ _
    rw [← overwriteAll_append inside, FlatBufferBuilder.writeVtable, located,
      writeScalars_eq, ← sizeEq]
    rfl
  have size :
      ((builder.pushElement (wordBytes 0)).writeVtable start).size -
          rootOf builder =
        vtableSize := by
    have rootLength := behindRoot_length builder
    rw [FlatBufferBuilder.size, written, List.length_append, vtableLength,
      List.length_append, wordBytes_length]
    omega
  have pointed :
      overwrite (vtable ++ (wordBytes 0 ++ behindRoot builder)) vtableSize
          (wordBytes (UInt32.ofNat vtableSize)) =
        tableBytes builder start vtableSize := by
    have same :
        (wordBytes 0).length = (wordBytes (UInt32.ofNat vtableSize)).length :=
      rfl
    have between := overwrite_between same vtable (behindRoot builder)
    rw [vtableLength] at between
    exact between
  rw [FlatBufferBuilder.endTable, located, size,
    FlatBufferBuilder.writeScalar, written]
  rw [overwrite] at pointed
  rw [pointed, FlatBufferBuilder.writeVtable, writeScalars_eq]
  rfl

/-- `Finish`: the root's distance in front of an aligned buffer. -/
theorem finish_eq
    (builder : FlatBufferBuilder) (root : Nat) (four : builder.minalign = 4) :
    (builder.finish root).buf =
      wordBytes
          (UInt32.ofNat
            (builder.buf.length + paddingBytes builder.buf.length 4 - root +
              4)) ++
        (List.replicate (paddingBytes builder.buf.length 4) 0 ++
          builder.buf) := by
  have padding :
      paddingBytes (builder.size + 4) 4 = paddingBytes builder.size 4 := by
    rw [paddingBytes, paddingBytes, Nat.add_mod_right]
  have aligned : builder.preAlign 4 builder.minalign = builder.align 4 := by
    rw [four, FlatBufferBuilder.preAlign, if_neg (by decide), padding]
    rfl
  simp only [FlatBufferBuilder.finish, FlatBufferBuilder.referTo]
  rw [aligned, FlatBufferBuilder.pushElement, wordBytes_length, align_align,
    align_align, builder.size_align]
  rfl

/-! ## The entries of a vtable -/

/-- The fields of a table have places of their own behind the vtable's head. -/
structure FieldsApart (fieldLocs : List FieldLoc) (vtableSize : Nat) :
    Prop where
  four : 4 ≤ vtableSize
  even : ∀ location ∈ fieldLocs, 2 ∣ location.id
  behindHead : ∀ location ∈ fieldLocs, 4 ≤ location.id
  room : ∀ location ∈ fieldLocs, location.id + 2 ≤ vtableSize
  distinct : (fieldLocs.map FieldLoc.id).Nodup

namespace FieldsApart

variable {fieldLocs : List FieldLoc} {vtableSize : Nat}

theorem inside
    (fields : FieldsApart fieldLocs vtableSize) (tableObjectSize root : Nat) :
    PlacesInside (vtablePlaces vtableSize tableObjectSize root fieldLocs)
      (List.replicate vtableSize (0 : UInt8)).length := by
  rw [List.length_replicate]
  exact
    vtablePlaces_inside fields.four fields.room tableObjectSize root

theorem vtable_length
    (fields : FieldsApart fieldLocs vtableSize) (tableObjectSize root : Nat) :
    (vtableOf vtableSize tableObjectSize root fieldLocs).length =
      vtableSize := by
  rw [vtableOf, overwriteAll_length (fields.inside tableObjectSize root),
    List.length_replicate]

/-- The places written in the vtable share no byte. -/
theorem apart
    (fields : FieldsApart fieldLocs vtableSize) (tableObjectSize root : Nat) :
    (vtablePlaces vtableSize tableObjectSize root fieldLocs).Pairwise
      PlacesApart := by
  have entries :
      (fieldLocs.map fun location =>
        (location.id, voffsetBytes (root - location.off))).Pairwise
          PlacesApart := by
    rw [List.pairwise_map]
    have distinct := List.pairwise_map.mp fields.distinct
    refine distinct.imp_of_mem ?_
    intro first second isFirst isSecond differ
    have firstEven := fields.even first isFirst
    have secondEven := fields.even second isSecond
    simp only [PlacesApart, voffsetBytes_length]
    omega
  have behindHead :
      ∀ place ∈
          fieldLocs.map fun location =>
            (location.id, voffsetBytes (root - location.off)),
        4 ≤ place.1 := by
    intro place member
    rcases List.mem_map.mp member with ⟨location, present, rfl⟩
    exact fields.behindHead location present
  simp only [vtablePlaces, List.pairwise_cons]
  refine ⟨?_, ?_, entries⟩
  · intro place member
    simp only [PlacesApart, voffsetBytes_length]
    rcases List.mem_cons.mp member with rfl | entry
    · exact .inr le_rfl
    · have later := behindHead place entry
      omega
  · intro place member
    have later := behindHead place member
    simp only [PlacesApart, voffsetBytes_length]
    omega

/-- A place of the vtable holds what was written there. -/
theorem stored_of_mem
    (fields : FieldsApart fieldLocs vtableSize) (tableObjectSize root : Nat)
    {place : Nat × ByteString}
    (member :
      place ∈ vtablePlaces vtableSize tableObjectSize root fieldLocs) :
    StoredAt (vtableOf vtableSize tableObjectSize root fieldLocs)
      (vtableSize - place.1) place.2 := by
  have length := fields.vtable_length tableObjectSize root
  have within := fields.inside tableObjectSize root place member
  rw [List.length_replicate] at within
  have stored :
      StoredAt (vtableOf vtableSize tableObjectSize root fieldLocs)
        ((vtableOf vtableSize tableObjectSize root fieldLocs).length -
          place.1)
        place.2 := by
    apply StoredAt.of_getElem?
    · rw [length]
      exact within
    · intro index before
      exact
        overwriteAll_getElem?_of_mem (fields.inside tableObjectSize root)
          (fields.apart tableObjectSize root) member before
  rw [length] at stored
  exact stored

/-- A field without a location has a zero in the vtable. -/
theorem stored_of_absent
    (fields : FieldsApart fieldLocs vtableSize) (tableObjectSize root : Nat)
    {field : Nat} (even : 2 ∣ field) (behindHead : 4 ≤ field)
    (room : field + 2 ≤ vtableSize)
    (absent : ∀ location ∈ fieldLocs, location.id ≠ field) :
    StoredAt (vtableOf vtableSize tableObjectSize root fieldLocs)
      (vtableSize - field) (voffsetBytes 0) := by
  have length := fields.vtable_length tableObjectSize root
  have stored :
      StoredAt (vtableOf vtableSize tableObjectSize root fieldLocs)
        ((vtableOf vtableSize tableObjectSize root fieldLocs).length -
          field)
        (voffsetBytes 0) := by
    apply StoredAt.of_getElem?
    · rw [length, voffsetBytes_length]
      exact room
    · intro index before
      rw [voffsetBytes_length] at before
      rw [vtableOf,
        overwriteAll_getElem?_of_outside
          (fields.inside tableObjectSize root),
        List.getElem?_replicate_of_lt (by omega)]
      · have cases : index = 0 ∨ index = 1 := by
          omega
        rcases cases with rfl | rfl <;> rfl
      · intro place member
        simp only [vtablePlaces, List.mem_cons, List.mem_map] at member
        rcases member with rfl | rfl | ⟨location, present, rfl⟩
        · rw [voffsetBytes_length]
          omega
        · rw [voffsetBytes_length]
          omega
        · have otherEven := fields.even location present
          have other := absent location present
          rw [voffsetBytes_length]
          omega
  rw [length] at stored
  exact stored

end FieldsApart

/-! ## The finished buffer -/

/--
A finished buffer with one table: its root and vtable, the fields that were
kept with their vtable entries, and zero entries for the others.
-/
structure BuiltTable
    (start : Nat) (before : ByteString) (writes : List FieldWrite)
    (buffer : ByteString) (root vtableSize : Nat) : Prop where
  whole : 4 ∣ buffer.length
  small : buffer.length ≤ start + 9 * writes.length + vtableSize + 14
  rootAligned : 4 ∣ root
  even : 2 ∣ vtableSize
  four : 4 ≤ vtableSize
  room : root + vtableSize + 4 ≤ buffer.length
  grown : ∃ front, buffer = front ++ before
  head :
    StoredAt buffer buffer.length
      (wordBytes (UInt32.ofNat (buffer.length - root)))
  distance : StoredAt buffer root (wordBytes (UInt32.ofNat vtableSize))
  vtable : StoredAt buffer (root + vtableSize) (voffsetBytes vtableSize)
  entry :
    ∀ write ∈ writes, write.Kept →
      ∃ place,
        write.field + 2 ≤ vtableSize ∧
          StoredAt buffer (root + vtableSize - write.field)
            (voffsetBytes (root - place)) ∧
          start < place ∧ place + 4 ≤ root ∧
            StoredAt buffer place (write.bytesAt place) ∧
              (write.bytesAt place).length ∣ place
  absent :
    ∀ write ∈ writes, ¬ write.Kept → write.field < vtableSize →
      StoredAt buffer (root + vtableSize - write.field) (voffsetBytes 0)
  near : root ≤ start + 7 * writes.length + 7
  narrow :
    ∀ limit, 4 ≤ limit →
      (∀ write ∈ writes, write.field + 2 ≤ limit) → vtableSize ≤ limit

/-- The writes of one table: every field is written once. -/
structure TableWrites (start : Nat) (writes : List FieldWrite) : Prop where
  valid : ∀ write ∈ writes, write.Valid start
  distinct : (writes.map FieldWrite.field).Nodup

theorem FieldWrite.Valid.even
    {start : Nat} {write : FieldWrite} (valid : write.Valid start) :
    2 ∣ write.field := by
  cases write with
  | element field bytes default => exact valid.1
  | offset field off => exact valid.1

theorem FieldWrite.Valid.behindHead
    {start : Nat} {write : FieldWrite} (valid : write.Valid start) :
    4 ≤ write.field := by
  cases write with
  | element field bytes default => exact valid.2.1
  | offset field off => exact valid.2.1

/-- The fields of a builder behind the writes of a table. -/
theorem Filled.fieldsApart
    {start : Nat} {before : ByteString} {writes : List FieldWrite}
    {builder : FlatBufferBuilder}
    (filled : Filled start before writes builder)
    (table : TableWrites start writes) :
    FieldsApart builder.fieldLocs (max (builder.maxVoffset + 2) 4) where
  four := Nat.le_max_right _ _
  even := by
    intro location member
    rcases filled.located location member with ⟨write, present, -, found⟩
    rw [found.id_eq]
    exact (table.valid write present).even
  behindHead := by
    intro location member
    rcases filled.located location member with ⟨write, present, -, found⟩
    rw [found.id_eq]
    exact (table.valid write present).behindHead
  room := by
    intro location member
    have bound := filled.largest location member
    omega
  distinct := filled.ids.nodup table.distinct

theorem tableBytes_length
    {builder : FlatBufferBuilder} {vtableSize : Nat}
    (fields : FieldsApart builder.fieldLocs vtableSize) (start : Nat) :
    (tableBytes builder start vtableSize).length =
      rootOf builder + vtableSize := by
  have rootLength := behindRoot_length builder
  rw [tableBytes, List.length_append, List.length_append,
    fields.vtable_length, wordBytes_length]
  omega

/-- The whole of a finished buffer. -/
def finishedBuffer
    (builder : FlatBufferBuilder) (start vtableSize : Nat) : ByteString :=
  let padding := paddingBytes (rootOf builder + vtableSize) 4
  wordBytes (UInt32.ofNat (vtableSize + padding + 4)) ++
    (List.replicate padding 0 ++ tableBytes builder start vtableSize)

/-- `EndTable` and `Finish` of a builder behind the writes of a table. -/
theorem Filled.finish_endTable
    {start : Nat} {before : ByteString} {writes : List FieldWrite}
    {builder : FlatBufferBuilder}
    (filled : Filled start before writes builder)
    (table : TableWrites start writes) :
    ((builder.endTable start).1.finish (builder.endTable start).2).buf =
        finishedBuffer builder start (max (builder.maxVoffset + 2) 4) := by
  have length := tableBytes_length (filled.fieldsApart table) start
  have four : max builder.minalign 4 = 4 := by
    rw [filled.minalign_eq, max_self]
  rw [endTable_eq builder start filled.largest, finish_eq _ _ four, length,
    finishedBuffer]
  dsimp only
  congr 3
  omega

section Finished

variable {start : Nat} {before : ByteString} {writes : List FieldWrite}
variable {builder : FlatBufferBuilder}

/-- What is in the table's bytes is in the finished buffer. -/
theorem finishedBuffer_stored
    {vtableSize offset : Nat} {bytes : ByteString}
    (stored : StoredAt (tableBytes builder start vtableSize) offset bytes) :
    StoredAt (finishedBuffer builder start vtableSize) offset bytes :=
  (stored.push _).push _

/-- What is in the builder is in the table's bytes. -/
theorem tableBytes_stored
    {offset : Nat} {bytes : ByteString}
    (stored : StoredAt builder.buf offset bytes) (vtableSize : Nat) :
    StoredAt (tableBytes builder start vtableSize) offset bytes :=
  ((stored.push _).push _).push _

/-- What is in the vtable is in the table's bytes. -/
theorem tableBytes_vtable
    {vtableSize offset : Nat} {bytes : ByteString}
    (stored :
      StoredAt
        (vtableOf vtableSize (rootOf builder - start) (rootOf builder)
          builder.fieldLocs)
        offset bytes) :
    StoredAt (tableBytes builder start vtableSize)
      (offset + rootOf builder) bytes := by
  have placed :=
    stored.append
      (wordBytes (UInt32.ofNat vtableSize) ++ behindRoot builder)
  have rootLength := behindRoot_length builder
  rw [List.length_append, wordBytes_length, Nat.add_comm 4,
    rootLength] at placed
  exact placed

/-- The vtable has whole entries. -/
theorem Filled.vtableSize_even
    (filled : Filled start before writes builder)
    (table : TableWrites start writes) :
    2 ∣ max (builder.maxVoffset + 2) 4 := by
  rcases filled.reached with none | ⟨location, member, reached⟩
  · rw [none]
    decide
  · have locationEven := (filled.fieldsApart table).even location member
    rw [← reached]
    omega

/-- The vtable ends behind its last field. -/
theorem Filled.vtableSize_le
    (filled : Filled start before writes builder) {limit : Nat}
    (four : 4 ≤ limit) (room : ∀ write ∈ writes, write.field + 2 ≤ limit) :
    max (builder.maxVoffset + 2) 4 ≤ limit := by
  rcases filled.reached with none | ⟨location, member, reached⟩
  · omega
  · rcases filled.located location member with ⟨write, present, -, found⟩
    have bound := room write present
    rw [← found.id_eq, reached] at bound
    omega

theorem Filled.rootOf_le
    (filled : Filled start before writes builder) :
    rootOf builder ≤ start + 7 * writes.length + 7 := by
  have size := filled.small
  have padding : paddingBytes builder.size 4 ≤ 3 := by
    rw [paddingBytes]
    omega
  rw [rootOf]
  omega

section Places

variable {vtableSize : Nat}

theorem finishedBuffer_length
    (fields : FieldsApart builder.fieldLocs vtableSize) (start : Nat) :
    (finishedBuffer builder start vtableSize).length =
      rootOf builder + vtableSize +
        paddingBytes (rootOf builder + vtableSize) 4 + 4 := by
  rw [finishedBuffer]
  simp only [List.length_append, tableBytes_length fields,
    List.length_replicate, wordBytes_length]
  omega

/-- The buffer begins with the distance of its root. -/
theorem finishedBuffer_head
    (fields : FieldsApart builder.fieldLocs vtableSize) (start : Nat) :
    StoredAt (finishedBuffer builder start vtableSize)
      (finishedBuffer builder start vtableSize).length
      (wordBytes
        (UInt32.ofNat
          ((finishedBuffer builder start vtableSize).length -
            rootOf builder))) := by
  have stored :=
    StoredAt.front
      (wordBytes
        (UInt32.ofNat
          (vtableSize + paddingBytes (rootOf builder + vtableSize) 4 + 4)))
      (List.replicate (paddingBytes (rootOf builder + vtableSize) 4) 0 ++
        tableBytes builder start vtableSize)
  rw [← List.length_append] at stored
  have distance :
      (finishedBuffer builder start vtableSize).length - rootOf builder =
        vtableSize + paddingBytes (rootOf builder + vtableSize) 4 + 4 := by
    rw [finishedBuffer_length fields]
    omega
  rw [distance]
  exact stored

/-- The root begins with the distance of its vtable. -/
theorem finishedBuffer_distance
    (builder : FlatBufferBuilder) (start vtableSize : Nat) :
    StoredAt (finishedBuffer builder start vtableSize) (rootOf builder)
      (wordBytes (UInt32.ofNat vtableSize)) := by
  have rootLength := behindRoot_length builder
  have stored :=
    StoredAt.front (wordBytes (UInt32.ofNat vtableSize)) (behindRoot builder)
  rw [wordBytes_length, Nat.add_comm, rootLength] at stored
  exact finishedBuffer_stored (stored.push _)

/-- A place of the vtable, counted from the end of the buffer. -/
theorem finishedBuffer_vtable {field : Nat} {bytes : ByteString}
    (inside : field ≤ vtableSize)
    (stored :
      StoredAt
        (vtableOf vtableSize (rootOf builder - start) (rootOf builder)
          builder.fieldLocs)
        (vtableSize - field) bytes) :
    StoredAt (finishedBuffer builder start vtableSize)
      (rootOf builder + vtableSize - field) bytes := by
  have placed := finishedBuffer_stored (tableBytes_vtable stored)
  have place :
      rootOf builder + vtableSize - field =
        vtableSize - field + rootOf builder := by
    omega
  rw [place]
  exact placed

/-- A field that is kept has its vtable entry, and its bytes. -/
theorem Filled.entry_stored
    (filled : Filled start before writes builder)
    (fields : FieldsApart builder.fieldLocs vtableSize) {write : FieldWrite}
    (member : write ∈ writes) (kept : write.Kept) :
    ∃ place,
      write.field + 2 ≤ vtableSize ∧
        StoredAt (finishedBuffer builder start vtableSize)
          (rootOf builder + vtableSize - write.field)
          (voffsetBytes (rootOf builder - place)) ∧
        start < place ∧ place + 4 ≤ rootOf builder ∧
          StoredAt (finishedBuffer builder start vtableSize) place
              (write.bytesAt place) ∧
            (write.bytesAt place).length ∣ place := by
  rcases filled.kept write member kept with ⟨location, present, found⟩
  have room := fields.room location present
  rw [found.id_eq] at room
  have entry :
      (location.id, voffsetBytes (rootOf builder - location.off)) ∈
        vtablePlaces vtableSize (rootOf builder - start) (rootOf builder)
          builder.fieldLocs :=
    List.mem_cons_of_mem _
      (List.mem_cons_of_mem _ (List.mem_map_of_mem present))
  have stored := fields.stored_of_mem _ _ entry
  dsimp only at stored
  rw [found.id_eq] at stored
  have place := found.stored.le_length
  refine
    ⟨location.off, room, finishedBuffer_vtable (by omega) stored, found.behind,
      ?_, finishedBuffer_stored (tableBytes_stored found.stored vtableSize),
      found.aligned⟩
  rw [rootOf, FlatBufferBuilder.size]
  omega

/-- A field that is left out has a zero entry, if it has one. -/
theorem Filled.absent_stored
    (filled : Filled start before writes builder)
    (table : TableWrites start writes)
    (fields : FieldsApart builder.fieldLocs vtableSize)
    (even : 2 ∣ vtableSize) {write : FieldWrite} (member : write ∈ writes)
    (left : ¬ write.Kept) (listed : write.field < vtableSize) :
    StoredAt (finishedBuffer builder start vtableSize)
      (rootOf builder + vtableSize - write.field) (voffsetBytes 0) := by
  have valid := table.valid write member
  have others :
      ∀ location ∈ builder.fieldLocs, location.id ≠ write.field := by
    intro location present same
    rcases filled.located location present with
      ⟨other, otherMember, otherKept, found⟩
    have one :=
      List.inj_on_of_nodup_map table.distinct otherMember member
        (found.id_eq.symm.trans same)
    rw [one] at otherKept
    exact left otherKept
  have writeEven := valid.even
  have stored :=
    fields.stored_of_absent (rootOf builder - start) (rootOf builder)
      writeEven valid.behindHead (by omega) others
  exact finishedBuffer_vtable listed.le stored

end Places

/-- The finished buffer has its table built. -/
theorem Filled.builtTable
    (filled : Filled start before writes builder)
    (table : TableWrites start writes) :
    BuiltTable start before writes
      (finishedBuffer builder start (max (builder.maxVoffset + 2) 4))
      (rootOf builder) (max (builder.maxVoffset + 2) 4) := by
  have fields := filled.fieldsApart table
  have even := filled.vtableSize_even table
  have narrow :
      ∀ limit, 4 ≤ limit →
        (∀ write ∈ writes, write.field + 2 ≤ limit) →
          max (builder.maxVoffset + 2) 4 ≤ limit :=
    fun _ => filled.vtableSize_le
  generalize max (builder.maxVoffset + 2) 4 = vtableSize at fields even narrow ⊢
  have length := finishedBuffer_length fields start
  have near := filled.rootOf_le
  exact
    { whole := by
        rw [length, paddingBytes]
        omega
      small := by
        rw [length, paddingBytes]
        omega
      rootAligned := rootOf_aligned builder
      even := even
      four := fields.four
      room := by
        rw [length]
        omega
      grown := by
        rcases filled.grown with ⟨front, grown⟩
        rw [finishedBuffer, tableBytes, behindRoot, grown]
        simp only [← List.append_assoc]
        exact ⟨_, rfl⟩
      head := finishedBuffer_head fields start
      distance := finishedBuffer_distance builder start vtableSize
      vtable :=
        finishedBuffer_vtable (Nat.zero_le _)
          (fields.stored_of_mem _ _
            (List.mem_cons_of_mem _ List.mem_cons_self))
      entry := fun _ => filled.entry_stored fields
      absent := fun _ => filled.absent_stored table fields even
      near := near
      narrow := narrow }

end Finished

end IocpServer.Protocol
