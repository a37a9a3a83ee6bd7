import IocpServer.Library.BackwardBuffer
import IocpServer.Protocol.FlatBufferBuilder

/-!
# The fields of a table being built

A generated `Create` function adds fields in some order and ends the table.
Fields are written in front of what there was before, each at an offset that
later writes do not change.  `Filled` is what holds while they are added.
-/

namespace IocpServer.Protocol

open IocpServer.Library

/-- A call of `AddElement`, or of `AddOffset`. -/
inductive FieldWrite where
  | element (field : Nat) (bytes default : ByteString)
  | offset (field off : Nat)

namespace FieldWrite

/-- The field's place in a vtable. -/
def field : FieldWrite → Nat
  | .element field _ _ => field
  | .offset field _ => field

/-- The call, of a builder inside a table. -/
def addTo (builder : FlatBufferBuilder) : FieldWrite → FlatBufferBuilder
  | .element field bytes default => builder.addElement field bytes default
  | .offset field off => builder.addOffset field off

/-- The field is not left out. -/
def Kept : FieldWrite → Prop
  | .element _ bytes default => bytes ≠ default
  | .offset _ off => off ≠ 0

/-- What the field holds if it is stored at an offset. -/
def bytesAt (place : Nat) : FieldWrite → ByteString
  | .element _ bytes _ => bytes
  | .offset _ off => wordBytes (UInt32.ofNat (place - off))

/--
The field has a place behind the vtable's head, and holds a scalar of at most
four bytes or the offset of something written before the table.
-/
def Valid (start : Nat) : FieldWrite → Prop
  | .element field bytes _ =>
      2 ∣ field ∧ 4 ≤ field ∧ (bytes.length = 1 ∨ bytes.length = 4)
  | .offset field off => 2 ∣ field ∧ 4 ≤ field ∧ off ≤ start

end FieldWrite

/-- The table of some fields, from `StartTable` to `EndTable`. -/
def writeTable (builder : FlatBufferBuilder) (writes : List FieldWrite) :
    FlatBufferBuilder × Nat :=
  (writes.foldl (fun built write => write.addTo built) builder).endTable
    builder.size

/-- `CreateNOTICE_LOBBYREADY` and `CreateNOTICE_LOBBYINFO` as field writes. -/
def noticeWrites (keyOffset : Nat) (second third : Int32) (active : Bool) :
    List FieldWrite :=
  [.element 8 (int32Bytes third) (int32Bytes 0),
    .element 6 (int32Bytes second) (int32Bytes 0),
    .offset 4 keyOffset,
    .element 10 (boolBytes active) (boolBytes false)]

/-- `CreateRESPONSE_LOBBYINFO` as field writes. -/
def responseWrites (keyOffset : Nat) (feedback : Bool) (port : Int32) :
    List FieldWrite :=
  [.element 8 (int32Bytes port) (int32Bytes 0),
    .offset 6 keyOffset,
    .element 4 (boolBytes feedback) (boolBytes false)]

/-! ## While fields are added -/

/-- A located field holds what was written for it. -/
structure Located
    (buf : ByteString) (start : Nat) (location : FieldLoc)
    (write : FieldWrite) : Prop where
  id_eq : location.id = write.field
  behind : start < location.off
  stored : StoredAt buf location.off (write.bytesAt location.off)
  aligned : (write.bytesAt location.off).length ∣ location.off

namespace FieldLoc

/-- The places behind another field, whose number may be the largest. -/
theorem reached_append {locations : List FieldLoc} {largest : Nat}
    (reached :
      largest = 0 ∨ ∃ location ∈ locations, location.id = largest)
    (added : FieldLoc) :
    max largest added.id = 0 ∨
      ∃ location ∈ locations ++ [added], location.id = max largest added.id := by
  rcases le_total largest added.id with larger | smaller
  · right
    refine ⟨added, List.mem_append_right _ List.mem_cons_self, ?_⟩
    exact (max_eq_right larger).symm
  · rw [max_eq_left smaller]
    refine reached.imp_right ?_
    rintro ⟨location, member, reached⟩
    exact ⟨location, List.mem_append_left _ member, reached⟩

theorem largest_append {locations : List FieldLoc} {largest : Nat}
    (bound : ∀ location ∈ locations, location.id ≤ largest)
    (added : FieldLoc) :
    ∀ location ∈ locations ++ [added], location.id ≤ max largest added.id := by
  intro location member
  rcases List.mem_append.mp member with earlier | here
  · exact (bound location earlier).trans (Nat.le_max_left _ _)
  · rw [List.mem_singleton.mp here]
    exact Nat.le_max_right _ _

end FieldLoc

section PushElement

variable {start : Nat} {builder : FlatBufferBuilder} {bytes : ByteString}

/-- A scalar has at most three zeros behind it, and is aligned. -/
theorem paddingBytes_element (size : Nat)
    (short : bytes.length = 1 ∨ bytes.length = 4) :
    paddingBytes size bytes.length ≤ 3 ∧
      bytes.length ∣ size + paddingBytes size bytes.length + bytes.length := by
  rcases short with one | four
  · rw [one, paddingBytes]
    omega
  · rw [four, paddingBytes]
    omega

/-- An element and its zeros go in front of what is written. -/
theorem FlatBufferBuilder.pushElement_buf
    (builder : FlatBufferBuilder) (bytes : ByteString) :
    (builder.pushElement bytes).buf =
      (bytes ++ List.replicate (paddingBytes builder.size bytes.length) 0) ++
        builder.buf := by
  rw [List.append_assoc]
  rfl

/-- A field stays where it is. -/
theorem Located.pushElement {location : FieldLoc} {write : FieldWrite}
    (found : Located builder.buf start location write) (bytes : ByteString) :
    Located (builder.pushElement bytes).buf start location write := by
  refine ⟨found.id_eq, found.behind, ?_, found.aligned⟩
  rw [builder.pushElement_buf bytes]
  exact found.stored.push _

/-- A field is where the builder ends behind its element. -/
theorem located_pushElement {write : FieldWrite}
    (startLe : start ≤ builder.size)
    (short : bytes.length = 1 ∨ bytes.length = 4)
    (holds :
      write.bytesAt
          (builder.size + paddingBytes builder.size bytes.length +
            bytes.length) =
        bytes) :
    Located (builder.pushElement bytes).buf start
      ⟨(builder.pushElement bytes).size, write.field⟩ write := by
  have size := builder.size_pushElement bytes
  rw [← size] at holds
  refine ⟨rfl, ?_, ?_, ?_⟩
  · change start < (builder.pushElement bytes).size
    rw [size]
    rcases short with one | four <;> omega
  · rw [holds, builder.pushElement_buf bytes, List.append_assoc]
    let padding : ByteString :=
      List.replicate (paddingBytes builder.size bytes.length) 0
    have stored := StoredAt.front bytes (padding ++ builder.buf)
    have place :
        (builder.pushElement bytes).size =
          bytes.length + (padding ++ builder.buf).length := by
      rw [size, List.length_append, List.length_replicate,
        FlatBufferBuilder.size]
      omega
    rw [place]
    exact stored
  · rw [holds, size]
    exact (paddingBytes_element builder.size short).2

end PushElement

/--
A builder behind some writes: the table's fields are in front of what there
was before, each where its location says.
-/
structure Filled
    (start : Nat) (before : ByteString) (writes : List FieldWrite)
    (builder : FlatBufferBuilder) : Prop where
  grown : ∃ front, builder.buf = front ++ before
  small : builder.size ≤ start + 7 * writes.length
  minalign_eq : builder.minalign = 4
  ids :
    (builder.fieldLocs.map FieldLoc.id).Sublist
      (writes.map FieldWrite.field)
  largest : ∀ location ∈ builder.fieldLocs, location.id ≤ builder.maxVoffset
  reached :
    builder.maxVoffset = 0 ∨
      ∃ location ∈ builder.fieldLocs, location.id = builder.maxVoffset
  located :
    ∀ location ∈ builder.fieldLocs,
      ∃ write ∈ writes,
        write.Kept ∧ Located builder.buf start location write
  kept :
    ∀ write ∈ writes, write.Kept →
      ∃ location ∈ builder.fieldLocs,
        Located builder.buf start location write

namespace Filled

variable {start : Nat} {before : ByteString} {writes : List FieldWrite}
variable {builder : FlatBufferBuilder}

/-- A builder that has just started a table. -/
theorem of_start
    (noFields : builder.fieldLocs = []) (noOffset : builder.maxVoffset = 0)
    (four : builder.minalign = 4) :
    Filled builder.size builder.buf [] builder where
  grown := ⟨[], rfl⟩
  small := Nat.le_add_right _ _
  minalign_eq := four
  ids := by
    rw [noFields]
    exact List.nil_sublist _
  largest := by
    rw [noFields]
    nofun
  reached := .inl noOffset
  located := by
    rw [noFields]
    nofun
  kept := nofun

/-- A field that is left out changes nothing. -/
theorem leaveOut
    (filled : Filled start before writes builder)
    {write : FieldWrite} (absent : ¬ write.Kept) :
    Filled start before (writes ++ [write]) builder where
  grown := filled.grown
  small := by
    have small := filled.small
    rw [List.length_append, List.length_singleton]
    omega
  minalign_eq := filled.minalign_eq
  ids := by
    rw [List.map_append]
    exact filled.ids.trans (List.sublist_append_left _ _)
  largest := filled.largest
  reached := filled.reached
  located := by
    intro location member
    rcases filled.located location member with ⟨other, earlier, found⟩
    exact ⟨other, List.mem_append_left _ earlier, found⟩
  kept := by
    intro other member present
    rcases List.mem_append.mp member with earlier | here
    · exact filled.kept other earlier present
    · rw [List.mem_singleton.mp here] at present
      exact absurd present absent

section Store

variable {write : FieldWrite} {bytes : ByteString}

/-- Every place behind a stored field is the place of a write. -/
theorem located_store (filled : Filled start before writes builder)
    {added : FieldLoc} (kept : write.Kept)
    (here : Located (builder.pushElement bytes).buf start added write) :
    ∀ location ∈ builder.fieldLocs ++ [added],
      ∃ other ∈ writes ++ [write],
        other.Kept ∧
          Located (builder.pushElement bytes).buf start location other := by
  intro location member
  rcases List.mem_append.mp member with earlier | new
  · rcases filled.located location earlier with
      ⟨other, present, otherKept, found⟩
    exact
      ⟨other, List.mem_append_left _ present, otherKept,
        found.pushElement bytes⟩
  · rw [List.mem_singleton.mp new]
    exact ⟨write, List.mem_append_right _ List.mem_cons_self, kept, here⟩

/-- Every write that is kept has its place behind a stored field. -/
theorem kept_store (filled : Filled start before writes builder)
    {added : FieldLoc}
    (here : Located (builder.pushElement bytes).buf start added write) :
    ∀ other ∈ writes ++ [write], other.Kept →
      ∃ location ∈ builder.fieldLocs ++ [added],
        Located (builder.pushElement bytes).buf start location other := by
  intro other member present
  rcases List.mem_append.mp member with earlier | new
  · rcases filled.kept other earlier present with
      ⟨location, locationMember, found⟩
    exact
      ⟨location, List.mem_append_left _ locationMember,
        found.pushElement bytes⟩
  · rw [List.mem_singleton.mp new]
    exact ⟨added, List.mem_append_right _ List.mem_cons_self, here⟩

/-- The builder behind a stored element. -/
theorem store
    (filled : Filled start before writes builder) (kept : write.Kept)
    (short : bytes.length = 1 ∨ bytes.length = 4)
    (holds :
      ∀ place,
        place = builder.size + paddingBytes builder.size bytes.length +
            bytes.length →
          write.bytesAt place = bytes)
    (startLe : start ≤ builder.size) :
    Filled start before (writes ++ [write])
      ((builder.pushElement bytes).trackField write.field) := by
  have here := located_pushElement startLe short (holds _ rfl)
  exact
    { grown := by
        rcases filled.grown with ⟨front, grown⟩
        change ∃ front, (builder.pushElement bytes).buf = front ++ before
        rw [builder.pushElement_buf bytes, grown, ← List.append_assoc]
        exact ⟨_, rfl⟩
      small := by
        have small := filled.small
        have padded := (paddingBytes_element builder.size short).1
        change (builder.pushElement bytes).size ≤ _
        rw [builder.size_pushElement bytes, List.length_append,
          List.length_singleton]
        rcases short with one | four <;> omega
      minalign_eq := by
        change max builder.minalign bytes.length = 4
        rw [filled.minalign_eq]
        rcases short with one | four <;> omega
      ids := by
        change ((builder.fieldLocs ++ [_]).map FieldLoc.id).Sublist _
        rw [List.map_append, List.map_append]
        exact filled.ids.append (List.Sublist.refl _)
      largest := FieldLoc.largest_append filled.largest ⟨_, write.field⟩
      reached := FieldLoc.reached_append filled.reached ⟨_, write.field⟩
      located := filled.located_store kept here
      kept := filled.kept_store here }

end Store

/-- A builder inside a table is at least as long as it was at its start. -/
theorem start_le (filled : Filled before.length before writes builder) :
    before.length ≤ builder.size := by
  rcases filled.grown with ⟨front, grown⟩
  rw [FlatBufferBuilder.size, grown, List.length_append]
  exact Nat.le_add_left _ _

end Filled

/-- A builder that is aligned is not padded again. -/
theorem align_align (builder : FlatBufferBuilder) :
    (builder.align 4).align 4 = builder.align 4 := by
  have size := builder.size_align 4
  have none : paddingBytes (builder.align 4).size 4 = 0 := by
    rw [size, paddingBytes, paddingBytes]
    omega
  rw [FlatBufferBuilder.align, none]
  simp only [FlatBufferBuilder.fill, FlatBufferBuilder.pushBytes,
    FlatBufferBuilder.align, FlatBufferBuilder.trackMinAlign,
    List.replicate_zero, List.nil_append, max_assoc, max_self]

/-- An offset that is not null is stored as its distance from the field. -/
theorem addOffset_eq
    (builder : FlatBufferBuilder) {field off : Nat} (notNull : off ≠ 0)
    (earlier : off ≤ builder.size) (small : builder.size + 8 < 2 ^ 32) :
    builder.addOffset field off =
      (builder.pushElement
        (wordBytes
          (UInt32.ofNat
            (builder.size + paddingBytes builder.size 4 + 4 - off)))).trackField
        field := by
  have size := builder.size_align 4
  have padding : paddingBytes builder.size 4 ≤ 3 := by
    rw [paddingBytes]
    omega
  have distance :
      (builder.align 4).size - off + 4 =
        builder.size + paddingBytes builder.size 4 + 4 - off := by
    rw [size]
    omega
  have present :
      wordBytes
          (UInt32.ofNat
            (builder.size + paddingBytes builder.size 4 + 4 - off)) ≠
        wordBytes 0 := by
    intro same
    have word := congrArg bytesWord same
    rw [bytesWord_wordBytes, bytesWord_wordBytes] at word
    have number := congrArg UInt32.toNat word
    rw [UInt32.toNat_ofNat', Nat.mod_eq_of_lt (by omega)] at number
    change _ = 0 at number
    omega
  rw [FlatBufferBuilder.addOffset, if_neg notNull]
  simp only [FlatBufferBuilder.referTo]
  rw [distance, FlatBufferBuilder.addElement, if_neg present,
    FlatBufferBuilder.pushElement, wordBytes_length, align_align]
  rfl

namespace Filled

variable {before : ByteString} {writes : List FieldWrite}
variable {builder : FlatBufferBuilder}

/-- What one more write makes of a builder. -/
theorem add
    (filled : Filled before.length before writes builder)
    {write : FieldWrite} (valid : write.Valid before.length)
    (small : builder.size + 8 < 2 ^ 32) :
    Filled before.length before (writes ++ [write])
      (write.addTo builder) := by
  have started := filled.start_le
  cases write with
  | element field bytes default =>
      rw [FieldWrite.addTo, FlatBufferBuilder.addElement]
      split_ifs with absent
      · exact filled.leaveOut fun kept => kept absent
      · exact filled.store absent valid.2.2 (fun _ _ => rfl) started
  | offset field off =>
      by_cases null : off = 0
      · rw [FieldWrite.addTo, FlatBufferBuilder.addOffset, if_pos null]
        exact filled.leaveOut fun kept => kept null
      · have earlier : off ≤ builder.size := valid.2.2.trans started
        rw [FieldWrite.addTo, addOffset_eq builder null earlier small]
        refine filled.store null (.inr rfl) ?_ started
        rintro place rfl
        rfl

/-- What the writes of a table make of a builder that starts it. -/
theorem addAll
    {rest : List FieldWrite}
    (filled : Filled before.length before writes builder)
    (valid : ∀ write ∈ rest, write.Valid before.length)
    (small :
      before.length + 7 * (writes.length + rest.length) + 8 < 2 ^ 32) :
    Filled before.length before (writes ++ rest)
      (rest.foldl (fun built write => write.addTo built) builder) := by
  induction rest generalizing writes builder with
  | nil =>
      rw [List.append_nil]
      exact filled
  | cons write rest induction =>
      have size := filled.small
      rw [List.length_cons] at small
      have added :=
        filled.add (valid write List.mem_cons_self) (by omega)
      rw [List.foldl_cons, List.append_cons]
      apply induction added
      · intro later member
        exact valid later (List.mem_cons_of_mem _ member)
      · rw [List.length_append, List.length_singleton]
        omega

end Filled

end IocpServer.Protocol
