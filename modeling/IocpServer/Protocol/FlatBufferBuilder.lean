import IocpServer.Library.ByteStrings
import IocpServer.Library.Words
import Mathlib.Algebra.Group.Nat.Defs

/-!
# Building a message

`flatbuffers::FlatBufferBuilder` writes a buffer from its end towards its
start, and an offset is a distance from the end.  `buf` lists what has been
written so far, the byte written last in front.

Every message is one table, so there is no earlier vtable to share, and
every field has the default zero.
-/

namespace IocpServer.Protocol

open IocpServer.Library

/-- A field of the table being built. -/
structure FieldLoc where
  off : Nat
  id : Nat

/-- `flatbuffers::FlatBufferBuilder`. -/
structure FlatBufferBuilder where
  buf : ByteString
  fieldLocs : List FieldLoc
  maxVoffset : Nat
  minalign : Nat

/-- `PaddingBytes`, for a scalar size that is a power of two. -/
def paddingBytes (bufSize scalarSize : Nat) : Nat :=
  (scalarSize - bufSize % scalarSize) % scalarSize

/-- The bytes of a `voffset_t`. -/
def voffsetBytes (value : Nat) : List UInt8 :=
  (wordBytes (UInt32.ofNat value)).take 2

@[simp]
theorem voffsetBytes_length (value : Nat) :
    (voffsetBytes value).length = 2 :=
  rfl

namespace FlatBufferBuilder

/-- A new builder. -/
def construct : FlatBufferBuilder where
  buf := []
  fieldLocs := []
  maxVoffset := 0
  minalign := 1

/-- `GetSize`. -/
def size (builder : FlatBufferBuilder) : Nat :=
  builder.buf.length

/-- `PushBytes`. -/
def pushBytes
    (builder : FlatBufferBuilder) (bytes : List UInt8) :
    FlatBufferBuilder :=
  { builder with buf := bytes ++ builder.buf }

/-- `buf_.fill`. -/
def fill (builder : FlatBufferBuilder) (zeroPadBytes : Nat) :
    FlatBufferBuilder :=
  builder.pushBytes (List.replicate zeroPadBytes 0)

/-- `TrackMinAlign`. -/
def trackMinAlign (builder : FlatBufferBuilder) (elemSize : Nat) :
    FlatBufferBuilder :=
  { builder with minalign := max builder.minalign elemSize }

/-- `Align`. -/
def align (builder : FlatBufferBuilder) (elemSize : Nat) :
    FlatBufferBuilder :=
  (builder.trackMinAlign elemSize).fill
    (paddingBytes builder.size elemSize)

/-- `PreAlign`. -/
def preAlign (builder : FlatBufferBuilder) (len alignment : Nat) :
    FlatBufferBuilder :=
  if len = 0 then
    builder
  else
    (builder.trackMinAlign alignment).fill
      (paddingBytes (builder.size + len) alignment)

/-- `PushElement` of the scalar with these bytes. -/
def pushElement
    (builder : FlatBufferBuilder) (element : List UInt8) :
    FlatBufferBuilder :=
  (builder.align element.length).pushBytes element

/-- `TrackField` of the element written last. -/
def trackField (builder : FlatBufferBuilder) (field : Nat) :
    FlatBufferBuilder :=
  { builder with
    fieldLocs := builder.fieldLocs ++ [⟨builder.size, field⟩]
    maxVoffset := max builder.maxVoffset field }

/-- `AddElement`; a field with its default value is not written. -/
def addElement
    (builder : FlatBufferBuilder) (field : Nat)
    (element default : List UInt8) :
    FlatBufferBuilder :=
  if element = default then
    builder
  else
    (builder.pushElement element).trackField field

/-- `ReferTo`: the distance to an offset, to be written next. -/
def referTo (builder : FlatBufferBuilder) (off : Nat) :
    FlatBufferBuilder × UInt32 :=
  let aligned := builder.align 4
  (aligned, UInt32.ofNat (aligned.size - off + 4))

/-- `AddOffset`. -/
def addOffset (builder : FlatBufferBuilder) (field off : Nat) :
    FlatBufferBuilder :=
  if off = 0 then
    builder
  else
    let (aligned, distance) := builder.referTo off
    aligned.addElement field (wordBytes distance) (wordBytes 0)

/-- `CreateString`, whose offset is the size behind it. -/
def createString (builder : FlatBufferBuilder) (text : ByteString) :
    FlatBufferBuilder :=
  (((builder.preAlign (text.length + 1) 4).fill 1).pushBytes text)
    |>.pushElement (wordBytes (UInt32.ofNat text.length))

/-- `WriteScalar` over bytes that are there. -/
def writeScalar
    (builder : FlatBufferBuilder) (position : Nat) (bytes : List UInt8) :
    FlatBufferBuilder :=
  { builder with
    buf :=
      builder.buf.take position ++ bytes ++
        builder.buf.drop (position + bytes.length) }

/-- `WriteScalar`s one after the other. -/
def writeScalars (builder : FlatBufferBuilder) :
    List (Nat × List UInt8) → FlatBufferBuilder
  | [] => builder
  | (position, bytes) :: rest =>
      (builder.writeScalar position bytes).writeScalars rest

/-- The vtable `EndTable` writes in front of the table. -/
def writeVtable (builder : FlatBufferBuilder) (start : Nat) :
    FlatBufferBuilder :=
  let vtableOffsetLoc := builder.size
  let maxVoffset := max (builder.maxVoffset + 2) 4
  let tableObjectSize := vtableOffsetLoc - start
  let written :=
    (builder.fill maxVoffset).writeScalars
      ((2, voffsetBytes tableObjectSize) ::
        (0, voffsetBytes maxVoffset) ::
          builder.fieldLocs.map fun fieldLocation =>
            (fieldLocation.id,
              voffsetBytes (vtableOffsetLoc - fieldLocation.off)))
  { written with fieldLocs := [], maxVoffset := 0 }

/-- `EndTable`, with the offset of the table. -/
def endTable (builder : FlatBufferBuilder) (start : Nat) :
    FlatBufferBuilder × Nat :=
  let located := builder.pushElement (wordBytes 0)
  let vtableOffsetLoc := located.size
  let written := located.writeVtable start
  let vtUse := written.size
  (written.writeScalar (written.size - vtableOffsetLoc)
    (wordBytes (UInt32.ofNat (vtUse - vtableOffsetLoc))),
    vtableOffsetLoc)

/-- `Finish`. -/
def finish (builder : FlatBufferBuilder) (root : Nat) :
    FlatBufferBuilder :=
  let (aligned, distance) := (builder.preAlign 4 builder.minalign).referTo root
  aligned.pushElement (wordBytes distance)

end FlatBufferBuilder

/-- The bytes of an `int32_t`. -/
def int32Bytes (value : Int32) : List UInt8 :=
  wordBytes value.toUInt32

/-- The byte of a `bool`. -/
def boolBytes (value : Bool) : List UInt8 :=
  [if value then 1 else 0]

/-- `CreateRESPONSE_LOBBYINFO`. -/
def createResponseLobbyInfo
    (builder : FlatBufferBuilder)
    (feedback : Bool) (lobbyKey : Nat) (port : Int32) :
    FlatBufferBuilder × Nat :=
  (((builder.addElement 8 (int32Bytes port) (int32Bytes 0)).addOffset 6
    lobbyKey).addElement 4 (boolBytes feedback) (boolBytes false)).endTable
      builder.size

/--
`CreateNOTICE_LOBBYREADY` and `CreateNOTICE_LOBBYINFO`, which agree but for
the names of their fields.
-/
def createNotice
    (builder : FlatBufferBuilder)
    (lobbyKey : Nat) (second third : Int32) (active : Bool) :
    FlatBufferBuilder × Nat :=
  ((((builder.addElement 8 (int32Bytes third) (int32Bytes 0)).addElement 6
    (int32Bytes second) (int32Bytes 0)).addOffset 4
      lobbyKey).addElement 10 (boolBytes active) (boolBytes false)).endTable
        builder.size

/-- `CreateNOTICE_LOBBYREADY`. -/
def createNoticeLobbyReady
    (builder : FlatBufferBuilder)
    (lobbyKey : Nat) (port capacity : Int32) (active : Bool) :
    FlatBufferBuilder × Nat :=
  createNotice builder lobbyKey port capacity active

/-- `CreateNOTICE_LOBBYINFO`. -/
def createNoticeLobbyInfo
    (builder : FlatBufferBuilder)
    (lobbyKey : Nat) (current reamain : Int32) (active : Bool) :
    FlatBufferBuilder × Nat :=
  createNotice builder lobbyKey current reamain active

/-- `FLATBUFFERS_MAX_BUFFER_SIZE`. -/
def maxBufferSize : Nat := 2 ^ 31 - 1

/--
A message with a key, from `CreateString` to `Finish`.  A builder asserts that
its buffer stays below `FLATBUFFERS_MAX_BUFFER_SIZE`; a message that does not
is cut here.
-/
def finishedMessage
    (lobbyKey : ByteString)
    (create : FlatBufferBuilder → Nat → FlatBufferBuilder × Nat) :
    ByteString :=
  let keyed := FlatBufferBuilder.construct.createString lobbyKey
  let (created, root) := create keyed keyed.size
  (created.finish root).buf.take (maxBufferSize - 1)

/-- The finished `RESPONSE_LOBBYINFO`. -/
def responseLobbyInfo
    (success : Bool) (lobbyKey : ByteString) (lobbyPort : Int32) :
    ByteString :=
  finishedMessage lobbyKey fun builder keyOffset =>
    createResponseLobbyInfo builder success keyOffset lobbyPort

/-- The finished `NOTICE_LOBBYREADY`. -/
def noticeLobbyReady
    (key : ByteString) (port capacity : Int32) (active : Bool) :
    ByteString :=
  finishedMessage key fun builder keyOffset =>
    createNoticeLobbyReady builder keyOffset port capacity active

/-- The finished `NOTICE_LOBBYINFO`. -/
def noticeLobbyInfo
    (key : ByteString) (current remain : Int32) (active : Bool) :
    ByteString :=
  finishedMessage key fun builder keyOffset =>
    createNoticeLobbyInfo builder keyOffset current remain active

/-! ## The size of a message -/

/-- The length of a string with its zero, its padding and its length field. -/
def stringSize (length : Nat) : Nat :=
  4 + (length + 4) / 4 * 4

/-- The length of an `int32_t` field that may be left out. -/
def fieldSize (value : Int32) : Nat :=
  if value = 0 then 0 else 4

/--
The length of a finished `NOTICE_LOBBYREADY` or `NOTICE_LOBBYINFO`: the
string, the fields, the table's distance to its vtable, the vtable and the
root offset.
-/
def noticeSize
    (keyLength : Nat) (second third : Int32) (active : Bool) : Nat :=
  stringSize keyLength + fieldSize second + fieldSize third +
    (if active then 8 else 4) + 4 +
      (if active ∨ third ≠ 0 then 12 else 8) + 4

/-- The length of a finished `RESPONSE_LOBBYINFO`. -/
def responseSize (success : Bool) (keyLength : Nat) (port : Int32) : Nat :=
  stringSize keyLength + fieldSize port + (if success then 8 else 4) + 4 +
    (if port ≠ 0 then 12 else 8) + 4

theorem int32Bytes_eq_zero (value : Int32) :
    int32Bytes value = int32Bytes 0 ↔ value = 0 := by
  constructor
  · intro same
    have word := congrArg bytesWord same
    rw [int32Bytes, int32Bytes, bytesWord_wordBytes,
      bytesWord_wordBytes] at word
    exact congrArg UInt32.toInt32 word
  · rintro rfl
    rfl

theorem boolBytes_eq_false (value : Bool) :
    boolBytes value = boolBytes false ↔ value = false := by
  cases value <;> decide

/--
How far a builder that has written a string has got: its size, and the
largest field of the table it is building.
-/
structure Laid
    (builder : FlatBufferBuilder) (size maxVoffset : Nat) : Prop where
  size_eq : builder.size = size
  maxVoffset_eq : builder.maxVoffset = maxVoffset
  minalign_eq : builder.minalign = 4
  fields : ∀ field ∈ builder.fieldLocs, field.id ≤ maxVoffset

namespace FlatBufferBuilder

theorem size_pushBytes
    (builder : FlatBufferBuilder) (bytes : List UInt8) :
    (builder.pushBytes bytes).size = builder.size + bytes.length := by
  rw [size, pushBytes, List.length_append, Nat.add_comm, size]

theorem size_fill (builder : FlatBufferBuilder) (count : Nat) :
    (builder.fill count).size = builder.size + count := by
  rw [fill, size_pushBytes, List.length_replicate]

theorem size_align (builder : FlatBufferBuilder) (elemSize : Nat) :
    (builder.align elemSize).size =
      builder.size + paddingBytes builder.size elemSize :=
  size_fill _ _

theorem size_preAlign
    (builder : FlatBufferBuilder) {len : Nat} (some : len ≠ 0)
    (alignment : Nat) :
    (builder.preAlign len alignment).size =
      builder.size + paddingBytes (builder.size + len) alignment := by
  rw [preAlign, if_neg some]
  exact size_fill _ _

theorem size_pushElement
    (builder : FlatBufferBuilder) (element : List UInt8) :
    (builder.pushElement element).size =
      builder.size + paddingBytes builder.size element.length +
        element.length := by
  rw [pushElement, size_pushBytes, size_align]

/-- Writing over bytes that are there keeps the size. -/
theorem size_writeScalar
    (builder : FlatBufferBuilder) {position : Nat} {bytes : List UInt8}
    (inside : position + bytes.length ≤ builder.size) :
    (builder.writeScalar position bytes).size = builder.size := by
  rw [size] at inside
  simp only [size, writeScalar, List.length_append, List.length_take,
    List.length_drop]
  omega

theorem size_writeScalars
    (builder : FlatBufferBuilder) {scalars : List (Nat × List UInt8)}
    (inside :
      ∀ scalar ∈ scalars, scalar.1 + scalar.2.length ≤ builder.size) :
    (builder.writeScalars scalars).size = builder.size ∧
      (builder.writeScalars scalars).minalign = builder.minalign := by
  induction scalars generalizing builder with
  | nil => exact ⟨rfl, rfl⟩
  | cons scalar rest induction =>
      rw [List.forall_mem_cons] at inside
      have written := builder.size_writeScalar inside.1
      have others :=
        induction (builder.writeScalar scalar.1 scalar.2)
          (by
            rw [written]
            exact inside.2)
      exact ⟨others.1.trans written, others.2⟩

/-- A vtable has a place for every field of its table. -/
theorem vtable_has_room
    (builder : FlatBufferBuilder)
    (fields :
      ∀ field ∈ builder.fieldLocs, field.id ≤ builder.maxVoffset)
    (tableSize vtableSize : Nat) (offset : FieldLoc → Nat) :
    ∀ scalar ∈
        (2, voffsetBytes tableSize) ::
          (0, voffsetBytes vtableSize) ::
            builder.fieldLocs.map fun field =>
              (field.id, voffsetBytes (offset field)),
      scalar.1 + scalar.2.length ≤
        builder.size + max (builder.maxVoffset + 2) 4 := by
  intro scalar member
  simp only [List.mem_cons, List.mem_map] at member
  rcases member with rfl | rfl | ⟨field, present, rfl⟩
  · rw [voffsetBytes_length]
    omega
  · rw [voffsetBytes_length]
    omega
  · have bound := fields field present
    rw [voffsetBytes_length]
    omega

/-- Writing the vtable adds the bytes of its places. -/
theorem size_writeVtable
    (builder : FlatBufferBuilder) (start : Nat)
    (fields :
      ∀ field ∈ builder.fieldLocs, field.id ≤ builder.maxVoffset) :
    (builder.writeVtable start).size =
        builder.size + max (builder.maxVoffset + 2) 4 ∧
      (builder.writeVtable start).minalign = builder.minalign := by
  have filled := builder.size_fill (max (builder.maxVoffset + 2) 4)
  rw [← filled]
  apply size_writeScalars
  rw [filled]
  exact builder.vtable_has_room fields _ _ _

end FlatBufferBuilder

namespace Laid

variable {builder : FlatBufferBuilder} {size maxVoffset : Nat}

/-- A string is aligned so that its length ends on a multiple of four. -/
theorem createString (text : ByteString) :
    Laid (FlatBufferBuilder.construct.createString text)
      (stringSize text.length) 0 where
  size_eq := by
    have padded :=
      FlatBufferBuilder.construct.size_preAlign
        (Nat.succ_ne_zero text.length) 4
    rw [show FlatBufferBuilder.construct.size = 0 from rfl] at padded
    simp only [FlatBufferBuilder.createString,
      FlatBufferBuilder.size_pushElement,
      FlatBufferBuilder.size_pushBytes, FlatBufferBuilder.size_fill,
      padded, wordBytes_length, paddingBytes, stringSize]
    omega
  maxVoffset_eq := rfl
  minalign_eq := rfl
  fields := nofun

/-- A scalar of at most four bytes. -/
theorem pushElement
    (laid : Laid builder size maxVoffset) (element : List UInt8)
    (small : element.length ≤ 4) :
    Laid (builder.pushElement element)
      (size + paddingBytes size element.length + element.length)
      maxVoffset where
  size_eq := by rw [FlatBufferBuilder.size_pushElement, laid.size_eq]
  maxVoffset_eq := laid.maxVoffset_eq
  minalign_eq := by
    change max builder.minalign element.length = 4
    rw [laid.minalign_eq]
    omega
  fields := laid.fields

/-- A field that has its default is left out. -/
theorem addElement
    (laid : Laid builder size maxVoffset) (field : Nat)
    (element default : List UInt8) (small : element.length ≤ 4) :
    Laid (builder.addElement field element default)
      (if element = default then size
        else size + paddingBytes size element.length + element.length)
      (if element = default then maxVoffset else max maxVoffset field) := by
  rw [FlatBufferBuilder.addElement]
  split_ifs
  · exact laid
  · have pushed := laid.pushElement element small
    exact
      { size_eq := pushed.size_eq
        maxVoffset_eq := by
          change max (builder.pushElement element).maxVoffset field = _
          rw [pushed.maxVoffset_eq]
        minalign_eq := pushed.minalign_eq
        fields := by
          intro other member
          rcases List.mem_append.mp member with before | last
          · exact (pushed.fields other before).trans (Nat.le_max_left _ _)
          · rw [List.mem_singleton.mp last]
            exact Nat.le_max_right _ _ }

/-- An `int32_t` field of an aligned builder. -/
theorem addInt32
    (laid : Laid builder size maxVoffset) (aligned : size % 4 = 0)
    (field : Nat) (value : Int32) :
    Laid (builder.addElement field (int32Bytes value) (int32Bytes 0))
      (size + fieldSize value)
      (if value = 0 then maxVoffset else max maxVoffset field) := by
  have added :=
    laid.addElement field (int32Bytes value) (int32Bytes 0)
      (Nat.le_refl 4)
  have noPadding : paddingBytes size 4 = 0 := by
    rw [paddingBytes, aligned]
  simp only [int32Bytes_eq_zero] at added
  rw [fieldSize]
  split_ifs at added ⊢
  · exact added
  · rw [int32Bytes, wordBytes_length, noPadding] at added
    exact added

/-- A `bool` field. -/
theorem addBool
    (laid : Laid builder size maxVoffset) (field : Nat) (value : Bool) :
    Laid (builder.addElement field (boolBytes value) (boolBytes false))
      (if value then size + 1 else size)
      (if value then max maxVoffset field else maxVoffset) := by
  have added :=
    laid.addElement field (boolBytes value) (boolBytes false)
      (Nat.le_of_ble_eq_true rfl)
  simp only [boolBytes_eq_false] at added
  cases value with
  | true =>
      have noPadding : paddingBytes size 1 = 0 := Nat.mod_one _
      rw [show (boolBytes true).length = 1 from rfl, noPadding] at added
      exact added
  | false => exact added

/-- An offset to something close by is never left out. -/
theorem addOffset
    (laid : Laid builder size maxVoffset) (field : Nat) {off : Nat}
    (notNull : off ≠ 0) (aligned : size % 4 = 0)
    (near : size - off + 4 < 2 ^ 32) :
    Laid (builder.addOffset field off) (size + 4)
      (max maxVoffset field) := by
  have noPadding : paddingBytes size 4 = 0 := by
    rw [paddingBytes, aligned]
  have referred : Laid (builder.align 4) size maxVoffset :=
    { size_eq := by
        rw [FlatBufferBuilder.size_align, laid.size_eq, noPadding,
          Nat.add_zero]
      maxVoffset_eq := laid.maxVoffset_eq
      minalign_eq := by
        change max builder.minalign 4 = 4
        rw [laid.minalign_eq]
        rfl
      fields := laid.fields }
  have distance :
      wordBytes (UInt32.ofNat (size - off + 4)) ≠ wordBytes 0 := by
    intro same
    have zero := congrArg bytesWord same
    rw [bytesWord_wordBytes, bytesWord_wordBytes] at zero
    have number := congrArg UInt32.toNat zero
    rw [UInt32.toNat_ofNat', Nat.mod_eq_of_lt near] at number
    simp at number
  have added :=
    referred.addElement field
      (wordBytes (UInt32.ofNat (size - off + 4))) (wordBytes 0)
      (Nat.le_refl 4)
  rw [if_neg distance, if_neg distance, wordBytes_length, noPadding] at added
  rw [FlatBufferBuilder.addOffset, if_neg notNull]
  simp only [FlatBufferBuilder.referTo, referred.size_eq]
  exact added

/-- `EndTable` writes the distance to the vtable, and the vtable. -/
theorem endTable
    (laid : Laid builder size maxVoffset) (start : Nat) :
    Laid (builder.endTable start).1
      (size + paddingBytes size 4 + 4 + max (maxVoffset + 2) 4) 0 := by
  have located := laid.pushElement (wordBytes 0) (Nat.le_refl 4)
  rw [wordBytes_length] at located
  have written :=
    (builder.pushElement (wordBytes 0)).size_writeVtable start
      (by
        rw [located.maxVoffset_eq]
        exact located.fields)
  rw [located.size_eq, located.maxVoffset_eq, located.minalign_eq]
    at written
  exact
    { size_eq := by
        rw [← written.1]
        apply FlatBufferBuilder.size_writeScalar
        rw [wordBytes_length, located.size_eq, written.1]
        omega
      maxVoffset_eq := rfl
      minalign_eq := written.2
      fields := nofun }

/-- `Finish` pads the buffer so that the root offset ends it aligned. -/
theorem finish
    (laid : Laid builder size maxVoffset) (root : Nat) :
    (builder.finish root).buf.length = (size + 3) / 4 * 4 + 4 := by
  have padded :=
    builder.size_preAlign (Nat.succ_ne_zero 3) builder.minalign
  rw [laid.size_eq, laid.minalign_eq] at padded
  change (builder.finish root).size = _
  rw [FlatBufferBuilder.finish]
  simp only [FlatBufferBuilder.referTo, FlatBufferBuilder.size_pushElement,
    FlatBufferBuilder.size_align, laid.minalign_eq, padded,
    wordBytes_length, paddingBytes]
  omega

end Laid

theorem stringSize_aligned (length : Nat) :
    stringSize length % 4 = 0 := by
  rw [stringSize]
  omega

theorem fieldSize_aligned (value : Int32) :
    fieldSize value % 4 = 0 := by
  rw [fieldSize]
  split_ifs <;> rfl

/-- The key is written right in front of the table. -/
theorem key_near
    (key : ByteString) (second third : Int32) :
    (FlatBufferBuilder.construct.createString key).size ≠ 0 ∧
      stringSize key.length + fieldSize second + fieldSize third -
          (FlatBufferBuilder.construct.createString key).size + 4 <
        2 ^ 32 := by
  rw [(Laid.createString key).size_eq]
  constructor
  · rw [stringSize]
    omega
  · rw [fieldSize, fieldSize]
    split_ifs <;> omega

/-- A message is as long as what its builder has written, within the limit. -/
theorem finishedMessage_length
    {lobbyKey : ByteString}
    {create : FlatBufferBuilder → Nat → FlatBufferBuilder × Nat}
    {length : Nat}
    (written :
      (let keyed := FlatBufferBuilder.construct.createString lobbyKey
        let (created, root) := create keyed keyed.size
        (created.finish root).buf.length) =
        length) :
    (finishedMessage lobbyKey create).length =
      min (maxBufferSize - 1) length := by
  rw [← written, finishedMessage]
  exact List.length_take

/-- A finished notice is as long as its fields say. -/
theorem notice_length
    (key : ByteString) (second third : Int32) (active : Bool) :
    (finishedMessage key fun builder keyOffset =>
        createNotice builder keyOffset second third active).length =
      min (maxBufferSize - 1)
        (noticeSize key.length second third active) := by
  have keyAligned := stringSize_aligned key.length
  have secondAligned := fieldSize_aligned second
  have thirdAligned := fieldSize_aligned third
  have near := key_near key third second
  have thirdAdded := (Laid.createString key).addInt32 keyAligned 8 third
  have secondAdded := thirdAdded.addInt32 (by omega) 6 second
  have keyAdded := secondAdded.addOffset 4 near.1 (by omega) near.2
  have created :=
    (keyAdded.addBool 10 active).endTable
      (FlatBufferBuilder.construct.createString key).size
  apply finishedMessage_length
  refine (created.finish _).trans ?_
  rw [noticeSize]
  generalize stringSize key.length = keySize at keyAligned ⊢
  by_cases noThird : third = 0 <;> by_cases noSecond : second = 0 <;>
    cases active <;>
      simp [fieldSize, noThird, noSecond, paddingBytes] <;> omega

/-- A finished response is as long as its fields say. -/
theorem responseLobbyInfo_length
    (success : Bool) (key : ByteString) (port : Int32) :
    (responseLobbyInfo success key port).length =
      min (maxBufferSize - 1) (responseSize success key.length port) := by
  have keyAligned := stringSize_aligned key.length
  have portAligned := fieldSize_aligned port
  have near := key_near key port 0
  have portAdded := (Laid.createString key).addInt32 keyAligned 8 port
  have keyAdded := portAdded.addOffset 6 near.1 (by omega) near.2
  have created :=
    (keyAdded.addBool 4 success).endTable
      (FlatBufferBuilder.construct.createString key).size
  apply finishedMessage_length
  refine (created.finish _).trans ?_
  rw [responseSize]
  generalize stringSize key.length = keySize at keyAligned ⊢
  by_cases noPort : port = 0 <;> cases success <;>
    simp [fieldSize, noPort, paddingBytes] <;> omega

/-! ## The longest keys -/

/-- The longest key whose notice has at most 1024 bytes. -/
def longestNoticeKey (second third : Int32) (active : Bool) : Nat :=
  983 + (if second = 0 then 4 else 0) + (if third = 0 then 4 else 0) +
    (if active then 0 else 4) + (if active ∨ third ≠ 0 then 0 else 4)

/-- The longest key whose response has at most 1024 bytes. -/
def longestResponseKey (port : Int32) : Nat :=
  if port = 0 then 999 else 991

theorem noticeSize_le_iff
    (keyLength : Nat) (second third : Int32) (active : Bool) :
    noticeSize keyLength second third active ≤ 1024 ↔
      keyLength ≤ longestNoticeKey second third active := by
  rw [noticeSize, longestNoticeKey, stringSize, fieldSize, fieldSize]
  by_cases noSecond : second = 0 <;> by_cases noThird : third = 0 <;>
    cases active <;> simp [noSecond, noThird] <;> omega

theorem responseSize_le_iff (keyLength : Nat) (port : Int32) :
    responseSize false keyLength port ≤ 1024 ↔
      keyLength ≤ longestResponseKey port := by
  rw [responseSize, longestResponseKey, stringSize, fieldSize]
  by_cases noPort : port = 0 <;> simp [noPort] <;> omega

end IocpServer.Protocol
