import IocpServer.Protocol.FlatBuffers
import IocpServer.Protocol.FlatBufferBuilder

/-!
# Reading a response back

What a builder adds does not depend on aligned bytes written before.  A
response is therefore a table of a few bytes, the same for every key, in
front of the key, and the generated accessors find its fields in it.
-/

namespace IocpServer.Protocol

open IocpServer.Library

/-! ## Bytes written before -/

namespace FlatBufferBuilder

/-- The builder as it is with some bytes written before all others. -/
def behind (builder : FlatBufferBuilder) (rest : ByteString) :
    FlatBufferBuilder :=
  { builder with
    buf := builder.buf ++ rest
    fieldLocs :=
      builder.fieldLocs.map fun field =>
        { field with off := field.off + rest.length } }

section Behind

variable (builder : FlatBufferBuilder) {rest : ByteString}

@[simp]
theorem size_behind (rest : ByteString) :
    (builder.behind rest).size = builder.size + rest.length :=
  List.length_append

theorem fieldLocs_behind (rest : ByteString) :
    (builder.behind rest).fieldLocs =
      builder.fieldLocs.map fun field =>
        { field with off := field.off + rest.length } :=
  rfl

/-- Aligned bytes change no padding. -/
theorem paddingBytes_add
    {size aligned scalarSize : Nat} (divides : scalarSize ∣ aligned) :
    paddingBytes (size + aligned) scalarSize =
      paddingBytes size scalarSize := by
  rcases divides with ⟨count, rfl⟩
  rw [paddingBytes, paddingBytes, Nat.add_mul_mod_self_left]

theorem pushBytes_behind (bytes : List UInt8) :
    (builder.behind rest).pushBytes bytes =
      (builder.pushBytes bytes).behind rest := by
  simp only [pushBytes, behind, List.append_assoc]

theorem align_behind {elemSize : Nat} (divides : elemSize ∣ rest.length) :
    (builder.behind rest).align elemSize =
      (builder.align elemSize).behind rest := by
  rw [align, size_behind, paddingBytes_add divides, fill, align, fill,
    ← pushBytes_behind]
  rfl

theorem preAlign_behind {alignment : Nat} (len : Nat)
    (divides : alignment ∣ rest.length) :
    (builder.behind rest).preAlign len alignment =
      (builder.preAlign len alignment).behind rest := by
  rw [preAlign, preAlign]
  split_ifs
  · rfl
  · rw [size_behind, Nat.add_right_comm, paddingBytes_add divides, fill,
      fill, ← pushBytes_behind]
    rfl

theorem pushElement_behind {element : List UInt8}
    (divides : element.length ∣ rest.length) :
    (builder.behind rest).pushElement element =
      (builder.pushElement element).behind rest := by
  rw [pushElement, align_behind builder divides, pushBytes_behind]
  rfl

theorem addElement_behind (field : Nat) {element default : List UInt8}
    (divides : element.length ∣ rest.length) :
    (builder.behind rest).addElement field element default =
      (builder.addElement field element default).behind rest := by
  rw [addElement, addElement]
  split_ifs
  · rfl
  · rw [pushElement_behind builder divides]
    simp [trackField, behind, size]

theorem referTo_behind (off : Nat) (divides : 4 ∣ rest.length) :
    (builder.behind rest).referTo (off + rest.length) =
      ((builder.referTo off).1.behind rest, (builder.referTo off).2) := by
  simp only [referTo, align_behind builder divides, size_behind,
    Nat.add_sub_add_right]

theorem addOffset_behind (field : Nat) {off : Nat} (notNull : off ≠ 0)
    (divides : 4 ∣ rest.length) :
    (builder.behind rest).addOffset field (off + rest.length) =
      (builder.addOffset field off).behind rest := by
  rw [addOffset, addOffset, if_neg notNull, if_neg (by omega),
    referTo_behind builder off divides]
  exact addElement_behind _ field divides

theorem writeScalar_behind {position : Nat} {bytes : List UInt8}
    (inside : position + bytes.length ≤ builder.size) :
    (builder.behind rest).writeScalar position bytes =
      (builder.writeScalar position bytes).behind rest := by
  simp only [size] at inside
  simp only [writeScalar, behind]
  rw [List.take_append_of_le_length (by omega),
    List.drop_append_of_le_length inside]
  simp only [List.append_assoc]

theorem writeScalars_behind {scalars : List (Nat × List UInt8)}
    (inside :
      ∀ scalar ∈ scalars, scalar.1 + scalar.2.length ≤ builder.size) :
    (builder.behind rest).writeScalars scalars =
      (builder.writeScalars scalars).behind rest := by
  induction scalars generalizing builder with
  | nil => rfl
  | cons scalar scalars recursive =>
      rcases scalar with ⟨position, bytes⟩
      have here := inside _ List.mem_cons_self
      rw [writeScalars, writeScalar_behind builder here, recursive]
      · rfl
      · intro later present
        rw [size_writeScalar]
        · exact inside later (List.mem_cons_of_mem _ present)
        · exact here

theorem fill_behind (count : Nat) :
    (builder.behind rest).fill count = (builder.fill count).behind rest :=
  pushBytes_behind builder _

theorem writeVtable_behind (start : Nat)
    (fields :
      ∀ field ∈ builder.fieldLocs, field.id ≤ builder.maxVoffset) :
    (builder.behind rest).writeVtable (start + rest.length) =
      (builder.writeVtable start).behind rest := by
  have entries :
      ((builder.behind rest).fieldLocs.map fun field =>
        (field.id,
          voffsetBytes ((builder.behind rest).size - field.off))) =
        builder.fieldLocs.map fun field =>
          (field.id, voffsetBytes (builder.size - field.off)) := by
    rw [fieldLocs_behind, size_behind, List.map_map]
    apply List.map_congr_left
    intro field _
    simp only [Function.comp_apply, Nat.add_sub_add_right]
  unfold writeVtable
  dsimp only
  rw [entries, size_behind, Nat.add_sub_add_right, fill_behind,
    writeScalars_behind]
  · rfl
  · rw [show (builder.behind rest).maxVoffset = builder.maxVoffset from rfl,
      builder.size_fill]
    exact builder.vtable_has_room fields _ _ _

theorem endTable_behind (start : Nat) (divides : 4 ∣ rest.length)
    (fields :
      ∀ field ∈ builder.fieldLocs, field.id ≤ builder.maxVoffset) :
    (builder.behind rest).endTable (start + rest.length) =
      ((builder.endTable start).1.behind rest,
        (builder.endTable start).2 + rest.length) := by
  have pushed :
      (builder.behind rest).pushElement (wordBytes 0) =
        (builder.pushElement (wordBytes 0)).behind rest :=
    pushElement_behind builder divides
  have located := builder.size_pushElement (wordBytes 0)
  have written :=
    (builder.pushElement (wordBytes 0)).size_writeVtable start fields
  simp only [endTable]
  rw [pushed, (builder.pushElement (wordBytes 0)).writeVtable_behind start
    fields]
  simp only [size_behind, Nat.add_sub_add_right]
  rw [writeScalar_behind]
  rw [wordBytes_length, written.1]
  rw [wordBytes_length] at located
  omega

theorem finish_behind (root : Nat) (four : builder.minalign = 4)
    (divides : 4 ∣ rest.length) :
    (builder.behind rest).finish (root + rest.length) =
      (builder.finish root).behind rest := by
  simp only [finish]
  rw [show (builder.behind rest).minalign = builder.minalign from rfl, four,
    preAlign_behind builder 4 divides, referTo_behind _ root divides]
  exact pushElement_behind _ divides

end Behind

end FlatBufferBuilder

/-! ## The bytes of a response -/

/-- What `CreateString` writes before it writes the length. -/
def terminated (text : ByteString) : ByteString :=
  text ++ 0 :: List.replicate (paddingBytes (text.length + 1) 4) 0

theorem terminated_aligned (text : ByteString) :
    4 ∣ (terminated text).length := by
  simp only [terminated, List.length_append, List.length_cons,
    List.length_replicate, paddingBytes]
  omega

/-- A builder with a string's length. -/
def lengthWritten (length : Nat) : FlatBufferBuilder where
  buf := wordBytes (UInt32.ofNat length)
  fieldLocs := []
  maxVoffset := 0
  minalign := 4

theorem lengthWritten_laid (length : Nat) :
    Laid (lengthWritten length) 4 0 where
  size_eq := rfl
  maxVoffset_eq := rfl
  minalign_eq := rfl
  fields := nofun

/-- `CreateString` writes the length in front of the text. -/
theorem createString_eq (text : ByteString) :
    FlatBufferBuilder.construct.createString text =
      (lengthWritten text.length).behind (terminated text) := by
  have written :
      ((FlatBufferBuilder.construct.preAlign (text.length + 1) 4).fill
        1).pushBytes text =
        { buf := terminated text, fieldLocs := [], maxVoffset := 0
          minalign := 4 } := by
    simp [FlatBufferBuilder.preAlign, FlatBufferBuilder.fill,
      FlatBufferBuilder.pushBytes, FlatBufferBuilder.trackMinAlign,
      FlatBufferBuilder.construct, FlatBufferBuilder.size, terminated]
  have aligned : paddingBytes (terminated text).length 4 = 0 := by
    have divides := terminated_aligned text
    rw [paddingBytes]
    omega
  rw [FlatBufferBuilder.createString, written,
    FlatBufferBuilder.pushElement, FlatBufferBuilder.align,
    wordBytes_length, FlatBufferBuilder.size, aligned]
  rfl

/-- A response is built the same with aligned bytes behind its key. -/
theorem createResponseLobbyInfo_behind
    {rest : ByteString} (aligned : 4 ∣ rest.length) (length : Nat)
    (feedback : Bool) (port : Int32) :
    let front := createResponseLobbyInfo (lengthWritten length) feedback 4 port
    createResponseLobbyInfo ((lengthWritten length).behind rest) feedback
        (4 + rest.length) port =
      (front.1.behind rest, front.2 + rest.length) := by
  have keyed := lengthWritten_laid length
  have portAligned := fieldSize_aligned port
  have portAdded := keyed.addInt32 rfl 8 port
  have keyAdded :=
    portAdded.addOffset 6 (show 4 ≠ 0 by decide) (by omega)
      (by
        rw [fieldSize]
        split_ifs <;> omega)
  have feedbackAdded := keyAdded.addBool 4 feedback
  intro front
  unfold createResponseLobbyInfo
  rw [FlatBufferBuilder.addElement_behind _ 8 aligned,
    FlatBufferBuilder.addOffset_behind _ 6 (by decide) aligned,
    FlatBufferBuilder.addElement_behind _ 4 ⟨_, (Nat.one_mul _).symm⟩,
    FlatBufferBuilder.size_behind]
  apply FlatBufferBuilder.endTable_behind _ _ aligned
  rw [feedbackAdded.maxVoffset_eq]
  exact feedbackAdded.fields

/-- The table of a response, with its offset. -/
def responseTable (feedback : Bool) (port : Int32) : ByteString :=
  if port = 0 then
    if feedback then
      [12, 0, 0, 0, 8, 0, 12, 0, 7, 0, 8, 0, 8, 0, 0, 0, 0, 0, 0, 1,
        4, 0, 0, 0]
    else
      [12, 0, 0, 0, 8, 0, 8, 0, 0, 0, 4, 0, 8, 0, 0, 0, 4, 0, 0, 0]
  else if feedback then
    [16, 0, 0, 0, 0, 0, 10, 0, 16, 0, 7, 0, 8, 0, 12, 0, 10, 0, 0, 0,
      0, 0, 0, 1, 8, 0, 0, 0] ++ int32Bytes port
  else
    [16, 0, 0, 0, 0, 0, 10, 0, 12, 0, 0, 0, 4, 0, 8, 0, 10, 0, 0, 0,
      8, 0, 0, 0] ++ int32Bytes port

theorem addElement_int32
    (builder : FlatBufferBuilder) (field : Nat) (value : Int32) :
    builder.addElement field (int32Bytes value) (int32Bytes 0) =
      if value = 0 then builder
      else (builder.pushElement (int32Bytes value)).trackField field := by
  simp only [FlatBufferBuilder.addElement, int32Bytes_eq_zero]

/-- The table does not depend on the length of the key. -/
theorem createResponseLobbyInfo_lengthWritten
    (length : Nat) (feedback : Bool) (port : Int32) :
    let front := createResponseLobbyInfo (lengthWritten length) feedback 4 port
    (front.1.finish front.2).buf =
        responseTable feedback port ++ wordBytes (UInt32.ofNat length) ∧
      front.1.minalign = 4 := by
  intro front
  subst front
  unfold createResponseLobbyInfo lengthWritten
  have four (word : UInt32) :
      ∃ first second third fourth,
        wordBytes word = [first, second, third, fourth] :=
    ⟨_, _, _, _, rfl⟩
  rcases four (UInt32.ofNat length) with
    ⟨lengthFirst, lengthSecond, lengthThird, lengthFourth, lengthBytes⟩
  rcases four port.toUInt32 with
    ⟨portFirst, portSecond, portThird, portFourth, portBytes⟩
  rw [lengthBytes, addElement_int32, responseTable, int32Bytes, portBytes]
  by_cases none : port = 0 <;> cases feedback <;>
    simp [none, FlatBufferBuilder.pushElement, FlatBufferBuilder.trackField,
      FlatBufferBuilder.addElement, FlatBufferBuilder.addOffset,
      FlatBufferBuilder.referTo, FlatBufferBuilder.align,
      FlatBufferBuilder.preAlign, FlatBufferBuilder.fill,
      FlatBufferBuilder.pushBytes, FlatBufferBuilder.trackMinAlign,
      FlatBufferBuilder.size, FlatBufferBuilder.endTable,
      FlatBufferBuilder.writeVtable, FlatBufferBuilder.finish,
      FlatBufferBuilder.writeScalars, FlatBufferBuilder.writeScalar,
      paddingBytes, voffsetBytes, boolBytes, wordBytes]

/-- A response is its table and its key, within the limit of a builder. -/
theorem responseLobbyInfo_eq
    (feedback : Bool) (lobbyKey : ByteString) (port : Int32) :
    responseLobbyInfo feedback lobbyKey port =
      (responseTable feedback port ++
        (wordBytes (UInt32.ofNat lobbyKey.length) ++
          terminated lobbyKey)).take (maxBufferSize - 1) := by
  have aligned := terminated_aligned lobbyKey
  have front :=
    createResponseLobbyInfo_lengthWritten lobbyKey.length feedback port
  have created :=
    createResponseLobbyInfo_behind aligned lobbyKey.length feedback port
  rw [responseLobbyInfo, finishedMessage, createString_eq]
  dsimp only at front created ⊢
  rw [FlatBufferBuilder.size_behind,
    show (lengthWritten lobbyKey.length).size = 4 from rfl, created]
  dsimp only
  rw [FlatBufferBuilder.finish_behind _ _ front.2 aligned,
    ← List.append_assoc, ← front.1]
  rfl

/-! ## The fields of a response -/

/-- `protocol::RESPONSE_LOBBYINFO`. -/
structure ResponseLobbyInfo where
  feedback : Bool
  lobbyKey : ByteString
  port : Int32

/-- The accessors of a `RESPONSE_LOBBYINFO`. -/
def readResponseLobbyInfo (buffer : ByteString) :
    Option ResponseLobbyInfo := do
  let response ← getRoot buffer
  let feedback ← response.getField 4 1
  let lobbyKey ← response.getString 6
  let port ← response.getField 8 4
  return {
    feedback := feedback != 0
    lobbyKey := lobbyKey
    port := port.toInt32 }

/-- A scalar in front of other bytes. -/
theorem readScalar_append
    {front : ByteString} (rest : ByteString) {position : Int} {size : Nat}
    (inside : 0 ≤ position ∧ position + size ≤ front.length) :
    readScalar (front ++ rest) position size =
      some (bytesWord ((front.drop position.toNat).take size)) := by
  rw [readScalar, if_pos]
  · rw [List.append_assoc, List.drop_append_of_le_length (by omega),
      List.take_append_of_le_length]
    rw [List.length_drop]
    omega
  · rw [List.length_append]
    omega

/-- The root, the distance to its vtable and the vtable's size. -/
structure RootNumbers
    (buffer : ByteString) (start distance vtsize : UInt32) : Prop where
  root : readScalar buffer 0 4 = some start
  atTable : readScalar buffer start.toNat 4 = some distance
  atVtable :
    readScalar buffer (start.toNat - distance.toInt32.toInt) 2 = some vtsize

namespace RootNumbers

variable {buffer : ByteString} {start distance vtsize : UInt32}

theorem getRoot_eq (numbers : RootNumbers buffer start distance vtsize) :
    getRoot buffer = some ⟨buffer, start.toNat⟩ := by
  rw [getRoot, numbers.root]
  rfl

/-- A field the vtable has an entry for. -/
theorem entry (numbers : RootNumbers buffer start distance vtsize)
    (field : Nat) (offset : UInt32) (inside : field < vtsize.toNat)
    (atEntry :
      readScalar buffer (start.toNat - distance.toInt32.toInt + field) 2 =
        some offset) :
    (⟨buffer, start.toNat⟩ : Table).getOptionalFieldOffset field =
      some offset.toNat := by
  simp [Table.getOptionalFieldOffset, numbers.atTable, numbers.atVtable,
    inside, atEntry]

/-- A field behind the end of the vtable. -/
theorem beyond (numbers : RootNumbers buffer start distance vtsize)
    {field : Nat} (outside : vtsize.toNat ≤ field) :
    (⟨buffer, start.toNat⟩ : Table).getOptionalFieldOffset field =
      some 0 := by
  simp [Table.getOptionalFieldOffset, numbers.atTable, numbers.atVtable,
    Nat.not_lt.mpr outside]

end RootNumbers

namespace Table

variable {table : Table} {field size : Nat}

theorem getField_of_absent
    (absent : table.getOptionalFieldOffset field = some 0) :
    table.getField field size = some 0 := by
  simp [getField, absent]

theorem getField_of_entry {offset : Nat}
    (entry : table.getOptionalFieldOffset field = some offset)
    (there : offset ≠ 0) :
    table.getField field size =
      readScalar table.buffer (table.position + offset) size := by
  simp [getField, entry, there]

end Table

/-- Where a response's table is, and what its fields hold. -/
structure ResponseRead
    (buffer : ByteString) (table : Table) (tableEnd : Int)
    (feedback : Bool) (port : Int32) : Prop where
  root : getRoot buffer = some table
  feedback : table.getField 4 1 = some (if feedback then 1 else 0)
  port : table.getField 8 4 = some port.toUInt32
  lobbyKey :
    ∃ keyEntry : Nat,
      table.getOptionalFieldOffset 6 = some keyEntry ∧ keyEntry ≠ 0 ∧
        ∃ distance : UInt32,
          readScalar table.buffer (table.position + keyEntry) 4 =
              some distance ∧
            table.position + keyEntry + distance.toNat = tableEnd

/-- The accessors find what the table was made of. -/
theorem responseTable_read
    (feedback : Bool) (port : Int32) (rest : ByteString) :
    let buffer := responseTable feedback port ++ rest
    ∃ start,
      ResponseRead buffer ⟨buffer, start⟩
        (responseTable feedback port).length feedback port := by
  intro buffer
  have read (position : Int) (size : Nat)
      (inside :
        0 ≤ position ∧
          position + size ≤ (responseTable feedback port).length) :
      readScalar buffer position size =
        some
          (bytesWord
            (((responseTable feedback port).drop position.toNat).take
              size)) :=
    readScalar_append rest inside
  by_cases none : port = 0
  · subst none
    cases feedback
    · have numbers : RootNumbers buffer 12 8 8 :=
        ⟨read 0 4 (by decide), read 12 4 (by decide), read 4 2 (by decide)⟩
      exact ⟨12,
        { root := numbers.getRoot_eq
          feedback :=
            Table.getField_of_absent
              (numbers.entry 4 0 (by decide) (read 8 2 (by decide)))
          port := Table.getField_of_absent (numbers.beyond (by decide))
          lobbyKey :=
            ⟨4, numbers.entry 6 4 (by decide) (read 10 2 (by decide)),
              by decide, 4, read 16 4 (by decide), rfl⟩ }⟩
    · have numbers : RootNumbers buffer 12 8 8 :=
        ⟨read 0 4 (by decide), read 12 4 (by decide), read 4 2 (by decide)⟩
      exact ⟨12,
        { root := numbers.getRoot_eq
          feedback :=
            (Table.getField_of_entry
              (numbers.entry 4 7 (by decide) (read 8 2 (by decide)))
              (by decide)).trans (read 19 1 (by decide))
          port := Table.getField_of_absent (numbers.beyond (by decide))
          lobbyKey :=
            ⟨8, numbers.entry 6 8 (by decide) (read 10 2 (by decide)),
              by decide, 4, read 20 4 (by decide), rfl⟩ }⟩
  · have portRead :
        some (bytesWord (int32Bytes port)) = some port.toUInt32 :=
      congrArg some (bytesWord_wordBytes port.toUInt32)
    have length :
        (responseTable feedback port).length =
          if feedback then 32 else 28 := by
      rw [responseTable, if_neg none]
      cases feedback <;> rfl
    rw [length] at read ⊢
    rw [responseTable, if_neg none] at read
    cases feedback
    · have numbers : RootNumbers buffer 16 10 10 :=
        ⟨read 0 4 (by decide), read 16 4 (by decide), read 6 2 (by decide)⟩
      exact ⟨16,
        { root := numbers.getRoot_eq
          feedback :=
            Table.getField_of_absent
              (numbers.entry 4 0 (by decide) (read 10 2 (by decide)))
          port :=
            (Table.getField_of_entry
              (numbers.entry 8 8 (by decide) (read 14 2 (by decide)))
              (by decide)).trans
                ((read 24 4 (by decide)).trans portRead)
          lobbyKey :=
            ⟨4, numbers.entry 6 4 (by decide) (read 12 2 (by decide)),
              by decide, 8, read 20 4 (by decide), rfl⟩ }⟩
    · have numbers : RootNumbers buffer 16 10 10 :=
        ⟨read 0 4 (by decide), read 16 4 (by decide), read 6 2 (by decide)⟩
      exact ⟨16,
        { root := numbers.getRoot_eq
          feedback :=
            (Table.getField_of_entry
              (numbers.entry 4 7 (by decide) (read 10 2 (by decide)))
              (by decide)).trans (read 23 1 (by decide))
          port :=
            (Table.getField_of_entry
              (numbers.entry 8 12 (by decide) (read 14 2 (by decide)))
              (by decide)).trans
                ((read 28 4 (by decide)).trans portRead)
          lobbyKey :=
            ⟨8, numbers.entry 6 8 (by decide) (read 12 2 (by decide)),
              by decide, 8, read 24 4 (by decide), rfl⟩ }⟩

theorem responseTable_length (feedback : Bool) (port : Int32) :
    (responseTable feedback port).length =
      fieldSize port + (if feedback then 8 else 4) + 4 +
        (if port ≠ 0 then 12 else 8) + 4 := by
  rw [responseTable, fieldSize]
  by_cases none : port = 0 <;> cases feedback <;> simp [none, int32Bytes]

/-- A builder's limit leaves the table as it is. -/
theorem responseLobbyInfo_front
    (feedback : Bool) (lobbyKey : ByteString) (port : Int32) :
    ∃ rest,
      responseLobbyInfo feedback lobbyKey port =
        responseTable feedback port ++ rest := by
  have short :
      (responseTable feedback port).length ≤ maxBufferSize - 1 := by
    rw [responseTable_length, fieldSize, maxBufferSize]
    split_ifs <;> omega
  rw [responseLobbyInfo_eq, List.take_append, List.take_of_length_le short]
  exact ⟨_, rfl⟩

/-- A response that is read has the flag it was made with. -/
theorem feedback_of_read
    {feedback : Bool} {lobbyKey : ByteString} {port : Int32}
    {response : ResponseLobbyInfo}
    (read :
      readResponseLobbyInfo (responseLobbyInfo feedback lobbyKey port) =
        some response) :
    response.feedback = feedback := by
  rcases responseLobbyInfo_front feedback lobbyKey port with ⟨rest, split⟩
  rcases responseTable_read feedback port rest with ⟨start, found⟩
  rw [split, readResponseLobbyInfo, found.root] at read
  simp only [Option.bind_eq_bind, Option.bind_some, found.feedback,
    Option.bind_eq_some_iff] at read
  rcases read with ⟨key, -, number, -, same⟩
  rw [← Option.some.inj same]
  cases feedback <;> rfl

/-- A response within the limit reads as what it was made of. -/
theorem readResponseLobbyInfo_responseLobbyInfo
    {feedback : Bool} {lobbyKey : ByteString} {port : Int32}
    (fits : responseSize feedback lobbyKey.length port < maxBufferSize) :
    readResponseLobbyInfo (responseLobbyInfo feedback lobbyKey port) =
      some ⟨feedback, lobbyKey, port⟩ := by
  have keyBound : lobbyKey.length < 2 ^ 32 := by
    rw [responseSize, stringSize, maxBufferSize] at fits
    omega
  have keyLength :
      (UInt32.ofNat lobbyKey.length).toNat = lobbyKey.length := by
    rw [UInt32.toNat_ofNat', Nat.mod_eq_of_lt keyBound]
  have behind : lobbyKey.length ≤ (terminated lobbyKey).length := by
    rw [terminated, List.length_append]
    omega
  have whole :
      responseLobbyInfo feedback lobbyKey port =
        responseTable feedback port ++
          (wordBytes (UInt32.ofNat lobbyKey.length) ++
            terminated lobbyKey) := by
    rw [responseLobbyInfo_eq, List.take_of_length_le]
    rw [List.length_append, List.length_append, responseTable_length,
      wordBytes_length, terminated, List.length_append, List.length_cons,
      List.length_replicate, paddingBytes]
    rw [responseSize, stringSize] at fits
    omega
  rcases responseTable_read feedback port
      (wordBytes (UInt32.ofNat lobbyKey.length) ++ terminated lobbyKey) with
    ⟨start, found⟩
  rw [← whole] at found
  rcases found.lobbyKey with
    ⟨keyEntry, entry, there, distance, atDistance, atEnd⟩
  have keyLengthRead :
      readScalar (responseLobbyInfo feedback lobbyKey port)
          (responseTable feedback port).length 4 =
        some (UInt32.ofNat lobbyKey.length) := by
    rw [whole, ← List.append_assoc, readScalar_append]
    · rw [Int.toNat_natCast, List.drop_left, List.take_of_length_le,
        bytesWord_wordBytes]
      rw [wordBytes_length]
    · rw [List.length_append, wordBytes_length]
      omega
  have key :
      (⟨responseLobbyInfo feedback lobbyKey port, start⟩ : Table).getString 6 =
        some lobbyKey := by
    simp only [Table.getString, entry, Option.bind_eq_bind,
      Option.bind_some, if_neg there, atDistance, atEnd, keyLengthRead,
      Int.toNat_natCast, keyLength]
    rw [whole, if_pos]
    · rw [← List.drop_drop, List.drop_left]
      change some ((terminated lobbyKey).take lobbyKey.length) = _
      rw [terminated, List.take_left]
    · rw [List.length_append, List.length_append, wordBytes_length]
      omega
  rw [readResponseLobbyInfo, found.root]
  simp only [Option.bind_eq_bind, Option.bind_some, found.feedback, key,
    found.port]
  cases feedback <;> rfl

end IocpServer.Protocol
