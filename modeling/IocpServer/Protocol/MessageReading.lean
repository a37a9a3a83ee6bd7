import IocpServer.Protocol.FinishedTable
import IocpServer.Protocol.ResponseReading

/-!
# Reading a message back

The accessors of a table find in a finished buffer what its fields were
written with: an element that was left out reads as the default zero, and an
offset leads to the string written before the table.  This holds for every
table of the protocol; the messages of a lobby are two of them.
-/

namespace IocpServer.Protocol

open IocpServer.Library

/-! ## Numbers in the buffer -/

theorem bytesWord_voffsetBytes {value : Nat} (small : value < 2 ^ 16) :
    bytesWord (voffsetBytes value) = UInt32.ofNat value := by
  apply UInt32.toNat_inj.mp
  have word : (UInt32.ofNat value).toNat = value := by
    rw [UInt32.toNat_ofNat', Nat.mod_eq_of_lt (by omega)]
  have bytes :
      voffsetBytes value =
        [UInt8.ofNat (UInt32.ofNat value).toNat,
          UInt8.ofNat ((UInt32.ofNat value).toNat / 256)] :=
    rfl
  rw [bytes, word]
  simp only [bytesWord, List.foldr_cons, List.foldr_nil,
    UInt8.toNat_ofNat', UInt32.toNat_ofNat']
  omega

theorem toNat_ofNat_of_lt {value : Nat} (small : value < 2 ^ 31) :
    (UInt32.ofNat value).toNat = value := by
  rw [UInt32.toNat_ofNat', Nat.mod_eq_of_lt (by omega)]

theorem toInt32_ofNat_of_lt {value : Nat} (small : value < 2 ^ 31) :
    (UInt32.ofNat value).toInt32.toInt = value :=
  Int32.toInt_ofNat_of_lt small

/-- A scalar read where its bytes are stored. -/
theorem readScalar_of_stored
    {buffer bytes : ByteString} {offset : Nat}
    (stored : StoredAt buffer offset bytes)
    (position : Int) (place : position = buffer.length - offset) :
    readScalar buffer position bytes.length = some (bytesWord bytes) := by
  have inside := stored.le_length
  have room := stored.length_le
  have found := stored.take_drop
  rw [readScalar, if_pos (by omega), place,
    show ((buffer.length : Int) - offset).toNat = buffer.length - offset by
      omega,
    List.drop_append_of_le_length (by omega), List.take_append_of_le_length,
    found]
  rw [List.length_drop]
  omega

/-! ## The accessors on a built table -/

/-- The bounds under which offsets and vtable entries keep their values. -/
structure Addressable
    (writes : List FieldWrite) (buffer : ByteString) (vtableSize : Nat) :
    Prop where
  short : buffer.length < 2 ^ 31
  narrow : vtableSize < 2 ^ 16
  few : 7 * writes.length + 7 < 2 ^ 16

namespace BuiltTable

variable {start : Nat} {before : ByteString} {writes : List FieldWrite}
variable {buffer : ByteString} {root vtableSize : Nat}

theorem getRoot_eq
    (built : BuiltTable start before writes buffer root vtableSize)
    (bounds : Addressable writes buffer vtableSize) :
    getRoot buffer = some ⟨buffer, buffer.length - root⟩ := by
  have read :=
    readScalar_of_stored built.head 0 (by omega)
  rw [wordBytes_length, bytesWord_wordBytes] at read
  have room := built.room
  have short := bounds.short
  rw [getRoot, read]
  simp only [Option.bind_eq_bind, Option.bind_some]
  rw [toNat_ofNat_of_lt (by omega), Int.ofNat_sub (by omega)]
  rfl

/-- The vtable's entry for a field. -/
theorem getOptionalFieldOffset_eq
    (built : BuiltTable start before writes buffer root vtableSize)
    (bounds : Addressable writes buffer vtableSize)
    {field entry : Nat} (small : entry < 2 ^ 16)
    (listed :
      field < vtableSize →
        StoredAt buffer (root + vtableSize - field) (voffsetBytes entry))
    (beyond : vtableSize ≤ field → entry = 0) :
    (⟨buffer, buffer.length - root⟩ : Table).getOptionalFieldOffset field =
      some entry := by
  have narrow := bounds.narrow
  have room := built.room
  have distance :=
    readScalar_of_stored built.distance ((buffer.length : Int) - root) rfl
  rw [wordBytes_length, bytesWord_wordBytes] at distance
  have size :=
    readScalar_of_stored built.vtable
      ((buffer.length : Int) - root - vtableSize) (by omega)
  rw [voffsetBytes_length, bytesWord_voffsetBytes narrow] at size
  rw [Table.getOptionalFieldOffset, distance]
  simp only [Option.bind_eq_bind, Option.bind_some]
  rw [toInt32_ofNat_of_lt (by omega), size]
  simp only [Option.bind_some]
  rw [toNat_ofNat_of_lt (by omega)]
  by_cases within : field < vtableSize
  · have read :=
      readScalar_of_stored (listed within)
        ((buffer.length : Int) - root - vtableSize + field) (by omega)
    rw [voffsetBytes_length, bytesWord_voffsetBytes small] at read
    rw [if_pos within, read]
    simp only [Option.bind_some]
    rw [toNat_ofNat_of_lt (by omega)]
    rfl
  · rw [if_neg within, beyond (by omega)]
    rfl

/-- A kept field: the place its entry leads to. -/
theorem entry_of_kept
    (built : BuiltTable start before writes buffer root vtableSize)
    (bounds : Addressable writes buffer vtableSize)
    {write : FieldWrite} (member : write ∈ writes) (kept : write.Kept) :
    ∃ place,
      (⟨buffer, buffer.length - root⟩ : Table).getOptionalFieldOffset
          write.field = some (root - place) ∧
        root - place ≠ 0 ∧ start < place ∧ place + 4 ≤ root ∧
          StoredAt buffer place (write.bytesAt place) ∧
            (write.bytesAt place).length ∣ place := by
  rcases built.entry write member kept with
    ⟨place, room, entry, behind, inFront, stored, divides⟩
  have near := built.near
  have few := bounds.few
  refine ⟨place, ?_, by omega, behind, inFront, stored, divides⟩
  apply built.getOptionalFieldOffset_eq bounds (by omega)
  · intro _
    exact entry
  · intro beyond
    omega

/-- A field that was left out has no entry. -/
theorem entry_of_left
    (built : BuiltTable start before writes buffer root vtableSize)
    (bounds : Addressable writes buffer vtableSize)
    {write : FieldWrite} (member : write ∈ writes) (left : ¬ write.Kept) :
    (⟨buffer, buffer.length - root⟩ : Table).getOptionalFieldOffset
        write.field = some 0 := by
  apply built.getOptionalFieldOffset_eq bounds (by decide)
  · exact built.absent write member left
  · intro _
    rfl

/-- An element reads as it was written. -/
theorem getField_eq
    (built : BuiltTable start before writes buffer root vtableSize)
    (bounds : Addressable writes buffer vtableSize)
    (field : Nat) (bytes default : ByteString)
    (member : .element field bytes default ∈ writes)
    (zero : bytesWord default = 0) :
    (⟨buffer, buffer.length - root⟩ : Table).getField field bytes.length =
      some (bytesWord bytes) := by
  by_cases left : bytes = default
  · have entry :=
      built.entry_of_left bounds member fun kept => kept left
    change Table.getOptionalFieldOffset _ field = _ at entry
    rw [Table.getField_of_absent entry, left, zero]
  · rcases built.entry_of_kept bounds member left with
      ⟨place, entry, there, -, inFront, stored, -⟩
    change Table.getOptionalFieldOffset _ field = _ at entry
    rw [Table.getField_of_entry entry there]
    refine readScalar_of_stored stored _ ?_
    have room := built.room
    dsimp only
    omega

/-- An offset leads to the string it was made for. -/
theorem getString_eq
    (built : BuiltTable start before writes buffer root vtableSize)
    (bounds : Addressable writes buffer vtableSize)
    {field off : Nat} {text : ByteString}
    (member : .offset field off ∈ writes) (notNull : off ≠ 0)
    (earlier : off ≤ start)
    (stored :
      StoredAt buffer off (wordBytes (UInt32.ofNat text.length) ++ text)) :
    (⟨buffer, buffer.length - root⟩ : Table).getString field = some text := by
  rcases built.entry_of_kept bounds member notNull with
    ⟨place, entry, there, behind, inFront, storedOffset, -⟩
  have short := bounds.short
  have room := built.room
  have whole := stored.le_length
  have offsetRead :=
    readScalar_of_stored storedOffset
      ((buffer.length : Int) - root + (root - place : Nat)) (by omega)
  rw [FieldWrite.bytesAt, wordBytes_length, bytesWord_wordBytes]
    at offsetRead
  have atString :
      (buffer.length : Int) - root + (root - place : Nat) + (place - off : Nat) =
        (buffer.length : Int) - off := by
    omega
  have textRoom := stored.length_le
  rw [List.length_append, wordBytes_length] at textRoom
  have lengthRead := readScalar_of_stored stored.left _ rfl
  rw [wordBytes_length, bytesWord_wordBytes] at lengthRead
  have textFound := stored.right.take_drop
  rw [wordBytes_length] at textFound
  change Table.getOptionalFieldOffset _ field = _ at entry
  simp only [Table.getString, entry, Option.bind_eq_bind, Option.bind_some,
    if_neg there, offsetRead, toNat_ofNat_of_lt
      (show place - off < 2 ^ 31 by omega), atString, lengthRead,
    toNat_ofNat_of_lt (show text.length < 2 ^ 31 by omega)]
  have startAt :
      ((buffer.length : Int) - off).toNat + 4 =
        buffer.length - (off - 4) := by
    omega
  rw [startAt, if_pos (by omega), textFound]
  rfl

end BuiltTable

/-! ## A key and its table -/

/-- A message with a key, whose table has these fields. -/
def message (key : ByteString) (writes : Nat → List FieldWrite) :
    ByteString :=
  finishedMessage key fun builder keyOffset =>
    writeTable builder (writes keyOffset)

theorem noticeLobbyReady_eq_message
    (key : ByteString) (port capacity : Int32) (active : Bool) :
    noticeLobbyReady key port capacity active =
      message key (noticeWrites · port capacity active) :=
  rfl

theorem noticeLobbyInfo_eq_message
    (key : ByteString) (current remain : Int32) (active : Bool) :
    noticeLobbyInfo key current remain active =
      message key (noticeWrites · current remain active) :=
  rfl

/-- The builder behind `CreateString`. -/
abbrev keyed (key : ByteString) : FlatBufferBuilder :=
  FlatBufferBuilder.construct.createString key

theorem keyed_size (key : ByteString) :
    (keyed key).size = stringSize key.length :=
  (Laid.createString key).size_eq

/-- The string a message starts with, with its length and its zero. -/
theorem keyed_stored (key : ByteString) :
    StoredAt (keyed key).buf (stringSize key.length)
      (wordBytes (UInt32.ofNat key.length) ++ (key ++ [0])) := by
  have stored :
      StoredAt (keyed key).buf (keyed key).buf.length (keyed key).buf :=
    ⟨[], [], by simp, by simp⟩
  have size := keyed_size key
  rw [FlatBufferBuilder.size] at size
  rw [size] at stored
  have split :
      (keyed key).buf =
        (wordBytes (UInt32.ofNat key.length) ++ (key ++ [0])) ++
          List.replicate (paddingBytes (key.length + 1) 4) 0 := by
    rw [keyed, createString_eq]
    simp only [FlatBufferBuilder.behind, lengthWritten, terminated,
      List.append_assoc, List.singleton_append]
  rw [split] at stored ⊢
  exact stored.left

/-- A message that was not cut is its builder's buffer. -/
theorem finishedMessage_eq
    {key : ByteString}
    {create : FlatBufferBuilder → Nat → FlatBufferBuilder × Nat}
    (short : (finishedMessage key create).length < maxBufferSize - 1) :
    finishedMessage key create =
      let created := create (keyed key) (keyed key).size
      (created.1.finish created.2).buf := by
  rw [finishedMessage] at short ⊢
  rw [List.length_take] at short
  exact List.take_of_length_le (by omega)

/-- A message within the limit has its table built, behind its key. -/
theorem message_built
    {key : ByteString} {writes : Nat → List FieldWrite}
    (table :
      TableWrites (stringSize key.length) (writes (stringSize key.length)))
    (near :
      stringSize key.length +
          7 * (writes (stringSize key.length)).length + 8 <
        2 ^ 32)
    (short : (message key writes).length < maxBufferSize - 1) :
    ∃ root vtableSize,
      BuiltTable (stringSize key.length) (keyed key).buf
        (writes (stringSize key.length)) (message key writes) root
        vtableSize := by
  have size : (keyed key).buf.length = stringSize key.length :=
    keyed_size key
  have whole :
      message key writes =
        (let created :=
          writeTable (keyed key) (writes (keyed key).buf.length)
        (created.1.finish created.2).buf) :=
    finishedMessage_eq short
  rw [← size] at table near ⊢
  generalize writes (keyed key).buf.length = fields at *
  have started :
      Filled (keyed key).buf.length (keyed key).buf [] (keyed key) :=
    Filled.of_start rfl rfl (Laid.createString key).minalign_eq
  have filled :=
    started.addAll table.valid
      (by
        rw [List.length_nil]
        omega)
  rw [List.nil_append] at filled
  have built := filled.builtTable table
  rw [← filled.finish_endTable table] at built
  rw [whole]
  exact ⟨_, _, built⟩

/-- A message of at most four fields, as the accessors find it. -/
theorem message_addressable
    {key : ByteString} {writes : Nat → List FieldWrite}
    (table :
      TableWrites (stringSize key.length) (writes (stringSize key.length)))
    (keySmall : stringSize key.length < 2 ^ 31)
    (few : (writes (stringSize key.length)).length ≤ 4)
    (low :
      ∀ write ∈ writes (stringSize key.length), write.field + 2 ≤ 12)
    (short : (message key writes).length < maxBufferSize - 1) :
    ∃ root vtableSize,
      BuiltTable (stringSize key.length) (keyed key).buf
          (writes (stringSize key.length)) (message key writes) root
          vtableSize ∧
        Addressable (writes (stringSize key.length)) (message key writes)
          vtableSize := by
  rcases message_built table (by omega) short with
    ⟨root, vtableSize, built⟩
  have narrow := built.narrow 12 (by decide) low
  rw [maxBufferSize] at short
  exact ⟨root, vtableSize, built, by omega, by omega, by omega⟩

/-! ## The notices of a lobby -/

/-- The fields of a notice are written once, at places of their own. -/
theorem noticeWrites_table
    (start : Nat) (second third : Int32) (active : Bool) :
    TableWrites start (noticeWrites start second third active) where
  valid := by
    intro write member
    simp only [noticeWrites, List.mem_cons, List.not_mem_nil,
      or_false] at member
    rcases member with rfl | rfl | rfl | rfl
    · exact ⟨by decide, by decide, .inr rfl⟩
    · exact ⟨by decide, by decide, .inr rfl⟩
    · exact ⟨by decide, by decide, le_rfl⟩
    · exact ⟨by decide, by decide, .inl rfl⟩
  distinct := by
    simp [noticeWrites, FieldWrite.field]

/-- A notice within the limit, as the accessors find it. -/
theorem notice_built
    {key : ByteString} {second third : Int32} {active : Bool}
    (fits : noticeSize key.length second third active < maxBufferSize) :
    ∃ root vtableSize,
      BuiltTable (stringSize key.length) (keyed key).buf
          (noticeWrites (stringSize key.length) second third active)
          (message key (noticeWrites · second third active)) root
          vtableSize ∧
        Addressable
          (noticeWrites (stringSize key.length) second third active)
          (message key (noticeWrites · second third active)) vtableSize := by
  have length :
      (message key (noticeWrites · second third active)).length =
        min (maxBufferSize - 1)
          (noticeSize key.length second third active) :=
    notice_length key second third active
  have secondAligned := fieldSize_aligned second
  have thirdAligned := fieldSize_aligned third
  have keySmall : stringSize key.length < 2 ^ 31 := by
    rw [noticeSize, maxBufferSize] at fits
    omega
  rw [noticeSize, stringSize, maxBufferSize] at fits length
  have short :
      (message key (noticeWrites · second third active)).length <
        maxBufferSize - 1 := by
    rw [length, maxBufferSize]
    split_ifs at fits ⊢ <;> omega
  exact
    message_addressable (noticeWrites_table _ second third active) keySmall
      (by simp [noticeWrites]) (by simp [noticeWrites, FieldWrite.field])
      short

/-! ## The response of the control server -/

/-- The fields of a response are written once, at places of their own. -/
theorem responseWrites_table (start : Nat) (feedback : Bool) (port : Int32) :
    TableWrites start (responseWrites start feedback port) where
  valid := by
    intro write member
    simp only [responseWrites, List.mem_cons, List.not_mem_nil,
      or_false] at member
    rcases member with rfl | rfl | rfl
    · exact ⟨by decide, by decide, .inr rfl⟩
    · exact ⟨by decide, by decide, le_rfl⟩
    · exact ⟨by decide, by decide, .inl rfl⟩
  distinct := by
    simp [responseWrites, FieldWrite.field]

/-- A response within the limit, as the accessors find it. -/
theorem response_built
    {feedback : Bool} {key : ByteString} {port : Int32}
    (fits : responseSize feedback key.length port < maxBufferSize) :
    ∃ root vtableSize,
      BuiltTable (stringSize key.length) (keyed key).buf
          (responseWrites (stringSize key.length) feedback port)
          (message key (responseWrites · feedback port)) root vtableSize ∧
        Addressable
          (responseWrites (stringSize key.length) feedback port)
          (message key (responseWrites · feedback port)) vtableSize := by
  have length :
      (message key (responseWrites · feedback port)).length =
        min (maxBufferSize - 1) (responseSize feedback key.length port) :=
    responseLobbyInfo_length feedback key port
  have portAligned := fieldSize_aligned port
  have keySmall : stringSize key.length < 2 ^ 31 := by
    rw [responseSize, maxBufferSize] at fits
    omega
  rw [responseSize, stringSize, maxBufferSize] at fits length
  have short :
      (message key (responseWrites · feedback port)).length <
        maxBufferSize - 1 := by
    rw [length, maxBufferSize]
    split_ifs at fits ⊢ <;> omega
  exact
    message_addressable (responseWrites_table _ feedback port) keySmall
      (by simp [responseWrites]) (by simp [responseWrites, FieldWrite.field])
      short

/-! ## Notices read back -/

/-- The four accessors of a notice, on a notice within the limit. -/
structure NoticeRead
    (buffer : ByteString) (table : Table) (key : ByteString)
    (second third : Int32) (active : Bool) : Prop where
  root : getRoot buffer = some table
  key : table.getString 4 = some key
  second : table.getField 6 4 = some second.toUInt32
  third : table.getField 8 4 = some third.toUInt32
  active : table.getField 10 1 = some (if active then 1 else 0)

theorem notice_read
    {key : ByteString} {second third : Int32} {active : Bool}
    (fits : noticeSize key.length second third active < maxBufferSize) :
    ∃ table,
      NoticeRead (message key (noticeWrites · second third active)) table key
        second third active := by
  rcases notice_built fits with ⟨root, vtableSize, built, bounds⟩
  have string : StoredAt (message key (noticeWrites · second third active))
      (stringSize key.length)
      (wordBytes (UInt32.ofNat key.length) ++ key) := by
    rcases built.grown with ⟨front, grown⟩
    have stored := (keyed_stored key).push front
    rw [← grown, ← List.append_assoc] at stored
    exact stored.left
  have notNull : stringSize key.length ≠ 0 := by
    rw [stringSize]
    omega
  have int32Word (value : Int32) :
      some (bytesWord (int32Bytes value)) = some value.toUInt32 :=
    congrArg some (bytesWord_wordBytes value.toUInt32)
  refine
    ⟨_,
      { root := built.getRoot_eq bounds
        key :=
          built.getString_eq bounds
            (by simp [noticeWrites]) notNull le_rfl string
        second :=
          (built.getField_eq bounds 6 (int32Bytes second) (int32Bytes 0)
            (by simp [noticeWrites]) (by decide)).trans (int32Word second)
        third :=
          (built.getField_eq bounds 8 (int32Bytes third) (int32Bytes 0)
            (by simp [noticeWrites]) (by decide)).trans (int32Word third)
        active :=
          (built.getField_eq bounds 10 (boolBytes active) (boolBytes false)
            (by simp [noticeWrites]) (by decide)).trans
              (by cases active <;> rfl) }⟩

/-- A lobby's registration is decoded to what it was made of. -/
theorem noticeLobbyReady_decoded
    {key : ByteString} {port capacity : Int32} {active : Bool}
    (fits : noticeSize key.length port capacity active < maxBufferSize) :
    flatBuffers.noticeLobbyReady (noticeLobbyReady key port capacity active) =
      some ⟨key, port, capacity, active⟩ := by
  rcases notice_read fits with ⟨table, read⟩
  rw [noticeLobbyReady_eq_message]
  simp only [flatBuffers, read.root, read.key, read.second, read.third,
    read.active, Option.bind_eq_bind, Option.bind_some]
  cases active <;> rfl

/-- A lobby's load report is decoded to what it was made of. -/
theorem noticeLobbyInfo_decoded
    {key : ByteString} {current remain : Int32} {active : Bool}
    (fits : noticeSize key.length current remain active < maxBufferSize) :
    flatBuffers.noticeLobbyInfo (noticeLobbyInfo key current remain active) =
      some ⟨key, current, remain, active⟩ := by
  rcases notice_read fits with ⟨table, read⟩
  rw [noticeLobbyInfo_eq_message]
  simp only [flatBuffers, read.root, read.key, read.second, read.third,
    read.active, Option.bind_eq_bind, Option.bind_some]
  cases active <;> rfl

end IocpServer.Protocol
