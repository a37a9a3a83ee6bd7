import IocpServer.Protocol.LobbyServerProtocol
import IocpServer.Protocol.MessageReading
import IocpServer.Protocol.VerifierSafety

/-!
# Built messages are verified

The verifier accepts what a builder has finished: the fields are aligned, the
offsets lead forward into the buffer, and the string ends with its zero.
-/

namespace IocpServer.Protocol

open IocpServer.Library
open IocpServer.Library.Accessed

/-- A number read where its bytes are stored. -/
theorem readWord_of_stored
    {memory : Memory} {buffer bytes : ByteString} {offset : Nat}
    (holds : memory.Holds buffer) (stored : StoredAt buffer offset bytes)
    (place : Nat) (atPlace : place + offset = buffer.length) :
    (memory.readWord place bytes.length).value = bytesWord bytes := by
  have room := stored.length_le
  have found := stored.take_drop
  rw [Memory.readWord_value holds (by omega), Memory.slice, Int.toNat_natCast,
    show place = buffer.length - offset by omega, found]

namespace Verifier

variable {verifier : Verifier}

theorem verify_of_le {elem elemLen : Nat}
    (room : elem + elemLen ≤ verifier.size) (some : 0 < elem) :
    verifier.verify elem elemLen = true := by
  simp only [verify, Bool.and_eq_true, decide_eq_true_eq]
  omega

theorem verifyAlignment_of_dvd {elem align : Nat} (divides : align ∣ elem) :
    verifier.verifyAlignment elem align = true := by
  simp [verifyAlignment, Nat.mod_eq_zero_of_dvd divides]

theorem verifyScalar_of_le {elem size : Nat}
    (room : elem + size ≤ verifier.size) (some : 0 < elem)
    (divides : size ∣ elem) :
    verifier.verifyScalar elem size = true := by
  rw [verifyScalar, verifyAlignment_of_dvd divides, verify_of_le room some]
  rfl

/-- An offset that is small and leads into the buffer passes. -/
theorem verifyOffsetAt_of_read {memory : Memory} {start offset : Nat}
    (head : verifier.verifyScalar start 4 = true)
    (read :
      (memory.readWord start 4).value = UInt32.ofNat offset)
    (positive : 0 < offset) (small : offset < 2 ^ 31)
    (reach : start + offset + 1 ≤ verifier.size) :
    (verifier.verifyOffsetAt memory start).value = offset := by
  have word : (UInt32.ofNat offset).toNat = offset :=
    toNat_ofNat_of_lt small
  have notNegative : ¬ (UInt32.ofNat offset).toInt32 < 0 := by
    rw [Int32.lt_iff_toInt_lt, toInt32_ofNat_of_lt small]
    exact Int.not_lt.mpr (Int.natCast_nonneg _)
  have notNull : UInt32.ofNat offset ≠ 0 := by
    intro zero
    rw [zero] at word
    exact positive.ne word
  have reached : verifier.verify (start + offset) 1 = true :=
    verify_of_le reach (by omega)
  rw [verifyOffsetAt, head, if_neg (by decide), value_bind, read,
    if_neg notNull, if_neg notNegative, word, reached, if_neg (by decide)]
  rfl

end Verifier

/-- A check is of a field that the table was written with. -/
def FieldCheck.Fits
    (start : Nat) (before text : ByteString) (writes : List FieldWrite) :
    FieldCheck → Prop
  | .scalar field size =>
      ∃ bytes default,
        .element field bytes default ∈ writes ∧ bytes.length = size ∧ size ∣ 4
  | .string field =>
      ∃ off,
        .offset field off ∈ writes ∧ 4 ∣ off ∧ off ≤ start ∧
          StoredAt before off
            (wordBytes (UInt32.ofNat text.length) ++ (text ++ [0]))

/-- The vtable's entry of a field, as memory has it. -/
theorem StartedTable.value_entry
    {buffer : ByteString} {root table : Nat} {memory : Memory}
    (started : StartedTable memory buffer.length table)
    (holds : memory.Holds buffer)
    (atRoot : table + root = buffer.length)
    {field entry : Nat} (even : 2 ∣ field)
    (found :
      (⟨buffer, buffer.length - root⟩ : Table).getOptionalFieldOffset field =
        some entry) :
    (FlatBufferAccess.getOptionalFieldOffset memory table field).value =
      entry := by
  have place : (buffer.length : Int) - root = table := by
    omega
  have agreed :=
    FlatBufferAccess.agrees_getOptionalFieldOffset holds table field
      (started.inside_entry even)
  rw [place] at found
  rw [found] at agreed
  exact (Option.some.inj agreed).symm

namespace BuiltTable

variable {start : Nat} {before text : ByteString} {writes : List FieldWrite}
variable {buffer : ByteString} {root vtableSize table : Nat}
variable {memory : Memory} {verifier : Verifier}

/-- The root is behind the distance that leads to it. -/
theorem four_le_root
    (built : BuiltTable start before writes buffer root vtableSize) :
    4 ≤ root := by
  have room := built.distance.length_le
  rw [wordBytes_length] at room
  exact room

/-- The first offset of a finished buffer passes. -/
theorem verifyOffsetAt_root
    (built : BuiltTable start before writes buffer root vtableSize)
    (bounds : Addressable writes buffer vtableSize)
    (holds : memory.Holds buffer) (size : verifier.size = buffer.length)
    (atRoot : table + root = buffer.length) :
    (verifier.verifyOffsetAt memory 0).value = table := by
  have short := bounds.short
  have room := built.room
  have four := built.four
  have rootRoom := built.four_le_root
  have read := readWord_of_stored holds built.head 0 (by omega)
  rw [wordBytes_length, bytesWord_wordBytes,
    show buffer.length - root = table by omega] at read
  have head : verifier.verifyScalar 0 4 = true := by
    have inside : verifier.verify 0 4 = true := by
      simp only [Verifier.verify, Bool.and_eq_true, decide_eq_true_eq]
      omega
    rw [Verifier.verifyScalar, inside,
      Verifier.verifyAlignment_of_dvd (Nat.dvd_zero 4)]
    rfl
  exact
    Verifier.verifyOffsetAt_of_read head read (by omega) (by omega)
      (by omega)

/-- The start of a finished table passes. -/
theorem verifyTableStart_root
    (built : BuiltTable start before writes buffer root vtableSize)
    (bounds : Addressable writes buffer vtableSize)
    (holds : memory.Holds buffer) (size : verifier.size = buffer.length)
    (simple : verifier.verifyComplexity.1 = true)
    (atRoot : table + root = buffer.length) :
    (verifier.verifyTableStart memory table).value =
      (true, verifier.verifyComplexity.2) := by
  have short := bounds.short
  have narrow := bounds.narrow
  have room := built.room
  have four := built.four
  have rootRoom := built.four_le_root
  have whole := built.whole
  have rootAligned := built.rootAligned
  have even := built.even
  generalize enteredEq : verifier.verifyComplexity = complexity at *
  rcases complexity with ⟨passed, entered⟩
  change passed = true at simple
  have enteredSize : entered.size = buffer.length := by
    have same := verifier.verifyComplexity_size
    rw [enteredEq] at same
    rw [same, size]
  have distance := readWord_of_stored holds built.distance table atRoot
  rw [wordBytes_length, bytesWord_wordBytes] at distance
  have vtablePlace :
      (((table : Int) - vtableSize) % 2 ^ 64).toNat = table - vtableSize := by
    omega
  have vtable :=
    readWord_of_stored holds built.vtable (table - vtableSize) (by omega)
  rw [voffsetBytes_length, bytesWord_voffsetBytes narrow] at vtable
  have head : verifier.verifyScalar table 4 = true :=
    Verifier.verifyScalar_of_le (by omega) (by omega) (by omega)
  have vtableHead : entered.verifyScalar (table - vtableSize) 2 = true :=
    Verifier.verifyScalar_of_le (by omega) (by omega) (by omega)
  have vtableFits :
      entered.verify (table - vtableSize) vtableSize = true :=
    Verifier.verify_of_le (by omega) (by omega)
  rw [Verifier.verifyTableStart, head, if_neg (by decide), value_bind,
    distance, toInt32_ofNat_of_lt (by omega), vtablePlace, enteredEq]
  dsimp only
  rw [simple, if_neg (by decide), vtableHead, if_neg (by decide),
    value_bind, vtable, toNat_ofNat_of_lt (by omega),
    Verifier.verifyAlignment_of_dvd even, if_neg (by decide), value_bind,
    vtable, toNat_ofNat_of_lt (by omega), vtableFits,
    Nat.mod_eq_zero_of_dvd even]
  rfl

/-- A scalar of a finished table passes. -/
theorem verifyField_scalar
    (built : BuiltTable start before writes buffer root vtableSize)
    (bounds : Addressable writes buffer vtableSize)
    (holds : memory.Holds buffer) (size : verifier.size = buffer.length)
    (atRoot : table + root = buffer.length)
    (started : StartedTable memory buffer.length table)
    {field : Nat} {bytes default : ByteString} (even : 2 ∣ field)
    (member : .element field bytes default ∈ writes)
    (aligned : bytes.length ∣ 4) :
    (verifyField verifier memory table field bytes.length
        bytes.length).value =
      true := by
  by_cases left : bytes = default
  · have entry :=
      started.value_entry holds atRoot even
        (built.entry_of_left bounds member fun kept => kept left)
    rw [verifyField, value_bind, entry, if_pos rfl]
    rfl
  · rcases built.entry_of_kept bounds member left with
      ⟨place, found, there, behind, inFront, stored, divides⟩
    have entry := started.value_entry holds atRoot even found
    have whole := Nat.dvd_trans aligned built.whole
    have stands : bytes.length ∣ table + (root - place) := by
      rw [show table + (root - place) = buffer.length - place by omega]
      exact Nat.dvd_sub whole divides
    have length := stored.length_le
    have fits : verifier.verify (table + (root - place)) bytes.length := by
      apply Verifier.verify_of_le
      · change bytes.length ≤ place at length
        omega
      · omega
    rw [verifyField, value_bind, entry, if_neg there, value_pure,
      Verifier.verifyFieldAt, Verifier.verifyAlignment_of_dvd stands, fits]
    rfl

/-- The string of a finished table passes. -/
theorem verifyString_stored
    (holds : memory.Holds buffer) (size : verifier.size = buffer.length)
    {vec off : Nat} (short : text.length < verifier.options.maxSize)
    (bound : text.length < 2 ^ 31)
    (atString : vec + off = buffer.length)
    (positive : 0 < vec) (aligned : 4 ∣ vec)
    (stored :
      StoredAt buffer off
        (wordBytes (UInt32.ofNat text.length) ++ (text ++ [0]))) :
    (verifier.verifyString memory (some vec)).value = true := by
  have room := stored.length_le
  simp only [List.length_append, wordBytes_length,
    List.length_singleton] at room
  have length := readWord_of_stored holds stored.left vec atString
  rw [wordBytes_length, bytesWord_wordBytes] at length
  have terminator :=
    readWord_of_stored holds stored.right.right
      (vec + (4 + 1 * text.length))
      (by
        rw [wordBytes_length]
        omega)
  have head : verifier.verifyScalar vec 4 = true :=
    Verifier.verifyScalar_of_le (by omega) positive aligned
  have fits : verifier.verify vec (4 + 1 * text.length) = true :=
    Verifier.verify_of_le (by omega) positive
  have ended : verifier.verify (vec + (4 + 1 * text.length)) 1 = true :=
    Verifier.verify_of_le (by omega) (by omega)
  have found :
      (verifier.verifyVectorOrString memory vec 1).value =
        some (vec + (4 + 1 * text.length)) := by
    rw [Verifier.verifyVectorOrString, head, if_neg (by decide), value_bind,
      length, toNat_ofNat_of_lt bound, if_pos (by rw [Nat.div_one]; exact short)]
    dsimp only
    rw [fits, if_pos rfl]
    rfl
  rw [Verifier.verifyString, value_bind, found]
  dsimp only
  rw [ended, if_neg (by decide), value_bind]
  change ((memory.readWord _ [(0 : UInt8)].length).value == 0) = true
  rw [terminator]
  rfl

/-- The offset of a finished table's string passes, and the string. -/
theorem verify_string
    (built : BuiltTable start before writes buffer root vtableSize)
    (bounds : Addressable writes buffer vtableSize)
    (holds : memory.Holds buffer) (size : verifier.size = buffer.length)
    (limit : buffer.length ≤ verifier.options.maxSize)
    (atRoot : table + root = buffer.length)
    (started : StartedTable memory buffer.length table)
    {field off : Nat} (even : 2 ∣ field)
    (member : .offset field off ∈ writes) (aligned : 4 ∣ off)
    (earlier : off ≤ start)
    (stored :
      StoredAt before off
        (wordBytes (UInt32.ofNat text.length) ++ (text ++ [0]))) :
    ((FieldCheck.string field).verify verifier memory table).value =
      true := by
  have short := bounds.short
  have room := built.room
  have whole := built.whole
  rcases built.grown with ⟨front, grown⟩
  have string := stored.push front
  rw [← grown] at string
  have offRoom := string.le_length
  have textRoom := string.length_le
  simp only [List.length_append, wordBytes_length,
    List.length_singleton] at textRoom
  rcases built.entry_of_kept bounds member (by
      change off ≠ 0
      omega) with
    ⟨place, found, there, behind, inFront, storedOffset, divides⟩
  have entry := started.value_entry holds atRoot even found
  rw [FieldWrite.bytesAt] at storedOffset divides
  rw [wordBytes_length] at divides
  have read :=
    readWord_of_stored holds storedOffset (table + (root - place)) (by omega)
  rw [wordBytes_length, bytesWord_wordBytes] at read
  have head : verifier.verifyScalar (table + (root - place)) 4 = true :=
    Verifier.verifyScalar_of_le (by omega) (by omega) (by omega)
  have reached :
      (verifier.verifyOffsetAt memory (table + (root - place))).value =
        place - off :=
    Verifier.verifyOffsetAt_of_read head read (by omega) (by omega)
      (by omega)
  have pointer :
      (getPointer memory table field).value =
        some (table + (root - place) + (place - off)) := by
    rw [getPointer, value_bind, entry, if_neg there, value_bind, read,
      toNat_ofNat_of_lt (by omega)]
    rfl
  have passed :
      (verifier.verifyString memory
          (some (table + (root - place) + (place - off)))).value =
        true :=
    verifyString_stored holds size (by omega) (by omega) (by omega)
      (by omega) (by omega) string
  rw [FieldCheck.verify, value_bind, verifyOffset, value_bind, entry,
    if_neg there, value_bind, reached, value_pure,
    decide_eq_true (by omega : place - off ≠ 0), if_neg (by decide),
    value_bind, pointer]
  exact passed

/-- A check of a field the table was written with passes. -/
theorem verify_check
    (built : BuiltTable start before writes buffer root vtableSize)
    (bounds : Addressable writes buffer vtableSize)
    (holds : memory.Holds buffer) (size : verifier.size = buffer.length)
    (limit : buffer.length ≤ verifier.options.maxSize)
    (atRoot : table + root = buffer.length)
    (started : StartedTable memory buffer.length table)
    {check : FieldCheck} (even : 2 ∣ check.field)
    (fits : check.Fits start before text writes) :
    (check.verify verifier memory table).value = true := by
  cases check with
  | scalar field bytes =>
      rcases fits with ⟨bytes, default, member, rfl, aligned⟩
      exact
        built.verifyField_scalar bounds holds size atRoot started even member
          aligned
  | string field =>
      rcases fits with ⟨off, member, aligned, earlier, stored⟩
      exact
        built.verify_string bounds holds size limit atRoot started even member
          aligned earlier stored

/-- A finished buffer passes the checks of the fields it was written with. -/
theorem verifies
    (built : BuiltTable start before writes buffer root vtableSize)
    (bounds : Addressable writes buffer vtableSize)
    (holds : memory.Holds buffer) {checks : List FieldCheck}
    (even : ∀ check ∈ checks, 2 ∣ check.field)
    (fits : ∀ check ∈ checks, check.Fits start before text writes) :
    (verifyBuffer checks (.construct buffer.length .standard) memory).value =
      true := by
  have short := bounds.short
  have room := built.room
  have four := built.four
  have rootRoom := built.four_le_root
  have atRoot : buffer.length - root + root = buffer.length := by
    omega
  generalize buffer.length - root = table at atRoot
  have size :
      (Verifier.construct buffer.length .standard).size = buffer.length :=
    rfl
  generalize verifierEq :
    Verifier.construct buffer.length .standard = verifier at size
  have simple : verifier.verifyComplexity.1 = true := by
    rw [← verifierEq]
    rfl
  have limit : buffer.length ≤ verifier.verifyComplexity.2.options.maxSize := by
    have standard :
        verifier.verifyComplexity.2.options.maxSize = 2 ^ 31 - 1 := by
      rw [← verifierEq]
      rfl
    omega
  have offset := built.verifyOffsetAt_root bounds holds size atRoot
  have start :=
    built.verifyTableStart_root bounds holds size simple atRoot
  have passed :
      (verifier.verifyTableStart memory table).value.1 = true := by
    rw [start]
  have started :=
    (Verifier.value_verifyTableStart (by omega) passed).1
  rw [size] at started
  have fields :
      (verifyFields verifier.verifyComplexity.2 memory table checks).value =
        true := by
    induction checks with
    | nil => rfl
    | cons check checks induction =>
        have first :=
          built.verify_check bounds holds
            (verifier.verifyComplexity_size.trans size) limit atRoot started
            (even check List.mem_cons_self) (fits check List.mem_cons_self)
        rw [verifyFields, value_bind, first, if_neg (by decide)]
        exact
          induction
            (fun later member => even later (List.mem_cons_of_mem _ member))
            (fun later member => fits later (List.mem_cons_of_mem _ member))
  rw [verifyBuffer, if_neg (by rw [minBufferSize]; omega), value_bind, offset,
    if_neg (by omega), value_bind, verifyTable, value_bind, start,
    if_neg (by simp), value_bind, fields]
  rfl

end BuiltTable

/-! ## The messages of the protocol -/

/-- The key a message starts with is the string of its table. -/
theorem FieldCheck.fits_key
    {key : ByteString} {writes : List FieldWrite} {field : Nat}
    (member : .offset field (stringSize key.length) ∈ writes) :
    (FieldCheck.string field).Fits (stringSize key.length) (keyed key).buf
      key writes :=
  ⟨stringSize key.length, member,
    Nat.dvd_of_mod_eq_zero (stringSize_aligned key.length), le_rfl,
    keyed_stored key⟩

/-- A notice within the limit passes the checks of its fields. -/
theorem notice_verified
    {key : ByteString} {second third : Int32} {active : Bool}
    (fits : noticeSize key.length second third active < maxBufferSize)
    {memory : Memory}
    (holds : memory.Holds (message key (noticeWrites · second third active))) :
    (verifyBuffer noticeLobbyReadyChecks
        (.construct (message key (noticeWrites · second third active)).length
          .standard)
        memory).value =
      true := by
  rcases notice_built fits with ⟨root, vtableSize, built, bounds⟩
  have fields :
      ∀ check ∈ noticeLobbyReadyChecks,
        check.Fits (stringSize key.length) (keyed key).buf key
          (noticeWrites (stringSize key.length) second third active) := by
    intro check member
    simp only [noticeLobbyReadyChecks, List.mem_cons, List.not_mem_nil,
      or_false] at member
    rcases member with rfl | rfl | rfl | rfl
    · exact FieldCheck.fits_key (by simp [noticeWrites])
    · exact
        ⟨int32Bytes second, int32Bytes 0, by simp [noticeWrites], rfl,
          Nat.dvd_refl 4⟩
    · exact
        ⟨int32Bytes third, int32Bytes 0, by simp [noticeWrites], rfl,
          Nat.dvd_refl 4⟩
    · exact
        ⟨boolBytes active, boolBytes false, by simp [noticeWrites], rfl,
          Nat.one_dvd 4⟩
  exact built.verifies bounds holds (by decide) fields

/-- A response within the limit passes the checks of its fields. -/
theorem response_verified
    {feedback : Bool} {key : ByteString} {port : Int32}
    (fits : responseSize feedback key.length port < maxBufferSize)
    {memory : Memory}
    (holds : memory.Holds (responseLobbyInfo feedback key port)) :
    Verified memory .responseLobbyInfo
      (responseLobbyInfo feedback key port).length := by
  rcases response_built fits with ⟨root, vtableSize, built, bounds⟩
  have fields :
      ∀ check ∈ responseLobbyInfoChecks,
        check.Fits (stringSize key.length) (keyed key).buf key
          (responseWrites (stringSize key.length) feedback port) := by
    intro check member
    simp only [responseLobbyInfoChecks, List.mem_cons, List.not_mem_nil,
      or_false] at member
    rcases member with rfl | rfl | rfl
    · exact
        ⟨boolBytes feedback, boolBytes false, by simp [responseWrites], rfl,
          Nat.one_dvd 4⟩
    · exact FieldCheck.fits_key (by simp [responseWrites])
    · exact
        ⟨int32Bytes port, int32Bytes 0, by simp [responseWrites], rfl,
          Nat.dvd_refl 4⟩
  exact built.verifies bounds holds (by decide) fields

/--
Every message that a server has built within the limit of a builder passes the
`Verify` of its class.
-/
theorem messages_verified :
    (∀ (job : LobbyJob) (memory : Memory),
      job.finished.length < maxBufferSize - 1 →
        memory.Holds job.finished →
          Verified memory job.messageType job.finished.length) ∧
      ∀ (feedback : Bool) (key : ByteString) (port : Int32) (memory : Memory),
        (responseLobbyInfo feedback key port).length < maxBufferSize - 1 →
          memory.Holds (responseLobbyInfo feedback key port) →
            Verified memory .responseLobbyInfo
              (responseLobbyInfo feedback key port).length := by
  constructor
  · intro job memory fits holds
    cases job with
    | noticeLobbyReady socketPtr key port capacity active =>
        have length := notice_length key port capacity active
        change
          (LobbyJob.noticeLobbyReady socketPtr key port capacity
              active).finished.length = _ at length
        rw [length] at fits
        exact notice_verified (by omega) holds
    | noticeLobbyInfo socketPtr key current remain active =>
        have length := notice_length key current remain active
        change
          (LobbyJob.noticeLobbyInfo socketPtr key current remain
              active).finished.length = _ at length
        rw [length] at fits
        exact notice_verified (by omega) holds
  · intro feedback key port memory fits holds
    rw [responseLobbyInfo_length] at fits
    exact response_verified (by omega) holds

/-- A report, and a memory that holds it among zeros. -/
def lobbyReport : LobbyJob :=
  .noticeLobbyInfo 5 [76] 3 27 true

def reportMemory : Memory where
  byte position := lobbyReport.finished.getD position.toNat 0

theorem messages_verified_lobbyReport :
    Verified reportMemory .noticeLobbyInfo lobbyReport.finished.length := by
  have holds : reportMemory.Holds lobbyReport.finished := by
    intro index byte found
    simp [reportMemory, found]
  exact messages_verified.1 lobbyReport reportMemory (by decide +kernel) holds

end IocpServer.Protocol
