import IocpServer.Json.Lexer
import IocpServer.Json.SerializedStrings

/-!
# Strings read back

What `get()` has yet to give, and `scan_string` over what `dump_escaped` has
written: each character of the text puts the bytes of its character back.
-/

namespace IocpServer.Json

open IocpServer.Library

/-- The hexadecimal digits are read back. -/
theorem hexDigitValue_lowerHexDigit :
    ∀ nibble < 16,
      Lexer.hexDigitValue (some (lowerHexDigit nibble)) = some nibble := by
  decide

namespace Lexer

variable {Number : Type}

/-! ## What is not read yet -/

/-- The next characters come from the input. -/
structure Unread (lexer : Lexer Number) (bytes : ByteString) : Prop where
  noUnget : lexer.nextUnget = false
  input : lexer.input = bytes

/-- The next characters, one of which may be given back. -/
inductive Pending : Lexer Number → ByteString → Prop where
  | unread {lexer : Lexer Number} {bytes : ByteString}
      (rest : lexer.Unread bytes) : Pending lexer bytes
  | ungot {lexer : Lexer Number} {byte : UInt8} {bytes : ByteString}
      (again : lexer.nextUnget = true) (current : lexer.current = some byte)
      (input : lexer.input = bytes) : Pending lexer (byte :: bytes)
  | ungotEnd {lexer : Lexer Number}
      (again : lexer.nextUnget = true) (current : lexer.current = none)
      (input : lexer.input = []) : Pending lexer []

@[simp]
theorem tokenBuffer_get (lexer : Lexer Number) :
    lexer.get.tokenBuffer = lexer.tokenBuffer :=
  rfl

@[simp]
theorem tokenBuffer_add (lexer : Lexer Number) (byte : UInt8) :
    (lexer.add byte).tokenBuffer = lexer.tokenBuffer ++ [byte] :=
  rfl

theorem Unread.add {lexer : Lexer Number} {bytes : ByteString}
    (rest : lexer.Unread bytes) (byte : UInt8) :
    (lexer.add byte).Unread bytes :=
  ⟨rest.noUnget, rest.input⟩

theorem Unread.reset {lexer : Lexer Number} {bytes : ByteString}
    (rest : lexer.Unread bytes) : lexer.reset.Unread bytes :=
  ⟨rest.noUnget, rest.input⟩

/-- What is pending is in the input, and in the character given back. -/
theorem Pending.same {lexer other : Lexer Number} {bytes : ByteString}
    (pending : lexer.Pending bytes) (input : other.input = lexer.input)
    (current : other.current = lexer.current)
    (nextUnget : other.nextUnget = lexer.nextUnget) :
    other.Pending bytes := by
  cases pending with
  | unread rest =>
      exact .unread ⟨nextUnget.trans rest.noUnget, input.trans rest.input⟩
  | ungot again byte rest =>
      exact .ungot (nextUnget.trans again) (current.trans byte)
        (input.trans rest)
  | ungotEnd again ended rest =>
      exact .ungotEnd (nextUnget.trans again) (current.trans ended)
        (input.trans rest)

theorem Pending.get {lexer : Lexer Number} {byte : UInt8} {bytes : ByteString}
    (pending : lexer.Pending (byte :: bytes)) :
    lexer.get.current = some byte ∧ lexer.get.Unread bytes := by
  generalize whole : byte :: bytes = text at pending
  cases pending with
  | unread rest =>
      rcases rest with ⟨noUnget, input⟩
      rw [← whole] at input
      refine ⟨?_, rfl, ?_⟩ <;> simp [Lexer.get, noUnget, input]
  | ungot again current input =>
      cases whole
      refine ⟨?_, rfl, ?_⟩ <;> simp [Lexer.get, again, current, input]
  | ungotEnd => cases whole

theorem Pending.get_end {lexer : Lexer Number} (pending : lexer.Pending []) :
    lexer.get.current = none ∧ lexer.get.Unread [] := by
  generalize whole : ([] : ByteString) = text at pending
  cases pending with
  | unread rest =>
      rcases rest with ⟨noUnget, input⟩
      rw [← whole] at input
      refine ⟨?_, rfl, ?_⟩ <;> simp [Lexer.get, noUnget, input, ← whole]
  | ungot => cases whole
  | ungotEnd again current input =>
      refine ⟨?_, rfl, ?_⟩ <;> simp [Lexer.get, again, current, input]

theorem Unread.get {lexer : Lexer Number} {byte : UInt8} {bytes : ByteString}
    (rest : lexer.Unread (byte :: bytes)) :
    lexer.get.current = some byte ∧ lexer.get.Unread bytes :=
  (Pending.unread rest).get

theorem Unread.unget {lexer : Lexer Number} {byte : UInt8}
    {bytes : ByteString} (rest : lexer.Unread bytes)
    (current : lexer.current = some byte) :
    lexer.unget.Pending (byte :: bytes) :=
  .ungot rfl current rest.input

theorem Unread.unget_end {lexer : Lexer Number} (rest : lexer.Unread [])
    (current : lexer.current = none) : lexer.unget.Pending [] :=
  .ungotEnd rfl current rest.input

/-- The lexer has read a character, and it has been given back or not. -/
theorem Pending.get_unget {lexer : Lexer Number} {bytes : ByteString}
    (pending : lexer.Pending bytes) :
    lexer.get.current = bytes.head? ∧ lexer.get.unget.Pending bytes := by
  cases bytes with
  | nil =>
      rcases pending.get_end with ⟨current, rest⟩
      exact ⟨current, rest.unget_end current⟩
  | cons byte bytes =>
      rcases pending.get with ⟨current, rest⟩
      exact ⟨current, rest.unget current⟩

/-! ## Characters beyond ASCII -/

/-- The bytes are in the ranges. -/
def InRanges : List (UInt8 × UInt8) → ByteString → Prop :=
  List.Forall₂ fun range byte => range.1 ≤ byte ∧ byte ≤ range.2

/-- Bytes in the ranges are read. -/
theorem nextBytesInRange_read {ranges : List (UInt8 × UInt8)}
    {bytes : ByteString} (inRanges : InRanges ranges bytes)
    {lexer : Lexer Number} {rest : ByteString}
    (unread : lexer.Unread (bytes ++ rest)) :
    ∃ next,
      nextBytesInRange ranges lexer = (none, next) ∧
        next.Unread rest ∧
        next.tokenBuffer = lexer.tokenBuffer ++ bytes := by
  induction inRanges generalizing lexer with
  | nil => exact ⟨lexer, rfl, unread, (List.append_nil _).symm⟩
  | @cons range byte ranges bytes inRange inRanges recursive =>
      rcases unread.get with ⟨current, behind⟩
      rcases recursive (behind.add byte) with ⟨next, scanned, after, buffer⟩
      refine ⟨next, ?_, after, ?_⟩
      · rw [nextBytesInRange, current]
        dsimp only
        rw [if_pos inRange, addCurrent, current]
        exact scanned
      · rw [buffer, tokenBuffer_add, tokenBuffer_get, List.append_assoc]
        rfl

theorem leadRanges_eq (byte : UInt8) :
    leadRanges byte =
      if 0xC2 ≤ byte.toNat ∧ byte.toNat ≤ 0xDF then
        some [(0x80, 0xBF)]
      else if byte.toNat = 0xE0 then
        some [(0xA0, 0xBF), (0x80, 0xBF)]
      else if 0xE1 ≤ byte.toNat ∧ byte.toNat ≤ 0xEC ∨
          byte.toNat = 0xEE ∨ byte.toNat = 0xEF then
        some [(0x80, 0xBF), (0x80, 0xBF)]
      else if byte.toNat = 0xED then
        some [(0x80, 0x9F), (0x80, 0xBF)]
      else if byte.toNat = 0xF0 then
        some [(0x90, 0xBF), (0x80, 0xBF), (0x80, 0xBF)]
      else if 0xF1 ≤ byte.toNat ∧ byte.toNat ≤ 0xF3 then
        some [(0x80, 0xBF), (0x80, 0xBF), (0x80, 0xBF)]
      else if byte.toNat = 0xF4 then
        some [(0x80, 0x8F), (0x80, 0xBF), (0x80, 0xBF)]
      else
        none := by
  rw [leadRanges]
  simp only [UInt8.le_iff_toNat_le, ← UInt8.toNat_inj]
  rfl

/-- The bytes behind a lead byte are in its ranges. -/
theorem inRanges_of_sequence {lead : UInt8} {bytes : ByteString} {point : Nat}
    (sequence : Utf8Sequence (lead :: bytes) point)
    (beyond : 0x80 ≤ lead.toNat) :
    ∃ ranges, leadRanges lead = some ranges ∧ InRanges ranges bytes := by
  rw [leadRanges_eq]
  cases sequence with
  | one byte ascii => omega
  | two lead second lower upper tail =>
      refine ⟨_, if_pos ⟨lower, upper⟩, ?_⟩
      exact .cons tail .nil
  | three lead second third lower upper inRange tail =>
      have notShort := inRange.notShortThree
      have noSurrogate := inRange.noSurrogate
      have secondTail := inRange.tail
      rw [if_neg (by omega)]
      split_ifs with short plain surrogate
      · exact ⟨_, rfl, .cons ⟨notShort short, secondTail.2⟩ (.cons tail .nil)⟩
      · exact ⟨_, rfl, .cons secondTail (.cons tail .nil)⟩
      · exact
          ⟨_, rfl,
            .cons ⟨secondTail.1, noSurrogate surrogate⟩ (.cons tail .nil)⟩
      all_goals omega
  | four lead second third fourth lower upper inRange tail lastTail =>
      have notShort := inRange.notShortFour
      have inUnicode := inRange.inUnicode
      have secondTail := inRange.tail
      rw [if_neg (by omega), if_neg (by omega), if_neg (by omega),
        if_neg (by omega)]
      split_ifs with short plain last
      · exact
          ⟨_, rfl,
            .cons ⟨notShort short, secondTail.2⟩
              (.cons tail (.cons lastTail .nil))⟩
      · exact ⟨_, rfl, .cons secondTail (.cons tail (.cons lastTail .nil))⟩
      · exact
          ⟨_, rfl,
            .cons ⟨secondTail.1, inUnicode last⟩
              (.cons tail (.cons lastTail .nil))⟩
      · omega

/-! ## Escapes -/

/-- Four digits are read. -/
theorem getCodepoint_hex4 {lexer : Lexer Number} {value : Nat}
    {rest : ByteString} (small : value < 65536)
    (unread : lexer.Unread (hex4 value ++ rest)) :
    ∃ next,
      lexer.getCodepoint = (some value, next) ∧
        next.Unread rest ∧
        next.tokenBuffer = lexer.tokenBuffer := by
  have digit : ∀ number,
      hexDigitValue (some (lowerHexDigit (number % 16))) =
        some (number % 16) :=
    fun number => hexDigitValue_lowerHexDigit _ (Nat.mod_lt _ (by decide))
  rcases unread.get with ⟨first, unread⟩
  rcases unread.get with ⟨second, unread⟩
  rcases unread.get with ⟨third, unread⟩
  rcases unread.get with ⟨fourth, unread⟩
  refine ⟨_, ?_, unread, rfl⟩
  simp only [getCodepoint, getCodepointFrom, first, second, third, fourth,
    digit, Nat.shiftLeft_eq]
  congr 2
  omega

/-- A character that is read from its escape. -/
def ReadsAs (lexer : Lexer Number) (rest : ByteString) (bytes : ByteString) :
    Prop :=
  ∃ next,
    lexer.scanCharacter = (none, next) ∧
      next.Unread rest ∧
      next.tokenBuffer = lexer.tokenBuffer ++ bytes

/-- An escape behind its backslash. -/
theorem readsAs_escape {lexer : Lexer Number}
    {escaped rest bytes : ByteString}
    (unread : lexer.Unread (92 :: escaped))
    (escape : ∀ before : Lexer Number,
      before.Unread escaped →
        ∃ next,
          before.scanEscape = (none, next) ∧
            next.Unread rest ∧
            next.tokenBuffer = before.tokenBuffer ++ bytes) :
    lexer.ReadsAs rest bytes := by
  rcases unread.get with ⟨backslash, behind⟩
  rcases escape lexer.get behind with ⟨next, scanned, after, buffer⟩
  refine ⟨next, ?_, after, buffer⟩
  rw [scanCharacter, backslash]
  dsimp only
  rw [if_neg (by decide), if_pos rfl]
  exact scanned

/-- An escape of one letter. -/
theorem readsAs_letter {lexer : Lexer Number} {code byte : UInt8}
    {rest : ByteString}
    (unread : lexer.Unread (92 :: code :: rest))
    (letter : ∀ before : Lexer Number,
      before.get.current = some code →
        before.scanEscape = (none, before.get.add byte)) :
    lexer.ReadsAs rest [byte] := by
  apply readsAs_escape unread
  intro before behind
  rcases behind.get with ⟨current, after⟩
  exact ⟨_, letter before current, after.add byte, rfl⟩

/-- A plain character. -/
theorem readsAs_plain {lexer : Lexer Number} {byte : UInt8}
    {rest : ByteString}
    (unread : lexer.Unread (byte :: rest)) (notQuote : byte ≠ 34)
    (notBackslash : byte ≠ 92) (notControl : ¬ byte ≤ 0x1F)
    (ascii : byte ≤ 0x7F) : lexer.ReadsAs rest [byte] := by
  rcases unread.get with ⟨current, behind⟩
  refine ⟨_, ?_, behind.add byte, rfl⟩
  rw [scanCharacter, current]
  dsimp only
  rw [if_neg notQuote, if_neg notBackslash, if_neg notControl, if_pos ascii,
    addCurrent, current]
  rfl

/-- A character beyond ASCII. -/
theorem readsAs_beyond {lexer : Lexer Number} {lead : UInt8}
    {bytes rest : ByteString} {point : Nat}
    (sequence : Utf8Sequence (lead :: bytes) point)
    (beyond : 0x80 ≤ lead.toNat)
    (unread : lexer.Unread (lead :: bytes ++ rest)) :
    lexer.ReadsAs rest (lead :: bytes) := by
  rcases inRanges_of_sequence sequence beyond with ⟨ranges, found, inRanges⟩
  rcases unread.get with ⟨current, behind⟩
  rcases nextBytesInRange_read inRanges (behind.add lead) with
    ⟨next, scanned, after, buffer⟩
  refine ⟨next, ?_, after, ?_⟩
  · have notSmall : ∀ bound : UInt8, bound.toNat < 0x80 → ¬ lead ≤ bound := by
      intro bound small low
      rw [UInt8.le_iff_toNat_le] at low
      omega
    have differ : ∀ bound : UInt8, bound.toNat < 0x80 → lead ≠ bound := by
      rintro bound small rfl
      omega
    rw [scanCharacter, current]
    dsimp only
    rw [if_neg (differ 34 (by decide)), if_neg (differ 92 (by decide)),
      if_neg (notSmall 0x1F (by decide)), if_neg (notSmall 0x7F (by decide)),
      found]
    dsimp only
    rw [nextByteInRange, addCurrent, current]
    exact scanned
  · rw [buffer, tokenBuffer_add, tokenBuffer_get, List.append_assoc]
    rfl

/-- What an ASCII character is written as is read as the character. -/
theorem readsAs_ascii {lexer : Lexer Number} {byte : UInt8}
    {rest : ByteString} (ascii : byte.toNat < 0x80)
    (unread :
      lexer.Unread
        (escapeCodepoint (UInt32.ofNat byte.toNat) byte ++ rest)) :
    lexer.ReadsAs rest [byte] := by
  have number : (UInt32.ofNat byte.toNat).toNat = byte.toNat :=
    Nat.mod_eq_of_lt (by omega)
  have same : ∀ {control : UInt32},
      UInt32.ofNat byte.toNat = control → byte = UInt8.ofNat control.toNat := by
    rintro control rfl
    rw [number, UInt8.ofNat_toNat]
  unfold escapeCodepoint at unread
  split_ifs at unread with backspace tab line form carriage quote backslash
    control
  · rw [same backspace]
    exact readsAs_letter unread fun before read => by rw [scanEscape, read]; rfl
  · rw [same tab]
    exact readsAs_letter unread fun before read => by rw [scanEscape, read]; rfl
  · rw [same line]
    exact readsAs_letter unread fun before read => by rw [scanEscape, read]; rfl
  · rw [same form]
    exact readsAs_letter unread fun before read => by rw [scanEscape, read]; rfl
  · rw [same carriage]
    exact readsAs_letter unread fun before read => by rw [scanEscape, read]; rfl
  · rw [same quote]
    exact readsAs_letter unread fun before read => by rw [scanEscape, read]; rfl
  · rw [same backslash]
    exact readsAs_letter unread fun before read => by rw [scanEscape, read]; rfl
  · have low : byte.toNat ≤ 0x1F := by
      rw [← number]
      exact control
    rw [number, List.append_assoc] at unread
    apply readsAs_escape unread
    intro before behind
    rcases behind.get with ⟨current, digits⟩
    rcases getCodepoint_hex4 (by omega) digits with
      ⟨next, scanned, after, buffer⟩
    refine ⟨next.add byte, ?_, after.add byte, ?_⟩
    · have unicode : before.scanEscape = scanUnicode before.get := by
        rw [scanEscape, current]
        rfl
      rw [unicode, scanUnicode, scanned]
      dsimp only
      rw [if_neg (by omega), if_neg (by omega), addCodepoint,
        if_pos ascii, UInt8.ofNat_toNat]
    · rw [tokenBuffer_add, buffer]
      rfl
  · have differ : ∀ plain : UInt8,
        UInt32.ofNat byte.toNat ≠ UInt32.ofNat plain.toNat → byte ≠ plain := by
      rintro plain apart rfl
      exact apart rfl
    apply readsAs_plain unread (differ 34 quote) (differ 92 backslash)
    · rw [UInt32.le_iff_toNat_le, number] at control
      rw [UInt8.le_iff_toNat_le]
      exact control
    · rw [UInt8.le_iff_toNat_le]
      exact Nat.le_of_lt_succ ascii

/-- What a character is written as is read as the character. -/
theorem readsAs_escapedChar {lexer : Lexer Number} {character : Char}
    {rest : ByteString}
    (unread : lexer.Unread (escapedChar character ++ rest)) :
    lexer.ReadsAs rest (String.utf8EncodeChar character) := by
  have sequence := utf8Sequence_utf8EncodeChar character
  rw [escapedChar, escapedSequence] at unread
  generalize String.utf8EncodeChar character = bytes at sequence unread ⊢
  generalize character.val.toNat = point at sequence unread
  rcases sequence.ascii_or_beyond with ⟨byte, rfl, rfl, ascii⟩ | ⟨beyond, all⟩
  · rw [if_pos ascii, UInt8.ofNat_toNat] at unread
    exact readsAs_ascii ascii unread
  · rw [if_neg (by omega)] at unread
    cases bytes with
    | nil => exact absurd sequence.length_pos (by simp)
    | cons lead others =>
        exact readsAs_beyond sequence (all lead List.mem_cons_self) unread

/-! ## Whole strings -/

/-- The text of a string is read as the string. -/
theorem scanCharacters_escaped {lexer : Lexer Number} {characters : List Char}
    {rest : ByteString}
    (unread :
      lexer.Unread (characters.flatMap escapedChar ++ 34 :: rest)) :
    ∃ next,
      lexer.scanCharacters = (.valueString, next) ∧
        next.Unread rest ∧
        next.tokenBuffer = lexer.tokenBuffer ++ utf8Text characters := by
  induction characters generalizing lexer with
  | nil =>
      rcases unread.get with ⟨current, behind⟩
      refine ⟨lexer.get, ?_, behind, (List.append_nil _).symm⟩
      have quote : lexer.scanCharacter = (some .valueString, lexer.get) := by
        rw [scanCharacter, current]
        rfl
      rw [scanCharacters, quote]
  | cons character characters recursive =>
      rw [List.flatMap_cons, List.append_assoc] at unread
      rcases readsAs_escapedChar unread with ⟨middle, scanned, behind, buffer⟩
      rcases recursive behind with ⟨next, rescanned, after, whole⟩
      refine ⟨next, ?_, after, ?_⟩
      · rw [scanCharacters, scanned]
        exact rescanned
      · rw [whole, buffer, utf8Text_cons, List.append_assoc]

/-- `scan_string`, behind the opening quote. -/
theorem scanString_escaped {lexer : Lexer Number} {characters : List Char}
    {rest : ByteString}
    (unread :
      lexer.Unread (characters.flatMap escapedChar ++ 34 :: rest)) :
    ∃ next,
      lexer.scanString = (.valueString, next) ∧
        next.Unread rest ∧
        next.tokenBuffer = utf8Text characters :=
  scanCharacters_escaped unread.reset

end Lexer

end IocpServer.Json
