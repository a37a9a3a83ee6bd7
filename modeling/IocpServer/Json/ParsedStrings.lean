import IocpServer.Json.StringTokens

/-!
# Every string that is read is valid UTF-8

Whatever the input is, a character `scan_string` goes on behind adds the bytes
of one character to the token buffer: its own bytes, or those of its escape.
-/

namespace IocpServer.Json.Lexer

open IocpServer.Library

variable {Number : Type}

/-- The token buffer has grown by characters. -/
def Extends (lexer next : Lexer Number) : Prop :=
  ∃ bytes, ValidUtf8 bytes ∧ next.tokenBuffer = lexer.tokenBuffer ++ bytes

theorem Extends.trans {lexer middle next : Lexer Number}
    (first : lexer.Extends middle) (second : middle.Extends next) :
    lexer.Extends next := by
  rcases first with ⟨firstBytes, firstValid, firstBuffer⟩
  rcases second with ⟨secondBytes, secondValid, secondBuffer⟩
  refine ⟨firstBytes ++ secondBytes, firstValid.append secondValid, ?_⟩
  rw [secondBuffer, firstBuffer, List.append_assoc]

theorem Extends.of_same {lexer middle next : Lexer Number}
    (further : middle.Extends next)
    (same : middle.tokenBuffer = lexer.tokenBuffer) : lexer.Extends next := by
  rcases further with ⟨bytes, valid, buffer⟩
  exact ⟨bytes, valid, by rw [buffer, same]⟩

theorem extends_sequence {lexer next : Lexer Number} {bytes : ByteString}
    {point : Nat} (sequence : Utf8Sequence bytes point)
    (buffer : next.tokenBuffer = lexer.tokenBuffer ++ bytes) :
    lexer.Extends next :=
  ⟨bytes, sequence.validUtf8, buffer⟩

theorem extends_ascii {lexer next : Lexer Number} {byte : UInt8}
    (ascii : byte.toNat < 0x80)
    (buffer : next.tokenBuffer = lexer.tokenBuffer ++ [byte]) :
    lexer.Extends next :=
  extends_sequence (.one byte ascii) buffer

/-! ## Characters beyond ASCII -/

theorem nextBytesInRange_none {ranges : List (UInt8 × UInt8)}
    {lexer next : Lexer Number}
    (scanned : nextBytesInRange ranges lexer = (none, next)) :
    ∃ bytes,
      InRanges ranges bytes ∧
        next.tokenBuffer = lexer.tokenBuffer ++ bytes := by
  induction ranges generalizing lexer with
  | nil =>
      cases scanned
      exact ⟨[], .nil, (List.append_nil _).symm⟩
  | cons range ranges recursive =>
      rw [nextBytesInRange] at scanned
      split at scanned
      · next byte read =>
          split_ifs at scanned with inRange
          · rcases recursive scanned with ⟨bytes, inRanges, buffer⟩
            refine ⟨byte :: bytes, .cons inRange inRanges, ?_⟩
            rw [buffer, addCurrent, read, tokenBuffer_add, tokenBuffer_get,
              List.append_assoc]
            rfl
          · cases scanned
      · cases scanned

/-- The bytes in the ranges of a lead byte make a character with it. -/
theorem sequence_of_inRanges {lead : UInt8} {bytes : ByteString}
    {ranges : List (UInt8 × UInt8)} (found : leadRanges lead = some ranges)
    (inRanges : InRanges ranges bytes) :
    ∃ point, Utf8Sequence (lead :: bytes) point := by
  rw [leadRanges_eq] at found
  split_ifs at found with two short plain surrogate shortFour four last
  all_goals cases found
  · rcases inRanges with _ | ⟨inRange, _ | _⟩
    exact ⟨_, .two lead _ two.1 two.2 inRange⟩
  · rcases inRanges with _ | ⟨inRange, _ | ⟨tail, _ | _⟩⟩
    refine ⟨_, .three lead _ _ (by omega) (by omega) ?_ tail⟩
    exact secondByte_of_range 0xA0 0xBF inRange
      (by omega) (by omega) (by omega) (by omega) (by omega) (by omega)
  · rcases inRanges with _ | ⟨inRange, _ | ⟨tail, _ | _⟩⟩
    refine ⟨_, .three lead _ _ (by omega) (by omega) ?_ tail⟩
    exact secondByte_of_range 0x80 0xBF inRange
      (by omega) (by omega) (by omega) (by omega) (by omega) (by omega)
  · rcases inRanges with _ | ⟨inRange, _ | ⟨tail, _ | _⟩⟩
    refine ⟨_, .three lead _ _ (by omega) (by omega) ?_ tail⟩
    exact secondByte_of_range 0x80 0x9F inRange
      (by omega) (by omega) (by omega) (by omega) (by omega) (by omega)
  · rcases inRanges with _ | ⟨inRange, _ | ⟨tail, _ | ⟨lastTail, _ | _⟩⟩⟩
    refine ⟨_, .four lead _ _ _ (by omega) (by omega) ?_ tail lastTail⟩
    exact secondByte_of_range 0x90 0xBF inRange
      (by omega) (by omega) (by omega) (by omega) (by omega) (by omega)
  · rcases inRanges with _ | ⟨inRange, _ | ⟨tail, _ | ⟨lastTail, _ | _⟩⟩⟩
    refine ⟨_, .four lead _ _ _ (by omega) (by omega) ?_ tail lastTail⟩
    exact secondByte_of_range 0x80 0xBF inRange
      (by omega) (by omega) (by omega) (by omega) (by omega) (by omega)
  · rcases inRanges with _ | ⟨inRange, _ | ⟨tail, _ | ⟨lastTail, _ | _⟩⟩⟩
    refine ⟨_, .four lead _ _ _ (by omega) (by omega) ?_ tail lastTail⟩
    exact secondByte_of_range 0x80 0x8F inRange
      (by omega) (by omega) (by omega) (by omega) (by omega) (by omega)

/-! ## Escapes -/

theorem hexDigitValue_lt {current : Option UInt8} {digit : Nat}
    (isDigit : hexDigitValue current = some digit) : digit < 16 := by
  unfold hexDigitValue at isDigit
  split at isDigit
  · next byte =>
      simp only [UInt8.le_iff_toNat_le] at isDigit
      split_ifs at isDigit with decimal upper lower
      · cases isDigit
        have bound : byte.toNat ≤ 57 := decimal.2
        omega
      · cases isDigit
        have bound : byte.toNat ≤ 70 := upper.2
        omega
      · cases isDigit
        have bound : byte.toNat ≤ 102 := lower.2
        omega
  · cases isDigit

/-- Each digit is added in its place. -/
theorem getCodepointFrom_some {factors : List Nat} {codepoint value : Nat}
    {lexer next : Lexer Number}
    (scanned :
      getCodepointFrom factors codepoint lexer = (some value, next)) :
    next.tokenBuffer = lexer.tokenBuffer ∧
      value ≤
        codepoint + factors.foldr (fun factor sum => 15 <<< factor + sum) 0 := by
  induction factors generalizing codepoint lexer with
  | nil =>
      cases scanned
      exact ⟨rfl, le_refl _⟩
  | cons factor factors recursive =>
      rw [getCodepointFrom] at scanned
      split at scanned
      · next digit isDigit =>
          rcases recursive scanned with ⟨buffer, bound⟩
          have small := hexDigitValue_lt isDigit
          have place : digit <<< factor ≤ 15 <<< factor := by
            rw [Nat.shiftLeft_eq, Nat.shiftLeft_eq]
            exact Nat.mul_le_mul_right _ (by omega)
          refine ⟨buffer, ?_⟩
          rw [List.foldr_cons]
          omega
      · cases scanned

theorem getCodepoint_some {value : Nat} {lexer next : Lexer Number}
    (scanned : lexer.getCodepoint = (some value, next)) :
    next.tokenBuffer = lexer.tokenBuffer ∧ value < 0x10000 := by
  rcases getCodepointFrom_some scanned with ⟨buffer, bound⟩
  have sum :
      [12, 8, 4, 0].foldr (fun factor sum => 15 <<< factor + sum) 0 =
        65535 := by
    decide
  exact ⟨buffer, by omega⟩

/-- The bits of a tail byte. -/
theorem tail_bits (value : Nat) :
    0x80 ||| value &&& 0x3F = 0x80 + value % 64 := by
  have mask := Nat.and_two_pow_sub_one_eq_mod value 6
  have small : value % 64 < 2 ^ 6 := Nat.mod_lt _ (by decide)
  have disjoint := Nat.two_pow_add_eq_or_of_lt small 2
  rw [show (0x3F : Nat) = 2 ^ 6 - 1 from rfl, mask]
  exact disjoint.symm

/-- The bits of a lead byte. -/
theorem lead_bits_add (shift high : Nat) {value : Nat} (small : value < 2 ^ shift) :
    2 ^ shift * high ||| value = 2 ^ shift * high + value :=
  (Nat.two_pow_add_eq_or_of_lt small high).symm

theorem tail_ofNat (value : Nat) :
    Tail (UInt8.ofNat (0x80 + value % 64)) ∧
      (UInt8.ofNat (0x80 + value % 64)).toNat = 0x80 + value % 64 := by
  have number : (UInt8.ofNat (0x80 + value % 64)).toNat = 0x80 + value % 64 :=
    toNat_ofNat_byte (by omega)
  refine ⟨?_, number⟩
  rw [Tail, number]
  omega

/-- A code point that is no surrogate is added as its character. -/
theorem extends_addCodepoint (lexer : Lexer Number) {codepoint : Nat}
    (valid : codepoint < 0xD800 ∨ 0xDFFF < codepoint ∧ codepoint < 0x110000) :
    lexer.Extends (lexer.addCodepoint codepoint) := by
  unfold addCodepoint
  split_ifs with one two three
  · have number : (UInt8.ofNat codepoint).toNat = codepoint :=
      toNat_ofNat_byte (by omega)
    exact extends_ascii (by omega) rfl
  · have lead : 0xC0 ||| codepoint >>> 6 = 0xC0 + codepoint / 64 := by
      rw [Nat.shiftRight_eq_div_pow]
      exact lead_bits_add 6 3 (by omega)
    have leadNumber :
        (UInt8.ofNat (0xC0 + codepoint / 64)).toNat = 0xC0 + codepoint / 64 :=
      toNat_ofNat_byte (by omega)
    rcases tail_ofNat codepoint with ⟨tail, -⟩
    rw [lead, tail_bits]
    exact
      extends_sequence
        (.two (UInt8.ofNat (0xC0 + codepoint / 64)) _ (by omega) (by omega) tail)
        (by simp only [tokenBuffer_add, List.append_assoc]; rfl)
  · have lead : 0xE0 ||| codepoint >>> 12 = 0xE0 + codepoint / 4096 := by
      rw [Nat.shiftRight_eq_div_pow]
      exact lead_bits_add 5 7 (by omega)
    have leadNumber :
        (UInt8.ofNat (0xE0 + codepoint / 4096)).toNat =
          0xE0 + codepoint / 4096 :=
      toNat_ofNat_byte (by omega)
    have shifted : codepoint >>> 6 = codepoint / 64 :=
      Nat.shiftRight_eq_div_pow codepoint 6
    rcases tail_ofNat (codepoint / 64) with ⟨secondTail, second⟩
    rcases tail_ofNat codepoint with ⟨tail, -⟩
    rw [lead, shifted, tail_bits, tail_bits]
    refine
      extends_sequence
        (.three (UInt8.ofNat (0xE0 + codepoint / 4096)) _ _ (by omega)
          (by omega) ?_ tail)
        (by simp only [tokenBuffer_add, List.append_assoc]; rfl)
    constructor
    · exact secondTail
    all_goals omega
  · have lead : 0xF0 ||| codepoint >>> 18 = 0xF0 + codepoint / 262144 := by
      rw [Nat.shiftRight_eq_div_pow]
      exact lead_bits_add 4 15 (by omega)
    have leadNumber :
        (UInt8.ofNat (0xF0 + codepoint / 262144)).toNat =
          0xF0 + codepoint / 262144 :=
      toNat_ofNat_byte (by omega)
    have shifted : codepoint >>> 12 = codepoint / 4096 :=
      Nat.shiftRight_eq_div_pow codepoint 12
    have shiftedThird : codepoint >>> 6 = codepoint / 64 :=
      Nat.shiftRight_eq_div_pow codepoint 6
    rcases tail_ofNat (codepoint / 4096) with ⟨secondTail, second⟩
    rcases tail_ofNat (codepoint / 64) with ⟨thirdTail, -⟩
    rcases tail_ofNat codepoint with ⟨tail, -⟩
    rw [lead, shifted, shiftedThird, tail_bits, tail_bits, tail_bits]
    refine
      extends_sequence
        (.four (UInt8.ofNat (0xF0 + codepoint / 262144)) _ _ _ (by omega)
          (by omega) ?_ thirdTail tail)
        (by simp only [tokenBuffer_add, List.append_assoc]; rfl)
    constructor
    · exact secondTail
    all_goals omega

theorem extends_scanLowSurrogate {codepoint1 : Nat}
    {lexer next : Lexer Number}
    (high : 0xD800 ≤ codepoint1 ∧ codepoint1 ≤ 0xDBFF)
    (scanned : scanLowSurrogate codepoint1 lexer = (none, next)) :
    lexer.Extends next := by
  rw [scanLowSurrogate] at scanned
  split_ifs at scanned with backslash unicode
  · cases scanned
  · cases scanned
  split at scanned
  · cases scanned
  · next codepoint2 behind read =>
      rcases getCodepoint_some read with ⟨buffer, -⟩
      split_ifs at scanned with low
      · have valid :
            codepoint1 <<< 10 + codepoint2 - 0x35FDC00 < 0xD800 ∨
              0xDFFF < codepoint1 <<< 10 + codepoint2 - 0x35FDC00 ∧
                codepoint1 <<< 10 + codepoint2 - 0x35FDC00 < 0x110000 := by
          rw [Nat.shiftLeft_eq]
          omega
        generalize codepoint1 <<< 10 + codepoint2 - 0x35FDC00 = codepoint
          at scanned valid
        cases scanned
        exact (extends_addCodepoint behind valid).of_same buffer
      · cases scanned

theorem extends_scanUnicode {lexer next : Lexer Number}
    (scanned : lexer.scanUnicode = (none, next)) : lexer.Extends next := by
  rw [scanUnicode] at scanned
  split at scanned
  · cases scanned
  · next codepoint1 behind read =>
      rcases getCodepoint_some read with ⟨buffer, bound⟩
      split_ifs at scanned with high low
      · exact (extends_scanLowSurrogate high scanned).of_same buffer
      · cases scanned
      · cases scanned
        exact (extends_addCodepoint behind (by omega)).of_same buffer

/-- An escape adds the bytes of one character. -/
theorem extends_scanEscape {lexer next : Lexer Number}
    (scanned : lexer.scanEscape = (none, next)) : lexer.Extends next := by
  unfold scanEscape at scanned
  split at scanned
  case h_9 => exact (extends_scanUnicode scanned).of_same rfl
  case h_10 => cases scanned
  all_goals
    cases scanned
    exact extends_ascii (by decide) rfl

/-! ## Whole strings -/

/-- A character of a string adds its bytes, or those of its escape. -/
theorem extends_scanCharacter {lexer next : Lexer Number}
    (scanned : lexer.scanCharacter = (none, next)) : lexer.Extends next := by
  rw [scanCharacter] at scanned
  split at scanned
  · cases scanned
  · next byte read =>
      split_ifs at scanned with quote backslash control ascii
      · cases scanned
      · exact (extends_scanEscape scanned).of_same rfl
      · cases scanned
      · cases scanned
        rw [addCurrent, read]
        rw [UInt8.le_iff_toNat_le] at ascii
        exact extends_ascii (Nat.lt_succ_of_le ascii) rfl
      · split at scanned
        · next ranges found =>
            rw [nextByteInRange, addCurrent, read] at scanned
            rcases nextBytesInRange_none scanned with
              ⟨bytes, inRanges, buffer⟩
            rcases sequence_of_inRanges found inRanges with ⟨point, sequence⟩
            apply extends_sequence sequence
            rw [buffer, Option.getD_some, tokenBuffer_add, tokenBuffer_get,
              List.append_assoc]
            rfl
        · cases scanned

theorem nextBytesInRange_token {ranges : List (UInt8 × UInt8)}
    {lexer : Lexer Number} {token : TokenType}
    (scanned : (nextBytesInRange ranges lexer).1 = some token) :
    token = .parseError := by
  induction ranges generalizing lexer with
  | nil => cases scanned
  | cons range ranges recursive =>
      rw [nextBytesInRange] at scanned
      split at scanned
      · split_ifs at scanned
        · exact recursive scanned
        · exact (Option.some.inj scanned).symm
      · exact (Option.some.inj scanned).symm

theorem scanLowSurrogate_token {codepoint1 : Nat} {lexer : Lexer Number}
    {token : TokenType}
    (scanned : (scanLowSurrogate codepoint1 lexer).1 = some token) :
    token = .parseError := by
  rw [scanLowSurrogate] at scanned
  split_ifs at scanned
  · exact (Option.some.inj scanned).symm
  · exact (Option.some.inj scanned).symm
  · split at scanned
    · exact (Option.some.inj scanned).symm
    · split_ifs at scanned
      exact (Option.some.inj scanned).symm

theorem scanUnicode_token {lexer : Lexer Number} {token : TokenType}
    (scanned : lexer.scanUnicode.1 = some token) : token = .parseError := by
  rw [scanUnicode] at scanned
  split at scanned
  · exact (Option.some.inj scanned).symm
  · split_ifs at scanned
    · exact scanLowSurrogate_token scanned
    · exact (Option.some.inj scanned).symm

theorem scanEscape_token {lexer : Lexer Number} {token : TokenType}
    (scanned : lexer.scanEscape.1 = some token) : token = .parseError := by
  unfold scanEscape at scanned
  split at scanned
  case h_9 => exact scanUnicode_token scanned
  case h_10 => exact (Option.some.inj scanned).symm
  all_goals cases scanned

/-- The character that ends a string is its closing quote. -/
theorem scanCharacter_token {lexer next : Lexer Number} {token : TokenType}
    (scanned : lexer.scanCharacter = (some token, next)) :
    token = .parseError ∨
      token = .valueString ∧ next.tokenBuffer = lexer.tokenBuffer := by
  rw [scanCharacter] at scanned
  split at scanned
  · cases scanned
    exact .inl rfl
  · split_ifs at scanned with quote backslash control ascii
    · cases scanned
      exact .inr ⟨rfl, rfl⟩
    · exact .inl (scanEscape_token (congrArg Prod.fst scanned))
    · cases scanned
      exact .inl rfl
    · cases scanned
    · split at scanned
      · exact .inl (nextBytesInRange_token (congrArg Prod.fst scanned))
      · cases scanned
        exact .inl rfl

theorem extends_scanCharacters {lexer next : Lexer Number}
    (scanned : lexer.scanCharacters = (.valueString, next)) :
    lexer.Extends next := by
  fun_induction scanCharacters lexer with
  | case1 lexer token behind read =>
      cases scanned
      rcases scanCharacter_token read with error | ⟨-, buffer⟩
      · cases error
      · exact ⟨[], validUtf8_nil, by rw [List.append_nil, buffer]⟩
  | case2 lexer behind read recursive =>
      exact (extends_scanCharacter read).trans (recursive scanned)

/-- A string that is read is valid UTF-8. -/
theorem validUtf8_scanString {lexer next : Lexer Number}
    (scanned : lexer.scanString = (.valueString, next)) :
    ValidUtf8 next.tokenBuffer := by
  rcases extends_scanCharacters scanned with ⟨bytes, valid, buffer⟩
  rw [buffer]
  exact valid

end IocpServer.Json.Lexer
