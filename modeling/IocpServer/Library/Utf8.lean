import IocpServer.Library.ByteStrings
import Mathlib.Tactic.SplitIfs
import Mathlib.Tactic.Convert

/-!
# UTF-8

Bytes are valid UTF-8 if they are some characters, each encoded by
`String.utf8EncodeChar`.  `Utf8Sequence` has the encodings of one character by
their bytes: a lead byte, a second byte whose range depends on it, and further
tail bytes.
-/

namespace IocpServer.Library

/-- Characters in UTF-8. -/
def utf8Text (characters : List Char) : ByteString :=
  characters.flatMap String.utf8EncodeChar

/-- The bytes are characters in UTF-8. -/
def ValidUtf8 (bytes : ByteString) : Prop :=
  ∃ characters, utf8Text characters = bytes

@[simp]
theorem utf8Text_nil : utf8Text [] = [] :=
  rfl

@[simp]
theorem utf8Text_cons (character : Char) (characters : List Char) :
    utf8Text (character :: characters) =
      String.utf8EncodeChar character ++ utf8Text characters :=
  rfl

theorem utf8Text_append (first second : List Char) :
    utf8Text (first ++ second) = utf8Text first ++ utf8Text second :=
  List.flatMap_append

theorem validUtf8_nil : ValidUtf8 [] :=
  ⟨[], rfl⟩

theorem ValidUtf8.append {first second : ByteString}
    (firstValid : ValidUtf8 first) (secondValid : ValidUtf8 second) :
    ValidUtf8 (first ++ second) := by
  rcases firstValid with ⟨firstChars, rfl⟩
  rcases secondValid with ⟨secondChars, rfl⟩
  exact ⟨firstChars ++ secondChars, utf8Text_append firstChars secondChars⟩

theorem validUtf8_utf8EncodeChar (character : Char) :
    ValidUtf8 (String.utf8EncodeChar character) :=
  ⟨[character], List.append_nil _⟩

/-! ## One character by its bytes -/

/-- A byte behind the first one of a character. -/
def Tail (byte : UInt8) : Prop :=
  0x80 ≤ byte.toNat ∧ byte.toNat ≤ 0xBF

/-- A second byte behind a lead byte: no overlong form, no surrogate. -/
structure SecondByte (lead byte : UInt8) : Prop where
  tail : Tail byte
  notShortThree : lead.toNat = 0xE0 → 0xA0 ≤ byte.toNat
  noSurrogate : lead.toNat = 0xED → byte.toNat ≤ 0x9F
  notShortFour : lead.toNat = 0xF0 → 0x90 ≤ byte.toNat
  inUnicode : lead.toNat = 0xF4 → byte.toNat ≤ 0x8F

/-- The bytes of one character, with its code point. -/
inductive Utf8Sequence : ByteString → Nat → Prop where
  | one (byte : UInt8) (ascii : byte.toNat < 0x80) :
      Utf8Sequence [byte] byte.toNat
  | two (lead second : UInt8)
      (lower : 0xC2 ≤ lead.toNat) (upper : lead.toNat ≤ 0xDF)
      (tail : Tail second) :
      Utf8Sequence [lead, second]
        ((lead.toNat - 0xC0) * 64 + (second.toNat - 0x80))
  | three (lead second third : UInt8)
      (lower : 0xE0 ≤ lead.toNat) (upper : lead.toNat ≤ 0xEF)
      (inRange : SecondByte lead second) (tail : Tail third) :
      Utf8Sequence [lead, second, third]
        (((lead.toNat - 0xE0) * 64 + (second.toNat - 0x80)) * 64 +
          (third.toNat - 0x80))
  | four (lead second third fourth : UInt8)
      (lower : 0xF0 ≤ lead.toNat) (upper : lead.toNat ≤ 0xF4)
      (inRange : SecondByte lead second)
      (tail : Tail third) (lastTail : Tail fourth) :
      Utf8Sequence [lead, second, third, fourth]
        ((((lead.toNat - 0xF0) * 64 + (second.toNat - 0x80)) * 64 +
            (third.toNat - 0x80)) * 64 +
          (fourth.toNat - 0x80))

theorem Utf8Sequence.length_pos {bytes : ByteString} {point : Nat}
    (sequence : Utf8Sequence bytes point) : 0 < bytes.length := by
  cases sequence <;> simp

/-- A character is one ASCII byte, or all of its bytes are beyond ASCII. -/
theorem Utf8Sequence.ascii_or_beyond {bytes : ByteString} {point : Nat}
    (sequence : Utf8Sequence bytes point) :
    (∃ byte : UInt8,
      bytes = [byte] ∧ point = byte.toNat ∧ byte.toNat < 0x80) ∨
      0x80 ≤ point ∧ ∀ byte ∈ bytes, 0x80 ≤ byte.toNat := by
  cases sequence with
  | one byte ascii => exact .inl ⟨byte, rfl, rfl, ascii⟩
  | two lead second lower upper tail =>
      rw [Tail] at tail
      refine .inr ⟨by omega, ?_⟩
      simp only [List.forall_mem_cons, List.not_mem_nil, false_implies,
        implies_true, and_true]
      omega
  | three lead second third lower upper inRange tail =>
      have notShort := inRange.notShortThree
      have secondTail := inRange.tail
      rw [Tail] at tail secondTail
      refine .inr ⟨by omega, ?_⟩
      simp only [List.forall_mem_cons, List.not_mem_nil, false_implies,
        implies_true, and_true]
      omega
  | four lead second third fourth lower upper inRange tail lastTail =>
      have notShort := inRange.notShortFour
      have secondTail := inRange.tail
      rw [Tail] at tail lastTail secondTail
      refine .inr ⟨by omega, ?_⟩
      simp only [List.forall_mem_cons, List.not_mem_nil, false_implies,
        implies_true, and_true]
      omega

/-- The number of a byte that is made of a small number. -/
theorem toNat_ofNat_byte {number : Nat} (small : number < 256) :
    (UInt8.ofNat number).toNat = number :=
  UInt8.toNat_ofNat_of_lt' small

/-- The code points of characters. -/
theorem toNat_val_cases (character : Char) :
    character.val.toNat < 0xD800 ∨
      0xDFFF < character.val.toNat ∧ character.val.toNat < 0x110000 :=
  character.valid

/-- The encoding of a character has its bytes in the ranges. -/
theorem utf8Sequence_utf8EncodeChar (character : Char) :
    Utf8Sequence (String.utf8EncodeChar character)
      character.val.toNat := by
  have valid := toNat_val_cases character
  simp only [String.utf8EncodeChar]
  generalize character.val.toNat = point at valid ⊢
  split_ifs with one two three
  · have number : (UInt8.ofNat point).toNat = point :=
      toNat_ofNat_byte (by omega)
    have sequence := Utf8Sequence.one (UInt8.ofNat point) (by omega)
    rw [number] at sequence
    exact sequence
  · have lead := toNat_ofNat_byte (show point / 64 % 0x20 + 0xc0 < 256 by omega)
    have second := toNat_ofNat_byte (show point % 0x40 + 0x80 < 256 by omega)
    have sequence :=
      Utf8Sequence.two (UInt8.ofNat (point / 64 % 0x20 + 0xc0))
        (UInt8.ofNat (point % 0x40 + 0x80)) (by omega) (by omega)
        (by rw [Tail]; omega)
    rw [lead, second] at sequence
    convert sequence using 1
    omega
  · have lead :=
      toNat_ofNat_byte (show point / 4096 % 0x10 + 0xe0 < 256 by omega)
    have second :=
      toNat_ofNat_byte (show point / 64 % 0x40 + 0x80 < 256 by omega)
    have third := toNat_ofNat_byte (show point % 0x40 + 0x80 < 256 by omega)
    have sequence :=
      Utf8Sequence.three (UInt8.ofNat (point / 4096 % 0x10 + 0xe0))
        (UInt8.ofNat (point / 64 % 0x40 + 0x80))
        (UInt8.ofNat (point % 0x40 + 0x80)) (by omega) (by omega)
        (by
          constructor
          · rw [Tail]
            omega
          all_goals omega)
        (by rw [Tail]; omega)
    rw [lead, second, third] at sequence
    convert sequence using 1
    omega
  · have lead :=
      toNat_ofNat_byte (show point / 262144 % 0x08 + 0xf0 < 256 by omega)
    have second :=
      toNat_ofNat_byte (show point / 4096 % 0x40 + 0x80 < 256 by omega)
    have third :=
      toNat_ofNat_byte (show point / 64 % 0x40 + 0x80 < 256 by omega)
    have fourth := toNat_ofNat_byte (show point % 0x40 + 0x80 < 256 by omega)
    have sequence :=
      Utf8Sequence.four (UInt8.ofNat (point / 262144 % 0x08 + 0xf0))
        (UInt8.ofNat (point / 4096 % 0x40 + 0x80))
        (UInt8.ofNat (point / 64 % 0x40 + 0x80))
        (UInt8.ofNat (point % 0x40 + 0x80)) (by omega) (by omega)
        (by
          constructor
          · rw [Tail]
            omega
          all_goals omega)
        (by rw [Tail]; omega) (by rw [Tail]; omega)
    rw [lead, second, third, fourth] at sequence
    convert sequence using 1
    omega

/-- A byte is the one made of its number. -/
theorem ofNat_eq_byte (byte : UInt8) {number : Nat}
    (same : number = byte.toNat) : UInt8.ofNat number = byte := by
  rw [same]
  exact UInt8.ofNat_toNat

/-- A character with a code point. -/
theorem char_of_point (point : Nat)
    (valid : point < 0xD800 ∨ 0xDFFF < point ∧ point < 0x110000) :
    ∃ character : Char, character.val.toNat = point := by
  refine ⟨⟨UInt32.ofNat point, ?_⟩, ?_⟩
  · change point % 2 ^ 32 < 0xD800 ∨ _
    rw [Nat.mod_eq_of_lt (by omega)]
    change _ ∨ 0xDFFF < point % 2 ^ 32 ∧ point % 2 ^ 32 < 0x110000
    rw [Nat.mod_eq_of_lt (by omega)]
    exact valid
  · change point % 2 ^ 32 = point
    exact Nat.mod_eq_of_lt (by omega)

/-- Bytes in the ranges are the encoding of a character. -/
theorem Utf8Sequence.exists_char {bytes : ByteString} {point : Nat}
    (sequence : Utf8Sequence bytes point) :
    ∃ character : Char,
      character.val.toNat = point ∧
        String.utf8EncodeChar character = bytes := by
  cases sequence with
  | one byte ascii =>
      rcases char_of_point byte.toNat (.inl (by omega)) with
        ⟨character, same⟩
      refine ⟨character, same, ?_⟩
      simp only [String.utf8EncodeChar, same]
      rw [if_pos (by omega), ofNat_eq_byte byte rfl]
  | two lead second lower upper tail =>
      rw [Tail] at tail
      rcases char_of_point
          ((lead.toNat - 0xC0) * 64 + (second.toNat - 0x80))
          (.inl (by omega)) with
        ⟨character, same⟩
      refine ⟨character, same, ?_⟩
      simp only [String.utf8EncodeChar, same]
      rw [if_neg (by omega), if_pos (by omega),
        ofNat_eq_byte lead (by omega),
        ofNat_eq_byte second (by omega)]
  | three lead second third lower upper inRange tail =>
      have secondTail := inRange.tail
      have notShort := inRange.notShortThree
      have noSurrogate := inRange.noSurrogate
      rw [Tail] at tail secondTail
      rcases char_of_point
          (((lead.toNat - 0xE0) * 64 + (second.toNat - 0x80)) * 64 +
              (third.toNat - 0x80))
          (by omega) with
        ⟨character, same⟩
      refine ⟨character, same, ?_⟩
      simp only [String.utf8EncodeChar, same]
      rw [if_neg (by omega), if_neg (by omega), if_pos (by omega),
        ofNat_eq_byte lead (by omega),
        ofNat_eq_byte second (by omega),
        ofNat_eq_byte third (by omega)]
  | four lead second third fourth lower upper inRange tail lastTail =>
      have secondTail := inRange.tail
      have notShort := inRange.notShortFour
      have inUnicode := inRange.inUnicode
      rw [Tail] at tail secondTail lastTail
      rcases char_of_point
          ((((lead.toNat - 0xF0) * 64 + (second.toNat - 0x80)) * 64 +
                (third.toNat - 0x80)) * 64 +
              (fourth.toNat - 0x80))
          (by omega) with
        ⟨character, same⟩
      refine ⟨character, same, ?_⟩
      simp only [String.utf8EncodeChar, same]
      rw [if_neg (by omega), if_neg (by omega), if_neg (by omega),
        ofNat_eq_byte lead (by omega),
        ofNat_eq_byte second (by omega),
        ofNat_eq_byte third (by omega),
        ofNat_eq_byte fourth (by omega)]

theorem Utf8Sequence.validUtf8 {bytes : ByteString} {point : Nat}
    (sequence : Utf8Sequence bytes point) : ValidUtf8 bytes := by
  rcases sequence.exists_char with ⟨character, -, rfl⟩
  exact validUtf8_utf8EncodeChar character

end IocpServer.Library
