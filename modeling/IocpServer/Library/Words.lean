import Mathlib.Tactic.Common

/-!
# 32-bit words as bytes

`wordBytes` lists the bytes of a word from the least significant one on, as
a little-endian machine stores it, and `bytesWord` reads such a list back.
`byteSwap` reverses the order of the bytes.
-/

namespace IocpServer.Library

/-- The four bytes of a word, least significant first. -/
def wordBytes (word : UInt32) : List UInt8 :=
  [UInt8.ofNat word.toNat,
    UInt8.ofNat (word.toNat / 256),
    UInt8.ofNat (word.toNat / 65536),
    UInt8.ofNat (word.toNat / 16777216)]

/-- The word stored in a list of bytes, least significant first. -/
def bytesWord (bytes : List UInt8) : UInt32 :=
  UInt32.ofNat
    (bytes.foldr (fun byte higher => byte.toNat + 256 * higher) 0)

/-- The word whose bytes are those of `word` in the opposite order. -/
def byteSwap (word : UInt32) : UInt32 :=
  bytesWord (wordBytes word).reverse

@[simp]
theorem wordBytes_length (word : UInt32) :
    (wordBytes word).length = 4 :=
  rfl

@[simp]
theorem bytesWord_wordBytes (word : UInt32) :
    bytesWord (wordBytes word) = word := by
  apply UInt32.toNat_inj.mp
  have bound := word.toNat_lt
  simp only [bytesWord, wordBytes, List.foldr_cons, List.foldr_nil,
    UInt8.toNat_ofNat', UInt32.toNat_ofNat']
  omega

/-- Reading four bytes and storing the word gives the bytes back. -/
theorem wordBytes_bytesWord
    {bytes : List UInt8} (four : bytes.length = 4) :
    wordBytes (bytesWord bytes) = bytes := by
  match bytes, four with
  | [first, second, third, fourth], _ =>
      have firstBound := first.toNat_lt
      have secondBound := second.toNat_lt
      have thirdBound := third.toNat_lt
      have fourthBound := fourth.toNat_lt
      simp only [wordBytes, bytesWord, List.foldr_cons, List.foldr_nil,
        UInt32.toNat_ofNat', List.cons.injEq, and_true]
      refine ⟨?_, ?_, ?_, ?_⟩
      all_goals
        apply UInt8.toNat_inj.mp
        rw [UInt8.toNat_ofNat']
        omega

/-- Swapping the bytes of a word reverses its byte list. -/
@[simp]
theorem wordBytes_byteSwap (word : UInt32) :
    wordBytes (byteSwap word) = (wordBytes word).reverse :=
  wordBytes_bytesWord rfl

@[simp]
theorem byteSwap_byteSwap (word : UInt32) :
    byteSwap (byteSwap word) = word := by
  rw [byteSwap, wordBytes_byteSwap, List.reverse_reverse,
    bytesWord_wordBytes]

/-- Four bytes read as the swapped word are those of the word, reversed. -/
theorem byteSwap_bytesWord_eq_iff
    {bytes : List UInt8} (four : bytes.length = 4) (word : UInt32) :
    byteSwap (bytesWord bytes) = word ↔
      bytes = (wordBytes word).reverse := by
  constructor
  · rintro rfl
    rw [wordBytes_byteSwap, List.reverse_reverse,
      wordBytes_bytesWord four]
  · rintro rfl
    rw [← wordBytes_byteSwap, bytesWord_wordBytes, byteSwap_byteSwap]

end IocpServer.Library
