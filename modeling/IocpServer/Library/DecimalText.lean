import IocpServer.Library.ByteStrings
import Mathlib.Algebra.Group.Nat.Defs
import Mathlib.Algebra.Ring.Int.Defs
import Mathlib.Data.List.Basic

/-!
# Integers as decimal text

`std::to_string`, `std::stoi` and `std::stoull`, and what the last two read
of a text that the first writes.
-/

namespace IocpServer.Library

/-- An integer in decimal digits. -/
def integerText (number : Int) : ByteString :=
  (if number < 0 then literal "-" else [])
    ++ (Nat.toDigits 10 number.natAbs).map fun digit => digit.toNat.toUInt8

/-- The exceptions of `std::stoi` and `std::stoull`. -/
inductive StoiException where
  | invalidArgument
  | outOfRange
deriving DecidableEq, Repr

/-- `isspace` of an ASCII byte. -/
def isSpace (byte : UInt8) : Bool :=
  byte == 32 || (9 ≤ byte && byte ≤ 13)

/-- `isdigit`. -/
def isDigit (byte : UInt8) : Bool :=
  48 ≤ byte && byte ≤ 57

/-- The number a list of digits stands for. -/
def digitsValue (digits : ByteString) : Nat :=
  digits.foldl (fun value digit => 10 * value + (digit.toNat - 48)) 0

/-- A sign, and what is behind it. -/
def splitSign : ByteString → Bool × ByteString
  | 45 :: rest => (true, rest)
  | 43 :: rest => (false, rest)
  | unsigned => (false, unsigned)

/-- `std::stoi`; what is behind the digits is not looked at. -/
def stoi (text : ByteString) : Except StoiException Int32 :=
  let (negative, unsigned) := splitSign (text.dropWhile isSpace)
  let digits := unsigned.takeWhile isDigit
  let value : Int :=
    if negative then -(digitsValue digits : Int) else digitsValue digits
  if digits = [] then
    .error .invalidArgument
  else if value < -2 ^ 31 ∨ 2 ^ 31 ≤ value then
    .error .outOfRange
  else
    .ok (Int32.ofInt value)

/-- `std::stoull`; a minus sign wraps the number around. -/
def stoull (text : ByteString) : Except StoiException UInt64 :=
  let (negative, unsigned) := splitSign (text.dropWhile isSpace)
  let digits := unsigned.takeWhile isDigit
  let value := UInt64.ofNat (digitsValue digits)
  if digits = [] then
    .error .invalidArgument
  else if 2 ^ 64 ≤ digitsValue digits then
    .error .outOfRange
  else
    .ok (if negative then -value else value)

/-! ## Digits -/

/-- The bytes of a number's digits. -/
def digitBytes (number : Nat) : ByteString :=
  (Nat.toDigits 10 number).map fun digit => digit.toNat.toUInt8

theorem digitBytes_ne_nil (number : Nat) : digitBytes number ≠ [] := by
  simp [digitBytes, Nat.toDigits_ne_nil]

/-- The byte of a digit. -/
theorem digit_toNat {digit : Char} (isDigit : digit.isDigit = true) :
    digit.toNat.toUInt8.toNat = digit.toNat ∧
      48 ≤ digit.toNat ∧ digit.toNat ≤ 57 := by
  simp only [Char.isDigit, Bool.and_eq_true, decide_eq_true_eq] at isDigit
  have lower : 48 ≤ digit.toNat := isDigit.1
  have upper : digit.toNat ≤ 57 := isDigit.2
  refine ⟨?_, lower, upper⟩
  exact Nat.mod_eq_of_lt (by omega)

theorem digitBytes_isDigit {number : Nat} {byte : UInt8}
    (present : byte ∈ digitBytes number) : isDigit byte = true := by
  rcases List.mem_map.mp present with ⟨digit, isIn, rfl⟩
  rcases digit_toNat
      (Nat.isDigit_of_mem_toDigits (by decide) (by decide) isIn) with
    ⟨same, lower, upper⟩
  simp only [isDigit, Bool.and_eq_true, decide_eq_true_eq,
    UInt8.le_iff_toNat_le, same]
  exact ⟨lower, upper⟩

/-- The digits of a number stand for it. -/
theorem digitsValue_digitBytes (number : Nat) :
    digitsValue (digitBytes number) = number := by
  have chars := @Nat.ofDigitChars_ten_toDigits number
  rw [Nat.ofDigitChars_eq_foldl] at chars
  rw [digitsValue, digitBytes, List.foldl_map]
  refine Eq.trans ?_ chars
  apply List.foldl_ext
  intro value digit isIn
  rw [(digit_toNat
    (Nat.isDigit_of_mem_toDigits (by decide) (by decide) isIn)).1]
  rfl

/-- A number's digits, and a sign in front of those of a negative one. -/
theorem integerText_eq (number : Int) :
    integerText number =
      if number < 0 then
        45 :: digitBytes number.natAbs
      else
        digitBytes number.natAbs := by
  rw [integerText]
  split_ifs <;> rfl

/-- A decimal text has digits, and a sign in front of them. -/
theorem mem_integerText {number : Int} {byte : UInt8}
    (present : byte ∈ integerText number) :
    byte = 45 ∨ isDigit byte = true := by
  rw [integerText_eq] at present
  split_ifs at present
  · rcases List.mem_cons.mp present with sign | inDigits
    · exact .inl sign
    · exact .inr (digitBytes_isDigit inDigits)
  · exact .inr (digitBytes_isDigit present)

theorem integerText_ne_nil (number : Int) : integerText number ≠ [] := by
  rw [integerText_eq]
  split_ifs
  · exact List.cons_ne_nil _ _
  · exact digitBytes_ne_nil _

theorem integerText_not_space {number : Int} {byte : UInt8}
    (present : byte ∈ integerText number) : isSpace byte = false := by
  rcases mem_integerText present with rfl | digit
  · rfl
  · simp only [isDigit, isSpace, Bool.and_eq_true, decide_eq_true_eq,
      UInt8.le_iff_toNat_le] at digit ⊢
    simp only [Bool.or_eq_false_iff, beq_eq_false_iff_ne, ne_eq,
      Bool.and_eq_false_iff, decide_eq_false_iff_not, ← UInt8.toNat_inj]
    have lower : 48 ≤ byte.toNat := digit.1
    refine ⟨?_, .inr ?_⟩
    · change ¬ byte.toNat = 32
      omega
    · change ¬ byte.toNat ≤ 13
      omega

/-! ## Reading a number back -/

theorem splitSign_digitBytes (number : Nat) :
    splitSign (digitBytes number) = (false, digitBytes number) := by
  cases shape : digitBytes number with
  | nil => exact absurd shape (digitBytes_ne_nil number)
  | cons byte rest =>
      have present : byte ∈ digitBytes number := by
        rw [shape]
        exact List.mem_cons_self
      have isDigit := digitBytes_isDigit present
      unfold splitSign
      split
      · next equal =>
          cases equal
          cases isDigit
      · next equal =>
          cases equal
          cases isDigit
      · rfl

theorem takeWhile_digitBytes (number : Nat) :
    (digitBytes number).takeWhile isDigit = digitBytes number :=
  List.takeWhile_eq_self_iff.mpr fun _ => digitBytes_isDigit

theorem integerText_natCast (number : Nat) :
    integerText number = digitBytes number := by
  rw [integerText_eq, if_neg (Int.not_lt.mpr (Int.natCast_nonneg number)),
    Int.natAbs_natCast]

theorem dropWhile_integerText (number : Int) :
    (integerText number).dropWhile isSpace = integerText number := by
  apply List.dropWhile_eq_self_iff.mpr
  intro nonempty
  rw [integerText_not_space (List.getElem_mem nonempty)]
  exact Bool.false_ne_true

theorem dropWhile_digitBytes (number : Nat) :
    (digitBytes number).dropWhile isSpace = digitBytes number := by
  rw [← integerText_natCast]
  exact dropWhile_integerText number

/-- `std::stoi` reads the digits of a number that fits into an `int`. -/
theorem stoi_digitBytes (number : Nat) :
    stoi (digitBytes number) =
      if number < 2 ^ 31 then
        .ok (Int32.ofNat number)
      else
        .error .outOfRange := by
  simp only [stoi, dropWhile_digitBytes, splitSign_digitBytes,
    takeWhile_digitBytes, digitsValue_digitBytes,
    if_neg (digitBytes_ne_nil number)]
  rw [if_neg Bool.false_ne_true]
  by_cases fits : number < 2 ^ 31
  · rw [if_pos fits, if_neg (by omega)]
    rfl
  · rw [if_neg fits, if_pos (by omega)]

/-- `std::stoull` reads the digits of every 64-bit number. -/
theorem stoull_digitBytes (number : UInt64) :
    stoull (digitBytes number.toNat) = .ok number := by
  have fits := number.toNat_lt
  simp only [stoull, dropWhile_digitBytes, splitSign_digitBytes,
    takeWhile_digitBytes, digitsValue_digitBytes,
    if_neg (digitBytes_ne_nil _)]
  rw [if_neg (by omega), if_neg Bool.false_ne_true, UInt64.ofNat_toNat]

/-- `std::stoi` reads an `int` that `std::to_string` has written. -/
theorem stoi_integerText (number : Int32) :
    stoi (integerText number.toInt) = .ok number := by
  have lower := number.le_toInt
  have upper := number.toInt_lt
  have split :
      splitSign (integerText number.toInt) =
        (decide (number.toInt < 0), digitBytes number.toInt.natAbs) := by
    rw [integerText_eq]
    split_ifs with negative
    · simp [splitSign, negative]
    · simp [splitSign_digitBytes, negative]
  have value :
      (if decide (number.toInt < 0) then
          -(digitsValue (digitBytes number.toInt.natAbs) : Int)
        else
          digitsValue (digitBytes number.toInt.natAbs)) =
        number.toInt := by
    rw [digitsValue_digitBytes]
    simp only [decide_eq_true_eq]
    split_ifs <;> omega
  simp only [stoi, dropWhile_integerText, split, takeWhile_digitBytes, value,
    if_neg (digitBytes_ne_nil _)]
  rw [if_neg (by omega), Int32.ofInt_toInt]

end IocpServer.Library
