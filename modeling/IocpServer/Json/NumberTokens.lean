import IocpServer.Json.StringTokens

/-!
# Numbers read back

`scan_number` as an automaton over bytes, and its runs over the digits that
`dump_integer` writes.  A number is read to its last byte if what follows
closes it.
-/

namespace IocpServer.Json

open IocpServer.Library

/-! ## The digits of `dump_integer` -/

/-- The digits of a number, without a zero in front. -/
structure DigitsOf (number : Nat) (digits : ByteString) : Prop where
  all : ∀ byte ∈ digits, isDigit byte = true
  value : digitsValue digits = number
  head : ∃ first rest, digits = first :: rest ∧
    (0 < number → Lexer.isPositiveDigit first = true)
  count : digits.length = countDigits number

theorem digitByte_toNat {digit : Nat} (small : digit < 10) :
    (UInt8.ofNat (48 + digit)).toNat = 48 + digit :=
  toNat_ofNat_byte (by omega)

theorem isDigit_digitByte {digit : Nat} (small : digit < 10) :
    isDigit (UInt8.ofNat (48 + digit)) = true := by
  simp only [isDigit, Bool.and_eq_true, decide_eq_true_eq,
    UInt8.le_iff_toNat_le, digitByte_toNat small]
  constructor
  · change 48 ≤ 48 + digit
    omega
  · change 48 + digit ≤ 57
    omega

theorem isPositiveDigit_digitByte {digit : Nat} (positive : 0 < digit)
    (small : digit < 10) :
    Lexer.isPositiveDigit (UInt8.ofNat (48 + digit)) = true := by
  simp only [Lexer.isPositiveDigit, Bool.and_eq_true, decide_eq_true_eq,
    UInt8.le_iff_toNat_le, digitByte_toNat small]
  constructor
  · change 49 ≤ 48 + digit
    omega
  · change 48 + digit ≤ 57
    omega

theorem digitsOf_one {number : Nat} (small : number < 10) :
    DigitsOf number [UInt8.ofNat (48 + number)] where
  all := by
    simp only [List.forall_mem_singleton]
    exact isDigit_digitByte small
  value := by
    simp only [digitsValue, List.foldl_cons, List.foldl_nil,
      digitByte_toNat small]
    omega
  head :=
    ⟨_, [], rfl, fun positive => isPositiveDigit_digitByte positive small⟩
  count := by
    rw [countDigits, if_pos small]
    rfl

theorem digitsTo99_all {index : Nat} (small : index < 100) :
    ∀ byte ∈ digitsTo99 index, isDigit byte = true := by
  simp only [digitsTo99, List.forall_mem_cons, List.not_mem_nil,
    false_implies, implies_true, and_true]
  exact ⟨isDigit_digitByte (by omega), isDigit_digitByte (by omega)⟩

theorem digitsOf_two {number : Nat} (ten : 10 ≤ number)
    (small : number < 100) : DigitsOf number (digitsTo99 number) where
  all := digitsTo99_all small
  value := by
    simp only [digitsValue, digitsTo99, List.foldl_cons, List.foldl_nil,
      digitByte_toNat (show number / 10 < 10 by omega),
      digitByte_toNat (show number % 10 < 10 by omega)]
    omega
  head :=
    ⟨_, _, rfl, fun _ => isPositiveDigit_digitByte (by omega) (by omega)⟩
  count := by
    rw [countDigits, if_neg (by omega), if_pos small]
    rfl

/-- Two more digits. -/
theorem countDigits_hundred {number : Nat} (hundred : 100 ≤ number) :
    countDigits number = countDigits (number / 100) + 2 := by
  induction number using Nat.strong_induction_on with
  | _ number smaller =>
      rw [countDigits, if_neg (by omega), if_neg (by omega)]
      split_ifs with three four
      · rw [countDigits, if_pos (by omega)]
      · rw [countDigits, if_neg (by omega), if_pos (by omega)]
      · have quotient : number / 10000 = number / 100 / 100 :=
          (Nat.div_div_eq_div_mul number 100 100).symm
        rw [smaller (number / 100) (by omega) (by omega), quotient]

theorem DigitsOf.hundred {number : Nat} {digits : ByteString}
    (hundred : 100 ≤ number) (front : DigitsOf (number / 100) digits) :
    DigitsOf number (digits ++ digitsTo99 (number % 100)) := by
  rcases front with ⟨all, value, ⟨first, rest, rfl, positive⟩, count⟩
  refine ⟨?_, ?_, ⟨first, rest ++ _, rfl, fun _ => positive (by omega)⟩, ?_⟩
  · intro byte present
    rcases List.mem_append.mp present with inFront | inBack
    · exact all byte inFront
    · exact digitsTo99_all (Nat.mod_lt _ (by decide)) byte inBack
  · rw [digitsValue, List.foldl_append]
    change List.foldl _ (digitsValue (first :: rest)) _ = number
    rw [value]
    simp only [digitsTo99, List.foldl_cons, List.foldl_nil,
      digitByte_toNat (show number % 100 / 10 < 10 by omega),
      digitByte_toNat (show number % 100 % 10 < 10 by omega)]
    omega
  · rw [countDigits_hundred hundred, List.length_append, count]
    rfl

theorem digitsOf_dumpDigits (number : Nat) :
    DigitsOf number (dumpDigits number) := by
  induction number using Nat.strong_induction_on with
  | _ number smaller =>
      rw [dumpDigits]
      split_ifs with hundred ten
      · exact (smaller _ (by omega)).hundred hundred
      · exact digitsOf_two ten (by omega)
      · exact digitsOf_one (by omega)

namespace Lexer

variable {Number : Type}

/-! ## The automaton -/

/-- The label and the type of the number behind some bytes. -/
def NumberState.run (state : NumberState) (numberType : TokenType) :
    ByteString → Option (NumberState × TokenType)
  | [] => some (state, state.numberType numberType)
  | byte :: bytes =>
      match state.next (some byte) with
      | .goto next => NumberState.run next (state.numberType numberType) bytes
      | _ => none

/-- The label behind the first character of a number. -/
def numberStart (byte : UInt8) : NumberState :=
  if byte = 45 then .minus
  else if byte = 48 then .zero
  else .any1

/-- The bytes are the text of a number of the type. -/
def NumberText (bytes : ByteString) (numberType : TokenType) : Prop :=
  ∃ first rest last,
    bytes = first :: rest ∧
      (first = 45 ∨ isDigit first = true) ∧
      (numberStart first).run .valueUnsigned rest = some (last, numberType) ∧
      last.next none = .done

/-- What follows closes a value. -/
def Closed (rest : ByteString) : Prop :=
  ∀ byte, rest.head? = some byte →
    byte = 44 ∨ byte = 93 ∨ byte = 125 ∨ byte = 10

theorem NumberState.next_closed {state : NumberState} {rest : ByteString}
    (accepting : state.next none = .done) (closed : Closed rest) :
    state.next rest.head? = .done := by
  cases shape : rest.head? with
  | none => exact accepting
  | some byte =>
      rcases closed byte shape with rfl | rfl | rfl | rfl
      all_goals
        cases state with
        | minus => cases accepting
        | zero => rfl
        | any1 => rfl
        | decimal1 => cases accepting
        | decimal2 => rfl
        | exponent => cases accepting
        | sign => cases accepting
        | any2 => rfl

/-- The automaton is run over the bytes, and one behind them is given back. -/
theorem scanNumberFrom_run (floats : FloatText Number) {bytes : ByteString}
    {state last : NumberState} {before numberType : TokenType}
    {rest : ByteString} {lexer : Lexer Number}
    (ran : state.run before bytes = some (last, numberType))
    (accepting : last.next none = .done) (closed : Closed rest)
    (unread : lexer.Unread (bytes ++ rest)) :
    ∃ behind,
      scanNumberFrom floats state before lexer =
          convertNumber floats numberType behind ∧
        behind.Pending rest ∧
        Behind lexer behind ∧
        behind.tokenBuffer = lexer.tokenBuffer ++ bytes := by
  induction bytes generalizing state before lexer with
  | nil =>
      cases ran
      rcases (Pending.unread unread).get_unget with ⟨current, pending⟩
      refine
        ⟨lexer.get.unget, ?_, pending, lexer.behind_get_unget,
          (List.append_nil _).symm⟩
      have ended := NumberState.next_closed accepting closed
      rw [List.nil_append] at current
      rw [scanNumberFrom]
      split
      · next next scanned =>
          rw [current, ended] at scanned
          cases scanned
      · rfl
      · next message scanned =>
          rw [current, ended] at scanned
          cases scanned
  | cons byte bytes recursive =>
      rw [NumberState.run] at ran
      split at ran
      · next next step =>
          rcases unread.get with ⟨current, behindByte⟩
          rcases recursive ran (behindByte.add byte) with
            ⟨behind, scanned, pending, read, buffer⟩
          refine ⟨behind, ?_, pending, read.trans lexer.behind_get, ?_⟩
          · rw [scanNumberFrom]
            split
            · next other scannedStep =>
                rw [current, step] at scannedStep
                cases scannedStep
                rw [addCurrent, current]
                exact scanned
            · next scannedStep =>
                rw [current, step] at scannedStep
                cases scannedStep
            · next message scannedStep =>
                rw [current, step] at scannedStep
                cases scannedStep
          · rw [buffer, tokenBuffer_add, tokenBuffer_get, List.append_assoc]
            rfl
      · cases ran

/-- The text of a number is read to its end. -/
theorem scanNumber_text (floats : FloatText Number) {first : UInt8}
    {others rest : ByteString} {numberType : TokenType} {lexer : Lexer Number}
    (text : NumberText (first :: others) numberType) (closed : Closed rest)
    (current : lexer.current = some first)
    (unread : lexer.Unread (others ++ rest)) :
    ∃ behind,
      lexer.scanNumber floats = convertNumber floats numberType behind ∧
        behind.Pending rest ∧
        Behind lexer behind ∧
        behind.tokenBuffer = first :: others := by
  rcases text with ⟨_, _, last, same, -, ran, accepting⟩
  cases same
  rcases scanNumberFrom_run floats ran accepting closed
      (unread.reset.add first) with
    ⟨behind, scanned, pending, read, buffer⟩
  refine ⟨behind, ?_, pending, read, ?_⟩
  · rw [scanNumber, ← scanned, numberStart, addCurrent]
    have same : lexer.reset.current = some first := current
    rw [same, current]
    simp only [Option.some.injEq, Option.getD_some]
  · rw [buffer]
    rfl

/-! ## Integers -/

theorem NumberState.run_digits {digits : ByteString}
    (all : ∀ byte ∈ digits, isDigit byte = true) (numberType : TokenType)
    (behind : ByteString) :
    NumberState.any1.run numberType (digits ++ behind) =
      NumberState.any1.run numberType behind := by
  induction digits with
  | nil => rfl
  | cons byte digits recursive =>
      have step : NumberState.any1.next (some byte) = .goto .any1 := by
        rw [NumberState.next, if_pos (all byte List.mem_cons_self)]
      rw [List.cons_append, NumberState.run, step]
      exact recursive fun other present => all other (List.mem_cons_of_mem _ present)

theorem isPositiveDigit_ne {byte : UInt8}
    (digit : isPositiveDigit byte = true) : byte ≠ 45 ∧ byte ≠ 48 := by
  constructor
  · rintro rfl
    cases digit
  · rintro rfl
    cases digit

/-- What may be behind the digits of a number. -/
theorem numberText_digits {number : Nat} {digits behind : ByteString}
    {last : NumberState} {numberType : TokenType}
    (positive : 0 < number) (isDigits : DigitsOf number digits)
    (ran :
      NumberState.any1.run .valueUnsigned behind = some (last, numberType))
    (accepting : last.next none = .done) :
    NumberText (digits ++ behind) numberType := by
  rcases isDigits.head with ⟨first, rest, rfl, head⟩
  have all := isDigits.all
  rcases isPositiveDigit_ne (head positive) with ⟨notMinus, notZero⟩
  refine
    ⟨first, rest ++ behind, last, rfl, .inr (all first List.mem_cons_self), ?_,
      accepting⟩
  rw [numberStart, if_neg notMinus, if_neg notZero,
    NumberState.run_digits fun byte present =>
      all byte (List.mem_cons_of_mem _ present)]
  exact ran

theorem numberText_negative {number : Nat} {digits behind : ByteString}
    {last : NumberState} {numberType : TokenType}
    (positive : 0 < number) (isDigits : DigitsOf number digits)
    (ran :
      NumberState.any1.run .valueInteger behind = some (last, numberType))
    (accepting : last.next none = .done) :
    NumberText (45 :: (digits ++ behind)) numberType := by
  rcases isDigits.head with ⟨first, rest, rfl, head⟩
  have all := isDigits.all
  rcases isPositiveDigit_ne (head positive) with ⟨notMinus, notZero⟩
  refine ⟨45, _, last, rfl, .inl rfl, ?_, accepting⟩
  have step : NumberState.minus.next (some first) = .goto .any1 := by
    rw [NumberState.next, if_neg notZero, if_pos (head positive)]
  rw [numberStart, if_pos rfl, List.cons_append, NumberState.run, step]
  change NumberState.any1.run .valueInteger (rest ++ behind) = _
  rw [NumberState.run_digits fun byte present =>
    all byte (List.mem_cons_of_mem _ present)]
  exact ran

/-- The digits of a number do not begin with a sign. -/
theorem signedValue_digits {number : Nat} {digits : ByteString}
    (positive : 0 < number) (isDigits : DigitsOf number digits) :
    signedValue digits = number := by
  rcases isDigits.head with ⟨first, rest, rfl, head⟩
  have value := isDigits.value
  unfold signedValue
  split
  · next same =>
      cases same
      cases head positive
  · rw [value]

theorem numberText_zero : NumberText (literal "0") .valueUnsigned :=
  ⟨48, [], .zero, rfl, .inr rfl, rfl, rfl⟩

/-- The text of an integer that is not negative. -/
theorem numberText_dumpInteger (number : Nat) :
    NumberText (dumpInteger number) .valueUnsigned ∧
      signedValue (dumpInteger number) = number := by
  rw [dumpInteger]
  split_ifs with zero negative
  · rw [zero]
    exact ⟨numberText_zero, rfl⟩
  · omega
  · rw [Int.natAbs_natCast]
    have isDigits := digitsOf_dumpDigits number
    have positive : 0 < number := by omega
    have isText :
        NumberText (dumpDigits number ++ []) .valueUnsigned :=
      numberText_digits positive isDigits rfl rfl
    rw [List.append_nil] at isText
    exact ⟨isText, signedValue_digits positive isDigits⟩

/-- The text of a negative integer. -/
theorem numberText_dumpInteger_neg {number : Int} (negative : number < 0) :
    NumberText (dumpInteger number) .valueInteger ∧
      signedValue (dumpInteger number) = number := by
  have isDigits := digitsOf_dumpDigits number.natAbs
  rw [dumpInteger, if_neg (by omega), if_pos negative]
  have isText :
      NumberText (45 :: (dumpDigits number.natAbs ++ [])) .valueInteger :=
    numberText_negative (by omega) isDigits rfl rfl
  rw [List.append_nil] at isText
  refine ⟨isText, ?_⟩
  change -(digitsValue (dumpDigits number.natAbs) : Int) = number
  rw [isDigits.value]
  omega

end Lexer

end IocpServer.Json
