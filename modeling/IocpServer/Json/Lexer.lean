import IocpServer.Json.Serializer
import IocpServer.Library.DecimalText
import Mathlib.Tactic.SplitIfs

/-!
# The tokens of a JSON text

`lexer` over a byte string, as `parse` sets it up: comments are not skipped,
and the decimal point is that of the C locale.  The scan functions take the
lexer and give the token with the lexer behind it.
-/

namespace IocpServer.Json

open IocpServer.Library

/-- `position_t`. -/
structure Position where
  charsReadTotal : Nat
  charsReadCurrentLine : Nat
  linesRead : Nat
deriving DecidableEq, Repr

/-- `token_type`. -/
inductive TokenType where
  | uninitialized
  | literalTrue
  | literalFalse
  | literalNull
  | valueString
  | valueUnsigned
  | valueInteger
  | valueFloat
  | beginArray
  | beginObject
  | endArray
  | endObject
  | nameSeparator
  | valueSeparator
  | parseError
  | endOfInput
  | literalOrValue
deriving DecidableEq, Repr

/-- `token_type_name`. -/
def tokenTypeName : TokenType → String
  | .uninitialized => "<uninitialized>"
  | .literalTrue => "true literal"
  | .literalFalse => "false literal"
  | .literalNull => "null literal"
  | .valueString => "string literal"
  | .valueUnsigned => "number literal"
  | .valueInteger => "number literal"
  | .valueFloat => "number literal"
  | .beginArray => "'['"
  | .beginObject => "'\x7b'"
  | .endArray => "']'"
  | .endObject => "'\x7d'"
  | .nameSeparator => "':'"
  | .valueSeparator => "','"
  | .parseError => "<parse error>"
  | .endOfInput => "end of input"
  | .literalOrValue => "'[', '\x7b', or a literal"

/-- `lexer`; at the end of the input there is no current character. -/
structure Lexer (Number : Type) where
  input : ByteString
  current : Option UInt8
  nextUnget : Bool
  position : Position
  tokenString : ByteString
  tokenBuffer : ByteString
  errorMessage : String
  valueInteger : Int64
  valueUnsigned : UInt64
  valueFloat : Number

namespace Lexer

variable {Number : Type}

/-- The constructor. -/
def new [FloatArithmetic Number] (input : ByteString) : Lexer Number where
  input := input
  current := none
  nextUnget := false
  position := ⟨0, 0, 0⟩
  tokenString := []
  tokenBuffer := []
  errorMessage := ""
  valueInteger := 0
  valueUnsigned := 0
  valueFloat := FloatArithmetic.ofInt 0

/-! ## Input management -/

/-- `reset()`: the current character is the beginning of the token. -/
def reset (lexer : Lexer Number) : Lexer Number :=
  { lexer with
    tokenBuffer := []
    tokenString := [lexer.current.getD 0xFF] }

/-- `get()`. -/
def get (lexer : Lexer Number) : Lexer Number :=
  let current :=
    if lexer.nextUnget then lexer.current else lexer.input.head?
  { lexer with
    input := if lexer.nextUnget then lexer.input else lexer.input.tail
    current := current
    nextUnget := false
    tokenString := lexer.tokenString ++ current.toList
    position :=
      { charsReadTotal := lexer.position.charsReadTotal + 1
        charsReadCurrentLine :=
          if current = some 10 then 0
          else lexer.position.charsReadCurrentLine + 1
        linesRead :=
          if current = some 10 then lexer.position.linesRead + 1
          else lexer.position.linesRead } }

/-- `unget()`: the current character is read again. -/
def unget (lexer : Lexer Number) : Lexer Number :=
  { lexer with
    nextUnget := true
    tokenString :=
      if lexer.current.isSome then lexer.tokenString.dropLast
      else lexer.tokenString
    position :=
      { charsReadTotal := lexer.position.charsReadTotal - 1
        charsReadCurrentLine := lexer.position.charsReadCurrentLine - 1
        linesRead :=
          if lexer.position.charsReadCurrentLine = 0 then
            lexer.position.linesRead - 1
          else
            lexer.position.linesRead } }

/-- `add` of a byte. -/
def add (lexer : Lexer Number) (byte : UInt8) : Lexer Number :=
  { lexer with tokenBuffer := lexer.tokenBuffer ++ [byte] }

/-- `add(current)`. -/
def addCurrent (lexer : Lexer Number) : Lexer Number :=
  lexer.add (lexer.current.getD 0xFF)

/-- A parse error with its message. -/
def fail (lexer : Lexer Number) (message : String) : Lexer Number :=
  { lexer with errorMessage := message }

/-- How many characters `get()` has yet to give. -/
def remaining (lexer : Lexer Number) : Nat :=
  (if lexer.nextUnget ∧ lexer.current.isSome then 1 else 0) +
    lexer.input.length

/-- A lexer that has read on. -/
def Behind (before after : Lexer Number) : Prop :=
  after.remaining ≤ before.remaining ∧
    before.position.charsReadTotal ≤ after.position.charsReadTotal

theorem Behind.remaining {before after : Lexer Number}
    (behind : Behind before after) : after.remaining ≤ before.remaining :=
  behind.1

theorem Behind.total {before after : Lexer Number}
    (behind : Behind before after) :
    before.position.charsReadTotal ≤ after.position.charsReadTotal :=
  behind.2

theorem Behind.refl (lexer : Lexer Number) : Behind lexer lexer :=
  ⟨le_refl _, le_refl _⟩

theorem Behind.trans {before between after : Lexer Number}
    (second : Behind between after) (first : Behind before between) :
    Behind before after :=
  ⟨second.remaining.trans first.remaining, first.total.trans second.total⟩

theorem behind_get (lexer : Lexer Number) : Behind lexer lexer.get := by
  refine ⟨?_, Nat.le_succ _⟩
  simp only [Lexer.remaining, get]
  by_cases again : lexer.nextUnget = true <;> simp [again]

/-- A character that is read is not read again. -/
theorem remaining_get_lt {lexer : Lexer Number} {byte : UInt8}
    (read : lexer.get.current = some byte) :
    lexer.get.remaining < lexer.remaining := by
  simp only [get] at read
  simp only [remaining, get]
  by_cases again : lexer.nextUnget = true
  · rw [if_pos again] at read
    simp [again, read]
  · rw [if_neg again] at read
    have present : 0 < lexer.input.length := by
      apply List.length_pos_iff.mpr
      intro empty
      rw [empty] at read
      cases read
    simp [again]
    omega

/-! ## Strings -/

/-- The value of a hexadecimal digit. -/
def hexDigitValue : Option UInt8 → Option Nat
  | some byte =>
      if 48 ≤ byte ∧ byte ≤ 57 then some (byte.toNat - 0x30)
      else if 65 ≤ byte ∧ byte ≤ 70 then some (byte.toNat - 0x37)
      else if 97 ≤ byte ∧ byte ≤ 102 then some (byte.toNat - 0x57)
      else none
  | none => none

/-- The loop of `get_codepoint`; there is no code point in place of `-1`. -/
def getCodepointFrom :
    List Nat → Nat → Lexer Number → Option Nat × Lexer Number
  | [], codepoint, lexer => (some codepoint, lexer)
  | factor :: factors, codepoint, lexer =>
      match hexDigitValue lexer.get.current with
      | some digit =>
          getCodepointFrom factors (codepoint + digit <<< factor) lexer.get
      | none => (none, lexer.get)

/-- `get_codepoint`. -/
def getCodepoint (lexer : Lexer Number) : Option Nat × Lexer Number :=
  getCodepointFrom [12, 8, 4, 0] 0 lexer

/-- The loop of `next_byte_in_range`. -/
def nextBytesInRange :
    List (UInt8 × UInt8) → Lexer Number → Option TokenType × Lexer Number
  | [], lexer => (none, lexer)
  | range :: ranges, lexer =>
      match lexer.get.current with
      | some byte =>
          if range.1 ≤ byte ∧ byte ≤ range.2 then
            nextBytesInRange ranges lexer.get.addCurrent
          else
            (some .parseError,
              lexer.get.fail "invalid string: ill-formed UTF-8 byte")
      | none =>
          (some .parseError,
            lexer.get.fail "invalid string: ill-formed UTF-8 byte")

/-- `next_byte_in_range`; the token is that of a range that is violated. -/
def nextByteInRange (ranges : List (UInt8 × UInt8)) (lexer : Lexer Number) :
    Option TokenType × Lexer Number :=
  nextBytesInRange ranges lexer.addCurrent

/-- The bytes `scan_string` translates a code point into. -/
def addCodepoint (lexer : Lexer Number) (codepoint : Nat) : Lexer Number :=
  if codepoint < 0x80 then
    lexer.add (UInt8.ofNat codepoint)
  else if codepoint ≤ 0x7FF then
    (lexer.add (UInt8.ofNat (0xC0 ||| codepoint >>> 6))).add
      (UInt8.ofNat (0x80 ||| codepoint &&& 0x3F))
  else if codepoint ≤ 0xFFFF then
    ((lexer.add (UInt8.ofNat (0xE0 ||| codepoint >>> 12))).add
      (UInt8.ofNat (0x80 ||| codepoint >>> 6 &&& 0x3F))).add
      (UInt8.ofNat (0x80 ||| codepoint &&& 0x3F))
  else
    (((lexer.add (UInt8.ofNat (0xF0 ||| codepoint >>> 18))).add
      (UInt8.ofNat (0x80 ||| codepoint >>> 12 &&& 0x3F))).add
      (UInt8.ofNat (0x80 ||| codepoint >>> 6 &&& 0x3F))).add
      (UInt8.ofNat (0x80 ||| codepoint &&& 0x3F))

/-- The texts of `\u` and of surrogates that are not what they must be. -/
def fourDigitsMessage : String :=
  "invalid string: '\\u' must be followed by 4 hex digits"

def highSurrogateMessage : String :=
  "invalid string: surrogate U+D800..U+DBFF must be followed by " ++
    "U+DC00..U+DFFF"

def lowSurrogateMessage : String :=
  "invalid string: surrogate U+DC00..U+DFFF must follow U+D800..U+DBFF"

/-- The second half of a surrogate pair. -/
def scanLowSurrogate (codepoint1 : Nat) (lexer : Lexer Number) :
    Option TokenType × Lexer Number :=
  if lexer.get.current ≠ some 92 then
    (some .parseError, lexer.get.fail highSurrogateMessage)
  else if lexer.get.get.current ≠ some 117 then
    (some .parseError, lexer.get.get.fail highSurrogateMessage)
  else
    match lexer.get.get.getCodepoint with
    | (none, lexer) => (some .parseError, lexer.fail fourDigitsMessage)
    | (some codepoint2, lexer) =>
        if 0xDC00 ≤ codepoint2 ∧ codepoint2 ≤ 0xDFFF then
          (none,
            lexer.addCodepoint (codepoint1 <<< 10 + codepoint2 - 0x35FDC00))
        else
          (some .parseError, lexer.fail highSurrogateMessage)

/-- A unicode escape, behind its `u`. -/
def scanUnicode (lexer : Lexer Number) : Option TokenType × Lexer Number :=
  match lexer.getCodepoint with
  | (none, lexer) => (some .parseError, lexer.fail fourDigitsMessage)
  | (some codepoint1, lexer) =>
      if 0xD800 ≤ codepoint1 ∧ codepoint1 ≤ 0xDBFF then
        scanLowSurrogate codepoint1 lexer
      else if 0xDC00 ≤ codepoint1 ∧ codepoint1 ≤ 0xDFFF then
        (some .parseError, lexer.fail lowSurrogateMessage)
      else
        (none, lexer.addCodepoint codepoint1)

/-- An escape, behind its backslash. -/
def scanEscape (lexer : Lexer Number) : Option TokenType × Lexer Number :=
  match lexer.get.current with
  | some 34 => (none, lexer.get.add 34)
  | some 92 => (none, lexer.get.add 92)
  | some 47 => (none, lexer.get.add 47)
  | some 98 => (none, lexer.get.add 8)
  | some 102 => (none, lexer.get.add 12)
  | some 110 => (none, lexer.get.add 10)
  | some 114 => (none, lexer.get.add 13)
  | some 116 => (none, lexer.get.add 9)
  | some 117 => scanUnicode lexer.get
  | _ =>
      (some .parseError,
        lexer.get.fail "invalid string: forbidden character after backslash")

/-- The names of the control characters. -/
def controlNames : List String :=
  ["NUL", "SOH", "STX", "ETX", "EOT", "ENQ", "ACK", "BEL",
    "BS", "HT", "LF", "VT", "FF", "CR", "SO", "SI",
    "DLE", "DC1", "DC2", "DC3", "DC4", "NAK", "SYN", "ETB",
    "CAN", "EM", "SUB", "ESC", "FS", "GS", "RS", "US"]

/-- The escapes of the control characters beside `\u`. -/
def shortEscape (byte : UInt8) : String :=
  if byte = 8 then " or \\b"
  else if byte = 9 then " or \\t"
  else if byte = 10 then " or \\n"
  else if byte = 12 then " or \\f"
  else if byte = 13 then " or \\r"
  else ""

/-- The message of a control character that is not escaped. -/
def controlMessage (byte : UInt8) : String :=
  "invalid string: control character U+00" ++ hexBytes byte ++ " (" ++
    controlNames.getD byte.toNat "" ++ ") must be escaped to \\u00" ++
    hexBytes byte ++ shortEscape byte

/-- The ranges of the bytes behind a byte beyond ASCII. -/
def leadRanges (byte : UInt8) : Option (List (UInt8 × UInt8)) :=
  if 0xC2 ≤ byte ∧ byte ≤ 0xDF then
    some [(0x80, 0xBF)]
  else if byte = 0xE0 then
    some [(0xA0, 0xBF), (0x80, 0xBF)]
  else if 0xE1 ≤ byte ∧ byte ≤ 0xEC ∨ byte = 0xEE ∨ byte = 0xEF then
    some [(0x80, 0xBF), (0x80, 0xBF)]
  else if byte = 0xED then
    some [(0x80, 0x9F), (0x80, 0xBF)]
  else if byte = 0xF0 then
    some [(0x90, 0xBF), (0x80, 0xBF), (0x80, 0xBF)]
  else if 0xF1 ≤ byte ∧ byte ≤ 0xF3 then
    some [(0x80, 0xBF), (0x80, 0xBF), (0x80, 0xBF)]
  else if byte = 0xF4 then
    some [(0x80, 0x8F), (0x80, 0xBF), (0x80, 0xBF)]
  else
    none

/-- One character of a string; there is a token at the end of it. -/
def scanCharacter (lexer : Lexer Number) : Option TokenType × Lexer Number :=
  match lexer.get.current with
  | none =>
      (some .parseError,
        lexer.get.fail "invalid string: missing closing quote")
  | some byte =>
      if byte = 34 then
        (some .valueString, lexer.get)
      else if byte = 92 then
        scanEscape lexer.get
      else if byte ≤ 0x1F then
        (some .parseError, lexer.get.fail (controlMessage byte))
      else if byte ≤ 0x7F then
        (none, lexer.get.addCurrent)
      else
        match leadRanges byte with
        | some ranges => lexer.get.nextByteInRange ranges
        | none =>
            (some .parseError,
              lexer.get.fail "invalid string: ill-formed UTF-8 byte")

theorem behind_getCodepointFrom (factors : List Nat) (codepoint : Nat)
    (lexer : Lexer Number) :
    Behind lexer (getCodepointFrom factors codepoint lexer).2 := by
  induction factors generalizing codepoint lexer with
  | nil => exact .refl lexer
  | cons factor factors recursive =>
      have read := lexer.behind_get
      rw [getCodepointFrom]
      split
      · exact (recursive _ _).trans read
      · exact read

theorem behind_getCodepoint {lexer after : Lexer Number}
    {codepoint : Option Nat} (scanned : lexer.getCodepoint = (codepoint, after)) :
    Behind lexer after := by
  have digits := behind_getCodepointFrom [12, 8, 4, 0] 0 lexer
  rw [getCodepoint] at scanned
  rw [scanned] at digits
  exact digits

theorem behind_nextBytesInRange (ranges : List (UInt8 × UInt8))
    (lexer : Lexer Number) :
    Behind lexer (nextBytesInRange ranges lexer).2 := by
  induction ranges generalizing lexer with
  | nil => exact .refl lexer
  | cons range ranges recursive =>
      have read := lexer.behind_get
      rw [nextBytesInRange]
      split
      · split_ifs
        · exact (recursive _).trans read
        · exact read
      · exact read

theorem behind_addCodepoint (lexer : Lexer Number) (codepoint : Nat) :
    Behind lexer (lexer.addCodepoint codepoint) := by
  unfold addCodepoint
  split_ifs <;> exact .refl lexer

theorem behind_scanLowSurrogate (codepoint1 : Nat) (lexer : Lexer Number) :
    Behind lexer (scanLowSurrogate codepoint1 lexer).2 := by
  have first := lexer.behind_get
  have second := lexer.get.behind_get.trans first
  rw [scanLowSurrogate]
  split_ifs
  · exact first
  · exact second
  · split
    · next after scanned =>
        have digits := behind_getCodepoint scanned
        exact digits.trans second
    · next codepoint2 after scanned =>
        have digits := (behind_getCodepoint scanned).trans second
        generalize codepoint1 <<< 10 + codepoint2 - 0x35FDC00 = codepoint
        split_ifs
        · exact (behind_addCodepoint after codepoint).trans digits
        · exact digits

theorem behind_scanUnicode (lexer : Lexer Number) :
    Behind lexer lexer.scanUnicode.2 := by
  rw [scanUnicode]
  split
  · next after scanned =>
      have digits := behind_getCodepoint scanned
      exact digits
  · next codepoint1 after scanned =>
      have digits := behind_getCodepoint scanned
      split_ifs
      · exact (behind_scanLowSurrogate _ _).trans digits
      · exact digits
      · exact (behind_addCodepoint after _).trans digits

theorem behind_scanEscape (lexer : Lexer Number) :
    Behind lexer lexer.scanEscape.2 := by
  have read := lexer.behind_get
  unfold scanEscape
  split
  case h_9 => exact (behind_scanUnicode _).trans read
  all_goals exact read

/-- A character of a string is not read again. -/
theorem remaining_scanCharacter_lt {lexer : Lexer Number} {byte : UInt8}
    (read : lexer.get.current = some byte) :
    lexer.scanCharacter.2.remaining < lexer.remaining := by
  have shorter := remaining_get_lt read
  rw [scanCharacter, read]
  dsimp only
  split_ifs
  · exact shorter
  · exact (behind_scanEscape _).remaining.trans_lt shorter
  · exact shorter
  · exact shorter
  · split
    · exact (behind_nextBytesInRange _ _).remaining.trans_lt shorter
    · exact shorter

theorem scanCharacter_end {lexer : Lexer Number}
    (ended : lexer.get.current = none) :
    lexer.scanCharacter =
      (some .parseError,
        lexer.get.fail "invalid string: missing closing quote") := by
  rw [scanCharacter, ended]

theorem behind_scanCharacter (lexer : Lexer Number) :
    Behind lexer lexer.scanCharacter.2 := by
  have read := lexer.behind_get
  unfold scanCharacter
  split
  · exact read
  · split_ifs
    · exact read
    · exact (behind_scanEscape _).trans read
    · exact read
    · exact read
    · split
      · exact (behind_nextBytesInRange _ _).trans read
      · exact read

/-- The string goes on behind a character only. -/
theorem remaining_scanCharacter_further {lexer : Lexer Number}
    (further : lexer.scanCharacter.1 = none) :
    lexer.scanCharacter.2.remaining < lexer.remaining := by
  cases read : lexer.get.current with
  | none =>
      rw [scanCharacter_end read] at further
      cases further
  | some byte => exact remaining_scanCharacter_lt read

/-- The loop of `scan_string`. -/
def scanCharacters (lexer : Lexer Number) : TokenType × Lexer Number :=
  match _ : lexer.scanCharacter with
  | (some token, lexer) => (token, lexer)
  | (none, lexer) => scanCharacters lexer
termination_by lexer.remaining
decreasing_by
  rename_i scanned
  have further := remaining_scanCharacter_further (congrArg Prod.fst scanned)
  rw [scanned] at further
  exact further

/-- `scan_string`. -/
def scanString (lexer : Lexer Number) : TokenType × Lexer Number :=
  lexer.reset.scanCharacters

/-! ## Numbers -/

/-- The labels of `scan_number`. -/
inductive NumberState where
  | minus
  | zero
  | any1
  | decimal1
  | decimal2
  | exponent
  | sign
  | any2
deriving DecidableEq, Repr

/-- The type of the number from a label on. -/
def NumberState.numberType (state : NumberState) (before : TokenType) :
    TokenType :=
  match state with
  | .minus => .valueInteger
  | .decimal1 => .valueFloat
  | .exponent => .valueFloat
  | _ => before

/-- What `scan_number` does with the next character. -/
inductive NumberStep where
  | goto (state : NumberState)
  | done
  | error (message : String)
deriving DecidableEq, Repr

/-- The digits `1` to `9`. -/
def isPositiveDigit (byte : UInt8) : Bool :=
  49 ≤ byte && byte ≤ 57

/-- The switches of `scan_number`. -/
def NumberState.next (state : NumberState) : Option UInt8 → NumberStep
  | none =>
      match state with
      | .minus => .error "invalid number; expected digit after '-'"
      | .decimal1 => .error "invalid number; expected digit after '.'"
      | .exponent =>
          .error "invalid number; expected '+', '-', or digit after exponent"
      | .sign => .error "invalid number; expected digit after exponent sign"
      | _ => .done
  | some byte =>
      match state with
      | .minus =>
          if byte = 48 then .goto .zero
          else if isPositiveDigit byte then .goto .any1
          else .error "invalid number; expected digit after '-'"
      | .zero =>
          if byte = 46 then .goto .decimal1
          else if byte = 101 ∨ byte = 69 then .goto .exponent
          else .done
      | .any1 =>
          if isDigit byte then .goto .any1
          else if byte = 46 then .goto .decimal1
          else if byte = 101 ∨ byte = 69 then .goto .exponent
          else .done
      | .decimal1 =>
          if isDigit byte then .goto .decimal2
          else .error "invalid number; expected digit after '.'"
      | .decimal2 =>
          if isDigit byte then .goto .decimal2
          else if byte = 101 ∨ byte = 69 then .goto .exponent
          else .done
      | .exponent =>
          if byte = 43 ∨ byte = 45 then .goto .sign
          else if isDigit byte then .goto .any2
          else
            .error "invalid number; expected '+', '-', or digit after exponent"
      | .sign =>
          if isDigit byte then .goto .any2
          else .error "invalid number; expected digit after exponent sign"
      | .any2 => if isDigit byte then .goto .any2 else .done

/-- The integer a sign and digits stand for. -/
def signedValue : ByteString → Int
  | 45 :: digits => -(digitsValue digits : Int)
  | digits => digitsValue digits

/-- The conversion at the end of `scan_number`. -/
def convertNumber (floats : FloatText Number) (numberType : TokenType)
    (lexer : Lexer Number) : TokenType × Lexer Number :=
  let number := signedValue lexer.tokenBuffer
  if numberType = .valueUnsigned ∧ number < 2 ^ 64 then
    (.valueUnsigned,
      { lexer with valueUnsigned := UInt64.ofNat number.toNat })
  else if numberType = .valueInteger ∧ -2 ^ 63 ≤ number ∧ number < 2 ^ 63 then
    (.valueInteger, { lexer with valueInteger := Int64.ofInt number })
  else
    (.valueFloat,
      { lexer with valueFloat := floats.strtod lexer.tokenBuffer })

theorem NumberState.next_none (state next : NumberState) :
    state.next none ≠ .goto next := by
  cases state <;> exact NumberStep.noConfusion

/-- `scan_number` from a label on. -/
def scanNumberFrom (floats : FloatText Number) (state : NumberState)
    (numberType : TokenType) (lexer : Lexer Number) :
    TokenType × Lexer Number :=
  match _ : state.next lexer.get.current with
  | .goto next =>
      scanNumberFrom floats next (state.numberType numberType)
        lexer.get.addCurrent
  | .done =>
      convertNumber floats (state.numberType numberType) lexer.get.unget
  | .error message => (.parseError, lexer.get.fail message)
termination_by lexer.remaining
decreasing_by
  rename_i scanned
  cases present : lexer.get.current with
  | none =>
      rw [present] at scanned
      exact absurd scanned (state.next_none next)
  | some byte => exact remaining_get_lt present

/-- `scan_number`, at the first character of a number. -/
def scanNumber (floats : FloatText Number) (lexer : Lexer Number) :
    TokenType × Lexer Number :=
  let state : NumberState :=
    if lexer.current = some 45 then .minus
    else if lexer.current = some 48 then .zero
    else .any1
  scanNumberFrom floats state .valueUnsigned lexer.reset.addCurrent

/-! ## Literals and the other tokens -/

/-- The loop of `scan_literal`. -/
def scanLiteralFrom (token : TokenType) :
    ByteString → Lexer Number → TokenType × Lexer Number
  | [], lexer => (token, lexer)
  | byte :: bytes, lexer =>
      if lexer.get.current ≠ some byte then
        (.parseError, lexer.get.fail "invalid literal")
      else
        scanLiteralFrom token bytes lexer.get

/-- `scan_literal`, at the first character of the literal. -/
def scanLiteral (text : String) (token : TokenType) (lexer : Lexer Number) :
    TokenType × Lexer Number :=
  scanLiteralFrom token (literal text).tail lexer

/-- `skip_bom`. -/
def skipBom (lexer : Lexer Number) : Bool × Lexer Number :=
  if lexer.get.current = some 0xEF then
    if lexer.get.get.current = some 0xBB then
      (lexer.get.get.get.current == some 0xBF, lexer.get.get.get)
    else
      (false, lexer.get.get)
  else
    (true, lexer.get.unget)

/-- The characters `skip_whitespace` skips. -/
def isWhitespace (byte : UInt8) : Bool :=
  byte == 32 || byte == 9 || byte == 10 || byte == 13

/-- `skip_whitespace`. -/
def skipWhitespace (lexer : Lexer Number) : Lexer Number :=
  match _ : lexer.get.current with
  | some byte =>
      if isWhitespace byte then skipWhitespace lexer.get else lexer.get
  | none => lexer.get
termination_by lexer.remaining
decreasing_by
  rename_i read _
  exact remaining_get_lt read

/-- The switch of `scan`. -/
def scanToken (floats : FloatText Number) (lexer : Lexer Number) :
    TokenType × Lexer Number :=
  match lexer.current with
  | some 91 => (.beginArray, lexer)
  | some 93 => (.endArray, lexer)
  | some 123 => (.beginObject, lexer)
  | some 125 => (.endObject, lexer)
  | some 58 => (.nameSeparator, lexer)
  | some 44 => (.valueSeparator, lexer)
  | some 116 => lexer.scanLiteral "true" .literalTrue
  | some 102 => lexer.scanLiteral "false" .literalFalse
  | some 110 => lexer.scanLiteral "null" .literalNull
  | some 34 => lexer.scanString
  | some 0 => (.endOfInput, lexer)
  | none => (.endOfInput, lexer)
  | some byte =>
      if byte = 45 ∨ isDigit byte then
        lexer.scanNumber floats
      else
        (.parseError, lexer.fail "invalid literal")

/-- `scan`. -/
def scan (floats : FloatText Number) (lexer : Lexer Number) :
    TokenType × Lexer Number :=
  if lexer.position.charsReadTotal = 0 then
    match lexer.skipBom with
    | (true, lexer) => lexer.skipWhitespace.scanToken floats
    | (false, lexer) =>
        (.parseError,
          lexer.fail "invalid BOM; must be 0xEF 0xBB 0xBF if given")
  else
    lexer.skipWhitespace.scanToken floats

/-! ## What is read is not read again -/

theorem behind_get_unget (lexer : Lexer Number) :
    Behind lexer lexer.get.unget := by
  refine ⟨?_, le_refl _⟩
  have inside : lexer.get.input.length ≤ lexer.get.remaining :=
    Nat.le_add_left _ _
  cases present : lexer.get.current with
  | none =>
      have read := lexer.behind_get.remaining
      have same : lexer.get.unget.remaining = lexer.get.input.length := by
        simp [Lexer.remaining, unget, present]
      omega
  | some byte =>
      have read := remaining_get_lt present
      have same : lexer.get.unget.remaining = 1 + lexer.get.input.length := by
        simp [Lexer.remaining, unget, present]
      omega

theorem behind_scanCharacters (lexer : Lexer Number) :
    Behind lexer lexer.scanCharacters.2 := by
  fun_induction scanCharacters lexer with
  | case1 lexer token behind scanned =>
      have read := lexer.behind_scanCharacter
      rw [scanned] at read
      exact read
  | case2 lexer behind scanned recursive =>
      have read := lexer.behind_scanCharacter
      rw [scanned] at read
      exact recursive.trans read

theorem behind_convertNumber (floats : FloatText Number)
    (numberType : TokenType) (lexer : Lexer Number) :
    Behind lexer (convertNumber floats numberType lexer).2 := by
  rw [convertNumber]
  split_ifs <;> exact .refl lexer

theorem behind_scanNumberFrom (floats : FloatText Number)
    (state : NumberState) (numberType : TokenType) (lexer : Lexer Number) :
    Behind lexer (scanNumberFrom floats state numberType lexer).2 := by
  fun_induction scanNumberFrom floats state numberType lexer with
  | case1 state numberType lexer next scanned recursive =>
      exact recursive.trans lexer.behind_get
  | case2 state numberType lexer scanned =>
      exact (behind_convertNumber _ _ _).trans lexer.behind_get_unget
  | case3 state numberType lexer message scanned => exact lexer.behind_get

theorem behind_scanLiteralFrom (token : TokenType) (bytes : ByteString)
    (lexer : Lexer Number) :
    Behind lexer (scanLiteralFrom token bytes lexer).2 := by
  induction bytes generalizing lexer with
  | nil => exact .refl lexer
  | cons byte bytes recursive =>
      have read := lexer.behind_get
      rw [scanLiteralFrom]
      split_ifs
      · exact read
      · exact (recursive _).trans read

theorem behind_scanToken (floats : FloatText Number) (lexer : Lexer Number) :
    Behind lexer (scanToken floats lexer).2 := by
  unfold scanToken
  split
  case h_7 => exact behind_scanLiteralFrom _ _ _
  case h_8 => exact behind_scanLiteralFrom _ _ _
  case h_9 => exact behind_scanLiteralFrom _ _ _
  case h_10 => exact behind_scanCharacters _
  case h_13 =>
      split_ifs
      · exact behind_scanNumberFrom _ _ _ _
      · exact .refl lexer
  all_goals exact .refl lexer

theorem behind_skipWhitespace (lexer : Lexer Number) :
    Behind lexer lexer.skipWhitespace := by
  fun_induction skipWhitespace lexer with
  | case1 lexer byte read space recursive =>
      exact recursive.trans lexer.behind_get
  | case2 lexer byte read other => exact lexer.behind_get
  | case3 lexer read => exact lexer.behind_get

theorem remaining_skipWhitespace_lt {lexer : Lexer Number}
    (read : lexer.skipWhitespace.current ≠ none) :
    lexer.skipWhitespace.remaining < lexer.remaining := by
  fun_induction skipWhitespace lexer with
  | case1 lexer byte present space recursive =>
      exact (recursive read).trans (remaining_get_lt present)
  | case2 lexer byte present other => exact remaining_get_lt present
  | case3 lexer ended => exact absurd ended read

theorem behind_skipBom (lexer : Lexer Number) :
    Behind lexer lexer.skipBom.2 := by
  have first := lexer.behind_get
  have second := lexer.get.behind_get.trans first
  have third := lexer.get.get.behind_get.trans second
  rw [skipBom]
  split_ifs
  · exact third
  · exact second
  · exact lexer.behind_get_unget

/-- The token behind the white space. -/
theorem remaining_scanToken_skipWhitespace {floats : FloatText Number}
    {lexer : Lexer Number}
    (token : (lexer.skipWhitespace.scanToken floats).1 ≠ .endOfInput) :
    (lexer.skipWhitespace.scanToken floats).2.remaining <
      lexer.remaining := by
  have read : lexer.skipWhitespace.current ≠ none := by
    intro ended
    rw [scanToken, ended] at token
    exact token rfl
  exact
    (behind_scanToken floats lexer.skipWhitespace).remaining.trans_lt
      (remaining_skipWhitespace_lt read)

theorem behind_scan (floats : FloatText Number) (lexer : Lexer Number) :
    Behind lexer (lexer.scan floats).2 := by
  have bom := lexer.behind_skipBom
  rw [scan]
  split_ifs
  · split
    · next behind skipped =>
        rw [skipped] at bom
        exact
          (behind_scanToken floats _).trans
            ((behind_skipWhitespace _).trans bom)
    · next behind skipped =>
        rw [skipped] at bom
        exact bom
  · exact (behind_scanToken floats _).trans (behind_skipWhitespace _)

/-- A token is made of characters that are not read again. -/
theorem remaining_scan_lt {floats : FloatText Number} {lexer : Lexer Number}
    (noError : (lexer.scan floats).1 ≠ .parseError)
    (notEnd : (lexer.scan floats).1 ≠ .endOfInput) :
    (lexer.scan floats).2.remaining < lexer.remaining := by
  have bom := lexer.behind_skipBom.remaining
  rw [scan] at noError notEnd ⊢
  split_ifs at noError notEnd ⊢
  · split at noError
    · next behind skipped =>
        rw [skipped] at bom notEnd
        exact (remaining_scanToken_skipWhitespace notEnd).trans_le bom
    · exact absurd rfl noError
  · exact remaining_scanToken_skipWhitespace notEnd

end Lexer

end IocpServer.Json
