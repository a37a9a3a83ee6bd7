import IocpServer.Json.NumberTokens

/-!
# The tokens of a written text

What `scan` makes of the bytes that `dump` writes: a structural character, a
string, a number, or a literal, and the lexer that is ready for the bytes
behind it.
-/

namespace IocpServer.Json.Lexer

open IocpServer.Library

variable {Number : Type} {floats : FloatText Number}

/-! ## Being ready for a token -/

/-- The next token is read from the bytes. -/
def Ready (floats : FloatText Number) (lexer : Lexer Number)
    (bytes : ByteString) : Prop :=
  ∃ before : Lexer Number,
    before.Pending bytes ∧
      lexer.scan floats = before.skipWhitespace.scanToken floats

/-- The token is read, and the bytes are behind it. -/
def Reads (floats : FloatText Number) (lexer : Lexer Number)
    (token : TokenType) (next : Lexer Number) (rest : ByteString) : Prop :=
  lexer.scan floats = (token, next) ∧ next.Ready floats rest

/-- A lexer that has read a character does not look for a byte order mark. -/
theorem Pending.ready {lexer : Lexer Number} {bytes : ByteString}
    (pending : lexer.Pending bytes)
    (started : 0 < lexer.position.charsReadTotal) :
    lexer.Ready floats bytes :=
  ⟨lexer, pending, by rw [scan, if_neg (by omega)]⟩

/-- Nor does a new lexer find one that is not there. -/
theorem new_ready [FloatArithmetic Number] {text : ByteString}
    (noMark : text.head? ≠ some 0xEF) :
    (new text : Lexer Number).Ready floats text := by
  have unread : (new text : Lexer Number).Unread text := ⟨rfl, rfl⟩
  rcases (Pending.unread unread).get_unget with ⟨current, pending⟩
  refine ⟨_, pending, ?_⟩
  have noBom :
      (new text : Lexer Number).skipBom = (true, (new text).get.unget) := by
    rw [skipBom, if_neg (by rw [current]; exact noMark)]
  have fresh : (new text : Lexer Number).position.charsReadTotal = 0 := rfl
  rw [scan, if_pos fresh, noBom]

/-- Characters that are skipped. -/
def Spaces (bytes : ByteString) : Prop :=
  ∀ byte ∈ bytes, isWhitespace byte = true

/-- A token behind white space. -/
theorem Ready.skip {lexer : Lexer Number} {spaces bytes : ByteString}
    (ready : lexer.Ready floats (spaces ++ bytes)) (all : Spaces spaces) :
    lexer.Ready floats bytes := by
  induction spaces with
  | nil => exact ready
  | cons space spaces recursive =>
      apply recursive
      · rcases ready with ⟨before, pending, scanned⟩
        rcases pending.get with ⟨current, unread⟩
        refine ⟨before.get, .unread unread, ?_⟩
        have skipped : before.skipWhitespace = before.get.skipWhitespace := by
          rw [skipWhitespace]
          split
          · next other read =>
              rw [current] at read
              cases read
              rw [if_pos (all space List.mem_cons_self)]
          · next ended =>
              rw [current] at ended
              cases ended
        rw [scanned, skipped]
      · exact fun byte present => all byte (List.mem_cons_of_mem _ present)

/-- A token behind a character. -/
theorem Ready.character {lexer : Lexer Number} {byte : UInt8}
    {rest : ByteString} (ready : lexer.Ready floats (byte :: rest))
    (notSpace : isWhitespace byte = false) :
    ∃ inside : Lexer Number,
      inside.current = some byte ∧
        inside.Unread rest ∧
        0 < inside.position.charsReadTotal ∧
        lexer.scan floats = inside.scanToken floats := by
  rcases ready with ⟨before, pending, scanned⟩
  rcases pending.get with ⟨current, unread⟩
  refine ⟨before.get, current, unread, Nat.succ_pos _, ?_⟩
  have skipped : before.skipWhitespace = before.get := by
    rw [skipWhitespace]
    split
    · next other read =>
        rw [current] at read
        cases read
        rw [if_neg (by rw [notSpace]; exact Bool.false_ne_true)]
    · rfl
  rw [scanned, skipped]

/-- At the end there is no further token. -/
theorem Ready.atEnd {lexer : Lexer Number} (ready : lexer.Ready floats []) :
    (lexer.scan floats).1 = .endOfInput := by
  rcases ready with ⟨before, pending, scanned⟩
  rcases pending.get_end with ⟨current, -⟩
  have skipped : before.skipWhitespace = before.get := by
    rw [skipWhitespace]
    split
    · next other read =>
        rw [current] at read
        cases read
    · rfl
  rw [scanned, skipped, scanToken, current]

/-! ## The tokens -/

/-- The token of a structural character. -/
def structuralToken : UInt8 → Option TokenType
  | 91 => some .beginArray
  | 93 => some .endArray
  | 123 => some .beginObject
  | 125 => some .endObject
  | 58 => some .nameSeparator
  | 44 => some .valueSeparator
  | _ => none

theorem Ready.structural {lexer : Lexer Number} {byte : UInt8}
    {token : TokenType} {rest : ByteString}
    (ready : lexer.Ready floats (byte :: rest))
    (structural : structuralToken byte = some token) :
    ∃ next, lexer.Reads floats token next rest := by
  unfold structuralToken at structural
  split at structural
  case h_7 => cases structural
  all_goals
    cases structural
    rcases ready.character rfl with ⟨inside, current, unread, started, scanned⟩
    refine ⟨inside, ?_, (Pending.unread unread).ready started⟩
    rw [scanned, scanToken, current]
    rfl

theorem Ready.string {lexer : Lexer Number} {characters : List Char}
    {rest : ByteString}
    (ready :
      lexer.Ready floats
        (34 :: (characters.flatMap escapedChar ++ 34 :: rest))) :
    ∃ next,
      lexer.Reads floats .valueString next rest ∧
        next.tokenBuffer = utf8Text characters := by
  rcases ready.character rfl with ⟨inside, current, unread, started, scanned⟩
  rcases scanString_escaped unread with ⟨next, read, after, buffer⟩
  have behind := behind_scanCharacters inside.reset
  rw [← scanString, read] at behind
  refine
    ⟨next, ⟨?_, (Pending.unread after).ready (started.trans_le behind.total)⟩,
      buffer⟩
  rw [scanned, scanToken, current, ← read]
  rfl

theorem isWhitespace_digit {byte : UInt8} (digit : isDigit byte = true) :
    isWhitespace byte = false := by
  cases space : isWhitespace byte with
  | false => rfl
  | true =>
      simp only [isWhitespace, Bool.or_eq_true, beq_iff_eq] at space
      rcases space with ((rfl | rfl) | rfl) | rfl <;> cases digit

theorem scanToken_number {lexer : Lexer Number} {byte : UInt8}
    (current : lexer.current = some byte)
    (start : byte = 45 ∨ isDigit byte = true) :
    lexer.scanToken floats = lexer.scanNumber floats := by
  unfold scanToken
  split
  case h_13 other _ _ _ _ _ _ _ _ _ _ _ read =>
    rw [current] at read
    cases read
    rw [if_pos start]
  case h_12 read =>
    rw [current] at read
    cases read
  all_goals
    next read =>
      rw [current] at read
      cases read
      rcases start with start | start <;> cases start

/-- A number, up to its conversion. -/
theorem Ready.number {lexer : Lexer Number} {text rest : ByteString}
    {numberType : TokenType}
    (ready : lexer.Ready floats (text ++ rest))
    (isText : NumberText text numberType) (closed : Closed rest) :
    ∃ behind : Lexer Number,
      lexer.scan floats = convertNumber floats numberType behind ∧
        behind.tokenBuffer = text ∧
        behind.Pending rest ∧
        0 < behind.position.charsReadTotal := by
  have shape := isText
  rcases shape with ⟨first, others, last, rfl, start, -, -⟩
  have notSpace : isWhitespace first = false := by
    rcases start with rfl | digit
    · rfl
    · exact isWhitespace_digit digit
  rcases ready.character notSpace with
    ⟨inside, current, unread, started, scanned⟩
  rcases scanNumber_text floats isText closed current unread with
    ⟨behind, read, pending, further, buffer⟩
  refine ⟨behind, ?_, buffer, pending, started.trans_le further.total⟩
  rw [scanned, scanToken_number current start, read]

/-- A number without a sign that fits into 64 bits. -/
theorem Ready.unsigned {lexer : Lexer Number} {text rest : ByteString}
    {number : UInt64}
    (ready : lexer.Ready floats (text ++ rest))
    (isText : NumberText text .valueUnsigned)
    (value : signedValue text = number.toNat) (closed : Closed rest) :
    ∃ next,
      lexer.Reads floats .valueUnsigned next rest ∧
        next.valueUnsigned = number := by
  rcases ready.number isText closed with
    ⟨behind, scanned, buffer, pending, started⟩
  have bound := number.toNat_lt
  refine ⟨{ behind with valueUnsigned := number }, ⟨?_, ?_⟩, rfl⟩
  · rw [scanned, convertNumber, buffer, value, if_pos ⟨rfl, by omega⟩,
      Int.toNat_natCast, UInt64.ofNat_toNat]
  · exact Pending.ready (pending.same rfl rfl rfl) started

/-- A number with a minus sign that fits into 64 bits. -/
theorem Ready.integer {lexer : Lexer Number} {text rest : ByteString}
    {number : Int64}
    (ready : lexer.Ready floats (text ++ rest))
    (isText : NumberText text .valueInteger)
    (value : signedValue text = number.toInt) (closed : Closed rest) :
    ∃ next,
      lexer.Reads floats .valueInteger next rest ∧
        next.valueInteger = number := by
  rcases ready.number isText closed with
    ⟨behind, scanned, buffer, pending, started⟩
  have lower := number.le_toInt
  have upper := number.toInt_lt
  refine ⟨{ behind with valueInteger := number }, ⟨?_, ?_⟩, rfl⟩
  · rw [scanned, convertNumber, buffer, value,
      if_neg (fun unsigned => TokenType.noConfusion unsigned.1),
      if_pos ⟨rfl, lower, upper⟩, Int64.ofInt_toInt]
  · exact Pending.ready (pending.same rfl rfl rfl) started

/-- A floating-point number. -/
theorem Ready.float {lexer : Lexer Number} {text rest : ByteString}
    (ready : lexer.Ready floats (text ++ rest))
    (isText : NumberText text .valueFloat) (closed : Closed rest) :
    ∃ next,
      lexer.Reads floats .valueFloat next rest ∧
        next.valueFloat = floats.strtod text := by
  rcases ready.number isText closed with
    ⟨behind, scanned, buffer, pending, started⟩
  refine
    ⟨{ behind with valueFloat := floats.strtod text }, ⟨?_, ?_⟩, rfl⟩
  · rw [scanned, convertNumber, buffer,
      if_neg (fun unsigned => TokenType.noConfusion unsigned.1),
      if_neg (fun integer => TokenType.noConfusion integer.1)]
  · exact Pending.ready (pending.same rfl rfl rfl) started

/-! ## Literals -/

theorem scanLiteralFrom_text (token : TokenType) {bytes rest : ByteString}
    {lexer : Lexer Number} (unread : lexer.Unread (bytes ++ rest)) :
    ∃ next,
      scanLiteralFrom token bytes lexer = (token, next) ∧
        next.Unread rest := by
  induction bytes generalizing lexer with
  | nil => exact ⟨lexer, rfl, unread⟩
  | cons byte bytes recursive =>
      rcases unread.get with ⟨current, behind⟩
      rcases recursive behind with ⟨next, scanned, after⟩
      refine ⟨next, ?_, after⟩
      rw [scanLiteralFrom, if_neg (not_not.mpr current)]
      exact scanned

/-- A literal by its first character. -/
theorem Ready.literalText {lexer : Lexer Number} {text : String}
    {token : TokenType} (first : UInt8) {others rest : ByteString}
    (ready : lexer.Ready floats (literal text ++ rest))
    (shape : literal text = first :: others)
    (notSpace : isWhitespace first = false)
    (branch : ∀ inside : Lexer Number, inside.current = some first →
      inside.scanToken floats = inside.scanLiteral text token) :
    ∃ next, lexer.Reads floats token next rest := by
  rw [shape] at ready
  rcases ready.character notSpace with
    ⟨inside, current, unread, started, scanned⟩
  rcases scanLiteralFrom_text token unread with
    ⟨next, read, after⟩
  have behind := behind_scanLiteralFrom token others inside
  rw [read] at behind
  refine
    ⟨next, ?_, (Pending.unread after).ready (started.trans_le behind.total)⟩
  rw [scanned, branch inside current, scanLiteral, shape]
  exact read

theorem Ready.literalTrue {lexer : Lexer Number} {rest : ByteString}
    (ready : lexer.Ready floats (literal "true" ++ rest)) :
    ∃ next, lexer.Reads floats .literalTrue next rest :=
  ready.literalText 116 rfl rfl fun inside current => by
    rw [scanToken, current]
    rfl

theorem Ready.literalFalse {lexer : Lexer Number} {rest : ByteString}
    (ready : lexer.Ready floats (literal "false" ++ rest)) :
    ∃ next, lexer.Reads floats .literalFalse next rest :=
  ready.literalText 102 rfl rfl fun inside current => by
    rw [scanToken, current]
    rfl

theorem Ready.literalNull {lexer : Lexer Number} {rest : ByteString}
    (ready : lexer.Ready floats (literal "null" ++ rest)) :
    ∃ next, lexer.Reads floats .literalNull next rest :=
  ready.literalText 110 rfl rfl fun inside current => by
    rw [scanToken, current]
    rfl

end IocpServer.Json.Lexer
