import IocpServer.Json.Lexer
import IocpServer.Library.Fallible

/-!
# The value of a JSON text

`parse` of a byte string: `sax_parse_internal` with its stack of open
containers, and `json_sax_dom_parser`, which builds the value from the events.
An open container is kept with what is in it, in place of the pointer to it.
-/

namespace IocpServer.Json

open IocpServer.Library

/-- The exceptions of `parse`. -/
inductive ParserException where
  | parseError (id : Nat) (message : String)
  | outOfRange (id : Nat) (message : String)
deriving DecidableEq, Repr

/-- An open container; that of an object has the key of `object_element`. -/
inductive Frame (Number : Type) where
  | array (elements : List (JsonValue Number))
  | object (members : List (ByteString × JsonValue Number)) (key : ByteString)

/-- `parser`, with the value that is built; the innermost container first. -/
structure Parser (Number : Type) where
  lexer : Lexer Number
  lastToken : TokenType
  states : List Bool
  skipToStateEvaluation : Bool
  root : JsonValue Number
  refStack : List (Frame Number)

/-- The bytes of a message, each as a character. -/
def messageText (bytes : ByteString) : String :=
  String.ofList (bytes.map fun byte => Char.ofNat byte.toNat)

namespace Lexer

variable {Number : Type}

/-- `get_token_string`. -/
def getTokenString (lexer : Lexer Number) : String :=
  (lexer.tokenString.map fun byte =>
    if byte ≤ 0x1F then
      "<U+00" ++ hexBytes byte ++ ">"
    else
      messageText [byte]).foldl String.append ""

end Lexer

namespace JsonValue

variable {Number : Type}

/-- The assignment of a member that is there. -/
def assign (key : ByteString) (value : JsonValue Number) :
    List (ByteString × JsonValue Number) → List (ByteString × JsonValue Number)
  | [] => []
  | member :: members =>
      if member.1 = key then
        (key, value) :: members
      else
        member :: assign key value members

end JsonValue

namespace Parser

variable {Number : Type}

/-! ## Building the value -/

/-- `handle_value`. -/
def handleValue (parser : Parser Number) (value : JsonValue Number) :
    Parser Number :=
  match parser.refStack with
  | [] => { parser with root := value }
  | .array elements :: frames =>
      { parser with refStack := .array (elements ++ [value]) :: frames }
  | .object members key :: frames =>
      { parser with
        refStack := .object (JsonValue.assign key value members) key :: frames }

/-- `start_object`. -/
def startObject (parser : Parser Number) : Parser Number :=
  { parser with refStack := .object [] [] :: parser.refStack }

/-- `start_array`. -/
def startArray (parser : Parser Number) : Parser Number :=
  { parser with refStack := .array [] :: parser.refStack }

/-- `key`: there is a null at the key until its value is read. -/
def key (parser : Parser Number) (key : ByteString) : Parser Number :=
  match parser.refStack with
  | .object members _ :: frames =>
      { parser with
        refStack := .object (JsonValue.emplace key .null members) key :: frames }
  | _ => parser

/-- `end_object` and `end_array`: the container is a value of the next one. -/
def endContainer (parser : Parser Number) : Parser Number :=
  match parser.refStack with
  | [] => parser
  | .array elements :: frames =>
      { parser with refStack := frames }.handleValue (.array elements)
  | .object members _ :: frames =>
      { parser with refStack := frames }.handleValue (.object members)

/-! ## Reading the tokens -/

/-- `get_token`. -/
def getToken (floats : FloatText Number) (parser : Parser Number) :
    Parser Number :=
  { parser with
    lastToken := (parser.lexer.scan floats).1
    lexer := (parser.lexer.scan floats).2 }

/-- The parser before its first token. -/
def new [FloatArithmetic Number] (text : ByteString) : Parser Number where
  lexer := Lexer.new text
  lastToken := .uninitialized
  states := []
  skipToStateEvaluation := false
  root := .null
  refStack := []

/-- `exception_message`. -/
def exceptionMessage (parser : Parser Number) (expected : TokenType)
    (context : String) : String :=
  "syntax error while parsing " ++ context ++ " - " ++
    (if parser.lastToken = .parseError then
      parser.lexer.errorMessage ++ "; last read: '" ++
        parser.lexer.getTokenString ++ "'"
    else
      "unexpected " ++ tokenTypeName parser.lastToken) ++
    (if expected = .uninitialized then ""
    else "; expected " ++ tokenTypeName expected)

/-- `parse_error.101`, at the position of the lexer. -/
def parseError (parser : Parser Number) (message : String) :
    ParserException :=
  .parseError 101
    ("parse error at line " ++ toString (parser.lexer.position.linesRead + 1) ++
      ", column " ++ toString parser.lexer.position.charsReadCurrentLine ++
      ": " ++ message)

/-- The exception of a token that is not expected. -/
def unexpected (parser : Parser Number) (expected : TokenType)
    (context : String) : ParserException :=
  parser.parseError (parser.exceptionMessage expected context)

/-- How an iteration of `sax_parse_internal` ends. -/
inductive Iteration (Number : Type) where
  | next (parser : Parser Number)
  | done (parser : Parser Number)

/-- A key, and the colon behind it. -/
def parseKey (floats : FloatText Number) (parser : Parser Number) :
    Except ParserException (Parser Number) :=
  if parser.lastToken ≠ .valueString then
    .error (parser.unexpected .valueString "object key")
  else
    let parser := (parser.key parser.lexer.tokenBuffer).getToken floats
    if parser.lastToken ≠ .nameSeparator then
      .error (parser.unexpected .nameSeparator "object separator")
    else
      .ok parser

/-- What is behind a value, by the innermost container. -/
def evaluateState (floats : FloatText Number) (parser : Parser Number) :
    Except ParserException (Iteration Number) :=
  match parser.states with
  | [] => .ok (.done parser)
  | true :: states =>
      let parser := parser.getToken floats
      if parser.lastToken = .valueSeparator then
        .ok (.next (parser.getToken floats))
      else if parser.lastToken = .endArray then
        .ok (.next
          { parser.endContainer with
            states := states
            skipToStateEvaluation := true })
      else
        .error (parser.unexpected .endArray "array")
  | false :: states =>
      let parser := parser.getToken floats
      if parser.lastToken = .valueSeparator then do
        let parser ← (parser.getToken floats).parseKey floats
        return .next (parser.getToken floats)
      else if parser.lastToken = .endObject then
        .ok (.next
          { parser.endContainer with
            states := states
            skipToStateEvaluation := true })
      else
        .error (parser.unexpected .endObject "object")

/-- A value that is a token. -/
def scalarValue (parser : Parser Number) : Option (JsonValue Number) :=
  match parser.lastToken with
  | .literalTrue => some (.boolean true)
  | .literalFalse => some (.boolean false)
  | .literalNull => some .null
  | .valueString => some (.string parser.lexer.tokenBuffer)
  | .valueUnsigned => some (.numberUnsigned parser.lexer.valueUnsigned)
  | .valueInteger => some (.numberInteger parser.lexer.valueInteger)
  | .valueFloat => some (.numberFloat parser.lexer.valueFloat)
  | _ => none

/-- The switch over the last token. -/
def parseValue [FloatArithmetic Number] (floats : FloatText Number)
    (parser : Parser Number) :
    Except ParserException (Iteration Number) :=
  match parser.lastToken with
  | .beginObject =>
      let parser := parser.startObject.getToken floats
      if parser.lastToken = .endObject then
        evaluateState floats parser.endContainer
      else do
        let parser ← parser.parseKey floats
        return .next
          ({ parser with states := false :: parser.states }.getToken floats)
  | .beginArray =>
      let parser := parser.startArray.getToken floats
      if parser.lastToken = .endArray then
        evaluateState floats parser.endContainer
      else
        .ok (.next { parser with states := true :: parser.states })
  | .parseError => .error (parser.unexpected .uninitialized "value")
  | .endOfInput =>
      if parser.lexer.position.charsReadTotal = 1 then
        .error
          (parser.parseError
            ("attempting to parse an empty input; check that your input " ++
              "string or stream contains the expected JSON"))
      else
        .error (parser.unexpected .literalOrValue "value")
  | _ =>
      match parser.scalarValue with
      | some (.numberFloat number) =>
          if FloatArithmetic.isFinite number then
            evaluateState floats (parser.handleValue (.numberFloat number))
          else
            .error
              (.outOfRange 406
                ("number overflow parsing '" ++ parser.lexer.getTokenString ++
                  "'"))
      | some value => evaluateState floats (parser.handleValue value)
      | none => .error (parser.unexpected .literalOrValue "value")

/-- An iteration of `sax_parse_internal`. -/
def iterate [FloatArithmetic Number] (floats : FloatText Number)
    (parser : Parser Number) :
    Except ParserException (Iteration Number) :=
  if parser.skipToStateEvaluation then
    evaluateState floats { parser with skipToStateEvaluation := false }
  else
    parseValue floats parser

/-! ## The loop -/

/-- How many characters the parser has yet to read. -/
def remaining (parser : Parser Number) : Nat :=
  parser.lexer.remaining

@[simp]
theorem remaining_handleValue (parser : Parser Number)
    (value : JsonValue Number) :
    (parser.handleValue value).remaining = parser.remaining := by
  unfold handleValue
  split <;> rfl

@[simp]
theorem remaining_key (parser : Parser Number) (key : ByteString) :
    (parser.key key).remaining = parser.remaining := by
  unfold Parser.key
  split <;> rfl

@[simp]
theorem remaining_endContainer (parser : Parser Number) :
    parser.endContainer.remaining = parser.remaining := by
  unfold endContainer
  split
  · rfl
  · rw [remaining_handleValue]
    rfl
  · rw [remaining_handleValue]
    rfl

theorem remaining_getToken_le (floats : FloatText Number)
    (parser : Parser Number) :
    (parser.getToken floats).remaining ≤ parser.remaining :=
  (Lexer.behind_scan floats parser.lexer).remaining

theorem remaining_getToken_lt {floats : FloatText Number}
    {parser : Parser Number} {token : TokenType}
    (read : (parser.getToken floats).lastToken = token)
    (noError : token ≠ .parseError) (notEnd : token ≠ .endOfInput) :
    (parser.getToken floats).remaining < parser.remaining := by
  subst read
  exact Lexer.remaining_scan_lt noError notEnd

theorem remaining_parseKey_lt {floats : FloatText Number}
    {parser behind : Parser Number}
    (parsed : parser.parseKey floats = .ok behind) :
    behind.remaining < parser.remaining := by
  rw [parseKey] at parsed
  dsimp only at parsed
  split_ifs at parsed with key separator
  cases parsed
  have read :=
    remaining_getToken_lt (not_not.mp separator) (by decide) (by decide)
  rw [remaining_key] at read
  exact read

/-- What the parser has yet to read, with a last token that is to be looked at. -/
def work (parser : Parser Number) : Nat :=
  if parser.skipToStateEvaluation = true ∨ parser.lastToken = .parseError ∨
      parser.lastToken = .endOfInput then
    parser.remaining
  else
    parser.remaining + 1

theorem work_getToken_le (floats : FloatText Number)
    (parser : Parser Number) :
    (parser.getToken floats).work ≤ parser.remaining := by
  have read := remaining_getToken_le floats parser
  rw [work]
  split_ifs with seen
  · exact read
  · push Not at seen
    exact remaining_getToken_lt rfl seen.2.1 seen.2.2

/-- The loop goes on behind a comma or a bracket. -/
theorem work_evaluateState_lt {floats : FloatText Number}
    {parser behind : Parser Number}
    (further : evaluateState floats parser = .ok (.next behind)) :
    behind.work < parser.remaining := by
  unfold evaluateState at further
  split at further
  · cases further
  · dsimp only at further
    split_ifs at further with comma bracket
    · cases further
      have read := remaining_getToken_lt comma (by decide) (by decide)
      exact (work_getToken_le floats _).trans_lt read
    · cases further
      have read := remaining_getToken_lt bracket (by decide) (by decide)
      rw [← remaining_endContainer] at read
      rw [work, if_pos (.inl rfl)]
      exact read
  · dsimp only at further
    split_ifs at further with comma bracket
    · rcases Fallible.bind_eq_ok.mp further with ⟨value, parsed, next⟩
      cases next
      have read := remaining_getToken_lt comma (by decide) (by decide)
      have token := remaining_getToken_le floats (parser.getToken floats)
      have keyRead := remaining_parseKey_lt parsed
      have first := work_getToken_le floats value
      exact first.trans_lt (keyRead.trans_le (token.trans read.le))
    · cases further
      have read := remaining_getToken_lt bracket (by decide) (by decide)
      rw [← remaining_endContainer] at read
      rw [work, if_pos (.inl rfl)]
      exact read

section Loop

variable [FloatArithmetic Number]

/-- The last token is looked at once. -/
theorem work_parseValue_le {floats : FloatText Number}
    {parser behind : Parser Number}
    (further : parseValue floats parser = .ok (.next behind)) :
    behind.work ≤ parser.remaining ∧
      parser.lastToken ≠ .parseError ∧ parser.lastToken ≠ .endOfInput := by
  unfold parseValue at further
  split at further
  · next token =>
      refine ⟨?_, by rw [token]; decide, by rw [token]; decide⟩
      have read := remaining_getToken_le floats parser.startObject
      change _ ≤ parser.remaining at read
      dsimp only at further
      split_ifs at further
      · have evaluated := work_evaluateState_lt further
        rw [remaining_endContainer] at evaluated
        exact (evaluated.trans_le read).le
      · rcases Fallible.bind_eq_ok.mp further with ⟨value, parsed, next⟩
        cases next
        have keyRead := remaining_parseKey_lt parsed
        have last :=
          work_getToken_le floats { value with states := false :: value.states }
        exact last.trans (keyRead.le.trans read)
  · next token =>
      refine ⟨?_, by rw [token]; decide, by rw [token]; decide⟩
      have read := work_getToken_le floats parser.startArray
      have shorter := remaining_getToken_le floats parser.startArray
      dsimp only at further
      split_ifs at further
      · have evaluated := work_evaluateState_lt further
        rw [remaining_endContainer] at evaluated
        exact (evaluated.trans_le shorter).le
      · cases further
        exact read
  · cases further
  · split_ifs at further
  · next noError notEnd =>
      refine ⟨?_, noError, notEnd⟩
      split at further
      · split_ifs at further
        have evaluated := work_evaluateState_lt further
        rw [remaining_handleValue] at evaluated
        exact evaluated.le
      · have evaluated := work_evaluateState_lt further
        rw [remaining_handleValue] at evaluated
        exact evaluated.le
      · cases further

theorem work_iterate_lt {floats : FloatText Number}
    {parser behind : Parser Number}
    (further : iterate floats parser = .ok (.next behind)) :
    behind.work < parser.work := by
  rw [iterate] at further
  split_ifs at further with skip
  · have evaluated := work_evaluateState_lt further
    rw [work.eq_def parser, if_pos (.inl skip)]
    exact evaluated
  · rcases work_parseValue_le further with ⟨bound, noError, notEnd⟩
    rw [work.eq_def parser, if_neg (by simp [skip, noError, notEnd])]
    exact Nat.lt_succ_of_le bound

/-- `sax_parse_internal`. -/
def saxParse (floats : FloatText Number) (parser : Parser Number) :
    Except ParserException (Parser Number) :=
  match _ : iterate floats parser with
  | .error exception => .error exception
  | .ok (.done parser) => .ok parser
  | .ok (.next parser) => saxParse floats parser
termination_by parser.work
decreasing_by
  rename_i further
  exact work_iterate_lt further

/-- `parse`; a text that is not read strictly may go on behind the value. -/
def parse (floats : FloatText Number) (strict : Bool) (text : ByteString) :
    Except ParserException (JsonValue Number) := do
  let parser ← saxParse floats ((new text).getToken floats)
  if strict = true ∧ (parser.getToken floats).lastToken ≠ .endOfInput then
    .error ((parser.getToken floats).unexpected .endOfInput "value")
  else
    .ok parser.root

end Loop

end Parser

end IocpServer.Json
