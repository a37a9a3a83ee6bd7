import IocpServer.Json.Parser
import IocpServer.Json.TokenReading

/-!
# A written value is read back

`parse` of what `dump` has written.  The parser is followed from the first
token of a value to the token behind it: there the value is where
`handle_value` puts it, and everything else is as it was.
-/

namespace IocpServer.Json

open IocpServer.Library

variable {Number : Type} [FloatArithmetic Number]

/-- The text of a number is read as floating point, and as the number. -/
structure FloatText.Keeps (floats : FloatText Number) (number : Number) :
    Prop where
  text : Lexer.NumberText (floats.toChars number) .valueFloat
  back : floats.strtod (floats.toChars number) = number

namespace JsonValue

mutual

/-- The strings of the value have a text, and its floating-point numbers
are kept; the members of an object are those of a `std::map`. -/
def Writable (floats : FloatText Number) : JsonValue Number → Prop
  | .null => True
  | .boolean _ => True
  | .numberInteger _ => True
  | .numberUnsigned _ => True
  | .numberFloat number =>
      FloatArithmetic.isFinite number = true → floats.Keeps number
  | .string text => ValidUtf8 text
  | .array elements => WritableElements floats elements
  | .object members =>
      WritableMembers floats members ∧
        members.Pairwise fun first second =>
          compare first.1 second.1 = .lt

def WritableElements (floats : FloatText Number) :
    List (JsonValue Number) → Prop
  | [] => True
  | element :: elements =>
      Writable floats element ∧ WritableElements floats elements

def WritableMembers (floats : FloatText Number) :
    List (ByteString × JsonValue Number) → Prop
  | [] => True
  | (key, value) :: members =>
      ValidUtf8 key ∧ Writable floats value ∧ WritableMembers floats members

end

/-- What is between a colon and a value. -/
def keyGap : Option UInt32 → ByteString
  | none => []
  | some _ => [32]

omit [FloatArithmetic Number] in
theorem spaces_keyGap (indentStep : Option UInt32) :
    Lexer.Spaces (keyGap indentStep) := by
  intro byte present
  cases indentStep with
  | none => cases present
  | some step =>
      cases List.mem_singleton.mp present
      rfl

omit [FloatArithmetic Number] in
theorem spaces_lineBreak (indentStep : Option UInt32) (indent : UInt32) :
    Lexer.Spaces (lineBreak indentStep indent) := by
  intro byte present
  cases indentStep with
  | none => cases present
  | some step =>
      rcases List.mem_cons.mp present with rfl | inIndent
      · rfl
      · cases List.eq_of_mem_replicate inIndent
        rfl

/-- The text of two elements or more. -/
theorem dumpElements_cons {floats : FloatText Number}
    {indentStep : Option UInt32} {indent : UInt32}
    {element second : JsonValue Number} {elements : List (JsonValue Number)}
    {text : ByteString}
    (dumped :
      dumpElements floats indentStep indent (element :: second :: elements) =
        .ok text) :
    ∃ first others,
      dump floats indentStep indent element = .ok first ∧
        dumpElements floats indentStep indent (second :: elements) =
          .ok others ∧
        text = first ++ 44 :: (lineBreak indentStep indent ++ others) := by
  rw [dumpElements] at dumped
  · rcases Fallible.bind_eq_ok.mp dumped with ⟨first, firstDumped, dumped⟩
    rcases Fallible.bind_eq_ok.mp dumped with ⟨others, othersDumped, whole⟩
    cases whole
    refine ⟨first, others, firstDumped, othersDumped, ?_⟩
    simp only [List.append_assoc]
    rfl
  · exact List.cons_ne_nil _ _

omit [FloatArithmetic Number] in
theorem keySeparator_eq (indentStep : Option UInt32) :
    keySeparator indentStep = 58 :: keyGap indentStep := by
  cases indentStep <;> rfl

/-- The text of one member. -/
theorem dumpMembers_one {floats : FloatText Number}
    {indentStep : Option UInt32} {indent : UInt32} {key text : ByteString}
    {value : JsonValue Number}
    (dumped : dumpMembers floats indentStep indent [(key, value)] = .ok text) :
    ∃ name first,
      dumpString key = .ok name ∧
        dump floats indentStep indent value = .ok first ∧
        text = name ++ 58 :: (keyGap indentStep ++ first) := by
  rw [dumpMembers] at dumped
  rcases Fallible.bind_eq_ok.mp dumped with ⟨name, nameDumped, dumped⟩
  rcases Fallible.bind_eq_ok.mp dumped with ⟨first, firstDumped, whole⟩
  cases whole
  refine ⟨name, first, nameDumped, firstDumped, ?_⟩
  rw [keySeparator_eq, List.append_assoc]
  rfl

/-- The text of two members or more. -/
theorem dumpMembers_cons {floats : FloatText Number}
    {indentStep : Option UInt32} {indent : UInt32} {key text : ByteString}
    {value : JsonValue Number} {second : ByteString × JsonValue Number}
    {members : List (ByteString × JsonValue Number)}
    (dumped :
      dumpMembers floats indentStep indent ((key, value) :: second :: members) =
        .ok text) :
    ∃ name first others,
      dumpString key = .ok name ∧
        dump floats indentStep indent value = .ok first ∧
        dumpMembers floats indentStep indent (second :: members) =
          .ok others ∧
        text =
          name ++ 58 ::
            (keyGap indentStep ++
              (first ++ 44 :: (lineBreak indentStep indent ++ others))) := by
  rw [dumpMembers] at dumped
  · rcases Fallible.bind_eq_ok.mp dumped with ⟨name, nameDumped, dumped⟩
    rcases Fallible.bind_eq_ok.mp dumped with ⟨first, firstDumped, dumped⟩
    rcases Fallible.bind_eq_ok.mp dumped with ⟨others, othersDumped, whole⟩
    cases whole
    refine ⟨name, first, others, nameDumped, firstDumped, othersDumped, ?_⟩
    rw [keySeparator_eq]
    simp only [List.append_assoc, List.cons_append]
    rfl
  · exact List.cons_ne_nil _ _

/-- An integer that is not negative is the same without its sign. -/
theorem toInt_of_not_neg {number : Int64} (above : ¬number < 0) :
    number.toInt = (number.toUInt64.toNat : Int) := by
  rw [Int64.lt_iff_toInt_lt] at above
  have zero : (0 : Int64).toInt = 0 := rfl
  have cases := BitVec.toInt_eq_toNat_cond number.toBitVec
  change number.toInt = _ at cases
  change _ = (number.toBitVec.toNat : Int)
  split_ifs at cases with small
  · exact cases
  · omega

end JsonValue

namespace Parser

variable {floats : FloatText Number}

/-- The loop behind an iteration. -/
def resume (floats : FloatText Number) :
    Except ParserException (Iteration Number) →
      Except ParserException (Parser Number)
  | .error exception => .error exception
  | .ok (.done parser) => .ok parser
  | .ok (.next parser) => saxParse floats parser

theorem saxParse_eq (parser : Parser Number) :
    saxParse floats parser = resume floats (iterate floats parser) := by
  rw [saxParse]
  split
  · next exception iterated => rw [iterated, resume]
  · next behind iterated => rw [iterated, resume]
  · next behind iterated => rw [iterated, resume]

/-- The parser behind a token. -/
def behindToken (parser : Parser Number) (lexer : Lexer Number)
    (token : TokenType) : Parser Number :=
  { parser with lexer := lexer, lastToken := token }

omit [FloatArithmetic Number] in
theorem getToken_reads {parser : Parser Number} {token : TokenType}
    {next : Lexer Number} {rest : ByteString}
    (reads : parser.lexer.Reads floats token next rest) :
    parser.getToken floats = parser.behindToken next token := by
  rw [getToken, reads.1]
  rfl

/-- A value at the parser is read, up to what is evaluated behind it. -/
def ReadsValue (floats : FloatText Number) (parser : Parser Number)
    (value : JsonValue Number) (rest : ByteString) : Prop :=
  (parser.getToken floats).lastToken ≠ .endArray ∧
    ∃ lexer token,
      lexer.Ready floats rest ∧
        saxParse floats (parser.getToken floats) =
          resume floats
            (evaluateState floats
              ((parser.behindToken lexer token).handleValue value))

/-- A value that is one token. -/
theorem readsValue_scalar {parser : Parser Number} {token : TokenType}
    {next : Lexer Number} {rest : ByteString} {value : JsonValue Number}
    (noSkip : parser.skipToStateEvaluation = false)
    (reads : parser.lexer.Reads floats token next rest)
    (notEnd : token ≠ .endArray)
    (parsed :
      parseValue floats (parser.behindToken next token) =
        evaluateState floats ((parser.behindToken next token).handleValue value)) :
    ReadsValue floats parser value rest := by
  have behind := getToken_reads reads
  rw [ReadsValue, behind]
  refine ⟨notEnd, next, token, reads.2, ?_⟩
  have skip : (parser.behindToken next token).skipToStateEvaluation = false := noSkip
  rw [saxParse_eq, iterate, if_neg (by rw [skip]; exact Bool.false_ne_true),
    parsed]

theorem readsValue_string {parser : Parser Number} {text rest : ByteString}
    {value : ByteString}
    (noSkip : parser.skipToStateEvaluation = false)
    (valid : ValidUtf8 value) (dumped : JsonValue.dumpString value = .ok text)
    (ready : parser.lexer.Ready floats (text ++ rest)) :
    ReadsValue floats parser (.string value) rest := by
  rcases valid with ⟨characters, rfl⟩
  rw [JsonValue.dumpString, dumpEscaped_utf8Text] at dumped
  cases dumped
  have quoted :
      literal "\"" ++ characters.flatMap escapedChar ++ literal "\"" ++ rest =
        34 :: (characters.flatMap escapedChar ++ 34 :: rest) := by
    simp [literal]
  rw [quoted] at ready
  rcases ready.string with ⟨next, reads, buffer⟩
  apply readsValue_scalar noSkip reads (by decide)
  rw [← buffer]
  rfl

theorem readsValue_integer {parser : Parser Number} {number : Int64}
    {rest : ByteString} (noSkip : parser.skipToStateEvaluation = false)
    (closed : Lexer.Closed rest)
    (ready : parser.lexer.Ready floats (dumpInteger number.toInt ++ rest)) :
    ReadsValue floats parser (JsonValue.numberInteger number).reread rest := by
  rw [JsonValue.reread]
  split_ifs with negative
  · have below : number.toInt < 0 := Int64.lt_iff_toInt_lt.mp negative
    rcases Lexer.numberText_dumpInteger_neg below with ⟨text, value⟩
    rcases ready.integer text value closed with ⟨next, reads, rfl⟩
    exact readsValue_scalar noSkip reads (by decide) rfl
  · have same := JsonValue.toInt_of_not_neg negative
    rw [same] at ready
    rcases Lexer.numberText_dumpInteger number.toUInt64.toNat with
      ⟨text, value⟩
    rcases ready.unsigned text value closed with ⟨next, reads, back⟩
    rw [← back]
    exact readsValue_scalar noSkip reads (by decide) rfl

theorem readsValue_float {parser : Parser Number} {number : Number}
    {rest : ByteString} (noSkip : parser.skipToStateEvaluation = false)
    (finite : FloatArithmetic.isFinite number = true)
    (kept : floats.Keeps number) (closed : Lexer.Closed rest)
    (ready : parser.lexer.Ready floats (floats.toChars number ++ rest)) :
    ReadsValue floats parser (.numberFloat number) rest := by
  rcases ready.float kept.text closed with ⟨next, reads, back⟩
  rw [kept.back] at back
  apply readsValue_scalar noSkip reads (by decide)
  rw [← back] at finite ⊢
  change (if FloatArithmetic.isFinite next.valueFloat = true then _ else _) = _
  rw [if_pos finite]
  rfl

/-! ## Containers -/

omit [FloatArithmetic Number] in
/-- The stack of states is not looked at. -/
theorem handleValue_states (parser : Parser Number) (value : JsonValue Number)
    (states : List Bool) (skip : Bool) :
    { parser.handleValue value with
      states := states
      skipToStateEvaluation := skip } =
      { parser with
        states := states
        skipToStateEvaluation := skip }.handleValue value := by
  unfold handleValue
  split
  all_goals
    next stack => simp only [stack]

omit [FloatArithmetic Number] in
/-- Behind a value inside an array there may be a comma. -/
theorem evaluateState_comma (parser : Parser Number) {states : List Bool}
    {rest : ByteString} (inArray : parser.states = true :: states)
    (ready : parser.lexer.Ready floats (44 :: rest)) :
    ∃ lexer,
      lexer.Ready floats rest ∧
        evaluateState floats parser =
          .ok (.next
            ((parser.behindToken lexer .valueSeparator).getToken floats)) := by
  rcases ready.structural rfl with ⟨next, reads⟩
  refine ⟨next, reads.2, ?_⟩
  have comma :
      (parser.behindToken next .valueSeparator).lastToken = .valueSeparator :=
    rfl
  rw [evaluateState, inArray]
  dsimp only
  rw [getToken_reads reads, if_pos comma]

/-- The parser goes on behind the end of a container. -/
theorem saxParse_ended {parser : Parser Number} {states : List Bool}
    {frames : List (Frame Number)} {value : JsonValue Number}
    {ended : Parser Number}
    (noSkip : parser.skipToStateEvaluation = false)
    (closed :
      ended = { parser with refStack := frames }.handleValue value) :
    saxParse floats
        { ended with states := states, skipToStateEvaluation := true } =
      resume floats
        (evaluateState floats
          ({ parser with
            states := states
            refStack := frames }.handleValue value)) := by
  rw [saxParse_eq, iterate, if_pos rfl, closed, handleValue_states, ← noSkip]

/-- Behind the last value of an array there is its end. -/
theorem resume_endArray (parser : Parser Number) {states : List Bool}
    {frames : List (Frame Number)} {elements : List (JsonValue Number)}
    {rest : ByteString} (noSkip : parser.skipToStateEvaluation = false)
    (inArray : parser.states = true :: states)
    (stack : parser.refStack = .array elements :: frames)
    (ready : parser.lexer.Ready floats (93 :: rest)) :
    ∃ lexer,
      lexer.Ready floats rest ∧
        resume floats (evaluateState floats parser) =
          resume floats
            (evaluateState floats
              (({ parser with states := states, refStack := frames }.behindToken
                lexer .endArray).handleValue (.array elements))) := by
  rcases ready.structural rfl with ⟨next, reads⟩
  refine ⟨next, reads.2, ?_⟩
  have bracket :
      (parser.behindToken next .endArray).lastToken = .endArray := rfl
  have behindStack :
      (parser.behindToken next .endArray).refStack =
        .array elements :: frames := stack
  have ended :
      (parser.behindToken next .endArray).endContainer =
        { parser.behindToken next .endArray with
          refStack := frames }.handleValue (.array elements) := by
    rw [endContainer, behindStack]
  have behindSkip :
      (parser.behindToken next .endArray).skipToStateEvaluation = false :=
    noSkip
  rw [evaluateState, inArray]
  dsimp only
  rw [getToken_reads reads, if_neg (by rw [bracket]; decide), if_pos bracket,
    resume]
  exact saxParse_ended behindSkip ended

/-- Behind the last member of an object there is its end. -/
theorem resume_endObject (parser : Parser Number) {states : List Bool}
    {frames : List (Frame Number)} {key : ByteString}
    {members : List (ByteString × JsonValue Number)} {rest : ByteString}
    (noSkip : parser.skipToStateEvaluation = false)
    (inObject : parser.states = false :: states)
    (stack : parser.refStack = .object members key :: frames)
    (ready : parser.lexer.Ready floats (125 :: rest)) :
    ∃ lexer,
      lexer.Ready floats rest ∧
        resume floats (evaluateState floats parser) =
          resume floats
            (evaluateState floats
              (({ parser with states := states, refStack := frames }.behindToken
                lexer .endObject).handleValue (.object members))) := by
  rcases ready.structural rfl with ⟨next, reads⟩
  refine ⟨next, reads.2, ?_⟩
  have bracket :
      (parser.behindToken next .endObject).lastToken = .endObject := rfl
  have behindStack :
      (parser.behindToken next .endObject).refStack =
        .object members key :: frames := stack
  have ended :
      (parser.behindToken next .endObject).endContainer =
        { parser.behindToken next .endObject with
          refStack := frames }.handleValue (.object members) := by
    rw [endContainer, behindStack]
  have behindSkip :
      (parser.behindToken next .endObject).skipToStateEvaluation = false :=
    noSkip
  rw [evaluateState, inObject]
  dsimp only
  rw [getToken_reads reads, if_neg (by rw [bracket]; decide), if_pos bracket,
    resume]
  exact saxParse_ended behindSkip ended

omit [FloatArithmetic Number] in
/-- A key is read, with the colon behind it. -/
theorem parseKey_read {parser : Parser Number} {frames : List (Frame Number)}
    {members : List (ByteString × JsonValue Number)} {before key : ByteString}
    {name rest : ByteString} (valid : ValidUtf8 key)
    (dumped : JsonValue.dumpString key = .ok name)
    (stack : parser.refStack = .object members before :: frames)
    (ready : parser.lexer.Ready floats (name ++ 58 :: rest)) :
    (parser.getToken floats).lastToken = .valueString ∧
      ∃ lexer,
        lexer.Ready floats rest ∧
          (parser.getToken floats).parseKey floats =
            .ok
              ({ parser with
                refStack :=
                  .object (JsonValue.emplace key .null members) key ::
                    frames }.behindToken lexer .nameSeparator) := by
  rcases valid with ⟨characters, rfl⟩
  rw [JsonValue.dumpString, dumpEscaped_utf8Text] at dumped
  cases dumped
  have quoted :
      literal "\"" ++ characters.flatMap escapedChar ++ literal "\"" ++
          58 :: rest =
        34 :: (characters.flatMap escapedChar ++ 34 :: 58 :: rest) := by
    simp [literal]
  rw [quoted] at ready
  rcases ready.string with ⟨middle, reads, buffer⟩
  rcases reads.2.structural rfl with ⟨next, colon⟩
  rw [getToken_reads reads]
  refine ⟨rfl, next, colon.2, ?_⟩
  have isString :
      (parser.behindToken middle .valueString).lastToken = .valueString := rfl
  have behindStack :
      (parser.behindToken middle .valueString).refStack =
        .object members before :: frames := stack
  have keyed :
      (parser.behindToken middle .valueString).key
          (parser.behindToken middle .valueString).lexer.tokenBuffer =
        { parser with
          refStack :=
            .object (JsonValue.emplace (utf8Text characters) .null members)
                (utf8Text characters) ::
              frames }.behindToken middle .valueString := by
    have name :
        (parser.behindToken middle .valueString).lexer.tokenBuffer =
          utf8Text characters := buffer
    rw [name, Parser.key, behindStack]
    rfl
  rw [parseKey, if_neg (not_not.mpr isString), keyed]
  dsimp only
  rw [getToken_reads colon]
  exact if_neg (not_not.mpr rfl)

omit [FloatArithmetic Number] in
/-- A key that is behind those of the members is put at their end. -/
theorem emplace_last {key : ByteString}
    {members : List (ByteString × JsonValue Number)}
    (behind : ∀ member ∈ members, compare key member.1 = .gt)
    (value : JsonValue Number) :
    JsonValue.emplace key value members = members ++ [(key, value)] := by
  induction members with
  | nil => rfl
  | cons member members recursive =>
      rw [JsonValue.emplace, behind member List.mem_cons_self]
      dsimp only
      rw [recursive fun other present =>
        behind other (List.mem_cons_of_mem _ present)]
      rfl

omit [FloatArithmetic Number] in
/-- The value of the last key. -/
theorem assign_last {key : ByteString}
    {members : List (ByteString × JsonValue Number)}
    (behind : ∀ member ∈ members, compare key member.1 = .gt)
    (first value : JsonValue Number) :
    JsonValue.assign key value (members ++ [(key, first)]) =
      members ++ [(key, value)] := by
  induction members with
  | nil =>
      rw [List.nil_append, JsonValue.assign, if_pos rfl]
      rfl
  | cons member members recursive =>
      have differ : member.1 ≠ key := by
        intro same
        have greater := behind member List.mem_cons_self
        rw [same, Std.ReflOrd.compare_self] at greater
        cases greater
      rw [List.cons_append, JsonValue.assign, if_neg differ,
        recursive fun other present =>
          behind other (List.mem_cons_of_mem _ present)]
      rfl

/-! ## Elements and members -/

/-- The elements at the parser are read, up to what is behind their array. -/
def ReadsElements (floats : FloatText Number) (parser : Parser Number)
    (states : List Bool) (frames : List (Frame Number))
    (elements : List (JsonValue Number)) (rest : ByteString) : Prop :=
  (parser.getToken floats).lastToken ≠ .endArray ∧
    ∃ lexer token,
      lexer.Ready floats rest ∧
        saxParse floats (parser.getToken floats) =
          resume floats
            (evaluateState floats
              (({ parser with states := states, refStack := frames }.behindToken
                lexer token).handleValue (.array elements)))

omit [FloatArithmetic Number] in
theorem handleValue_array {parser : Parser Number}
    {frames : List (Frame Number)} {elements : List (JsonValue Number)}
    (stack : parser.refStack = .array elements :: frames)
    (lexer : Lexer Number) (token : TokenType) (value : JsonValue Number) :
    (parser.behindToken lexer token).handleValue value =
      { parser with
        refStack := .array (elements ++ [value]) :: frames }.behindToken
        lexer token := by
  have behindStack :
      (parser.behindToken lexer token).refStack =
        .array elements :: frames := stack
  rw [handleValue, behindStack]
  rfl

/-- Behind the last element the array ends. -/
theorem readsElements_last {parser : Parser Number} {states : List Bool}
    {frames : List (Frame Number)} {elements : List (JsonValue Number)}
    {value : JsonValue Number} {gap rest : ByteString}
    (noSkip : parser.skipToStateEvaluation = false)
    (inArray : parser.states = true :: states)
    (stack : parser.refStack = .array elements :: frames)
    (spaces : Lexer.Spaces gap)
    (reads : ReadsValue floats parser value (gap ++ 93 :: rest)) :
    ReadsElements floats parser states frames (elements ++ [value]) rest := by
  rcases reads with ⟨notEnd, middle, token, readyGap, parsed⟩
  have ready := readyGap.skip spaces
  rw [handleValue_array stack] at parsed
  rcases resume_endArray
      ({ parser with
        refStack := .array (elements ++ [value]) :: frames }.behindToken
          middle token)
      noSkip inArray rfl ready with
    ⟨lexer, behind, resumed⟩
  refine ⟨notEnd, lexer, .endArray, behind, ?_⟩
  rw [parsed, resumed]
  rfl

/-- Behind an element and a comma there are further elements. -/
theorem readsElements_cons {parser : Parser Number} {states : List Bool}
    {frames : List (Frame Number)} {elements all : List (JsonValue Number)}
    {value : JsonValue Number} {gap text rest : ByteString}
    (inArray : parser.states = true :: states)
    (stack : parser.refStack = .array elements :: frames)
    (spaces : Lexer.Spaces gap)
    (reads : ReadsValue floats parser value (44 :: (gap ++ text)))
    (further : ∀ lexer : Lexer Number,
      lexer.Ready floats text →
        ReadsElements floats
          ({ parser with
            refStack := .array (elements ++ [value]) :: frames }.behindToken
              lexer .valueSeparator)
          states frames all rest) :
    ReadsElements floats parser states frames all rest := by
  rcases reads with ⟨notEnd, middle, token, ready, parsed⟩
  rw [handleValue_array stack] at parsed
  rcases evaluateState_comma
      ({ parser with
        refStack := .array (elements ++ [value]) :: frames }.behindToken
          middle token)
      inArray ready with
    ⟨lexer, behind, evaluated⟩
  rcases further lexer (behind.skip spaces) with
    ⟨-, last, lastToken, after, resumed⟩
  refine ⟨notEnd, last, lastToken, after, ?_⟩
  rw [parsed, evaluated, resume]
  exact resumed

/-- The members at the parser are read, up to what is behind their object. -/
def ReadsMembers (floats : FloatText Number) (parser : Parser Number)
    (states : List Bool) (frames : List (Frame Number))
    (members : List (ByteString × JsonValue Number)) (rest : ByteString) :
    Prop :=
  (parser.getToken floats).lastToken = .valueString ∧
    ∃ keyed lexer token,
      (parser.getToken floats).parseKey floats = .ok keyed ∧
        keyed.states = parser.states ∧
        lexer.Ready floats rest ∧
        saxParse floats
            ({ keyed with states := false :: states }.getToken floats) =
          resume floats
            (evaluateState floats
              (({ parser with states := states, refStack := frames }.behindToken
                lexer token).handleValue (.object members)))

omit [FloatArithmetic Number] in
theorem handleValue_object {parser : Parser Number}
    {frames : List (Frame Number)}
    {members : List (ByteString × JsonValue Number)} {key : ByteString}
    (behind : ∀ member ∈ members, compare key member.1 = .gt)
    (stack :
      parser.refStack =
        .object (JsonValue.emplace key .null members) key :: frames)
    (lexer : Lexer Number) (token : TokenType) (value : JsonValue Number) :
    (parser.behindToken lexer token).handleValue value =
      { parser with
        refStack := .object (members ++ [(key, value)]) key :: frames }.behindToken
        lexer token := by
  have behindStack :
      (parser.behindToken lexer token).refStack =
        .object (JsonValue.emplace key .null members) key :: frames := stack
  rw [handleValue, behindStack]
  dsimp only
  rw [emplace_last behind, assign_last behind]
  rfl

/-- Behind the last member the object ends. -/
theorem readsMembers_last {parser : Parser Number} {states : List Bool}
    {frames : List (Frame Number)}
    {members : List (ByteString × JsonValue Number)}
    {before key name gap close text rest : ByteString}
    {value : JsonValue Number}
    (noSkip : parser.skipToStateEvaluation = false)
    (stack : parser.refStack = .object members before :: frames)
    (valid : ValidUtf8 key) (dumped : JsonValue.dumpString key = .ok name)
    (behind : ∀ member ∈ members, compare key member.1 = .gt)
    (spaces : Lexer.Spaces gap) (closeSpaces : Lexer.Spaces close)
    (ready : parser.lexer.Ready floats (name ++ 58 :: (gap ++ text)))
    (reads : ∀ valueParser : Parser Number,
      valueParser.skipToStateEvaluation = false →
        valueParser.lexer.Ready floats text →
          ReadsValue floats valueParser value (close ++ 125 :: rest)) :
    ReadsMembers floats parser states frames (members ++ [(key, value)])
      rest := by
  rcases parseKey_read valid dumped stack ready with
    ⟨isString, colon, behindColon, parsed⟩
  rcases reads
      { { parser with
          refStack :=
            .object (JsonValue.emplace key .null members) key :: frames }.behindToken
          colon .nameSeparator with
        states := false :: states }
      noSkip (behindColon.skip spaces) with
    ⟨-, middle, token, behindValue, read⟩
  rw [handleValue_object behind rfl] at read
  rcases resume_endObject
      ({ parser with
        states := false :: states
        refStack :=
          .object (members ++ [(key, value)]) key :: frames }.behindToken
          middle token)
      noSkip rfl rfl (behindValue.skip closeSpaces) with
    ⟨lexer, after, resumed⟩
  refine
    ⟨isString, _, lexer, .endObject, parsed, rfl, after, read.trans ?_⟩
  exact resumed

omit [FloatArithmetic Number] in
/-- Behind a value inside an object there may be a comma, and a key. -/
theorem evaluateState_key (parser : Parser Number) {keyed : Parser Number}
    {states : List Bool} {comma : Lexer Number} {rest : ByteString}
    (inObject : parser.states = false :: states)
    (reads : parser.lexer.Reads floats .valueSeparator comma rest)
    (nextKey :
      ((parser.behindToken comma .valueSeparator).getToken floats).parseKey
          floats = .ok keyed) :
    evaluateState floats parser = .ok (.next (keyed.getToken floats)) := by
  have isComma :
      (parser.behindToken comma .valueSeparator).lastToken = .valueSeparator :=
    rfl
  rw [evaluateState, inObject]
  dsimp only
  rw [getToken_reads reads, if_pos isComma, nextKey]
  rfl

/-- Behind a member and a comma there are further members. -/
theorem readsMembers_cons {parser : Parser Number} {states : List Bool}
    {frames : List (Frame Number)}
    {members all : List (ByteString × JsonValue Number)}
    {before key name gap comma text others rest : ByteString}
    {value : JsonValue Number}
    (noSkip : parser.skipToStateEvaluation = false)
    (stack : parser.refStack = .object members before :: frames)
    (valid : ValidUtf8 key) (dumped : JsonValue.dumpString key = .ok name)
    (behind : ∀ member ∈ members, compare key member.1 = .gt)
    (spaces : Lexer.Spaces gap) (commaSpaces : Lexer.Spaces comma)
    (ready : parser.lexer.Ready floats (name ++ 58 :: (gap ++ text)))
    (reads : ∀ valueParser : Parser Number,
      valueParser.skipToStateEvaluation = false →
        valueParser.lexer.Ready floats text →
          ReadsValue floats valueParser value (44 :: (comma ++ others)))
    (further : ∀ lexer : Lexer Number,
      lexer.Ready floats others →
        ReadsMembers floats
          ({ parser with
            states := false :: states
            refStack :=
              .object (members ++ [(key, value)]) key :: frames }.behindToken
              lexer .valueSeparator)
          states frames all rest) :
    ReadsMembers floats parser states frames all rest := by
  rcases parseKey_read valid dumped stack ready with
    ⟨isString, colon, behindColon, parsed⟩
  rcases reads
      { { parser with
          refStack :=
            .object (JsonValue.emplace key .null members) key :: frames }.behindToken
          colon .nameSeparator with
        states := false :: states }
      noSkip (behindColon.skip spaces) with
    ⟨-, middle, token, behindValue, read⟩
  rw [handleValue_object behind rfl] at read
  rcases behindValue.structural rfl with ⟨commaLexer, commaRead, behindComma⟩
  rcases further commaLexer (behindComma.skip commaSpaces) with
    ⟨-, keyed, lexer, last, nextKey, keyedStates, after, resumed⟩
  refine ⟨isString, _, lexer, last, parsed, rfl, after, read.trans ?_⟩
  have same : { keyed with states := false :: states } = keyed := by
    cases keyed
    cases keyedStates
    rfl
  rw [same] at resumed
  have evaluated :=
    evaluateState_key
      ({ parser with
        states := false :: states
        refStack :=
          .object (members ++ [(key, value)]) key :: frames }.behindToken
          middle token)
      rfl ⟨commaRead, behindComma⟩ nextKey
  exact (congrArg (resume floats) evaluated).trans resumed

/-! ## Whole containers -/

/-- The switch is over the token that is read. -/
theorem saxParse_token {parser : Parser Number} {token : TokenType}
    {next : Lexer Number} {rest : ByteString}
    (noSkip : parser.skipToStateEvaluation = false)
    (reads : parser.lexer.Reads floats token next rest) :
    saxParse floats (parser.getToken floats) =
      resume floats (parseValue floats (parser.behindToken next token)) := by
  have skip : (parser.behindToken next token).skipToStateEvaluation = false :=
    noSkip
  rw [getToken_reads reads, saxParse_eq, iterate,
    if_neg (by rw [skip]; exact Bool.false_ne_true)]

theorem readsValue_emptyArray {parser : Parser Number} {rest : ByteString}
    (noSkip : parser.skipToStateEvaluation = false)
    (ready : parser.lexer.Ready floats (91 :: 93 :: rest)) :
    ReadsValue floats parser (.array []) rest := by
  rcases ready.structural rfl with ⟨middle, reads⟩
  rcases reads.2.structural rfl with ⟨next, bracket⟩
  have isBracket :
      ((parser.behindToken middle .beginArray).startArray.behindToken next
        .endArray).lastToken = .endArray := rfl
  refine ⟨?_, next, .endArray, bracket.2, ?_⟩
  · rw [getToken_reads reads]
    exact TokenType.noConfusion
  · rw [saxParse_token noSkip reads]
    change
      resume floats
        (if (getToken floats
              (parser.behindToken middle .beginArray).startArray).lastToken =
            .endArray then _ else _) = _
    rw [getToken_reads bracket, if_pos isBracket]
    rfl

theorem readsValue_array {parser : Parser Number}
    {elements : List (JsonValue Number)} {gap text rest : ByteString}
    (noSkip : parser.skipToStateEvaluation = false)
    (spaces : Lexer.Spaces gap)
    (ready : parser.lexer.Ready floats (91 :: (gap ++ text)))
    (reads : ∀ lexer : Lexer Number,
      lexer.Ready floats text →
        ReadsElements floats
          ({ parser with
            states := true :: parser.states
            refStack := .array [] :: parser.refStack }.behindToken
              lexer .beginArray)
          parser.states parser.refStack elements rest) :
    ReadsValue floats parser (.array elements) rest := by
  rcases ready.structural rfl with ⟨middle, begun⟩
  rcases reads middle (begun.2.skip spaces) with
    ⟨notEnd, lexer, token, after, parsed⟩
  refine ⟨?_, lexer, token, after, ?_⟩
  · rw [getToken_reads begun]
    exact TokenType.noConfusion
  · rw [saxParse_token noSkip begun]
    change
      resume floats
        (if (getToken floats
              (parser.behindToken middle .beginArray).startArray).lastToken =
            .endArray then _ else _) = _
    have further :
        (getToken floats
          (parser.behindToken middle .beginArray).startArray).lastToken ≠
          .endArray := notEnd
    rw [if_neg further]
    exact parsed

theorem readsValue_emptyObject {parser : Parser Number} {rest : ByteString}
    (noSkip : parser.skipToStateEvaluation = false)
    (ready : parser.lexer.Ready floats (123 :: 125 :: rest)) :
    ReadsValue floats parser (.object []) rest := by
  rcases ready.structural rfl with ⟨middle, reads⟩
  rcases reads.2.structural rfl with ⟨next, bracket⟩
  have isBracket :
      ((parser.behindToken middle .beginObject).startObject.behindToken next
        .endObject).lastToken = .endObject := rfl
  refine ⟨?_, next, .endObject, bracket.2, ?_⟩
  · rw [getToken_reads reads]
    exact TokenType.noConfusion
  · rw [saxParse_token noSkip reads]
    change
      resume floats
        (if (getToken floats
              (parser.behindToken middle .beginObject).startObject).lastToken =
            .endObject then _ else _) = _
    rw [getToken_reads bracket, if_pos isBracket]
    rfl

theorem readsValue_object {parser : Parser Number}
    {members : List (ByteString × JsonValue Number)}
    {gap text rest : ByteString}
    (noSkip : parser.skipToStateEvaluation = false)
    (spaces : Lexer.Spaces gap)
    (ready : parser.lexer.Ready floats (123 :: (gap ++ text)))
    (reads : ∀ lexer : Lexer Number,
      lexer.Ready floats text →
        ReadsMembers floats
          ({ parser with
            refStack := .object [] [] :: parser.refStack }.behindToken
              lexer .beginObject)
          parser.states parser.refStack members rest) :
    ReadsValue floats parser (.object members) rest := by
  rcases ready.structural rfl with ⟨middle, begun⟩
  rcases reads middle (begun.2.skip spaces) with
    ⟨isString, keyed, lexer, token, parsed, keyedStates, after, read⟩
  have keyedSame : keyed.states = parser.states := keyedStates
  refine ⟨?_, lexer, token, after, ?_⟩
  · rw [getToken_reads begun]
    exact TokenType.noConfusion
  · rw [saxParse_token noSkip begun]
    have isKey :
        (getToken floats
          (parser.behindToken middle .beginObject).startObject).lastToken =
          .valueString := isString
    have keyParsed :
        (getToken floats
          (parser.behindToken middle .beginObject).startObject).parseKey
            floats = .ok keyed := parsed
    change
      resume floats
        (if (getToken floats
              (parser.behindToken middle .beginObject).startObject).lastToken =
            .endObject then _
        else
          (getToken floats
            (parser.behindToken middle .beginObject).startObject).parseKey
              floats >>= fun keyed =>
            .ok (.next
              ({ keyed with states := false :: keyed.states }.getToken
                floats))) = _
    rw [if_neg (by rw [isKey]; decide), keyParsed]
    change
      saxParse floats
        ({ keyed with states := false :: keyed.states }.getToken floats) = _
    rw [keyedSame]
    exact read

omit [FloatArithmetic Number] in
theorem closed_comma (rest : ByteString) : Lexer.Closed (44 :: rest) := by
  intro head same
  cases same
  exact .inl rfl

omit [FloatArithmetic Number] in
/-- Behind the last value there is a line break or a bracket. -/
theorem closed_lineBreak (indentStep : Option UInt32) (indent : UInt32)
    {bracket : UInt8} (closes : bracket = 93 ∨ bracket = 125)
    (rest : ByteString) :
    Lexer.Closed
      (JsonValue.lineBreak indentStep indent ++ bracket :: rest) := by
  intro head same
  cases indentStep with
  | none =>
      cases same
      rcases closes with array | object
      · exact .inr (.inl array)
      · exact .inr (.inr (.inl object))
  | some step =>
      cases same
      exact .inr (.inr (.inr rfl))

omit [FloatArithmetic Number] in
/-- The keys that come first are smaller. -/
theorem behind_of_ordered {key : ByteString} {value : JsonValue Number}
    {done members : List (ByteString × JsonValue Number)}
    (ordered :
      (done ++ (key, value) :: members).Pairwise fun first second =>
        compare first.1 second.1 = .lt) :
    ∀ member ∈ done, compare key member.1 = .gt := by
  intro member present
  have less :=
    (List.pairwise_append.mp ordered).2.2 member present (key, value)
      List.mem_cons_self
  rw [Std.OrientedOrd.eq_swap, less]
  rfl

omit [FloatArithmetic Number] in
/-- Only the keys are ordered. -/
theorem ordered_reread {key : ByteString} {value other : JsonValue Number}
    {done members : List (ByteString × JsonValue Number)}
    (ordered :
      (done ++ (key, value) :: members).Pairwise fun first second =>
        compare first.1 second.1 = .lt) :
    ((done ++ [(key, other)]) ++ members).Pairwise fun first second =>
      compare first.1 second.1 = .lt := by
  have keys : ((done ++ (key, value) :: members).map Prod.fst).Pairwise
      fun first second => compare first second = .lt :=
    List.pairwise_map.mpr ordered
  have same :
      (done ++ (key, value) :: members).map Prod.fst =
        ((done ++ [(key, other)]) ++ members).map Prod.fst := by
    simp
  rw [same] at keys
  exact List.pairwise_map.mp keys

mutual

/-- A value is read back from its text. -/
theorem readsValue (value : JsonValue Number) {parser : Parser Number}
    {indentStep : Option UInt32} {indent : UInt32} {text rest : ByteString}
    (writable : value.Writable floats)
    (dumped : value.dump floats indentStep indent = .ok text)
    (noSkip : parser.skipToStateEvaluation = false)
    (closed : Lexer.Closed rest)
    (ready : parser.lexer.Ready floats (text ++ rest)) :
    ReadsValue floats parser value.reread rest := by
  match value with
  | .null =>
      cases dumped
      rcases ready.literalNull with ⟨next, reads⟩
      exact readsValue_scalar noSkip reads (by decide) rfl
  | .boolean flag =>
      cases flag with
      | false =>
          cases dumped
          rcases ready.literalFalse with ⟨next, reads⟩
          exact readsValue_scalar noSkip reads (by decide) rfl
      | true =>
          cases dumped
          rcases ready.literalTrue with ⟨next, reads⟩
          exact readsValue_scalar noSkip reads (by decide) rfl
  | .numberInteger number =>
      cases dumped
      exact readsValue_integer noSkip closed ready
  | .numberUnsigned number =>
      cases dumped
      rcases Lexer.numberText_dumpInteger number.toNat with ⟨isText, back⟩
      rcases ready.unsigned isText back closed with ⟨next, reads, same⟩
      rw [JsonValue.reread, ← same]
      exact readsValue_scalar noSkip reads (by decide) rfl
  | .numberFloat number =>
      rw [JsonValue.dump, JsonValue.dumpFloat] at dumped
      rw [JsonValue.reread]
      split_ifs at dumped ⊢ with finite
      · cases dumped
        exact readsValue_float noSkip finite (writable finite) closed ready
      · cases dumped
        rcases ready.literalNull with ⟨next, reads⟩
        exact readsValue_scalar noSkip reads (by decide) rfl
  | .string text =>
      rw [JsonValue.dump] at dumped
      exact readsValue_string noSkip writable dumped ready
  | .array elements =>
      rw [JsonValue.dump] at dumped
      rw [JsonValue.reread]
      split_ifs at dumped with empty
      · cases List.isEmpty_iff.mp empty
        cases dumped
        exact readsValue_emptyArray noSkip ready
      · rcases Fallible.bind_eq_ok.mp dumped with ⟨inner, innerDumped, whole⟩
        cases whole
        simp only [List.append_assoc] at ready
        apply readsValue_array noSkip
          (JsonValue.spaces_lineBreak indentStep _) ready
        intro lexer behind
        exact
          readsElements elements
            ({ parser with
              states := true :: parser.states
              refStack := .array [] :: parser.refStack }.behindToken
                lexer .beginArray)
            (fun none => empty (by rw [none]; rfl))
            writable innerDumped noSkip rfl rfl behind
  | .object members =>
      rw [JsonValue.dump] at dumped
      rw [JsonValue.reread]
      split_ifs at dumped with empty
      · cases List.isEmpty_iff.mp empty
        cases dumped
        exact readsValue_emptyObject noSkip ready
      · rcases Fallible.bind_eq_ok.mp dumped with ⟨inner, innerDumped, whole⟩
        cases whole
        simp only [List.append_assoc] at ready
        apply readsValue_object noSkip
          (JsonValue.spaces_lineBreak indentStep _) ready
        intro lexer behind
        have ordered :
            (([] : List (ByteString × JsonValue Number)) ++
              members).Pairwise fun first second =>
                compare first.1 second.1 = .lt := writable.2
        exact
          readsMembers members
            ({ parser with
              refStack := .object [] [] :: parser.refStack }.behindToken
                lexer .beginObject)
            parser.states (fun none => empty (by rw [none]; rfl))
            writable.1 ordered innerDumped noSkip rfl behind

theorem readsElements (elements : List (JsonValue Number))
    (parser : Parser Number) {indentStep : Option UInt32} {indent outer : UInt32}
    {states : List Bool} {frames : List (Frame Number)}
    {done : List (JsonValue Number)} {text rest : ByteString}
    (some : elements ≠ [])
    (writable : JsonValue.WritableElements floats elements)
    (dumped :
      JsonValue.dumpElements floats indentStep indent elements = .ok text)
    (noSkip : parser.skipToStateEvaluation = false)
    (inArray : parser.states = true :: states)
    (stack : parser.refStack = .array done :: frames)
    (ready :
      parser.lexer.Ready floats
        (text ++ (JsonValue.lineBreak indentStep outer ++ 93 :: rest))) :
    ReadsElements floats parser states frames
      (done ++ JsonValue.rereadElements elements) rest := by
  match elements with
  | [] => exact absurd rfl some
  | [element] =>
      rw [JsonValue.dumpElements] at dumped
      rw [JsonValue.rereadElements, JsonValue.rereadElements]
      exact
        readsElements_last noSkip inArray stack
          (JsonValue.spaces_lineBreak indentStep outer)
          (readsValue element writable.1 dumped noSkip
            (closed_lineBreak indentStep outer (.inl rfl) rest) ready)
  | element :: second :: elements =>
      rcases JsonValue.dumpElements_cons dumped with
        ⟨first, others, firstDumped, othersDumped, rfl⟩
      simp only [List.append_assoc, List.cons_append] at ready
      rw [JsonValue.rereadElements]
      apply readsElements_cons inArray stack
        (JsonValue.spaces_lineBreak indentStep indent)
        (readsValue element writable.1 firstDumped noSkip
          (closed_comma _) ready)
      intro lexer behind
      have read :=
        readsElements (second :: elements)
          ({ parser with
            refStack := .array (done ++ [element.reread]) :: frames }.behindToken
              lexer .valueSeparator)
          (List.cons_ne_nil _ _) writable.2 othersDumped noSkip inArray rfl
          behind
      rw [List.append_assoc] at read
      exact read

theorem readsMembers (members : List (ByteString × JsonValue Number))
    (parser : Parser Number) (states : List Bool)
    {indentStep : Option UInt32} {indent outer : UInt32}
    {frames : List (Frame Number)}
    {done : List (ByteString × JsonValue Number)}
    {before text rest : ByteString} (some : members ≠ [])
    (writable : JsonValue.WritableMembers floats members)
    (ordered :
      (done ++ members).Pairwise fun first second =>
        compare first.1 second.1 = .lt)
    (dumped :
      JsonValue.dumpMembers floats indentStep indent members = .ok text)
    (noSkip : parser.skipToStateEvaluation = false)
    (stack : parser.refStack = .object done before :: frames)
    (ready :
      parser.lexer.Ready floats
        (text ++ (JsonValue.lineBreak indentStep outer ++ 125 :: rest))) :
    ReadsMembers floats parser states frames
      (done ++ JsonValue.rereadMembers members) rest := by
  match members with
  | [] => exact absurd rfl some
  | [(key, value)] =>
      rcases JsonValue.dumpMembers_one dumped with
        ⟨name, first, nameDumped, firstDumped, rfl⟩
      simp only [List.append_assoc, List.cons_append] at ready
      rw [JsonValue.rereadMembers, JsonValue.rereadMembers]
      exact
        readsMembers_last noSkip stack writable.1 nameDumped
          (behind_of_ordered ordered) (JsonValue.spaces_keyGap indentStep)
          (JsonValue.spaces_lineBreak indentStep outer) ready
          fun valueParser valueSkip valueReady =>
            readsValue value writable.2.1 firstDumped valueSkip
              (closed_lineBreak indentStep outer (.inr rfl) rest) valueReady
  | (key, value) :: second :: members =>
      rcases JsonValue.dumpMembers_cons dumped with
        ⟨name, first, others, nameDumped, firstDumped, othersDumped, rfl⟩
      simp only [List.append_assoc, List.cons_append] at ready
      rw [JsonValue.rereadMembers]
      apply readsMembers_cons noSkip stack writable.1 nameDumped
        (behind_of_ordered ordered) (JsonValue.spaces_keyGap indentStep)
        (JsonValue.spaces_lineBreak indentStep indent) ready
        fun valueParser valueSkip valueReady =>
          readsValue value writable.2.1 firstDumped valueSkip
            (closed_comma _) valueReady
      intro lexer behind
      have read :=
        readsMembers (second :: members)
          ({ parser with
            states := false :: states
            refStack :=
              .object (done ++ [(key, value.reread)]) key :: frames }.behindToken
              lexer .valueSeparator)
          states (List.cons_ne_nil _ _) writable.2.2 (ordered_reread ordered)
          othersDumped noSkip rfl behind
      rw [List.append_assoc] at read
      exact read

end

/-! ## Whole texts -/

/-- A text does not begin like a byte order mark. -/
def NoMark (text : ByteString) : Prop :=
  text.head? ≠ some 0xEF

omit [FloatArithmetic Number] in
theorem noMark_numberText {text : ByteString} {numberType : TokenType}
    (isText : Lexer.NumberText text numberType) (rest : ByteString) :
    NoMark (text ++ rest) := by
  rcases isText with ⟨first, others, last, rfl, start, -, -⟩
  intro marked
  cases marked
  rcases start with sign | digit
  · cases sign
  · cases digit

/-- What a value is written as does not begin like one. -/
theorem noMark_dump {value : JsonValue Number} {indentStep : Option UInt32}
    {indent : UInt32} {text : ByteString} (writable : value.Writable floats)
    (dumped : value.dump floats indentStep indent = .ok text) :
    NoMark text := by
  cases value with
  | null =>
      cases dumped
      intro marked
      cases marked
  | boolean flag =>
      cases dumped
      cases flag <;> intro marked <;> cases marked
  | numberInteger number =>
      cases dumped
      rw [← List.append_nil (dumpInteger _)]
      by_cases negative : number.toInt < 0
      · exact noMark_numberText (Lexer.numberText_dumpInteger_neg negative).1 []
      · have same : number.toInt = (number.toInt.toNat : Int) := by omega
        rw [same]
        exact noMark_numberText (Lexer.numberText_dumpInteger _).1 []
  | numberUnsigned number =>
      cases dumped
      rw [← List.append_nil (dumpInteger _)]
      exact noMark_numberText (Lexer.numberText_dumpInteger _).1 []
  | numberFloat number =>
      rw [JsonValue.dump, JsonValue.dumpFloat] at dumped
      split_ifs at dumped with finite
      · cases dumped
        rw [← List.append_nil (floats.toChars number)]
        exact noMark_numberText (writable finite).text []
      · cases dumped
        intro marked
        cases marked
  | string string =>
      rw [JsonValue.dump, JsonValue.dumpString] at dumped
      rcases Fallible.bind_eq_ok.mp dumped with ⟨escaped, -, whole⟩
      cases whole
      intro marked
      cases marked
  | array elements =>
      rw [JsonValue.dump] at dumped
      split_ifs at dumped
      · cases dumped
        intro marked
        cases marked
      · rcases Fallible.bind_eq_ok.mp dumped with ⟨inner, -, whole⟩
        cases whole
        intro marked
        cases marked
  | object members =>
      rw [JsonValue.dump] at dumped
      split_ifs at dumped
      · cases dumped
        intro marked
        cases marked
      · rcases Fallible.bind_eq_ok.mp dumped with ⟨inner, -, whole⟩
        cases whole
        intro marked
        cases marked

/-- `parse` of a written text. -/
theorem parse_dump {value : JsonValue Number} {indentStep : Option UInt32}
    {indent : UInt32} {text : ByteString} (writable : value.Writable floats)
    (dumped : value.dump floats indentStep indent = .ok text)
    (strict : Bool) : parse floats strict text = .ok value.reread := by
  have ready : (new text : Parser Number).lexer.Ready floats (text ++ []) := by
    rw [List.append_nil]
    exact Lexer.new_ready (noMark_dump writable dumped)
  have closed : Lexer.Closed [] := by
    intro byte same
    cases same
  rcases readsValue value writable dumped rfl closed ready with
    ⟨-, lexer, token, behind, parsed⟩
  have handled :
      ((new text : Parser Number).behindToken lexer token).handleValue
          value.reread =
        { (new text : Parser Number).behindToken lexer token with
          root := value.reread } := rfl
  have done :
      resume floats
          (evaluateState floats
            { (new text : Parser Number).behindToken lexer token with
              root := value.reread }) =
        .ok
          { (new text : Parser Number).behindToken lexer token with
            root := value.reread } := rfl
  rw [handled, done] at parsed
  have ended :
      (({ (new text : Parser Number).behindToken lexer token with
        root := value.reread } : Parser Number).getToken floats).lastToken =
          .endOfInput :=
    behind.atEnd
  rw [parse, parsed]
  exact if_neg fun unread => unread.2 ended

end Parser

end IocpServer.Json
