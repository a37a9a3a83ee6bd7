import IocpServer.Json.ParsedStrings
import IocpServer.Json.WrittenTexts

/-!
# Every value that is parsed can be written

Whatever text `parse` accepts, its value has valid strings, ordered members
and finite numbers: it is written by `dump`, and read back from there.
-/

namespace IocpServer.Json

open IocpServer.Library

variable {Number : Type}

namespace Lexer

variable {floats : FloatText Number}

theorem scanLiteralFrom_token {token : TokenType} {bytes : ByteString}
    {lexer : Lexer Number} (differ : token ≠ .valueString) :
    (scanLiteralFrom token bytes lexer).1 ≠ .valueString := by
  induction bytes generalizing lexer with
  | nil => exact differ
  | cons byte bytes recursive =>
      rw [scanLiteralFrom]
      split_ifs
      · exact TokenType.noConfusion
      · exact recursive

theorem convertNumber_token (numberType : TokenType) (lexer : Lexer Number) :
    (convertNumber floats numberType lexer).1 ≠ .valueString := by
  rw [convertNumber]
  split_ifs <;> exact TokenType.noConfusion

theorem scanNumberFrom_token (state : NumberState) (numberType : TokenType)
    (lexer : Lexer Number) :
    (scanNumberFrom floats state numberType lexer).1 ≠ .valueString := by
  fun_induction scanNumberFrom floats state numberType lexer with
  | case1 state numberType lexer next scanned recursive => exact recursive
  | case2 state numberType lexer scanned => exact convertNumber_token _ _
  | case3 state numberType lexer message scanned =>
      exact TokenType.noConfusion

theorem scanToken_string {lexer : Lexer Number}
    (read : (lexer.scanToken floats).1 = .valueString) :
    ValidUtf8 (lexer.scanToken floats).2.tokenBuffer := by
  unfold scanToken at read ⊢
  split at read
  case h_7 => exact absurd read (scanLiteralFrom_token (by decide))
  case h_8 => exact absurd read (scanLiteralFrom_token (by decide))
  case h_9 => exact absurd read (scanLiteralFrom_token (by decide))
  case h_10 => exact validUtf8_scanString (Prod.ext read rfl)
  case h_13 =>
    split_ifs at read
    exact absurd read (scanNumberFrom_token _ _ _)
  all_goals cases read

/-- The string of a token is valid UTF-8. -/
theorem scan_string {lexer : Lexer Number}
    (read : (lexer.scan floats).1 = .valueString) :
    ValidUtf8 (lexer.scan floats).2.tokenBuffer := by
  rw [scan] at read ⊢
  split_ifs at read ⊢
  · split at read
    · exact scanToken_string read
    · cases read
  · exact scanToken_string read

end Lexer

variable [FloatArithmetic Number] {floats : FloatText Number}

namespace JsonValue

/-! ## Members in key order -/

theorem writableElements_iff {elements : List (JsonValue Number)} :
    WritableElements floats elements ↔
      ∀ element ∈ elements, element.Writable floats := by
  induction elements with
  | nil => simp [WritableElements]
  | cons element elements recursive =>
      rw [WritableElements, recursive, List.forall_mem_cons]

theorem writableMembers_iff
    {members : List (ByteString × JsonValue Number)} :
    WritableMembers floats members ↔
      ∀ member ∈ members, ValidUtf8 member.1 ∧ member.2.Writable floats := by
  induction members with
  | nil => simp [WritableMembers]
  | cons member members recursive =>
      rw [WritableMembers, recursive, List.forall_mem_cons, and_assoc]

/-- The members of a `std::map`. -/
def InKeyOrder (members : List (ByteString × JsonValue Number)) : Prop :=
  members.Pairwise fun first second => compare first.1 second.1 = .lt

omit [FloatArithmetic Number] in
theorem mem_emplace {key : ByteString} {value : JsonValue Number}
    {members : List (ByteString × JsonValue Number)}
    {member : ByteString × JsonValue Number}
    (present : member ∈ emplace key value members) :
    member = (key, value) ∨ member ∈ members := by
  induction members with
  | nil => exact .inl (List.mem_singleton.mp present)
  | cons first members recursive =>
      rw [emplace] at present
      split at present
      · exact List.mem_cons.mp present
      · exact .inr present
      · rcases List.mem_cons.mp present with rfl | later
        · exact .inr List.mem_cons_self
        · exact (recursive later).imp_right (List.mem_cons_of_mem _)

omit [FloatArithmetic Number] in
/-- A key is put where it belongs. -/
theorem InKeyOrder.emplace {members : List (ByteString × JsonValue Number)}
    (ordered : InKeyOrder members) (key : ByteString)
    (value : JsonValue Number) :
    InKeyOrder (JsonValue.emplace key value members) := by
  induction members with
  | nil => exact List.pairwise_singleton _ _
  | cons first members recursive =>
      rcases List.pairwise_cons.mp ordered with ⟨smallest, others⟩
      rw [JsonValue.emplace]
      split
      · next less =>
          refine List.pairwise_cons.mpr ⟨?_, ordered⟩
          intro member present
          rcases List.mem_cons.mp present with rfl | later
          · exact less
          · exact Std.TransCmp.lt_trans less (smallest member later)
      · exact ordered
      · next greater =>
          refine List.pairwise_cons.mpr ⟨?_, recursive others⟩
          intro member present
          rcases mem_emplace present with rfl | later
          · rw [Std.OrientedOrd.eq_swap, greater]
            rfl
          · exact smallest member later

omit [FloatArithmetic Number] in
theorem mem_assign {key : ByteString} {value : JsonValue Number}
    {members : List (ByteString × JsonValue Number)}
    {member : ByteString × JsonValue Number}
    (present : member ∈ assign key value members) :
    member ∈ members ∨
      member.2 = value ∧ ∃ before ∈ members, before.1 = member.1 := by
  induction members with
  | nil => cases present
  | cons first members recursive =>
      rw [assign] at present
      split_ifs at present with same
      · rcases List.mem_cons.mp present with rfl | later
        · exact .inr ⟨rfl, first, List.mem_cons_self, same⟩
        · exact .inl (List.mem_cons_of_mem _ later)
      · rcases List.mem_cons.mp present with rfl | later
        · exact .inl List.mem_cons_self
        · rcases recursive later with there | ⟨assigned, before, there, key⟩
          · exact .inl (List.mem_cons_of_mem _ there)
          · exact
              .inr ⟨assigned, before, List.mem_cons_of_mem _ there, key⟩

omit [FloatArithmetic Number] in
theorem keys_assign (key : ByteString) (value : JsonValue Number)
    (members : List (ByteString × JsonValue Number)) :
    (assign key value members).map Prod.fst = members.map Prod.fst := by
  induction members with
  | nil => rfl
  | cons first members recursive =>
      rw [assign]
      split_ifs with same
      · rw [List.map_cons, List.map_cons, same]
      · rw [List.map_cons, List.map_cons, recursive]

omit [FloatArithmetic Number] in
theorem InKeyOrder.assign {members : List (ByteString × JsonValue Number)}
    (ordered : InKeyOrder members) (key : ByteString)
    (value : JsonValue Number) :
    InKeyOrder (JsonValue.assign key value members) := by
  have keys : (members.map Prod.fst).Pairwise
      fun first second => compare first second = .lt :=
    List.pairwise_map.mpr ordered
  rw [← keys_assign key value members] at keys
  exact List.pairwise_map.mp keys

/-- A value at a new key. -/
theorem writable_emplace {members : List (ByteString × JsonValue Number)}
    {key : ByteString} {value : JsonValue Number}
    (writable : (object members).Writable floats) (valid : ValidUtf8 key)
    (valueWritable : value.Writable floats) :
    (object (emplace key value members)).Writable floats := by
  rcases writable with ⟨all, ordered⟩
  refine ⟨writableMembers_iff.mpr ?_, InKeyOrder.emplace ordered key value⟩
  intro member present
  rcases mem_emplace present with rfl | there
  · exact ⟨valid, valueWritable⟩
  · exact writableMembers_iff.mp all member there

theorem writable_foldl_emplace
    {done members : List (ByteString × JsonValue Number)}
    (doneWritable : (object done).Writable floats)
    (writable :
      ∀ member ∈ members, ValidUtf8 member.1 ∧ member.2.Writable floats) :
    (object
      (members.foldl (fun done member => emplace member.1 member.2 done)
        done)).Writable floats := by
  induction members generalizing done with
  | nil => exact doneWritable
  | cons member members recursive =>
      rcases List.forall_mem_cons.mp writable with ⟨⟨valid, first⟩, others⟩
      exact recursive (writable_emplace doneWritable valid first) others

/-- The object of a brace initializer. -/
theorem writable_ofMembers {members : List (ByteString × JsonValue Number)}
    (writable :
      ∀ member ∈ members, ValidUtf8 member.1 ∧ member.2.Writable floats) :
    (ofMembers members).Writable floats :=
  writable_foldl_emplace ⟨trivial, .nil⟩ writable

theorem writable_assign {members : List (ByteString × JsonValue Number)}
    {value : JsonValue Number} (writable : (object members).Writable floats)
    (valueWritable : value.Writable floats) (key : ByteString) :
    (object (assign key value members)).Writable floats := by
  rcases writable with ⟨all, ordered⟩
  refine ⟨writableMembers_iff.mpr ?_, InKeyOrder.assign ordered key value⟩
  intro member present
  rcases mem_assign present with there | ⟨rfl, before, there, same⟩
  · exact writableMembers_iff.mp all member there
  · rw [← same]
    exact ⟨(writableMembers_iff.mp all before there).1, valueWritable⟩

end JsonValue

/-! ## The parser -/

namespace Parser

/-- The value of an open container, as far as it is read. -/
def frameValue : Frame Number → JsonValue Number
  | .array elements => .array elements
  | .object members _ => .object members

/-- What the parser has built can be written. -/
structure Built (floats : FloatText Number) (parser : Parser Number) :
    Prop where
  root : parser.root.Writable floats
  frames : ∀ frame ∈ parser.refStack, (frameValue frame).Writable floats
  token : parser.lastToken = .valueString → ValidUtf8 parser.lexer.tokenBuffer

theorem Built.getToken {parser : Parser Number}
    (built : parser.Built floats) :
    (parser.getToken floats).Built floats :=
  ⟨built.root, built.frames, Lexer.scan_string⟩

theorem Built.handleValue {parser : Parser Number}
    {value : JsonValue Number} (built : parser.Built floats)
    (writable : value.Writable floats) :
    (parser.handleValue value).Built floats := by
  have frames := built.frames
  unfold Parser.handleValue
  split
  · exact ⟨writable, built.frames, built.token⟩
  · next elements others stack =>
      rw [stack, List.forall_mem_cons] at frames
      refine ⟨built.root, List.forall_mem_cons.mpr ⟨?_, frames.2⟩, built.token⟩
      refine JsonValue.writableElements_iff.mpr ?_
      intro element present
      rcases List.mem_append.mp present with there | last
      · exact JsonValue.writableElements_iff.mp frames.1 element there
      · rw [List.mem_singleton.mp last]
        exact writable
  · next members key others stack =>
      rw [stack, List.forall_mem_cons] at frames
      refine ⟨built.root, List.forall_mem_cons.mpr ⟨?_, frames.2⟩, built.token⟩
      exact JsonValue.writable_assign frames.1 writable key

theorem Built.startObject {parser : Parser Number}
    (built : parser.Built floats) : parser.startObject.Built floats :=
  ⟨built.root,
    List.forall_mem_cons.mpr ⟨⟨trivial, .nil⟩, built.frames⟩, built.token⟩

theorem Built.startArray {parser : Parser Number}
    (built : parser.Built floats) : parser.startArray.Built floats :=
  ⟨built.root, List.forall_mem_cons.mpr ⟨trivial, built.frames⟩, built.token⟩

theorem Built.key {parser : Parser Number} {key : ByteString}
    (built : parser.Built floats) (valid : ValidUtf8 key) :
    (parser.key key).Built floats := by
  have frames := built.frames
  unfold Parser.key
  split
  · next members before others stack =>
      rw [stack, List.forall_mem_cons] at frames
      refine ⟨built.root, List.forall_mem_cons.mpr ⟨?_, frames.2⟩, built.token⟩
      exact JsonValue.writable_emplace frames.1 valid trivial
  · exact built

theorem Built.endContainer {parser : Parser Number}
    (built : parser.Built floats) : parser.endContainer.Built floats := by
  have frames := built.frames
  unfold Parser.endContainer
  split
  · exact built
  · next elements others stack =>
      rw [stack, List.forall_mem_cons] at frames
      have below : { parser with refStack := others }.Built floats :=
        ⟨built.root, frames.2, built.token⟩
      exact below.handleValue frames.1
  · next members key others stack =>
      rw [stack, List.forall_mem_cons] at frames
      have below : { parser with refStack := others }.Built floats :=
        ⟨built.root, frames.2, built.token⟩
      exact below.handleValue frames.1

/-- The states are not part of the value. -/
theorem Built.withStates {parser : Parser Number}
    (built : parser.Built floats) (states : List Bool) (skip : Bool) :
    { parser with
      states := states
      skipToStateEvaluation := skip }.Built floats :=
  ⟨built.root, built.frames, built.token⟩

theorem Built.parseKey {parser behind : Parser Number}
    (built : parser.Built floats)
    (parsed : parser.parseKey floats = .ok behind) : behind.Built floats := by
  rw [Parser.parseKey] at parsed
  dsimp only at parsed
  split_ifs at parsed with noString separator
  cases parsed
  exact (built.key (built.token (not_not.mp noString))).getToken

/-- The parser behind an iteration. -/
def Iteration.parser : Iteration Number → Parser Number
  | .next parser => parser
  | .done parser => parser

theorem Built.evaluateState {parser : Parser Number}
    {iteration : Iteration Number} (built : parser.Built floats)
    (evaluated : evaluateState floats parser = .ok iteration) :
    iteration.parser.Built floats := by
  unfold Parser.evaluateState at evaluated
  split at evaluated
  · cases evaluated
    exact built
  · next states stack =>
      dsimp only at evaluated
      split_ifs at evaluated
      · cases evaluated
        exact built.getToken.getToken
      · cases evaluated
        exact built.getToken.endContainer.withStates states true
  · next states stack =>
      dsimp only at evaluated
      split_ifs at evaluated
      · rcases Fallible.bind_eq_ok.mp evaluated with ⟨keyed, parsed, next⟩
        cases next
        exact (built.getToken.getToken.parseKey parsed).getToken
      · cases evaluated
        exact built.getToken.endContainer.withStates states true

/-- Every finite number has a text that is read as the number. -/
def KeepsNumbers (floats : FloatText Number) : Prop :=
  ∀ number, FloatArithmetic.isFinite number = true → floats.Keeps number

theorem Built.scalarValue {parser : Parser Number} {value : JsonValue Number}
    (built : parser.Built floats) (kept : KeepsNumbers floats)
    (scalar : parser.scalarValue = some value) : value.Writable floats := by
  unfold Parser.scalarValue at scalar
  split at scalar
  case h_4 token =>
    cases scalar
    exact built.token token
  case h_7 token =>
    cases scalar
    exact kept _
  all_goals cases scalar
  all_goals trivial

theorem Built.parseValue {parser : Parser Number}
    {iteration : Iteration Number} (built : parser.Built floats)
    (kept : KeepsNumbers floats)
    (parsed : parseValue floats parser = .ok iteration) :
    iteration.parser.Built floats := by
  unfold Parser.parseValue at parsed
  split at parsed
  · dsimp only at parsed
    have opened := built.startObject.getToken
    split_ifs at parsed
    · exact opened.endContainer.evaluateState parsed
    · rcases Fallible.bind_eq_ok.mp parsed with ⟨keyed, keyParsed, next⟩
      cases next
      have keyedBuilt := opened.parseKey keyParsed
      exact (keyedBuilt.withStates _ keyed.skipToStateEvaluation).getToken
  · dsimp only at parsed
    have opened := built.startArray.getToken
    split_ifs at parsed
    · exact opened.endContainer.evaluateState parsed
    · cases parsed
      exact opened.withStates _ _
  · cases parsed
  · split_ifs at parsed
  · split at parsed
    · next number scalar =>
        split_ifs at parsed
        have writable := built.scalarValue kept scalar
        exact (built.handleValue writable).evaluateState parsed
    · next value noFloat scalar =>
        have writable := built.scalarValue kept scalar
        exact (built.handleValue writable).evaluateState parsed
    · cases parsed

theorem Built.iterate {parser : Parser Number} {iteration : Iteration Number}
    (built : parser.Built floats) (kept : KeepsNumbers floats)
    (iterated : iterate floats parser = .ok iteration) :
    iteration.parser.Built floats := by
  rw [Parser.iterate] at iterated
  split_ifs at iterated
  · exact (built.withStates parser.states false).evaluateState iterated
  · exact built.parseValue kept iterated

/-- Every iteration keeps what is built writable. -/
theorem Built.saxParse {parser behind : Parser Number}
    (built : parser.Built floats) (kept : KeepsNumbers floats)
    (parsed : saxParse floats parser = .ok behind) : behind.Built floats := by
  fun_induction Parser.saxParse floats parser with
  | case1 parser exception iterated => cases parsed
  | case2 parser ended iterated =>
      cases parsed
      exact built.iterate kept iterated
  | case3 parser next iterated recursive =>
      exact recursive (built.iterate kept iterated) parsed

/-- The value of a text that is accepted. -/
theorem writable_of_parse {strict : Bool} {text : ByteString}
    {value : JsonValue Number} (kept : KeepsNumbers floats)
    (parsed : parse floats strict text = .ok value) :
    value.Writable floats := by
  have start : (new text : Parser Number).Built floats :=
    ⟨trivial, fun _ present => (nomatch present), TokenType.noConfusion⟩
  rw [parse] at parsed
  rcases Fallible.bind_eq_ok.mp parsed with ⟨behind, run, last⟩
  split_ifs at last
  cases last
  exact (start.getToken.saxParse kept run).root

end Parser

end IocpServer.Json
