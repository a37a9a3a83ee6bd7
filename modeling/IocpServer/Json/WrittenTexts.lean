import IocpServer.Json.IndentString
import IocpServer.Json.ReadBack

/-!
# Which values have a text

`dump` writes a value exactly if its strings are valid UTF-8, and throws
`type_error.316` otherwise.  What it writes crosses a C interface whole, and
`parse` puts the value back.
-/

namespace IocpServer.Json

open IocpServer.Library

variable {Number : Type}

namespace JsonValue

/-! ## Values with a text -/

mutual

/-- The strings and the keys of the value are valid UTF-8. -/
def HasText : JsonValue Number → Prop
  | .string text => ValidUtf8 text
  | .array elements => HaveTexts elements
  | .object members => MembersHaveTexts members
  | _ => True

def HaveTexts : List (JsonValue Number) → Prop
  | [] => True
  | element :: elements => HasText element ∧ HaveTexts elements

def MembersHaveTexts : List (ByteString × JsonValue Number) → Prop
  | [] => True
  | (key, value) :: members =>
      ValidUtf8 key ∧ HasText value ∧ MembersHaveTexts members

end

theorem dumpString_ok_iff (text : ByteString) :
    (∃ written, dumpString text = .ok written) ↔ ValidUtf8 text := by
  rw [← dumpEscaped_ok_iff]
  constructor
  · rintro ⟨written, dumped⟩
    rcases Fallible.bind_eq_ok.mp dumped with ⟨escaped, escapedOk, -⟩
    exact ⟨escaped, escapedOk⟩
  · rintro ⟨escaped, dumped⟩
    rw [dumpString, dumped]
    exact ⟨_, rfl⟩

theorem dumpString_error {text : ByteString} {exception : JsonException}
    (raised : dumpString text = .error exception) :
    ∃ message, exception = .typeError 316 message := by
  rw [dumpString] at raised
  cases dumped : dumpEscaped text with
  | error other =>
      rw [dumped] at raised
      cases raised
      exact dumpEscapedFrom_error dumped
  | ok escaped =>
      rw [dumped] at raised
      cases raised

variable [FloatArithmetic Number] {floats : FloatText Number}
  {indentStep : Option UInt32}

/-- The call has a result exactly if the condition holds, and raises
`type_error.316` otherwise. -/
def WritesIf (call : Except JsonException ByteString) (condition : Prop) :
    Prop :=
  ((∃ text, call = .ok text) ↔ condition) ∧
    ∀ exception, call = .error exception →
      ∃ message, exception = .typeError 316 message

theorem writesIf_ok (text : ByteString) : WritesIf (.ok text) True :=
  ⟨⟨fun _ => trivial, fun _ => ⟨text, rfl⟩⟩, fun _ raised => nomatch raised⟩

theorem writesIf_dumpString (text : ByteString) :
    WritesIf (dumpString text) (ValidUtf8 text) :=
  ⟨dumpString_ok_iff text, fun _ => dumpString_error⟩

/-- One call behind the other. -/
theorem WritesIf.bind {call : Except JsonException ByteString}
    {rest : ByteString → Except JsonException ByteString}
    {first second : Prop} (callWrites : WritesIf call first)
    (restWrites : ∀ text, WritesIf (rest text) second) :
    WritesIf (call >>= rest) (first ∧ second) := by
  rcases callWrites with ⟨callOk, callError⟩
  cases called : call with
  | error exception =>
      constructor
      · constructor
        · rintro ⟨text, same⟩
          cases same
        · rintro ⟨holds, -⟩
          rcases callOk.mpr holds with ⟨text, same⟩
          rw [called] at same
          cases same
      · intro other raised
        cases raised
        exact callError exception called
  | ok text =>
      have holds := callOk.mp ⟨text, called⟩
      rcases restWrites text with ⟨restOk, restError⟩
      exact ⟨restOk.trans ⟨fun further => ⟨holds, further⟩, And.right⟩, restError⟩

theorem WritesIf.map {call : Except JsonException ByteString}
    {condition : Prop} (writes : WritesIf call condition)
    (view : ByteString → ByteString) :
    WritesIf (call >>= fun text => .ok (view text)) condition := by
  have both := writes.bind fun text => writesIf_ok (view text)
  rw [and_true] at both
  exact both

mutual

/-- A value has a text exactly if its strings do. -/
theorem writesIf_dump (value : JsonValue Number) (indent : UInt32) :
    WritesIf (dump floats indentStep indent value) value.HasText := by
  match value with
  | .null => exact writesIf_ok _
  | .boolean flag => exact writesIf_ok _
  | .numberInteger number => exact writesIf_ok _
  | .numberUnsigned number => exact writesIf_ok _
  | .numberFloat number => exact writesIf_ok _
  | .string text =>
      rw [dump]
      exact writesIf_dumpString text
  | .array [] => exact writesIf_ok _
  | .array (element :: elements) =>
      rw [dump, List.isEmpty_cons, if_neg Bool.false_ne_true]
      exact (writesIf_dumpElements (element :: elements) _).map _
  | .object [] => exact writesIf_ok _
  | .object (member :: members) =>
      rw [dump, List.isEmpty_cons, if_neg Bool.false_ne_true]
      exact (writesIf_dumpMembers (member :: members) _).map _

theorem writesIf_dumpElements (elements : List (JsonValue Number))
    (indent : UInt32) :
    WritesIf (dumpElements floats indentStep indent elements)
      (HaveTexts elements) := by
  match elements with
  | [] => exact writesIf_ok _
  | [element] =>
      rw [dumpElements, HaveTexts, HaveTexts, and_true]
      exact writesIf_dump element indent
  | element :: second :: elements =>
      rw [dumpElements, HaveTexts]
      · refine (writesIf_dump element indent).bind fun text => ?_
        exact (writesIf_dumpElements (second :: elements) indent).map _
      · exact List.cons_ne_nil _ _

theorem writesIf_dumpMembers
    (members : List (ByteString × JsonValue Number)) (indent : UInt32) :
    WritesIf (dumpMembers floats indentStep indent members)
      (MembersHaveTexts members) := by
  match members with
  | [] => exact writesIf_ok _
  | [(key, value)] =>
      rw [dumpMembers, MembersHaveTexts, MembersHaveTexts, and_true]
      refine (writesIf_dumpString key).bind fun name => ?_
      exact (writesIf_dump value indent).map _
  | (key, value) :: second :: members =>
      rw [dumpMembers, MembersHaveTexts]
      · refine (writesIf_dumpString key).bind fun name => ?_
        refine (writesIf_dump value indent).bind fun text => ?_
        exact (writesIf_dumpMembers (second :: members) indent).map _
      · exact List.cons_ne_nil _ _

end

mutual

theorem Writable.hasText {value : JsonValue Number}
    (writable : value.Writable floats) : value.HasText := by
  match value with
  | .null => trivial
  | .boolean _ => trivial
  | .numberInteger _ => trivial
  | .numberUnsigned _ => trivial
  | .numberFloat _ => trivial
  | .string _ => exact writable
  | .array elements => exact WritableElements.haveTexts writable
  | .object members => exact WritableMembers.haveTexts writable.1

theorem WritableElements.haveTexts {elements : List (JsonValue Number)}
    (writable : WritableElements floats elements) : HaveTexts elements := by
  match elements with
  | [] => trivial
  | element :: elements =>
      exact ⟨writable.1.hasText, WritableElements.haveTexts writable.2⟩

theorem WritableMembers.haveTexts
    {members : List (ByteString × JsonValue Number)}
    (writable : WritableMembers floats members) :
    MembersHaveTexts members := by
  match members with
  | [] => trivial
  | (key, value) :: members =>
      exact
        ⟨writable.1, writable.2.1.hasText,
          WritableMembers.haveTexts writable.2.2⟩

end

end JsonValue

/-! ## No control characters -/

/-- A text without control characters, and so without a zero. -/
def Printable (text : ByteString) : Prop :=
  ∀ byte ∈ text, 0x20 ≤ byte.toNat

instance (text : ByteString) : Decidable (Printable text) :=
  List.decidableBAll (fun byte : UInt8 => 0x20 ≤ byte.toNat) text

theorem Printable.append {first second : ByteString}
    (firstPrintable : Printable first) (secondPrintable : Printable second) :
    Printable (first ++ second) := by
  intro byte present
  rcases List.mem_append.mp present with inFirst | inSecond
  · exact firstPrintable byte inFirst
  · exact secondPrintable byte inSecond

theorem Printable.cons {byte : UInt8} {text : ByteString}
    (printable : 0x20 ≤ byte.toNat) (others : Printable text) :
    Printable (byte :: text) := by
  intro other present
  rcases List.mem_cons.mp present with rfl | inText
  · exact printable
  · exact others other inText

theorem Printable.zero_not_mem {text : ByteString}
    (printable : Printable text) : 0 ∉ text := by
  intro present
  exact absurd (printable 0 present) (by decide)

theorem printable_hex4 (value : Nat) : Printable (hex4 value) := by
  have digit : ∀ nibble < 16, 0x20 ≤ (lowerHexDigit nibble).toNat := by
    decide
  intro byte present
  simp only [hex4, List.mem_cons, List.not_mem_nil, or_false] at present
  rcases present with rfl | rfl | rfl | rfl
  all_goals exact digit _ (Nat.mod_lt _ (by decide))

theorem printable_escapeCodepoint (byte : UInt8) :
    Printable (escapeCodepoint (UInt32.ofNat byte.toNat) byte) := by
  have number : (UInt32.ofNat byte.toNat).toNat = byte.toNat :=
    Nat.mod_eq_of_lt (by have bound := byte.toNat_lt; omega)
  unfold escapeCodepoint
  split_ifs with backspace tab line form carriage quote backslash control
  · decide
  · decide
  · decide
  · decide
  · decide
  · decide
  · decide
  · exact Printable.append (by decide) (printable_hex4 _)
  · refine Printable.cons ?_ (by decide)
    rw [UInt32.le_iff_toNat_le, number] at control
    exact Nat.lt_of_not_le control

theorem printable_escapedChar (character : Char) :
    Printable (escapedChar character) := by
  have sequence := utf8Sequence_utf8EncodeChar character
  rw [escapedChar, escapedSequence]
  rcases sequence.ascii_or_beyond with ⟨byte, -, same, ascii⟩ | ⟨beyond, all⟩
  · rw [same, if_pos ascii, UInt8.ofNat_toNat]
    exact printable_escapeCodepoint byte
  · rw [if_neg (by omega)]
    intro byte present
    exact (by decide : 0x20 ≤ 0x80).trans (all byte present)

theorem printable_dumpString {text written : ByteString}
    (dumped : JsonValue.dumpString text = .ok written) :
    Printable written := by
  rcases (JsonValue.dumpString_ok_iff text).mp ⟨written, dumped⟩ with
    ⟨characters, rfl⟩
  rw [JsonValue.dumpString, dumpEscaped_utf8Text] at dumped
  cases dumped
  refine Printable.append (Printable.append (by decide) ?_) (by decide)
  intro byte present
  rcases List.mem_flatMap.mp present with ⟨character, -, inChar⟩
  exact printable_escapedChar character byte inChar

theorem isDigit_printable {byte : UInt8} (digit : isDigit byte = true) :
    0x20 ≤ byte.toNat := by
  simp only [isDigit, Bool.and_eq_true, decide_eq_true_eq,
    UInt8.le_iff_toNat_le] at digit
  exact (by decide : 0x20 ≤ (48 : UInt8).toNat).trans digit.1

theorem isPositiveDigit_printable {byte : UInt8}
    (digit : Lexer.isPositiveDigit byte = true) : 0x20 ≤ byte.toNat := by
  simp only [Lexer.isPositiveDigit, Bool.and_eq_true, decide_eq_true_eq,
    UInt8.le_iff_toNat_le] at digit
  exact (by decide : 0x20 ≤ (49 : UInt8).toNat).trans digit.1

/-- A character the automaton goes on with. -/
theorem next_printable {state next : Lexer.NumberState} {byte : UInt8}
    (goes : state.next (some byte) = .goto next) : 0x20 ≤ byte.toNat := by
  have sign : ∀ other : UInt8, 0x20 ≤ other.toNat → byte = other →
      0x20 ≤ byte.toNat := by
    rintro other printable rfl
    exact printable
  have letter : byte = 101 ∨ byte = 69 → 0x20 ≤ byte.toNat := by
    rintro (rfl | rfl) <;> decide
  have signs : byte = 43 ∨ byte = 45 → 0x20 ≤ byte.toNat := by
    rintro (rfl | rfl) <;> decide
  cases state with
  | minus =>
      rw [Lexer.NumberState.next] at goes
      split_ifs at goes with zero digit
      · exact sign 48 (by decide) zero
      · exact isPositiveDigit_printable digit
  | zero =>
      rw [Lexer.NumberState.next] at goes
      split_ifs at goes with point exponent
      · exact sign 46 (by decide) point
      · exact letter exponent
  | any1 =>
      rw [Lexer.NumberState.next] at goes
      split_ifs at goes with digit point exponent
      · exact isDigit_printable digit
      · exact sign 46 (by decide) point
      · exact letter exponent
  | decimal1 =>
      rw [Lexer.NumberState.next] at goes
      split_ifs at goes with digit
      exact isDigit_printable digit
  | decimal2 =>
      rw [Lexer.NumberState.next] at goes
      split_ifs at goes with digit exponent
      · exact isDigit_printable digit
      · exact letter exponent
  | exponent =>
      rw [Lexer.NumberState.next] at goes
      split_ifs at goes with plus digit
      · exact signs plus
      · exact isDigit_printable digit
  | sign =>
      rw [Lexer.NumberState.next] at goes
      split_ifs at goes with digit
      exact isDigit_printable digit
  | any2 =>
      rw [Lexer.NumberState.next] at goes
      split_ifs at goes with digit
      exact isDigit_printable digit

theorem printable_run {bytes : ByteString} {state last : Lexer.NumberState}
    {before numberType : TokenType}
    (ran : state.run before bytes = some (last, numberType)) :
    Printable bytes := by
  induction bytes generalizing state before with
  | nil => decide
  | cons byte bytes recursive =>
      rw [Lexer.NumberState.run] at ran
      split at ran
      · next next goes => exact (recursive ran).cons (next_printable goes)
      · cases ran

/-- The bytes of a number. -/
theorem printable_numberText {text : ByteString} {numberType : TokenType}
    (isText : Lexer.NumberText text numberType) : Printable text := by
  rcases isText with ⟨first, others, last, rfl, start, ran, -⟩
  refine (printable_run ran).cons ?_
  rcases start with rfl | digit
  · decide
  · exact isDigit_printable digit

theorem printable_dumpInteger (number : Int) :
    Printable (dumpInteger number) := by
  by_cases negative : number < 0
  · exact
      printable_numberText (Lexer.numberText_dumpInteger_neg negative).1
  · have same : number = (number.toNat : Int) := by omega
    rw [same]
    exact printable_numberText (Lexer.numberText_dumpInteger _).1

variable [FloatArithmetic Number] {floats : FloatText Number}

mutual

/-- The text of a value has no control characters. -/
theorem printable_dump (value : JsonValue Number) {text : ByteString}
    (writable : value.Writable floats)
    (dumped : value.dump floats none 0 = .ok text) : Printable text := by
  match value with
  | .null =>
      cases dumped
      decide
  | .boolean flag =>
      cases dumped
      cases flag <;> decide
  | .numberInteger number =>
      cases dumped
      exact printable_dumpInteger _
  | .numberUnsigned number =>
      cases dumped
      exact printable_dumpInteger _
  | .numberFloat number =>
      rw [JsonValue.dump, JsonValue.dumpFloat] at dumped
      split_ifs at dumped with finite
      · cases dumped
        exact printable_numberText (writable finite).text
      · cases dumped
        decide
  | .string string =>
      rw [JsonValue.dump] at dumped
      exact printable_dumpString dumped
  | .array elements =>
      rw [JsonValue.dump] at dumped
      split_ifs at dumped
      · cases dumped
        decide
      · rcases Fallible.bind_eq_ok.mp dumped with ⟨inner, innerDumped, whole⟩
        cases whole
        have printable := printable_dumpElements elements writable innerDumped
        exact ((printable.cons (by decide)).append (by decide)).append (by decide)
  | .object members =>
      rw [JsonValue.dump] at dumped
      split_ifs at dumped
      · cases dumped
        decide
      · rcases Fallible.bind_eq_ok.mp dumped with ⟨inner, innerDumped, whole⟩
        cases whole
        have printable := printable_dumpMembers members writable.1 innerDumped
        exact ((printable.cons (by decide)).append (by decide)).append (by decide)

theorem printable_dumpElements (elements : List (JsonValue Number))
    {text : ByteString} (writable : JsonValue.WritableElements floats elements)
    (dumped : JsonValue.dumpElements floats none 0 elements = .ok text) :
    Printable text := by
  match elements with
  | [] =>
      cases dumped
      decide
  | [element] =>
      rw [JsonValue.dumpElements] at dumped
      exact printable_dump element writable.1 dumped
  | element :: second :: elements =>
      rcases JsonValue.dumpElements_cons dumped with
        ⟨first, others, firstDumped, othersDumped, rfl⟩
      have firstPrintable := printable_dump element writable.1 firstDumped
      have printable :=
        printable_dumpElements (second :: elements) writable.2 othersDumped
      exact firstPrintable.append (printable.cons (by decide))

theorem printable_dumpMembers
    (members : List (ByteString × JsonValue Number)) {text : ByteString}
    (writable : JsonValue.WritableMembers floats members)
    (dumped : JsonValue.dumpMembers floats none 0 members = .ok text) :
    Printable text := by
  match members with
  | [] =>
      cases dumped
      decide
  | [(key, value)] =>
      rcases JsonValue.dumpMembers_one dumped with
        ⟨name, first, nameDumped, firstDumped, rfl⟩
      have firstPrintable := printable_dump value writable.2.1 firstDumped
      exact
        (printable_dumpString nameDumped).append
          (firstPrintable.cons (by decide))
  | (key, value) :: second :: members =>
      rcases JsonValue.dumpMembers_cons dumped with
        ⟨name, first, others, nameDumped, firstDumped, othersDumped, rfl⟩
      have firstPrintable := printable_dump value writable.2.1 firstDumped
      have printable :=
        printable_dumpMembers (second :: members) writable.2.2 othersDumped
      exact
        (printable_dumpString nameDumped).append
          ((firstPrintable.append (printable.cons (by decide))).cons
            (by decide))

end

/-! ## The library -/

/-- The exception as one of the calls; its id tells it apart. -/
def ParserException.toJson : ParserException → JsonException
  | .parseError id message => .parseError id message
  | .outOfRange id message => .parseError id message

/-- `dump()` and `parse`. -/
def nlohmannLibrary (floats : FloatText Number) : JsonLibrary Number where
  dump value := value.dump floats none 0
  parse text := (Parser.parse floats true text).mapError ParserException.toJson

/-- The call without an argument uses no `indent_string`. -/
theorem nlohmannLibrary_dump (value : JsonValue Number) :
    basicJsonDump floats value (-1) =
      ((nlohmannLibrary floats).dump value).mapError .exception :=
  basicJsonDump_eq value (by decide)

/-- A value whose strings have a text is read back from its own text. -/
theorem preserves_of_writable {value : JsonValue Number}
    (writable : value.Writable floats) :
    (nlohmannLibrary floats).Preserves value := by
  rcases (JsonValue.writesIf_dump value 0).1.mpr writable.hasText with
    ⟨text, dumped⟩
  refine
    ⟨text, dumped, (printable_dump value writable dumped).zero_not_mem, ?_⟩
  change (Parser.parse floats true text).mapError ParserException.toJson = _
  rw [Parser.parse_dump writable dumped]
  rfl

end IocpServer.Json
