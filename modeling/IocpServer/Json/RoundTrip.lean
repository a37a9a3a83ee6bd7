import IocpServer.Json.ParsedValues

/-!
# Writing and reading JSON

A value of ordered members is written and read back, or it has a string that
is not UTF-8 and is not written.  A text that is read holds a value that is
written; what is written for it stays the same from then on.
-/

namespace IocpServer.Json

open IocpServer.Library

variable {Number : Type} [FloatArithmetic Number] {floats : FloatText Number}

namespace JsonValue

/-! ## What is read back is written alike -/

mutual

theorem dump_reread (value : JsonValue Number) (indentStep : Option UInt32)
    (indent : UInt32) :
    dump floats indentStep indent value.reread =
      dump floats indentStep indent value := by
  match value with
  | .null => rfl
  | .boolean _ => rfl
  | .numberInteger number =>
      rw [reread]
      split_ifs with negative
      · rfl
      · rw [dump, dump, toInt_of_not_neg negative]
  | .numberUnsigned _ => rfl
  | .numberFloat number =>
      rw [reread]
      split_ifs with finite
      · rfl
      · rw [dump, dump, dumpFloat, if_neg finite]
  | .string _ => rfl
  | .array [] => rfl
  | .array (element :: elements) =>
      have inner :=
        dumpElements_reread (element :: elements) indentStep
          (indent + indentStep.getD 0)
      rw [rereadElements] at inner
      rw [reread, rereadElements, dump, dump]
      dsimp only
      rw [inner]
      rfl
  | .object [] => rfl
  | .object ((key, first) :: members) =>
      have inner :=
        dumpMembers_reread ((key, first) :: members) indentStep
          (indent + indentStep.getD 0)
      rw [rereadMembers] at inner
      rw [reread, rereadMembers, dump, dump]
      dsimp only
      rw [inner]
      rfl

theorem dumpElements_reread (elements : List (JsonValue Number))
    (indentStep : Option UInt32) (indent : UInt32) :
    dumpElements floats indentStep indent (rereadElements elements) =
      dumpElements floats indentStep indent elements := by
  match elements with
  | [] => rfl
  | [element] =>
      rw [rereadElements, rereadElements, dumpElements, dumpElements,
        dump_reread element]
  | element :: second :: elements =>
      have others :=
        dumpElements_reread (second :: elements) indentStep indent
      rw [rereadElements] at others
      rw [rereadElements, rereadElements, dumpElements_several, others,
        dump_reread element, dumpElements_several]

theorem dumpMembers_reread (members : List (ByteString × JsonValue Number))
    (indentStep : Option UInt32) (indent : UInt32) :
    dumpMembers floats indentStep indent (rereadMembers members) =
      dumpMembers floats indentStep indent members := by
  match members with
  | [] => rfl
  | [(key, value)] =>
      rw [rereadMembers, rereadMembers, dumpMembers, dumpMembers,
        dump_reread value]
  | (key, value) :: (secondKey, second) :: members =>
      have others :=
        dumpMembers_reread ((secondKey, second) :: members) indentStep indent
      rw [rereadMembers] at others
      rw [rereadMembers, rereadMembers, dumpMembers_several, others,
        dump_reread value, dumpMembers_several]

end

/-! ## Values with ordered members -/

mutual

/-- The members of every object in the value are those of a `std::map`. -/
def Ordered : JsonValue Number → Prop
  | .array elements => OrderedElements elements
  | .object members => OrderedMembers members ∧ InKeyOrder members
  | _ => True

def OrderedElements : List (JsonValue Number) → Prop
  | [] => True
  | element :: elements => Ordered element ∧ OrderedElements elements

def OrderedMembers : List (ByteString × JsonValue Number) → Prop
  | [] => True
  | (_, value) :: members => Ordered value ∧ OrderedMembers members

end

mutual

theorem writable_of_hasText {value : JsonValue Number}
    (kept : Parser.KeepsNumbers floats) (ordered : value.Ordered)
    (hasText : value.HasText) : value.Writable floats := by
  match value with
  | .null => trivial
  | .boolean _ => trivial
  | .numberInteger _ => trivial
  | .numberUnsigned _ => trivial
  | .numberFloat number => exact kept number
  | .string _ => exact hasText
  | .array elements => exact writableElements_of_haveTexts kept ordered hasText
  | .object members =>
      exact ⟨writableMembers_of_haveTexts kept ordered.1 hasText, ordered.2⟩

theorem writableElements_of_haveTexts {elements : List (JsonValue Number)}
    (kept : Parser.KeepsNumbers floats) (ordered : OrderedElements elements)
    (haveTexts : HaveTexts elements) : WritableElements floats elements := by
  match elements with
  | [] => trivial
  | element :: elements =>
      exact
        ⟨writable_of_hasText kept ordered.1 haveTexts.1,
          writableElements_of_haveTexts kept ordered.2 haveTexts.2⟩

theorem writableMembers_of_haveTexts
    {members : List (ByteString × JsonValue Number)}
    (kept : Parser.KeepsNumbers floats) (ordered : OrderedMembers members)
    (haveTexts : MembersHaveTexts members) :
    WritableMembers floats members := by
  match members with
  | [] => trivial
  | (key, value) :: members =>
      exact
        ⟨haveTexts.1, writable_of_hasText kept ordered.1 haveTexts.2.1,
          writableMembers_of_haveTexts kept ordered.2 haveTexts.2.2⟩

end

end JsonValue

/-! ## Whole numbers -/

/--
The integers as floating-point numbers.  They agree with the doubles where
every number that comes up is a small integer.
-/
@[reducible]
def wholeArithmetic : FloatArithmetic Int where
  ofInt number := number
  largest := 340282346638528859811704183484516925440
  divide left right := left.tdiv right
  less left right := decide (left < right)
  equal left right := decide (left = right)
  isFinite _ := true
  narrow number := number
  truncate number := Int32.ofInt number

/-- `to_chars` and `strtod` of such a number. -/
def wholeText : FloatText Int where
  toChars number := dumpInteger number ++ literal ".0"
  strtod text := Lexer.signedValue (text.takeWhile fun byte => byte != 46)

theorem numberText_whole (number : Int) :
    Lexer.NumberText (dumpInteger number ++ literal ".0") .valueFloat := by
  have isDigits := digitsOf_dumpDigits number.natAbs
  rw [dumpInteger]
  split_ifs with zero negative
  · exact ⟨48, [46, 48], .decimal2, rfl, .inr rfl, rfl, rfl⟩
  · exact Lexer.numberText_negative (by omega) isDigits rfl rfl
  · exact Lexer.numberText_digits (by omega) isDigits rfl rfl

theorem noPoint_dumpInteger (number : Int) :
    ∀ byte ∈ dumpInteger number, (byte != 46) = true := by
  have digits : ∀ byte ∈ dumpDigits number.natAbs, (byte != 46) = true := by
    intro byte present
    have digit := (digitsOf_dumpDigits number.natAbs).all byte present
    rw [bne_iff_ne]
    rintro rfl
    cases digit
  rw [dumpInteger]
  split_ifs
  · exact List.forall_mem_singleton.mpr rfl
  · exact List.forall_mem_cons.mpr ⟨rfl, digits⟩
  · exact digits

theorem signedValue_dumpInteger (number : Int) :
    Lexer.signedValue (dumpInteger number) = number := by
  by_cases negative : number < 0
  · exact (Lexer.numberText_dumpInteger_neg negative).2
  · have same : number = (number.toNat : Int) := by omega
    rw [same]
    exact (Lexer.numberText_dumpInteger number.toNat).2

theorem keeps_whole (number : Int) : wholeText.Keeps number where
  text := numberText_whole number
  back := by
    change
      Lexer.signedValue
        ((dumpInteger number ++ 46 :: [48]).takeWhile fun byte => byte != 46) =
          number
    rw [List.takeWhile_append_of_pos (noPoint_dumpInteger number),
      List.takeWhile_cons_of_neg (by decide), List.append_nil]
    exact signedValue_dumpInteger number

/-! ## Both ways -/

/--
A value is written and read back from what is written, in any indentation that
`indent_string` has the blanks for, or it holds a string that is not UTF-8 and
is not written.
-/
theorem dumped_or_refused {value : JsonValue Number}
    (kept : Parser.KeepsNumbers floats) (ordered : value.Ordered)
    {indent : Int32} (short : indent ≤ 1024) :
    (value.HasText ∧
        ∃ text,
          basicJsonDump floats value indent = .ok text ∧
            ∀ strict, Parser.parse floats strict text = .ok value.reread) ∨
      (¬value.HasText ∧
        ∃ message,
          basicJsonDump floats value indent =
            .error (.exception (.typeError 316 message))) := by
  rw [basicJsonDump_eq value short]
  have writes :
      JsonValue.WritesIf (value.dump floats (indentation indent) 0)
        value.HasText :=
    JsonValue.writesIf_dump value 0
  cases dumped : value.dump floats (indentation indent) 0 with
  | error exception =>
      right
      rcases writes.2 exception dumped with ⟨message, rfl⟩
      refine ⟨fun hasText => ?_, message, rfl⟩
      rcases writes.1.mpr hasText with ⟨text, written⟩
      rw [dumped] at written
      cases written
  | ok text =>
      left
      have hasText := writes.1.mp ⟨text, dumped⟩
      have writable := JsonValue.writable_of_hasText kept ordered hasText
      exact ⟨hasText, text, rfl, Parser.parse_dump writable dumped⟩

/-- A value of every kind but two, with a name. -/
def sampleValue (name : ByteString) : JsonValue Int :=
  .object
    [(literal "List",
      .array [.numberInteger (-7), .numberInteger 7, .numberFloat 2, .null]),
     (literal "Name", .string name)]

theorem ordered_sampleValue (name : ByteString) :
    (sampleValue name).Ordered := by
  refine ⟨⟨⟨trivial, trivial, trivial, trivial, trivial⟩, trivial, trivial⟩, ?_⟩
  have ordered : compare (literal "List") (literal "Name") = .lt := by decide
  exact List.pairwise_pair.mpr ordered

theorem dumped_or_refused_sample :
    letI := wholeArithmetic
    ((sampleValue [0xC3, 0xA9]).HasText ∧
        ∃ text,
          basicJsonDump wholeText (sampleValue [0xC3, 0xA9]) 4 = .ok text ∧
            ∀ strict,
              Parser.parse wholeText strict text =
                .ok (sampleValue [0xC3, 0xA9]).reread) ∨
      (¬(sampleValue [0xC3, 0xA9]).HasText ∧
        ∃ message,
          basicJsonDump wholeText (sampleValue [0xC3, 0xA9]) 4 =
            .error (.exception (.typeError 316 message))) :=
  letI := wholeArithmetic
  dumped_or_refused (fun number _ => keeps_whole number)
    (ordered_sampleValue _) (by decide)

/--
The value of a text that is accepted is written, in any indentation that
`indent_string` has the blanks for, and what is written is read as a value that
is written alike.
-/
theorem parsed_dumped {strict : Bool} {text : ByteString}
    {value : JsonValue Number} (kept : Parser.KeepsNumbers floats)
    (parsed : Parser.parse floats strict text = .ok value) {indent : Int32}
    (short : indent ≤ 1024) :
    ∃ written,
      basicJsonDump floats value indent = .ok written ∧
        (∀ again, Parser.parse floats again written = .ok value.reread) ∧
          basicJsonDump floats value.reread indent = .ok written := by
  have writable := Parser.writable_of_parse kept parsed
  have writes :
      JsonValue.WritesIf (value.dump floats (indentation indent) 0)
        value.HasText :=
    JsonValue.writesIf_dump value 0
  rcases writes.1.mpr writable.hasText with ⟨written, dumped⟩
  rw [basicJsonDump_eq value short, basicJsonDump_eq value.reread short,
    JsonValue.dump_reread, dumped]
  exact ⟨written, rfl, Parser.parse_dump writable dumped, rfl⟩

/-- The text of the value with the name of the letter é. -/
def sampleText : ByteString :=
  literal "\x7b\"List\":[-7,7,2.0,null],\"Name\":\"" ++ [0xC3, 0xA9] ++
    literal "\"\x7d"

theorem parsed_dumped_sample :
    letI := wholeArithmetic
    ∃ written,
      basicJsonDump wholeText (sampleValue [0xC3, 0xA9]).reread 4 =
          .ok written ∧
        (∀ again,
          Parser.parse wholeText again written =
            .ok (sampleValue [0xC3, 0xA9]).reread.reread) ∧
          basicJsonDump wholeText (sampleValue [0xC3, 0xA9]).reread.reread 4 =
            .ok written :=
  letI := wholeArithmetic
  have hasText : (sampleValue [0xC3, 0xA9]).HasText :=
    ⟨⟨['L', 'i', 's', 't'], rfl⟩, ⟨trivial, trivial, trivial, trivial, trivial⟩,
      ⟨['N', 'a', 'm', 'e'], rfl⟩, ⟨['é'], rfl⟩, trivial⟩
  have writable :=
    JsonValue.writable_of_hasText (fun number _ => keeps_whole number)
      (ordered_sampleValue _) hasText
  have dumped :
      (sampleValue [0xC3, 0xA9]).dump wholeText none 0 = .ok sampleText := by
    decide +kernel
  parsed_dumped (fun number _ => keeps_whole number)
    (Parser.parse_dump writable dumped true) (by decide)

end IocpServer.Json
