import IocpServer.Json.Nlohmann

/-!
# The text of a JSON value

What `serializer::dump` writes for `dump()` and `dump(4)`: no escapes beyond
ASCII, and an exception for a string that is not UTF-8.  What is written goes
into a string that is lost with the exception.  The blanks of an indented text
come from a string of their own (`Serializer.dump`).

The digits of a floating-point number are those of `to_chars`, which is left
to the caller.
-/

namespace IocpServer.Json

open IocpServer.Library

/-! ## Strings -/

/-- `UTF8_ACCEPT`. -/
def utf8Accept : UInt8 := 0

/-- `UTF8_REJECT`. -/
def utf8Reject : UInt8 := 1

/-- `utf8d`: the type of each byte, and the states behind each state. -/
def utf8d : List UInt8 :=
  [0, 0, 0, 0, 0, 0, 0, 0, 0, 0, 0, 0, 0, 0, 0, 0,
    0, 0, 0, 0, 0, 0, 0, 0, 0, 0, 0, 0, 0, 0, 0, 0,
    0, 0, 0, 0, 0, 0, 0, 0, 0, 0, 0, 0, 0, 0, 0, 0,
    0, 0, 0, 0, 0, 0, 0, 0, 0, 0, 0, 0, 0, 0, 0, 0,
    0, 0, 0, 0, 0, 0, 0, 0, 0, 0, 0, 0, 0, 0, 0, 0,
    0, 0, 0, 0, 0, 0, 0, 0, 0, 0, 0, 0, 0, 0, 0, 0,
    0, 0, 0, 0, 0, 0, 0, 0, 0, 0, 0, 0, 0, 0, 0, 0,
    0, 0, 0, 0, 0, 0, 0, 0, 0, 0, 0, 0, 0, 0, 0, 0,
    1, 1, 1, 1, 1, 1, 1, 1, 1, 1, 1, 1, 1, 1, 1, 1,
    9, 9, 9, 9, 9, 9, 9, 9, 9, 9, 9, 9, 9, 9, 9, 9,
    7, 7, 7, 7, 7, 7, 7, 7, 7, 7, 7, 7, 7, 7, 7, 7,
    7, 7, 7, 7, 7, 7, 7, 7, 7, 7, 7, 7, 7, 7, 7, 7,
    8, 8, 2, 2, 2, 2, 2, 2, 2, 2, 2, 2, 2, 2, 2, 2,
    2, 2, 2, 2, 2, 2, 2, 2, 2, 2, 2, 2, 2, 2, 2, 2,
    0xA, 0x3, 0x3, 0x3, 0x3, 0x3, 0x3, 0x3,
    0x3, 0x3, 0x3, 0x3, 0x3, 0x4, 0x3, 0x3,
    0xB, 0x6, 0x6, 0x6, 0x5, 0x8, 0x8, 0x8,
    0x8, 0x8, 0x8, 0x8, 0x8, 0x8, 0x8, 0x8,
    0x0, 0x1, 0x2, 0x3, 0x5, 0x8, 0x7, 0x1,
    0x1, 0x1, 0x4, 0x6, 0x1, 0x1, 0x1, 0x1,
    1, 1, 1, 1, 1, 1, 1, 1, 1, 1, 1, 1, 1, 1, 1, 1,
    1, 0, 1, 1, 1, 1, 1, 0, 1, 0, 1, 1, 1, 1, 1, 1,
    1, 2, 1, 1, 1, 1, 1, 2, 1, 2, 1, 1, 1, 1, 1, 1,
    1, 1, 1, 1, 1, 1, 1, 2, 1, 1, 1, 1, 1, 1, 1, 1,
    1, 2, 1, 1, 1, 1, 1, 1, 1, 2, 1, 1, 1, 1, 1, 1,
    1, 1, 1, 1, 1, 1, 1, 3, 1, 3, 1, 1, 1, 1, 1, 1,
    1, 3, 1, 1, 1, 1, 1, 3, 1, 3, 1, 1, 1, 1, 1, 1,
    1, 3, 1, 1, 1, 1, 1, 1, 1, 1, 1, 1, 1, 1, 1, 1]

/-- `decode`: the state and the code point behind one byte. -/
def decode (state : UInt8) (codep : UInt32) (byte : UInt8) :
    UInt8 × UInt32 :=
  let type := utf8d.getD byte.toNat 0
  let codep : UInt32 :=
    if state ≠ utf8Accept then
      (byte.toUInt32 &&& (0x3f : UInt32)) ||| (codep <<< 6)
    else
      ((0xFF : UInt32) >>> type.toUInt32) &&& byte.toUInt32
  (utf8d.getD (256 + state.toNat * 16 + type.toNat) 0, codep)

/-- A digit of `nibble_to_hex`. -/
def nibbleToHex (nibble : Nat) : Char :=
  ['0', '1', '2', '3', '4', '5', '6', '7', '8', '9',
    'A', 'B', 'C', 'D', 'E', 'F'].getD nibble '0'

/-- `hex_bytes`. -/
def hexBytes (byte : UInt8) : String :=
  String.ofList [nibbleToHex (byte.toNat / 16), nibbleToHex (byte.toNat % 16)]

/-- A digit of `%04x`. -/
def lowerHexDigit (nibble : Nat) : UInt8 :=
  if nibble < 10 then UInt8.ofNat (48 + nibble)
  else UInt8.ofNat (87 + nibble)

/-- `%04x`. -/
def hex4 (value : Nat) : ByteString :=
  [lowerHexDigit (value / 4096 % 16), lowerHexDigit (value / 256 % 16),
    lowerHexDigit (value / 16 % 16), lowerHexDigit (value % 16)]

/-- What `dump_escaped` writes at the last byte of a code point. -/
def escapeCodepoint (codepoint : UInt32) (byte : UInt8) : ByteString :=
  if codepoint = 0x08 then literal "\\b"
  else if codepoint = 0x09 then literal "\\t"
  else if codepoint = 0x0A then literal "\\n"
  else if codepoint = 0x0C then literal "\\f"
  else if codepoint = 0x0D then literal "\\r"
  else if codepoint = 0x22 then literal "\\\""
  else if codepoint = 0x5C then literal "\\\\"
  else if codepoint ≤ 0x1F then literal "\\u" ++ hex4 codepoint.toNat
  else [byte]

/-- `dump_escaped` from an index on, behind what it has written. -/
def dumpEscapedFrom (last : UInt8) :
    ByteString → Nat → UInt8 → UInt32 → ByteString →
      Except JsonException ByteString
  | [], _, state, _, written =>
      if state = utf8Accept then
        .ok written
      else
        .error
          (.typeError 316
            ("incomplete UTF-8 string; last byte: 0x" ++ hexBytes last))
  | byte :: rest, i, state, codepoint, written =>
      let (state, codepoint) := decode state codepoint byte
      if state = utf8Accept then
        dumpEscapedFrom last rest (i + 1) state codepoint
          (written ++ escapeCodepoint codepoint byte)
      else if state = utf8Reject then
        .error
          (.typeError 316
            ("invalid UTF-8 byte at index " ++ toString i ++ ": 0x" ++
              hexBytes byte))
      else
        dumpEscapedFrom last rest (i + 1) state codepoint (written ++ [byte])

/-- `dump_escaped`. -/
def dumpEscaped (s : ByteString) : Except JsonException ByteString :=
  dumpEscapedFrom (s.getLastD 0) s 0 utf8Accept 0 []

/-! ## Integers -/

/-- `count_digits`. -/
def countDigits (x : Nat) : Nat :=
  if x < 10 then 1
  else if x < 100 then 2
  else if x < 1000 then 3
  else if x < 10000 then 4
  else countDigits (x / 10000) + 4

/-- An entry of `digits_to_99`. -/
def digitsTo99 (index : Nat) : ByteString :=
  [UInt8.ofNat (48 + index / 10), UInt8.ofNat (48 + index % 10)]

/-- The digits `dump_integer` writes, two at a time from the last on. -/
def dumpDigits (absValue : Nat) : ByteString :=
  if 100 ≤ absValue then
    dumpDigits (absValue / 100) ++ digitsTo99 (absValue % 100)
  else if 10 ≤ absValue then
    digitsTo99 absValue
  else
    [UInt8.ofNat (48 + absValue)]

/-- `dump_integer`; the digits fill the buffer behind the sign. -/
def dumpInteger (x : Int) : ByteString :=
  if x = 0 then
    literal "0"
  else if x < 0 then
    literal "-" ++ dumpDigits x.natAbs
  else
    dumpDigits x.natAbs

/-! ## Values -/

/-- The conversions of floating-point numbers: `to_chars`, and `strtod`. -/
structure FloatText (Number : Type) where
  toChars : Number → ByteString
  strtod : ByteString → Number

namespace JsonValue

variable {Number : Type} [FloatArithmetic Number]

/-- `dump_float`. -/
def dumpFloat (floats : FloatText Number) (x : Number) : ByteString :=
  if FloatArithmetic.isFinite x then floats.toChars x else literal "null"

/-- A string in quotation marks. -/
def dumpString (text : ByteString) : Except JsonException ByteString := do
  let escaped ← dumpEscaped text
  return literal "\"" ++ escaped ++ literal "\""

/-- The line break in front of an element of a text that is indented. -/
def lineBreak : Option UInt32 → UInt32 → ByteString
  | none, _ => []
  | some _, indent => 10 :: List.replicate indent.toNat 32

/-- What is between a key and its value. -/
def keySeparator : Option UInt32 → ByteString
  | none => literal ":"
  | some _ => literal ": "

mutual

/--
The text of a value at an indentation, which one in a single line has not: what
`Serializer.dump` writes as long as its `indent_string` has the blanks.  The
branches of `pretty_print` differ in the line breaks only.
-/
def dump (floats : FloatText Number) (indentStep : Option UInt32)
    (indent : UInt32) : JsonValue Number → Except JsonException ByteString
  | .object members =>
      if members.isEmpty then
        .ok (literal "\x7b\x7d")
      else do
        let newIndent := indent + indentStep.getD 0
        let text ← dumpMembers floats indentStep newIndent members
        return literal "\x7b" ++ lineBreak indentStep newIndent ++ text ++
          lineBreak indentStep indent ++ literal "\x7d"
  | .array elements =>
      if elements.isEmpty then
        .ok (literal "[]")
      else do
        let newIndent := indent + indentStep.getD 0
        let text ← dumpElements floats indentStep newIndent elements
        return literal "[" ++ lineBreak indentStep newIndent ++ text ++
          lineBreak indentStep indent ++ literal "]"
  | .string value => dumpString value
  | .boolean value => .ok (if value then literal "true" else literal "false")
  | .numberInteger value => .ok (dumpInteger value.toInt)
  | .numberUnsigned value => .ok (dumpInteger value.toNat)
  | .numberFloat value => .ok (dumpFloat floats value)
  | .null => .ok (literal "null")

/-- The elements of an array, with commas between them. -/
def dumpElements (floats : FloatText Number) (indentStep : Option UInt32)
    (indent : UInt32) :
    List (JsonValue Number) → Except JsonException ByteString
  | [] => .ok []
  | [element] => dump floats indentStep indent element
  | element :: elements => do
      let text ← dump floats indentStep indent element
      let others ← dumpElements floats indentStep indent elements
      return text ++ literal "," ++ lineBreak indentStep indent ++ others

/-- The members of an object, with commas between them. -/
def dumpMembers (floats : FloatText Number) (indentStep : Option UInt32)
    (indent : UInt32) :
    List (ByteString × JsonValue Number) → Except JsonException ByteString
  | [] => .ok []
  | [(key, value)] => do
      let name ← dumpString key
      let text ← dump floats indentStep indent value
      return name ++ keySeparator indentStep ++ text
  | (key, value) :: members => do
      let name ← dumpString key
      let text ← dump floats indentStep indent value
      let others ← dumpMembers floats indentStep indent members
      return name ++ keySeparator indentStep ++ text ++ literal "," ++
        lineBreak indentStep indent ++ others

end

/-- The text of two elements or more, or its exception. -/
theorem dumpElements_several {floats : FloatText Number}
    (element second : JsonValue Number)
    (elements : List (JsonValue Number)) (indentStep : Option UInt32)
    (indent : UInt32) :
    dumpElements floats indentStep indent (element :: second :: elements) =
      (do
        let text ← dump floats indentStep indent element
        let others ← dumpElements floats indentStep indent (second :: elements)
        return text ++ literal "," ++ lineBreak indentStep indent ++ others) := by
  rw [dumpElements]
  exact List.cons_ne_nil _ _

theorem dumpMembers_several {floats : FloatText Number}
    (member second : ByteString × JsonValue Number)
    (members : List (ByteString × JsonValue Number))
    (indentStep : Option UInt32) (indent : UInt32) :
    dumpMembers floats indentStep indent (member :: second :: members) =
      (do
        let name ← dumpString member.1
        let text ← dump floats indentStep indent member.2
        let others ← dumpMembers floats indentStep indent (second :: members)
        return name ++ keySeparator indentStep ++ text ++ literal "," ++
          lineBreak indentStep indent ++ others) := by
  rw [dumpMembers]
  exact List.cons_ne_nil _ _

end JsonValue

end IocpServer.Json
