import IocpServer.Library.ByteStrings
import IocpServer.Library.FloatArithmetic

/-!
# The values of `nlohmann::json`

The kinds of value, the reading of one as a C++ value, and what becomes of a
value that is dumped and parsed again.  `binary` and `discarded` values are
left out: neither a brace initializer nor a parsed text holds one.
-/

namespace IocpServer.Json

open IocpServer.Library

/-- `nlohmann::json`; an object is a `std::map`, listed in key order. -/
inductive JsonValue (Number : Type) where
  | null
  | boolean (value : Bool)
  | numberInteger (value : Int64)
  | numberUnsigned (value : UInt64)
  | numberFloat (value : Number)
  | string (value : ByteString)
  | array (elements : List (JsonValue Number))
  | object (members : List (ByteString × JsonValue Number))

/--
The exceptions, and the assertion of the constant `operator[]` that the
member exists.
-/
inductive JsonException where
  | parseError (id : Nat) (message : String)
  | typeError (id : Nat) (message : String)
  | missingMember (key : ByteString)
deriving DecidableEq, Repr

/-- `dump()` and `parse`. -/
structure JsonLibrary (Number : Type) where
  dump : JsonValue Number → Except JsonException ByteString
  parse : ByteString → Except JsonException (JsonValue Number)

namespace JsonValue

variable {Number : Type}

/-- `type_name()`. -/
def typeName : JsonValue Number → String
  | .null => "null"
  | .object _ => "object"
  | .array _ => "array"
  | .string _ => "string"
  | .boolean _ => "boolean"
  | .numberInteger _ => "number"
  | .numberUnsigned _ => "number"
  | .numberFloat _ => "number"

/-- `std::map::emplace`: a key that is there keeps its value. -/
def emplace (key : ByteString) (value : JsonValue Number) :
    List (ByteString × JsonValue Number) → List (ByteString × JsonValue Number)
  | [] => [(key, value)]
  | member :: members =>
      match compare key member.1 with
      | .lt => (key, value) :: member :: members
      | .eq => member :: members
      | .gt => member :: emplace key value members

/-- The object of a brace initializer. -/
def ofMembers (members : List (ByteString × JsonValue Number)) :
    JsonValue Number :=
  .object
    (members.foldl (fun done member => emplace member.1 member.2 done) [])

/-- The constant `operator[]` with a string. -/
def member (value : JsonValue Number) (key : ByteString) :
    Except JsonException (JsonValue Number) :=
  match value with
  | .object members =>
      match members.find? fun entry => entry.1 == key with
      | some entry => .ok entry.2
      | none => .error (.missingMember key)
  | other =>
      .error
        (.typeError 305
          ("cannot use operator[] with a string argument with "
            ++ other.typeName))

/-- A value read as a `std::string`. -/
def getString : JsonValue Number → Except JsonException ByteString
  | .string text => .ok text
  | other =>
      .error (.typeError 302 ("type must be string, but is " ++ other.typeName))

/-- A value read as a `bool`. -/
def getBool : JsonValue Number → Except JsonException Bool
  | .boolean flag => .ok flag
  | other =>
      .error
        (.typeError 302 ("type must be boolean, but is " ++ other.typeName))

/--
A value read as an `int`, which takes a boolean too; the wider integers are cut
to 32 bits.
-/
def getInt [FloatArithmetic Number] :
    JsonValue Number → Except JsonException Int32
  | .numberUnsigned number => .ok number.toUInt32.toInt32
  | .numberInteger number => .ok number.toInt32
  | .numberFloat number => .ok (FloatArithmetic.truncate number)
  | .boolean flag => .ok (if flag then 1 else 0)
  | other =>
      .error (.typeError 302 ("type must be number, but is " ++ other.typeName))

/-- A value read as a `float`, which takes a boolean too. -/
def getFloat [FloatArithmetic Number] :
    JsonValue Number → Except JsonException Number
  | .numberUnsigned number => .ok (FloatArithmetic.ofInt number.toNat)
  | .numberInteger number => .ok (FloatArithmetic.ofInt number.toInt)
  | .numberFloat number => .ok (FloatArithmetic.narrow number)
  | .boolean flag => .ok (FloatArithmetic.ofInt (if flag then 1 else 0))
  | other =>
      .error (.typeError 302 ("type must be number, but is " ++ other.typeName))

mutual

/--
A value after its text is parsed: the text has one spelling for an integer
that is not negative, and no spelling for a number that is not finite.
-/
def reread [FloatArithmetic Number] : JsonValue Number → JsonValue Number
  | .null => .null
  | .boolean value => .boolean value
  | .numberInteger value =>
      if value < 0 then .numberInteger value
      else .numberUnsigned value.toUInt64
  | .numberUnsigned value => .numberUnsigned value
  | .numberFloat value =>
      if FloatArithmetic.isFinite value then .numberFloat value else .null
  | .string value => .string value
  | .array elements => .array (rereadElements elements)
  | .object members => .object (rereadMembers members)

def rereadElements [FloatArithmetic Number] :
    List (JsonValue Number) → List (JsonValue Number)
  | [] => []
  | element :: elements => element.reread :: rereadElements elements

def rereadMembers [FloatArithmetic Number] :
    List (ByteString × JsonValue Number) → List (ByteString × JsonValue Number)
  | [] => []
  | (key, value) :: members => (key, value.reread) :: rereadMembers members

end

theorem reread_object [FloatArithmetic Number]
    (members : List (ByteString × JsonValue Number)) :
    (object members).reread =
      object (members.map fun member => (member.1, member.2.reread)) := by
  rw [reread]
  congr 1
  induction members with
  | nil => rfl
  | cons member members recursive =>
      rw [rereadMembers, recursive]
      rfl

/-! ## What survives the text -/

/-- An `int` survives as an `int`, of whichever kind it comes back. -/
theorem getInt_reread [FloatArithmetic Number] (number : Int32) :
    (numberInteger number.toInt64 : JsonValue Number).reread.getInt =
      .ok number := by
  have unsigned : number.toInt64.toUInt64.toUInt32.toInt32 = number := by
    apply Int32.toBitVec_inj.mp
    simp
    ext index bounded
    simp
    grind
  unfold reread
  split_ifs
  · simp [getInt]
  · simp [getInt, unsigned]

theorem getString_reread [FloatArithmetic Number] (text : ByteString) :
    (string text : JsonValue Number).reread.getString = .ok text := by
  simp [reread, getString]

/-- An integer never comes back as a boolean. -/
theorem getBool_reread_integer [FloatArithmetic Number] (number : Int64) :
    (numberInteger number : JsonValue Number).reread.getBool =
      .error (.typeError 302 "type must be boolean, but is number") := by
  unfold reread
  split_ifs
  · rfl
  · rfl

end JsonValue

/--
The value has a text, without a zero byte, that parses to the value again.
-/
def JsonLibrary.Preserves {Number : Type} [FloatArithmetic Number]
    (library : JsonLibrary Number) (value : JsonValue Number) : Prop :=
  ∃ text,
    library.dump value = .ok text ∧
      0 ∉ text ∧
      library.parse text = .ok value.reread

end IocpServer.Json
