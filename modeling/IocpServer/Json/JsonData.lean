import IocpServer.Json.Nlohmann

/-!
# The stored lobby record

`Json::LobbyInfo` reads a record; its static `DataToJson` writes one.  The
writer has the active flag as an `int`, the reader as a `bool`.
-/

namespace IocpServer.Json

open IocpServer.Library

/-- `Json::LobbyInfo`. -/
structure LobbyInfo (Number : Type) where
  key : ByteString
  port : Int32
  current : Int32
  remain : Int32
  active : Bool
  responseSpeed : Number
deriving DecidableEq

namespace LobbyInfo

variable {Number : Type}

/-- `DataToJson`. -/
def dataToJson
    (key : ByteString) (port current remain active : Int32)
    (responseSpeed : Number) : JsonValue Number :=
  .ofMembers
    [(literal "key", .string key),
      (literal "port", .numberInteger port.toInt64),
      (literal "current", .numberInteger current.toInt64),
      (literal "remain", .numberInteger remain.toInt64),
      (literal "active", .numberInteger active.toInt64),
      (literal "response_speed", .numberFloat responseSpeed)]

/-- The constructor from a JSON value. -/
def ofJson [FloatArithmetic Number] (jsonStr : JsonValue Number) :
    Except JsonException (LobbyInfo Number) := do
  let key ← (← jsonStr.member (literal "key")).getString
  let port ← (← jsonStr.member (literal "port")).getInt
  let current ← (← jsonStr.member (literal "current")).getInt
  let remain ← (← jsonStr.member (literal "remain")).getInt
  let active ← (← jsonStr.member (literal "active")).getBool
  let responseSpeed ← (← jsonStr.member (literal "response_speed")).getFloat
  return { key, port, current, remain, active, responseSpeed }

/-- A record's text read back, as the record loop does. -/
def ofText [FloatArithmetic Number]
    (library : JsonLibrary Number) (text : ByteString) :
    Except JsonException (LobbyInfo Number) := do
  ofJson (← library.parse text)

/-- The members of a written record, in the order of their names. -/
theorem dataToJson_eq
    (key : ByteString) (port current remain active : Int32)
    (responseSpeed : Number) :
    dataToJson key port current remain active responseSpeed =
      .object
        [(literal "active", .numberInteger active.toInt64),
          (literal "current", .numberInteger current.toInt64),
          (literal "key", .string key),
          (literal "port", .numberInteger port.toInt64),
          (literal "remain", .numberInteger remain.toInt64),
          (literal "response_speed", .numberFloat responseSpeed)] := by
  rfl

/-- The members of a written record after its text is parsed. -/
theorem member_reread_dataToJson [FloatArithmetic Number]
    (key : ByteString) (port current remain active : Int32)
    (responseSpeed : Number) :
    let record :=
      (dataToJson key port current remain active responseSpeed).reread
    record.member (literal "key") = .ok (JsonValue.string key).reread ∧
      record.member (literal "port") =
        .ok (JsonValue.numberInteger port.toInt64).reread ∧
      record.member (literal "current") =
        .ok (JsonValue.numberInteger current.toInt64).reread ∧
      record.member (literal "remain") =
        .ok (JsonValue.numberInteger remain.toInt64).reread ∧
      record.member (literal "active") =
        .ok (JsonValue.numberInteger active.toInt64).reread ∧
      record.member (literal "response_speed") =
        .ok (JsonValue.numberFloat responseSpeed).reread := by
  rw [dataToJson_eq, JsonValue.reread_object]
  exact ⟨rfl, rfl, rfl, rfl, rfl, rfl⟩

/--
Key, port, current and remain read back; the active flag is a number where
the reader asks for a boolean.
-/
theorem ofJson_reread_dataToJson [FloatArithmetic Number]
    (key : ByteString) (port current remain active : Int32)
    (responseSpeed : Number) :
    ofJson (dataToJson key port current remain active responseSpeed).reread =
      .error (.typeError 302 "type must be boolean, but is number") := by
  rcases member_reread_dataToJson
      key port current remain active responseSpeed with
    ⟨atKey, atPort, atCurrent, atRemain, atActive, -⟩
  unfold ofJson
  rw [atKey, atPort, atCurrent, atRemain, atActive]
  simp only [bind, Except.bind, JsonValue.getString_reread,
    JsonValue.getInt_reread, JsonValue.getBool_reread_integer]

/-- The reader refuses the text of every written record. -/
theorem ofText_of_preserves [FloatArithmetic Number]
    {library : JsonLibrary Number} {text : ByteString}
    {key : ByteString} {port current remain active : Int32}
    {responseSpeed : Number}
    (parsed :
      library.parse text =
        .ok
          (dataToJson key port current remain active responseSpeed).reread) :
    ofText library text =
      .error (.typeError 302 "type must be boolean, but is number") := by
  unfold ofText
  rw [parsed]
  exact ofJson_reread_dataToJson key port current remain active responseSpeed

end LobbyInfo

end IocpServer.Json
