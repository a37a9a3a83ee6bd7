import IocpServer.Database.RedisWorker
import IocpServer.Json.JsonData

/-!
# The lobby manager

Registration writes a Redis record; load updates go to the lobby map; the
search for the best lobby reads the Redis records.  The reading of one record
is an argument of the search: the reader of the source is
`Json.LobbyInfo.ofText`.
-/

namespace IocpServer.ControlServer

open IocpServer.Library
open IocpServer.Database
open IocpServer.Json

variable {Number : Type}

/-- `ControlServer::Lobby`. -/
structure Lobby (Number : Type) where
  key : ByteString
  port : Int32
  capacity : Int32
  current : Int32
  remain : Int32
  active : Bool
  responseSpeed : Number

/-- `ControlServer::LobbyManager`. -/
structure LobbyManager (Number : Type) where
  redisWorker : RedisWorker
  lobbyMap : Std.ExtTreeMap ByteString (Lobby Number)

/-- What the record loop keeps of the records before. -/
structure BestLobby (Number : Type) where
  bestRatio : Number
  bestResponseSpeed : Number
  bestLobbyKey : ByteString
  bestLobbyPort : Int32
deriving DecidableEq

/-- How a record's text is read. -/
abbrev RecordReader (Number : Type) :=
  ByteString → Except JsonException (LobbyInfo Number)

/-- The table of the lobby records. -/
def lobbyTable : ByteString :=
  literal "LobbyInfo"

/-- The record loop before its first record. -/
def BestLobby.initial [FloatArithmetic Number] : BestLobby Number where
  bestRatio := FloatArithmetic.largest
  bestResponseSpeed := FloatArithmetic.largest
  bestLobbyKey := literal ""
  bestLobbyPort := 0

/-- The body of the record loop, after the record is read. -/
def BestLobby.consider [FloatArithmetic Number]
    (best : BestLobby Number)
    (key : ByteString) (targetLobby : LobbyInfo Number) :
    BestLobby Number :=
  if targetLobby.active = false then
    best
  else
    let total := targetLobby.current + targetLobby.remain
    if total = 0 then
      best
    else
      let ratio :=
        FloatArithmetic.divide
          (FloatArithmetic.ofInt targetLobby.current.toInt : Number)
          (FloatArithmetic.ofInt total.toInt)
      if FloatArithmetic.less ratio best.bestRatio
          || (FloatArithmetic.equal ratio best.bestRatio
            && FloatArithmetic.less
              targetLobby.responseSpeed best.bestResponseSpeed) then
        { bestRatio := ratio
          bestResponseSpeed := targetLobby.responseSpeed
          bestLobbyKey := key
          bestLobbyPort := targetLobby.port }
      else
        best

namespace LobbyManager

/-- A manager after `Construct`, on an empty database. -/
def construct : LobbyManager Number where
  redisWorker := RedisWorker.empty
  lobbyMap := ∅

/-- `SaveLobbyInfo`. -/
def saveLobbyInfo [FloatArithmetic Number]
    (library : JsonLibrary Number) (manager : LobbyManager Number)
    (key : ByteString) (port capacity : Int32) (active : Bool) :
    Except JsonException (LobbyManager Number) := do
  let activeOffset : Int32 := if active then 1 else 0
  let result :=
    LobbyInfo.dataToJson key port 0 capacity activeOffset
      (FloatArithmetic.ofInt 0 : Number)
  let jsonString ← library.dump result
  return { manager with
    redisWorker := manager.redisWorker.updateData lobbyTable key jsonString }

/-- `UpdateLobbyInfo`. -/
def updateLobbyInfo
    (manager : LobbyManager Number)
    (key : ByteString) (current remain : Int32) (active : Bool) :
    LobbyManager Number :=
  match manager.lobbyMap[key]? with
  | none => manager
  | some targetLobby =>
      { manager with
        lobbyMap :=
          manager.lobbyMap.insert key
            { targetLobby with
              current := current
              remain := remain
              active := active } }

/-- `UpdateLobbyReponseSpeed`. -/
def updateLobbyReponseSpeed
    (manager : LobbyManager Number) (key : ByteString) (speed : Number) :
    LobbyManager Number :=
  match manager.lobbyMap[key]? with
  | none => manager
  | some targetLobby =>
      { manager with
        lobbyMap :=
          manager.lobbyMap.insert key
            { targetLobby with responseSpeed := speed } }

/-- The record loop of `SearchBestLobby`. -/
def searchRecords [FloatArithmetic Number]
    (reader : RecordReader Number) :
    List (ByteString × ByteString) → BestLobby Number →
      Except JsonException (BestLobby Number)
  | [], best => .ok best
  | (key, lobbyInfo) :: records, best =>
      (reader lobbyInfo).bind fun targetLobby =>
        searchRecords reader records (best.consider key targetLobby)

/-- `SearchBestLobby`. -/
def searchBestLobby [FloatArithmetic Number]
    (reader : RecordReader Number) (manager : LobbyManager Number) :
    Except JsonException (BestLobby Number) :=
  searchRecords reader
    (manager.redisWorker.scanMultipleResult lobbyTable) .initial

/--
`ResponseLobbyInfo`: the key and the port it writes through its references.
Its success flag is a copy that no caller sees.
-/
def responseLobbyInfo [FloatArithmetic Number]
    (reader : RecordReader Number) (manager : LobbyManager Number)
    (key : ByteString) (port : Int32) :
    Except JsonException (ByteString × Int32) := do
  let best ← manager.searchBestLobby reader
  if best.bestLobbyKey = literal "" then
    return (key, port)
  else
    return (best.bestLobbyKey, best.bestLobbyPort)

end LobbyManager

end IocpServer.ControlServer
