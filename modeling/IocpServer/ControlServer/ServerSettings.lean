import IocpServer.Json.RoundTrip
import IocpServer.LobbyServer.LaunchSettings

/-!
# The settings file

`main` of the control server reads the settings from a file and starts two
lobby servers, whose own `main` reads a command line.  Settings that are
written into a file are read back from it as they were, and each lobby server
that is started has its part of them.
-/

namespace IocpServer.Json.JsonValue

open IocpServer.Library

variable {Number : Type}

/--
`operator[]` with a string, of a value that may change: a member that is
missing is added as null.
-/
def memberOrNull (value : JsonValue Number) (key : ByteString) :
    Except JsonException (JsonValue Number) :=
  match value with
  | .null => .ok .null
  | .object members =>
      match members.find? fun entry => entry.1 == key with
      | some entry => .ok entry.2
      | none => .ok .null
  | other =>
      .error
        (.typeError 305
          ("cannot use operator[] with a string argument with "
            ++ other.typeName))

/-- The elements of a value read as a `std::vector`. -/
def getElements :
    JsonValue Number → Except JsonException (List (JsonValue Number))
  | .array elements => .ok elements
  | other =>
      .error (.typeError 302 ("type must be array, but is " ++ other.typeName))

/-- The comparison with `NULL`, which is the number zero. -/
def equalsNull [FloatArithmetic Number] : JsonValue Number → Bool
  | .numberInteger number => number == 0
  | .numberUnsigned number => number == 0
  | .numberFloat number =>
      FloatArithmetic.equal number (FloatArithmetic.ofInt 0)
  | _ => false

section Reread

variable [FloatArithmetic Number]

end Reread

end IocpServer.Json.JsonValue

namespace IocpServer.ControlServer

open IocpServer.Json
open IocpServer.Library
open IocpServer.LobbyServer

/-- What `main` reads of the settings. -/
structure ServerSettings where
  controlIP : ByteString
  controlPort : Int32
  controlThreadCount : Int32
  controlPreCreateSocketCount : Int32
  controlAcceptSocketMax : Int32
  controlOverlappedQueueSizemax : Int32
  lobbyKeys : List ByteString
  lobbyPorts : List Int32
  lobbyThreadCount : Int32
  lobbyPreCreateSocketCount : Int32
  lobbyAcceptSocketMax : Int32
  lobbyOverlappedQueueSizemax : Int32
  authKey : ByteString
  authPort : Int32
  authThreadCount : Int32
  authPreCreateSocketCount : Int32
  authAcceptSocketMax : Int32
  authOverlappedQueueSizemax : Int32
deriving DecidableEq

/-- What `Construct` and `LobbySeverInfoSetting` make of the settings. -/
def ServerSettings.info (settings : ServerSettings)
    (lobbyKeys_lt : settings.lobbyKeys.length < 2 ^ 63) :
    LobbyServerInfo where
  controlServerIp := settings.controlIP
  controlServerPort := settings.controlPort
  lobbyKeys := settings.lobbyKeys
  lobbyPorts := settings.lobbyPorts
  lobbyThreadCount := settings.lobbyThreadCount
  lobbyPreCreateSocketCount := settings.lobbyPreCreateSocketCount
  lobbyAcceptSocketMax := settings.lobbyAcceptSocketMax
  lobbyOverlappedQueueSizemax := settings.lobbyOverlappedQueueSizemax
  lobbyKeys_lt := lobbyKeys_lt

/-- What nothing in `main` catches. -/
inductive SettingsException where
  | parse (exception : ParserException)
  | read (exception : JsonException)
  /-- More keys than a `std::vector` holds. -/
  | lengthError

/-- How far `main` comes. -/
inductive ServerStart where
  /-- `return 0` without settings. -/
  | noSettings
  | uncaught (exception : SettingsException)
  /-- The settings, and the hub behind `LobbyServerStart`. -/
  | started (settings : ServerSettings) (launcher : Option LobbyLauncher)

section Reading

variable {Number : Type} [FloatArithmetic Number]

/-- `config[server][name]`. -/
def setting (config : JsonValue Number) (server name : String) :
    Except JsonException (JsonValue Number) := do
  (← config.memberOrNull (literal server)).memberOrNull (literal name)

def settingString (config : JsonValue Number) (server name : String) :
    Except JsonException ByteString := do
  (← setting config server name).getString

def settingInt (config : JsonValue Number) (server name : String) :
    Except JsonException Int32 := do
  (← setting config server name).getInt

def settingStrings (config : JsonValue Number) (server name : String) :
    Except JsonException (List ByteString) := do
  (← (← setting config server name).getElements).mapM JsonValue.getString

def settingInts (config : JsonValue Number) (server name : String) :
    Except JsonException (List Int32) := do
  (← (← setting config server name).getElements).mapM JsonValue.getInt

/-- The four numbers that each server has. -/
def settingCounts (config : JsonValue Number) (server : String) :
    Except JsonException (Int32 × Int32 × Int32 × Int32) := do
  let threadCount ← settingInt config server "ThreadCount"
  let preCreateSocketCount ← settingInt config server "PreCreateSocketCount"
  let acceptSocketMax ← settingInt config server "AcceptSocketMax"
  let overlappedQueueSizemax ←
    settingInt config server "OverlappedQueueSizemax"
  return (threadCount, preCreateSocketCount, acceptSocketMax,
    overlappedQueueSizemax)

/-- The settings, in the order in which `main` reads them. -/
def readServerSettings (config : JsonValue Number) :
    Except JsonException ServerSettings := do
  let controlIP ← settingString config "ControlServer" "IP"
  let controlPort ← settingInt config "ControlServer" "Port"
  let control ← settingCounts config "ControlServer"
  let lobbyKeys ← settingStrings config "LobbyServer" "Keys"
  let lobbyPorts ← settingInts config "LobbyServer" "Ports"
  let lobby ← settingCounts config "LobbyServer"
  let authKey ← settingString config "AuthServer" "Keys"
  let authPort ← settingInt config "AuthServer" "Ports"
  let auth ← settingCounts config "AuthServer"
  return {
    controlIP := controlIP
    controlPort := controlPort
    controlThreadCount := control.1
    controlPreCreateSocketCount := control.2.1
    controlAcceptSocketMax := control.2.2.1
    controlOverlappedQueueSizemax := control.2.2.2
    lobbyKeys := lobbyKeys
    lobbyPorts := lobbyPorts
    lobbyThreadCount := lobby.1
    lobbyPreCreateSocketCount := lobby.2.1
    lobbyAcceptSocketMax := lobby.2.2.1
    lobbyOverlappedQueueSizemax := lobby.2.2.2
    authKey := authKey
    authPort := authPort
    authThreadCount := auth.1
    authPreCreateSocketCount := auth.2.1
    authAcceptSocketMax := auth.2.2.1
    authOverlappedQueueSizemax := auth.2.2.2 }

/--
`main`, with the text of the settings file, if there is one, and the answers
of `CreateProcessA`.
-/
def main (floats : FloatText Number) (file : Option ByteString)
    (createProcess : Int → Bool) : ServerStart :=
  match file with
  | none => .noSettings
  | some text =>
      match Parser.parse floats false text with
      | .error exception => .uncaught (.parse exception)
      | .ok config =>
          if config.equalsNull then
            .noSettings
          else
            match readServerSettings config with
            | .error exception => .uncaught (.read exception)
            | .ok settings =>
                if room : settings.lobbyKeys.length < 2 ^ 63 then
                  let hub := LobbyLauncher.construct (settings.info room)
                  .started settings (hub.lobbyServerStart ⟨2, createProcess⟩)
                else
                  .uncaught .lengthError

end Reading

/-! ## The settings in a file -/

section Writing

variable {Number : Type}

/-- The members whose names are not the same for all servers. -/
def MemberNames (nameKey portKey : String) : Prop :=
  nameKey = "IP" ∧ portKey = "Port" ∨ nameKey = "Keys" ∧ portKey = "Ports"

/-- The settings of one server. -/
def serverMembers (nameKey portKey : String) (name port : JsonValue Number)
    (threadCount preCreateSocketCount acceptSocketMax
      overlappedQueueSizemax : Int32) : JsonValue Number :=
  .object
    [(literal "AcceptSocketMax", .numberInteger acceptSocketMax.toInt64),
      (literal nameKey, name),
      (literal "OverlappedQueueSizemax",
        .numberInteger overlappedQueueSizemax.toInt64),
      (literal portKey, port),
      (literal "PreCreateSocketCount",
        .numberInteger preCreateSocketCount.toInt64),
      (literal "ThreadCount", .numberInteger threadCount.toInt64)]

/-- `config["ControlServer"]`. -/
def controlMembers (settings : ServerSettings) : JsonValue Number :=
  serverMembers "IP" "Port" (.string settings.controlIP)
    (.numberInteger settings.controlPort.toInt64)
    settings.controlThreadCount settings.controlPreCreateSocketCount
    settings.controlAcceptSocketMax settings.controlOverlappedQueueSizemax

/-- `config["LobbyServer"]`. -/
def lobbyMembers (settings : ServerSettings) : JsonValue Number :=
  serverMembers "Keys" "Ports" (.array (settings.lobbyKeys.map .string))
    (.array
      (settings.lobbyPorts.map fun port => .numberInteger port.toInt64))
    settings.lobbyThreadCount settings.lobbyPreCreateSocketCount
    settings.lobbyAcceptSocketMax settings.lobbyOverlappedQueueSizemax

/-- `config["AuthServer"]`. -/
def authMembers (settings : ServerSettings) : JsonValue Number :=
  serverMembers "Keys" "Ports" (.string settings.authKey)
    (.numberInteger settings.authPort.toInt64)
    settings.authThreadCount settings.authPreCreateSocketCount
    settings.authAcceptSocketMax settings.authOverlappedQueueSizemax

/-- The value that holds the settings, with a port that nothing reads. -/
def settingsValue (settings : ServerSettings) (redisPort : Int32) :
    JsonValue Number :=
  .object
    [(literal "AuthServer", authMembers settings),
      (literal "ControlServer", controlMembers settings),
      (literal "LobbyServer", lobbyMembers settings),
      (literal "REDIS",
        .object [(literal "PORT", .numberInteger redisPort.toInt64)])]

end Writing

/-! ## What is read back -/

section ReadBack

variable {Number : Type} [FloatArithmetic Number]

end ReadBack

/-! ## What is written -/

/-- The strings of the settings are UTF-8. -/
structure ServerSettings.Valid (settings : ServerSettings) : Prop where
  controlIP : ValidUtf8 settings.controlIP
  lobbyKeys : ∀ lobbyKey ∈ settings.lobbyKeys, ValidUtf8 lobbyKey
  authKey : ValidUtf8 settings.authKey

section Written

variable {Number : Type} [FloatArithmetic Number] {floats : FloatText Number}

theorem writable_serverMembers {name port : JsonValue Number}
    {nameKey portKey : String}
    (keys : MemberNames nameKey portKey)
    (nameWritable : name.Writable floats)
    (portWritable : port.Writable floats)
    (threadCount preCreateSocketCount acceptSocketMax
      overlappedQueueSizemax : Int32) :
    (serverMembers nameKey portKey name port threadCount preCreateSocketCount
      acceptSocketMax overlappedQueueSizemax).Writable floats := by
  have sorted :
      serverMembers nameKey portKey name port threadCount preCreateSocketCount
          acceptSocketMax overlappedQueueSizemax =
        .ofMembers
          [(literal "AcceptSocketMax",
              .numberInteger acceptSocketMax.toInt64),
            (literal nameKey, name),
            (literal "OverlappedQueueSizemax",
              .numberInteger overlappedQueueSizemax.toInt64),
            (literal portKey, port),
            (literal "PreCreateSocketCount",
              .numberInteger preCreateSocketCount.toInt64),
            (literal "ThreadCount", .numberInteger threadCount.toInt64)] := by
    rcases keys with ⟨rfl, rfl⟩ | ⟨rfl, rfl⟩
    · rfl
    · rfl
  have validKeys :
      ValidUtf8 (literal nameKey) ∧ ValidUtf8 (literal portKey) := by
    rcases keys with ⟨rfl, rfl⟩ | ⟨rfl, rfl⟩
    · exact ⟨⟨"IP".toList, rfl⟩, ⟨"Port".toList, rfl⟩⟩
    · exact ⟨⟨"Keys".toList, rfl⟩, ⟨"Ports".toList, rfl⟩⟩
  rw [sorted]
  apply JsonValue.writable_ofMembers
  intro member present
  simp only [List.mem_cons, List.not_mem_nil, or_false] at present
  rcases present with rfl | rfl | rfl | rfl | rfl | rfl
  · exact ⟨⟨"AcceptSocketMax".toList, rfl⟩, trivial⟩
  · exact ⟨validKeys.1, nameWritable⟩
  · exact ⟨⟨"OverlappedQueueSizemax".toList, rfl⟩, trivial⟩
  · exact ⟨validKeys.2, portWritable⟩
  · exact ⟨⟨"PreCreateSocketCount".toList, rfl⟩, trivial⟩
  · exact ⟨⟨"ThreadCount".toList, rfl⟩, trivial⟩

theorem writable_string {text : ByteString} (valid : ValidUtf8 text) :
    (JsonValue.string text : JsonValue Number).Writable floats :=
  valid

theorem writable_number (number : Int32) :
    (JsonValue.numberInteger number.toInt64 : JsonValue Number).Writable
      floats :=
  trivial

theorem writable_strings {texts : List ByteString}
    (valid : ∀ text ∈ texts, ValidUtf8 text) :
    (JsonValue.array (texts.map .string) : JsonValue Number).Writable
      floats := by
  induction texts with
  | nil => trivial
  | cons text texts recursive =>
      constructor
      · exact valid text List.mem_cons_self
      · exact
          recursive fun other member =>
            valid other (List.mem_cons_of_mem _ member)

theorem writable_numbers (numbers : List Int32) :
    (JsonValue.array
      (numbers.map fun number => .numberInteger number.toInt64) :
        JsonValue Number).Writable floats := by
  induction numbers with
  | nil => trivial
  | cons number numbers recursive => exact ⟨trivial, recursive⟩

theorem ServerSettings.Valid.writable {settings : ServerSettings}
    (valid : settings.Valid) (redisPort : Int32) :
    (settingsValue settings redisPort : JsonValue Number).Writable floats := by
  have sorted :
      (settingsValue settings redisPort : JsonValue Number) =
        .ofMembers
          [(literal "AuthServer", authMembers settings),
            (literal "ControlServer", controlMembers settings),
            (literal "LobbyServer", lobbyMembers settings),
            (literal "REDIS",
              .ofMembers
                [(literal "PORT", .numberInteger redisPort.toInt64)])] :=
    rfl
  rw [sorted]
  apply JsonValue.writable_ofMembers
  intro member present
  simp only [List.mem_cons, List.not_mem_nil, or_false] at present
  rcases present with rfl | rfl | rfl | rfl
  · refine ⟨⟨"AuthServer".toList, rfl⟩, ?_⟩
    exact
      writable_serverMembers (.inr ⟨rfl, rfl⟩)
        (writable_string valid.authKey)
        (writable_number settings.authPort) _ _ _ _
  · refine ⟨⟨"ControlServer".toList, rfl⟩, ?_⟩
    exact
      writable_serverMembers (.inl ⟨rfl, rfl⟩)
        (writable_string valid.controlIP)
        (writable_number settings.controlPort) _ _ _ _
  · refine ⟨⟨"LobbyServer".toList, rfl⟩, ?_⟩
    exact
      writable_serverMembers (.inr ⟨rfl, rfl⟩)
        (writable_strings valid.lobbyKeys)
        (writable_numbers settings.lobbyPorts) _ _ _ _
  · refine ⟨⟨"REDIS".toList, rfl⟩, ?_⟩
    apply JsonValue.writable_ofMembers
    intro member present
    rw [List.mem_singleton.mp present]
    exact ⟨⟨"PORT".toList, rfl⟩, trivial⟩

end Written

/-! ## The lobby servers -/

section Started

variable {info : LobbyServerInfo} {createProcess : Int → Bool}

end Started

end IocpServer.ControlServer
