import IocpServer.ControlServer.LobbyLaunch
import IocpServer.Library.CommandLine
import IocpServer.Library.Fallible

/-!
# The settings a lobby server is launched with

The control server writes the settings into a command line, separated by
spaces and without quotes.  The lobby server reads them by their place, so
that a key or an address it cannot read moves all that follows.
-/

namespace IocpServer.LobbyServer

open IocpServer.Library
open IocpServer.ControlServer

/-- What `main` hands to `Construct` and `ControlSeverInfoSetting`. -/
structure LaunchSettings where
  serverKey : ByteString
  serverPort : Int32
  threadCount : Int32
  preCreateSocketCount : Int32
  acceptSocketMax : Int32
  overlappedQueueMax : Int32
  controlServerIp : ByteString
  controlServerPort : Int32
deriving DecidableEq

/-- The branch of `main`. -/
inductive Launch where
  | arguments (settings : LaunchSettings)
  | defaults (settings : LaunchSettings)
  /-- What is written to `std::cerr` before `main` returns -1. -/
  | failed (message : ByteString)
deriving DecidableEq

/-- The settings of a server that is launched by hand. -/
def defaultSettings : LaunchSettings where
  serverKey := literal "Lobby1"
  serverPort := 9091
  threadCount := 10
  preCreateSocketCount := 10
  acceptSocketMax := 10
  overlappedQueueMax := 100
  controlServerIp := literal "127.0.0.1"
  controlServerPort := 9090

/-- The `try` block of `main`. -/
def readSettings
    (serverKey serverPort threadCount preCreateSocketCount acceptSocketMax
      overlappedQueueMax controlServerIp controlServerPort : ByteString) :
    Except StoiException LaunchSettings := do
  let serverPort ← stoi serverPort
  let threadCount ← stoi threadCount
  let preCreateSocketCount ← stoi preCreateSocketCount
  let acceptSocketMax ← stoi acceptSocketMax
  let overlappedQueueMax ← stoi overlappedQueueMax
  let controlServerPort ← stoi controlServerPort
  return {
    serverKey := serverKey
    serverPort := serverPort
    threadCount := threadCount
    preCreateSocketCount := preCreateSocketCount
    acceptSocketMax := acceptSocketMax
    overlappedQueueMax := overlappedQueueMax
    controlServerIp := controlServerIp
    controlServerPort := controlServerPort }

/-- `main` up to the settings, with `argc` the number of its arguments. -/
def main (argv : List ByteString) : Launch :=
  match argv with
  | _ :: serverKey :: serverPort :: threadCount :: preCreateSocketCount
      :: acceptSocketMax :: overlappedQueueMax :: controlServerIp
      :: controlServerPort :: _ =>
      match
        readSettings serverKey serverPort threadCount preCreateSocketCount
          acceptSocketMax overlappedQueueMax controlServerIp
          controlServerPort
      with
      | .ok settings => .arguments settings
      | .error _ =>
          .failed (literal "Invalid instance index: " ++ serverKey)
  | _ => .defaults defaultSettings

/-- The settings `LobbyServerStart` writes into a command line. -/
def launchSettings
    (info : LobbyServerInfo) (lobbyKey : ByteString) (port : Int32) :
    LaunchSettings where
  serverKey := lobbyKey
  serverPort := port
  threadCount := info.lobbyThreadCount
  preCreateSocketCount := info.lobbyPreCreateSocketCount
  acceptSocketMax := info.lobbyAcceptSocketMax
  overlappedQueueMax := info.lobbyOverlappedQueueSizemax
  controlServerIp := info.controlServerIp
  controlServerPort := info.controlServerPort

/--
The lobby server reads the settings from its command line, of which
`CreateProcessA` takes what is in front of a zero.
-/
def DecodesTo (commandLine : ByteString) (settings : LaunchSettings) : Prop :=
  main (argumentsOf (cString commandLine)) = .arguments settings

instance (commandLine : ByteString) (settings : LaunchSettings) :
    Decidable (DecodesTo commandLine settings) :=
  inferInstanceAs (Decidable (_ = _))

/-- A string that can stand in a command line without quotes. -/
structure Plain (text : ByteString) : Prop where
  nonempty : text ≠ []
  zero_not_mem : 0 ∉ text
  unbroken : Unbroken text

/-! ## The parts of the command line -/

theorem integerText_unbroken (number : Int) :
    Unbroken (integerText number) := by
  intro byte present
  have notSpace := integerText_not_space present
  constructor
  · cases isIt : isBlank byte with
    | false => rfl
    | true =>
        simp only [isBlank, Bool.or_eq_true, beq_iff_eq] at isIt
        rcases isIt with rfl | rfl
        · cases notSpace
        · cases notSpace
  · rintro rfl
    rcases mem_integerText present with sign | digit
    · cases sign
    · cases digit

theorem quote_not_mem_integerText (number : Int) :
    quote ∉ integerText number :=
  fun present => (integerText_unbroken number quote present).2 rfl

theorem zero_not_mem_integerText (number : Int) : 0 ∉ integerText number := by
  intro present
  rcases mem_integerText present with sign | digit
  · cases sign
  · cases digit

/-- A number in front of a blank is an argument. -/
theorem readArguments_integerText (number : Int) (rest : ByteString) :
    readArguments .between 0 [] (integerText number ++ blank :: rest) =
      integerText number :: readArguments .between 0 [] rest :=
  readArguments_of_unbroken (integerText_unbroken number)
    (integerText_ne_nil number) rest

section Parts

variable (info : LobbyServerInfo) (lobbyKey : ByteString) (port : Int32)

/-- The numbers between the key and the address. -/
def portAndCounts : ByteString :=
  integerText port.toInt
    ++ blank :: (integerText info.lobbyThreadCount.toInt
    ++ blank :: (integerText info.lobbyPreCreateSocketCount.toInt
    ++ blank :: (integerText info.lobbyAcceptSocketMax.toInt
    ++ blank :: integerText info.lobbyOverlappedQueueSizemax.toInt)))

/-- The arguments behind the program's name. -/
def launchArguments : ByteString :=
  lobbyKey
    ++ blank :: (portAndCounts info port
    ++ blank :: (info.controlServerIp
    ++ blank :: (integerText info.controlServerPort.toInt
    ++ blank :: integerText 100)))

theorem commandLine_eq :
    info.commandLine lobbyKey port =
      literal "Server_Lobby.exe"
        ++ blank :: launchArguments info lobbyKey port := by
  have space : literal " " = [blank] := rfl
  delta LobbyServerInfo.commandLine
  simp only [launchArguments, portAndCounts, space, List.append_assoc,
    List.cons_append, List.nil_append]

/-- The arguments of a command line whose beginning names the program. -/
theorem argumentsOf_commandLine :
    argumentsOf (cString (info.commandLine lobbyKey port)) =
      literal "Server_Lobby.exe"
        :: readArguments .between 0 []
          (cString (launchArguments info lobbyKey port)) := by
  have noZero : 0 ∉ literal "Server_Lobby.exe" := by decide
  have unbroken : Unbroken (literal "Server_Lobby.exe") := by decide
  have blankKept (text : ByteString) :
      cString (blank :: text) = blank :: cString text :=
    rfl
  rw [commandLine_eq, cString_append_of_zero_not_mem noZero, blankKept,
    argumentsOf_unbroken unbroken]

/-- The numbers between the key and the address are arguments. -/
theorem readArguments_portAndCounts (rest : ByteString) :
    readArguments .between 0 []
        (portAndCounts info port ++ blank :: rest) =
      integerText port.toInt
        :: integerText info.lobbyThreadCount.toInt
        :: integerText info.lobbyPreCreateSocketCount.toInt
        :: integerText info.lobbyAcceptSocketMax.toInt
        :: integerText info.lobbyOverlappedQueueSizemax.toInt
        :: readArguments .between 0 [] rest := by
  simp only [portAndCounts, List.append_assoc, List.cons_append,
    readArguments_integerText]

theorem quote_not_mem_portAndCounts :
    quote ∉ portAndCounts info port ++ [blank] := by
  have different : quote ≠ blank := by decide
  simp only [portAndCounts, List.mem_append, List.mem_cons,
    quote_not_mem_integerText, different, List.not_mem_nil, or_false,
    not_false_eq_true]

/-- There are no quotes behind the address. -/
theorem quote_not_mem_end :
    quote ∉
      integerText info.controlServerPort.toInt
        ++ blank :: integerText 100 := by
  have different : quote ≠ blank := by decide
  simp only [List.mem_append, List.mem_cons, quote_not_mem_integerText,
    different, or_false, not_false_eq_true]

theorem zero_not_mem_launchArguments
    (keyNoZero : 0 ∉ lobbyKey) (ipNoZero : 0 ∉ info.controlServerIp) :
    0 ∉ launchArguments info lobbyKey port := by
  have different : (0 : UInt8) ≠ blank := by decide
  simp only [launchArguments, portAndCounts, List.mem_append, List.mem_cons,
    zero_not_mem_integerText, different, keyNoZero, ipNoZero, or_false,
    not_false_eq_true]

end Parts

/-! ## Plain strings are read back -/

/-- `main` reads the settings that are written as decimal text. -/
theorem main_of_texts (name last : ByteString) (settings : LaunchSettings) :
    main
        [name, settings.serverKey, integerText settings.serverPort.toInt,
          integerText settings.threadCount.toInt,
          integerText settings.preCreateSocketCount.toInt,
          integerText settings.acceptSocketMax.toInt,
          integerText settings.overlappedQueueMax.toInt,
          settings.controlServerIp,
          integerText settings.controlServerPort.toInt, last] =
      .arguments settings := by
  simp only [main, readSettings, stoi_integerText]
  rfl

theorem decodesTo_of_plain
    {info : LobbyServerInfo} {lobbyKey : ByteString}
    (key : Plain lobbyKey) (ip : Plain info.controlServerIp) (port : Int32) :
    DecodesTo (info.commandLine lobbyKey port)
      (launchSettings info lobbyKey port) := by
  have noZero :=
    zero_not_mem_launchArguments info lobbyKey port key.zero_not_mem
      ip.zero_not_mem
  rw [DecodesTo, argumentsOf_commandLine, cString_of_zero_not_mem noZero,
    launchArguments, readArguments_of_unbroken key.unbroken key.nonempty,
    readArguments_portAndCounts,
    readArguments_of_unbroken ip.unbroken ip.nonempty,
    readArguments_integerText,
    readArguments_of_unbroken_end (integerText_unbroken 100)
      (integerText_ne_nil 100)]
  exact main_of_texts _ _ (launchSettings info lobbyKey port)

/-! ## What is read back is plain -/

/-- The key and the address are not changed by reading the numbers. -/
theorem readSettings_kept
    {serverKey serverPort threadCount preCreateSocketCount acceptSocketMax
      overlappedQueueMax controlServerIp controlServerPort : ByteString}
    {settings : LaunchSettings}
    (read :
      readSettings serverKey serverPort threadCount preCreateSocketCount
          acceptSocketMax overlappedQueueMax controlServerIp
          controlServerPort =
        .ok settings) :
    settings.serverKey = serverKey ∧
      settings.controlServerIp = controlServerIp := by
  unfold readSettings at read
  rcases Fallible.bind_eq_ok.mp read with ⟨port, -, read⟩
  rcases Fallible.bind_eq_ok.mp read with ⟨threads, -, read⟩
  rcases Fallible.bind_eq_ok.mp read with ⟨preCreate, -, read⟩
  rcases Fallible.bind_eq_ok.mp read with ⟨accepts, -, read⟩
  rcases Fallible.bind_eq_ok.mp read with ⟨overlapped, -, read⟩
  rcases Fallible.bind_eq_ok.mp read with ⟨controlPort, -, read⟩
  cases read
  exact ⟨rfl, rfl⟩

/-- What `main` has read it has read from at least nine arguments. -/
theorem argv_of_main_arguments
    {argv : List ByteString} {settings : LaunchSettings}
    (read : main argv = .arguments settings) :
    ∃ name port threads preCreate accepts overlapped serverPort more,
      argv =
        name :: settings.serverKey :: port :: threads :: preCreate
          :: accepts :: overlapped :: settings.controlServerIp
          :: serverPort :: more := by
  unfold main at read
  split at read
  · split at read
    · next kept =>
        rcases readSettings_kept kept with ⟨sameKey, sameIp⟩
        cases read
        rw [sameKey, sameIp]
        exact ⟨_, _, _, _, _, _, _, _, rfl⟩
    · cases read
  · cases read

section ReadBack

variable {info : LobbyServerInfo} {lobbyKey : ByteString} {port : Int32}

/-- The key is the first argument read back, the address the seventh. -/
theorem readArguments_of_decodesTo
    (decodes :
      DecodesTo (info.commandLine lobbyKey port)
        (launchSettings info lobbyKey port)) :
    ∃ portText threads preCreate accepts overlapped serverPort more,
      readArguments .between 0 []
          (cString (launchArguments info lobbyKey port)) =
        lobbyKey :: portText :: threads :: preCreate :: accepts
          :: overlapped :: info.controlServerIp :: serverPort :: more := by
  rw [DecodesTo, argumentsOf_commandLine] at decodes
  rcases argv_of_main_arguments decodes with
    ⟨name, portText, threads, preCreate, accepts, overlapped, serverPort,
      more, argv⟩
  exact
    ⟨portText, threads, preCreate, accepts, overlapped, serverPort, more,
      (List.cons.inj argv).2⟩

/-- The key and the address hold no zero if they are read back. -/
theorem zero_not_mem_of_decodesTo
    (decodes :
      DecodesTo (info.commandLine lobbyKey port)
        (launchSettings info lobbyKey port)) :
    0 ∉ lobbyKey ∧ 0 ∉ info.controlServerIp := by
  have noZero {argument : ByteString}
      (isArgument :
        argument ∈
          readArguments .between 0 []
            (cString (launchArguments info lobbyKey port))) :
      0 ∉ argument := by
    intro present
    rcases mem_of_mem_readArguments isArgument present with
      fresh | slash | inText
    · cases fresh
    · cases slash
    · exact zero_not_mem_cString _ inText
  rcases readArguments_of_decodesTo decodes with
    ⟨portText, threads, preCreate, accepts, overlapped, serverPort, more,
      whole⟩
  rw [whole] at noZero
  exact ⟨noZero (by simp), noZero (by simp)⟩

/--
With the key in quotes that are not closed the address is not the seventh
argument: what is left of the line behind the first one is too short.
-/
theorem not_quoted_numbers
    {longer portText threads preCreate accepts overlapped serverPort :
      ByteString}
    {more : List ByteString}
    (whole :
      readArguments .quoted 0 longer
          (portAndCounts info port
            ++ blank :: (info.controlServerIp
            ++ blank :: (integerText info.controlServerPort.toInt
            ++ blank :: integerText 100))) =
        lobbyKey :: portText :: threads :: preCreate :: accepts
          :: overlapped :: info.controlServerIp :: serverPort :: more) :
    False := by
  rcases readArguments_quoted_append (quote_not_mem_portAndCounts info port)
      0 longer
      (info.controlServerIp
        ++ blank :: (integerText info.controlServerPort.toInt
        ++ blank :: integerText 100)) with
    ⟨slashes, behind, passed⟩
  rw [List.append_assoc, List.singleton_append, whole] at passed
  have inside : ArgumentState.quoted ≠ .between := nofun
  rcases endsWithin_or_quoted inside slashes behind info.controlServerIp
      (integerText info.controlServerPort.toInt
        ++ blank :: integerText 100) with
    ⟨read, later, final, ended⟩ | ⟨evenLonger, quoted⟩
  · rw [ended.arguments] at passed
    have rest := (List.cons.inj passed).2
    rcases ended.behind with ⟨-, rfl⟩ | ⟨byte, back, ipSplit, rfl⟩
    · rw [readArguments_integerText,
        readArguments_of_unbroken_end (integerText_unbroken 100)
          (integerText_ne_nil 100)] at rest
      cases rest
    · rcases readArguments_short back
          (integerText_unbroken info.controlServerPort.toInt)
          (integerText_ne_nil info.controlServerPort.toInt)
          (integerText_unbroken 100) (integerText_ne_nil 100) with
        ⟨front, last, split, short⟩
      rw [split] at rest
      have isFront := congrArg List.dropLast rest
      rw [List.dropLast_concat] at isFront
      have inFront : info.controlServerIp ∈ front := by
        rw [← isFront]
        simp
      rcases short _ inFront with length | isNumber
      · rw [ipSplit, List.length_append, List.length_cons] at length
        omega
      · have present : quote ∈ info.controlServerIp := by
          rw [ipSplit]
          exact List.mem_append_left _ (ended.quoted rfl)
        rw [isNumber] at present
        exact quote_not_mem_integerText _ present
  · rcases readArguments_quoted_of_no_quote
        (quote_not_mem_end info) 0 evenLonger with
      ⟨final, single⟩
    rw [quoted, single] at passed
    cases passed

/-- The settings are read back only if the key and the address are plain. -/
theorem plain_of_decodesTo
    (decodes :
      DecodesTo (info.commandLine lobbyKey port)
        (launchSettings info lobbyKey port)) :
    Plain lobbyKey ∧ Plain info.controlServerIp := by
  rcases zero_not_mem_of_decodesTo decodes with ⟨keyNoZero, ipNoZero⟩
  rcases readArguments_of_decodesTo decodes with
    ⟨portText, threads, preCreate, accepts, overlapped, serverPort, more,
      whole⟩
  rw [cString_of_zero_not_mem
      (zero_not_mem_launchArguments info lobbyKey port keyNoZero ipNoZero),
    launchArguments] at whole
  have numberNext (number : Int) (rest argument : ByteString)
      (next :
        (readArguments .between 0 []
          (integerText number ++ blank :: rest)).head? = some argument) :
      Unbroken argument ∧ argument ≠ [] := by
    rw [readArguments_integerText] at next
    cases next
    exact ⟨integerText_unbroken number, integerText_ne_nil number⟩
  have keyRead : Unbroken lobbyKey ∧ lobbyKey ≠ [] := by
    have first := congrArg List.head? whole
    rcases unbroken_of_first_argument first (fun argument next => by
        rw [portAndCounts, List.append_assoc] at next
        exact numberNext _ _ argument next) with
      plain | ⟨longer, quoted⟩
    · exact plain
    · rw [quoted] at whole
      exact (not_quoted_numbers whole).elim
  rw [readArguments_of_unbroken keyRead.1 keyRead.2,
    readArguments_portAndCounts] at whole
  have atIp :
      readArguments .between 0 []
          (info.controlServerIp
            ++ blank :: (integerText info.controlServerPort.toInt
            ++ blank :: integerText 100)) =
        info.controlServerIp :: serverPort :: more := by
    simp only [List.cons.injEq] at whole
    exact whole.2.2.2.2.2.2
  have ipRead : Unbroken info.controlServerIp ∧ info.controlServerIp ≠ [] := by
    have first := congrArg List.head? atIp
    rcases unbroken_of_first_argument first (numberNext _ _) with
      plain | ⟨longer, quoted⟩
    · exact plain
    · rcases readArguments_quoted_of_no_quote (quote_not_mem_end info) 0
          longer with
        ⟨final, single⟩
      rw [quoted, single] at atIp
      cases atIp
  exact
    ⟨⟨keyRead.2, keyNoZero, keyRead.1⟩, ⟨ipRead.2, ipNoZero, ipRead.1⟩⟩

end ReadBack

/--
The launch command line is read back as the settings it was written from if
and only if the key and the address are plain.
-/
theorem launch_settings_decoded_iff
    (info : LobbyServerInfo) (lobbyKey : ByteString) (port : Int32) :
    DecodesTo (info.commandLine lobbyKey port)
        (launchSettings info lobbyKey port) ↔
      Plain lobbyKey ∧ Plain info.controlServerIp :=
  ⟨plain_of_decodesTo, fun plain => decodesTo_of_plain plain.1 plain.2 port⟩

/-- Every argument behind a key with a space is read as the one before it. -/
example :
    main
        (argumentsOf
          (cString (threeLobbies.commandLine (literal "Lobby 1") 9091))) =
      .arguments
        { serverKey := literal "Lobby"
          serverPort := 1
          threadCount := 9091
          preCreateSocketCount := 10
          acceptSocketMax := 10
          overlappedQueueMax := 30
          controlServerIp := literal "100"
          controlServerPort := 127 } := by
  decide +kernel

/-- A key with a space is not read back. -/
theorem spaced_key_not_decoded :
    ¬ ∀ (info : LobbyServerInfo) (lobbyKey : ByteString) (port : Int32),
      DecodesTo (info.commandLine lobbyKey port)
        (launchSettings info lobbyKey port) := by
  intro always
  have decodes := always threeLobbies (literal "Lobby 1") 9091
  have unbroken := (plain_of_decodesTo decodes).1.unbroken
  have atSpace := (unbroken blank (by decide)).1
  cases atSpace

end IocpServer.LobbyServer
