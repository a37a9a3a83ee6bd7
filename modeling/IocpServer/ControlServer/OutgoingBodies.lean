import IocpServer.ControlServer.LobbySelection
import IocpServer.Network.NetworkManager
import IocpServer.Protocol.LobbyServerProtocol

/-!
# The size of what is sent

`SendSetting` copies a body into a buffer of `BUFFER_SIZE_MAX` bytes and
compares nothing.  Whether a body fits is decided by the length of the lobby
key in it, wherever the key comes from: the command line of a lobby, a record
of the database, or a registration.
-/

namespace IocpServer.ControlServer

open IocpServer.Database
open IocpServer.Library
open IocpServer.Json
open IocpServer.Network
open IocpServer.Protocol
open IocpServer.Utility

/-! ## `SendRequest` and `SendSetting` -/

section Sending

variable {Owner : Type}

/-- `SendRequest` ends before `SendSetting`: without a socket or an object. -/
def EndsBeforeSetting
    (manager : NetworkManager Owner) (targetSocket : CompletionKey) : Prop :=
  targetSocket ∉ manager.connectedSocketMap ∨
    manager.overlappedQueue.pop.1 = .null

/-- The call writes no body past the end of its buffer. -/
def BodyFits (manager : NetworkManager Owner) (sending : SendCall) : Prop :=
  ∀ answer,
    manager.sendRequest sending.targetSocket sending.contentType
        sending.stringBuffer sending.bodySize answer ≠
      .error .bufferOverrun

/-- A setting runs past its buffer exactly if the body is too long. -/
theorem sendSetting_overrun_iff
    {overlapped : CustomOverlapped} {socket : SocketPointer}
    {headerData : MessageHeader} {bodyBuffer : List UInt8}
    {bodyLen : UInt32} :
    overlapped.sendSetting socket headerData bodyBuffer bodyLen =
        .error .bufferOverrun ↔
      bufferSizeMax < bodyLen.toNat := by
  simp only [CustomOverlapped.sendSetting]
  split_ifs with fits short
  · constructor
    · intro overread
      cases overread
    · intro long
      omega
  · constructor
    · intro done
      cases done
    · intro long
      omega
  · constructor
    · intro _
      omega
    · intro _
      rfl

/-- A posting runs past a buffer only in its setting. -/
theorem post_overrun_iff
    {manager : NetworkManager Owner} {overlapped : CustomOverlapped}
    {popped : LockFreeCircleQueue (RawPointer CustomOverlapped)}
    {setting : OverlappedSetting} {answer : PostAnswer}
    (available : manager.overlappedQueue.pop = (.to overlapped, popped)) :
    manager.post setting answer = .error .bufferOverrun ↔
      setting.set overlapped.clear = .error .bufferOverrun := by
  simp only [NetworkManager.post, available]
  cases setting.set overlapped.clear with
  | error fault => simp
  | ok posted =>
      simp only [NetworkManager.dereference]
      split_ifs <;> simp

/-- A body that gets as far as `SendSetting` has to be short. -/
theorem bodyFits_iff
    {manager : NetworkManager Owner} {sending : SendCall} :
    BodyFits manager sending ↔
      EndsBeforeSetting manager sending.targetSocket ∨
        sending.bodySize.toUInt32.toNat ≤ bufferSizeMax := by
  rw [BodyFits, EndsBeforeSetting]
  cases registered :
      manager.connectedSocketMap.lookup sending.targetSocket with
  | none =>
      have missing := Finmap.lookup_eq_none.mp registered
      refine iff_of_true ?_ (.inl (.inl missing))
      intro answer overrun
      rw [NetworkManager.sendRequest, registered] at overrun
      cases overrun
  | some socket =>
      have present := Finmap.mem_of_lookup_eq_some registered
      simp only [NetworkManager.sendRequest, registered]
      rcases popping : manager.overlappedQueue.pop with
        ⟨_ | overlapped, popped⟩
      · refine iff_of_true ?_ (.inl (.inr rfl))
        intro answer overrun
        rw [Fallible.map_eq_error, NetworkManager.post, popping] at overrun
        cases overrun
      · have overruns (answer : PostAnswer)
            (messageHeader : MessageHeader) :
            (manager.post
                (.send socket messageHeader sending.stringBuffer
                  sending.bodySize) answer).map Prod.snd =
                .error .bufferOverrun ↔
              bufferSizeMax < sending.bodySize.toUInt32.toNat := by
          rw [Fallible.map_eq_error, post_overrun_iff popping]
          exact sendSetting_overrun_iff
        simp only [ne_eq, overruns, Nat.not_lt]
        constructor
        · intro short
          exact .inr (short .success)
        · rintro ((missing | empty) | short) answer
          · exact absurd present missing
          · cases empty
          · exact short

end Sending

/-! ## The bodies of the servers -/

/-- The builder of the responses. -/
def responseBuilder : ResponseBuilder where
  finish success lobbyKey lobbyPort :=
    Protocol.responseLobbyInfo success lobbyKey lobbyPort
  bounded success lobbyKey lobbyPort := by
    rw [responseLobbyInfo_length]
    exact Nat.lt_of_le_of_lt (Nat.min_le_left _ _) (by decide)

/-- The length of a body survives its way through an `int`. -/
theorem bodySize_toNat {length : Nat} (small : length < maxBufferSize) :
    (Int32.ofNat length).toUInt32.toNat = length := by
  rw [maxBufferSize] at small
  change (UInt32.ofNat length).toNat = length
  rw [UInt32.toNat_ofNat', Nat.mod_eq_of_lt (by omega)]

section Calls

variable {Number : Type} [FloatArithmetic Number]

/-- The longest key of a registered lobby whose response has 1024 bytes. -/
def longestRegisteredKey (port : Int32) : Nat :=
  if port = 0 then 983 else 975

/--
The calls of `SendRequest` behind an executed job, with the lobby key that is
in the body and the longest key the body has room for.
-/
inductive ServerCall
    (library : JsonLibrary Number) (reader : RecordReader Number) :
    ByteString → Nat → SendCall → Prop where
  /-- A lobby's report; its key is from the command line. -/
  | report (job : LobbyJob) :
      ServerCall library reader job.key job.longestKey job.sendCall
  /-- A response with a key that was read back. -/
  | response
      {manager : LobbyManager Number} {socketPtr : SocketPointer}
      {lobbyKey : ByteString} {lobbyPort : Int32} {sending : SendCall}
      (found :
        manager.responseLobbyInfo reader (literal "") 0 =
          .ok (lobbyKey, lobbyPort))
      (answered :
        (Job.requestLobbyInfo socketPtr).answer
            (LobbyManager.callbacks library reader) responseBuilder manager =
          some sending) :
      ServerCall library reader lobbyKey (longestResponseKey lobbyPort)
        sending
  /-- A response behind registrations that read back, with one's key. -/
  | registered
      {executed : List (Executed (LobbyManager Number))}
      {manager : LobbyManager Number} {socketPtr : SocketPointer}
      {key : ByteString} {best : BestLobby Number} {sending : SendCall}
      (decodes :
        ∀ job ∈ executed.map Executed.job,
          ∀ registration,
            registrationOfJob job = some registration →
              Decodes library reader registration)
      (replays :
        Replays (LobbyManager.callbacks library reader) .construct executed
          manager)
      (chosen :
        choose (registeredTable (executed.map Executed.job)) = best)
      (selected :
        best.bestLobbyKey = RedisWorker.cacheKey lobbyTable key)
      (answered :
        (Job.requestLobbyInfo socketPtr).answer
            (LobbyManager.callbacks library reader) responseBuilder manager =
          some sending) :
      ServerCall library reader key (longestRegisteredKey best.bestLobbyPort)
        sending

/-- The response to a request, with the key and the port that were found. -/
theorem answer_of_found
    {library : JsonLibrary Number} {reader : RecordReader Number}
    {manager : LobbyManager Number} {socketPtr : SocketPointer}
    {lobbyKey : ByteString} {lobbyPort : Int32}
    (found :
      manager.responseLobbyInfo reader (literal "") 0 =
        .ok (lobbyKey, lobbyPort)) :
    (Job.requestLobbyInfo socketPtr).answer
        (LobbyManager.callbacks library reader) responseBuilder manager =
      some
        { targetSocket := socketPtr
          contentType := MessageType.responseLobbyInfo.code
          stringBuffer :=
            Protocol.responseLobbyInfo false lobbyKey lobbyPort
          bodySize :=
            Int32.ofNat
              (Protocol.responseLobbyInfo false lobbyKey
                lobbyPort).length } := by
  simp only [Job.answer, LobbyManager.callbacks, found, Except.map]
  rfl

/-- What a request is answered with has to fit. -/
theorem response_bodySize
    {library : JsonLibrary Number} {reader : RecordReader Number}
    {manager : LobbyManager Number} {socketPtr : SocketPointer}
    {lobbyKey : ByteString} {lobbyPort : Int32} {sending : SendCall}
    (found :
      manager.responseLobbyInfo reader (literal "") 0 =
        .ok (lobbyKey, lobbyPort))
    (answered :
      (Job.requestLobbyInfo socketPtr).answer
          (LobbyManager.callbacks library reader) responseBuilder manager =
        some sending) :
    sending.bodySize.toUInt32.toNat ≤ bufferSizeMax ↔
      lobbyKey.length ≤ longestResponseKey lobbyPort := by
  have length := responseLobbyInfo_length false lobbyKey lobbyPort
  have short := responseSize_le_iff lobbyKey.length lobbyPort
  have below :
      (Protocol.responseLobbyInfo false lobbyKey lobbyPort).length <
        maxBufferSize := by
    rw [length]
    exact Nat.lt_of_le_of_lt (Nat.min_le_left _ _) (by decide)
  rw [answer_of_found found, Option.some.injEq] at answered
  rw [← answered]
  dsimp only
  rw [bodySize_toNat below, length, ← short, bufferSizeMax, maxBufferSize]
  omega

/-- The response names the lobby that is chosen. -/
theorem response_of_represents
    {library : JsonLibrary Number} {reader : RecordReader Number}
    {manager : LobbyManager Number} {table : LobbyTable Number}
    {best : BestLobby Number} {key : ByteString}
    (represents : Represents library reader manager.redisWorker table)
    (chosen : choose table = best)
    (selected :
      best.bestLobbyKey = RedisWorker.cacheKey lobbyTable key) :
    manager.responseLobbyInfo reader (literal "") 0 =
      .ok (best.bestLobbyKey, best.bestLobbyPort) := by
  rw [selected]
  apply represents.response_iff.mpr
  rw [chosen]
  exact Prod.ext selected rfl

/--
A body fits if and only if its send does not get to `SendSetting`, or its key
is no longer than the body has room for.
-/
theorem outgoing_body_fits_iff
    {Owner : Type}
    {library : JsonLibrary Number} {reader : RecordReader Number}
    {key : ByteString} {longest : Nat} {sending : SendCall}
    (executes : ServerCall library reader key longest sending)
    (manager : NetworkManager Owner) :
    BodyFits manager sending ↔
      EndsBeforeSetting manager sending.targetSocket ∨
        key.length ≤ longest := by
  rw [bodyFits_iff]
  apply or_congr_right
  cases executes with
  | report job =>
      have finished := job.finished_length
      rw [← finished.2]
      change (Int32.ofNat job.finished.length).toUInt32.toNat ≤ 1024 ↔ _
      rw [bodySize_toNat finished.1]
  | response found answered => exact response_bodySize found answered
  | @registered executed manager socketPtr key best sending decodes replays
      chosen selected answered =>
      have represents :=
        represents_replays represents_empty decodes replays
      have found := response_of_represents represents chosen selected
      rw [response_bodySize found answered, selected, cacheKey_length,
        longestResponseKey, longestRegisteredKey]
      split_ifs <;> omega

end Calls

/-! ## A long key -/

/-- A registered lobby with a key of 980 bytes. -/
def longRegistration : Registration where
  key := List.replicate 980 97
  port := 7000
  capacity := 10
  active := true

/-- Its record. -/
def longText : ByteString :=
  plainText
    (writtenRecord
      (@Registration.lobby ℚ exactArithmetic longRegistration))

/-- A reader of its record. -/
def longReader : RecordReader ℚ := fun text =>
  if text = longText then
    .ok (@Registration.lobby ℚ exactArithmetic longRegistration)
  else
    .error (.parseError 101 "syntax error")

theorem longReader_decodes :
    @Decodes ℚ exactArithmetic sampleLibrary longReader
      longRegistration := by
  refine ⟨longText, rfl, by decide +kernel, ?_⟩
  unfold longReader
  exact if_pos rfl

/-- The job of its registration. -/
def longJob : Job :=
  .noticeLobbyReady 6 longRegistration.key longRegistration.port
    longRegistration.capacity longRegistration.active

/-- The job, executed first. -/
def longExecuted : Executed (LobbyManager ℚ) :=
  ⟨longJob, .construct⟩

/-- The manager behind its registration. -/
def longManager : LobbyManager ℚ :=
  { LobbyManager.construct with
    redisWorker :=
      RedisWorker.empty.updateData lobbyTable longRegistration.key longText }

theorem longManager_replays :
    Replays
      (@LobbyManager.callbacks ℚ exactArithmetic sampleLibrary longReader)
      .construct [longExecuted] longManager := by
  refine ⟨rfl, longManager, ?_, rfl⟩
  exact
    @LobbyManager.saveLobbyInfo_eq ℚ exactArithmetic sampleLibrary
      longRegistration longText rfl .construct

theorem longJob_decodes :
    ∀ job ∈ [longExecuted].map Executed.job,
      ∀ registration,
        registrationOfJob job = some registration →
          @Decodes ℚ exactArithmetic sampleLibrary longReader
            registration := by
  intro job present registration carries
  rw [List.map_singleton, List.mem_singleton] at present
  rw [present] at carries
  cases carries
  exact longReader_decodes

/-- The only lobby is chosen. -/
theorem longLobby_chosen :
    @choose ℚ exactArithmetic
        (@registeredTable ℚ exactArithmetic [longJob]) =
      ⟨0, 0, RedisWorker.cacheKey lobbyTable longRegistration.key, 7000⟩ := by
  decide +kernel

/-- A network manager with a connection and with objects in its pool. -/
def connectedManager : NetworkManager Unit :=
  (NetworkManager.setupAt (fun _ => 7) .controlServer 4 1 (fun _ => default)
    ()).register 7

/-- The report that the lobby `L` is ready. -/
def shortReport : LobbyJob :=
  .noticeLobbyReady 7 [76] 9000 30 true

theorem shortReport_fits : BodyFits connectedManager shortReport.sendCall :=
  (@outgoing_body_fits_iff ℚ exactArithmetic Unit sampleLibrary longReader
    _ _ _
    (@ServerCall.report ℚ exactArithmetic sampleLibrary longReader
      shortReport)
    connectedManager).mpr (.inr (by decide))

/--
The registration fits into a received body, and the response with its key
does not fit into a sent one.
-/
theorem response_overruns_buffer :
    ¬ ∀ (key : ByteString) (longest : Nat) (sending : SendCall),
      (Protocol.noticeLobbyReady key 7000 10 true).length ≤ 1024 →
        @ServerCall ℚ exactArithmetic sampleLibrary longReader key longest
            sending →
          ∀ manager : NetworkManager Unit, BodyFits manager sending := by
  intro fits
  have received :
      (Protocol.noticeLobbyReady longRegistration.key 7000 10 true).length ≤
        1024 := by
    have length := notice_length longRegistration.key 7000 10 true
    change (Protocol.noticeLobbyReady _ 7000 10 true).length = _ at length
    rw [length]
    exact
      (Nat.min_le_right _ _).trans
        ((noticeSize_le_iff _ _ _ _).mpr (by decide +kernel))
  have found :
      @LobbyManager.responseLobbyInfo ℚ exactArithmetic longReader longManager
          (literal "") 0 =
        .ok (RedisWorker.cacheKey lobbyTable longRegistration.key, 7000) := by
    have represents :=
      @represents_replays ℚ exactArithmetic sampleLibrary longReader _ _ _ _
        (@represents_empty ℚ exactArithmetic sampleLibrary longReader)
        longJob_decodes longManager_replays
    exact
      @response_of_represents ℚ exactArithmetic _ _ _ _ _ _ represents
        longLobby_chosen rfl
  have answered :=
    @answer_of_found ℚ exactArithmetic sampleLibrary longReader longManager 7
      _ _ found
  have sent :=
    fits _ _ _ received
      (@ServerCall.registered ℚ exactArithmetic sampleLibrary longReader _ _ _
        _ _ _ longJob_decodes longManager_replays longLobby_chosen rfl answered)
      connectedManager
  rw [bodyFits_iff,
    @response_bodySize ℚ exactArithmetic _ _ _ _ _ _ _ found answered] at sent
  rcases sent with (missing | empty) | short
  · exact missing (by decide +kernel)
  · cases empty
  · exact absurd short (by decide +kernel)

end IocpServer.ControlServer
