import IocpServer.ControlServer.VerifiedDispatch
import IocpServer.LobbyServer.ReceivedPackets

/-!
# A report on its way to the control server

A lobby's job builds a message, `SendRequest` puts it behind a header, the
control hub makes a packet of what it receives, and its receive thread reads
the fields of the packet's body.  A report that is short enough and arrives in
one piece is read as the report it was.
-/

namespace IocpServer.LobbyServer

open IocpServer.ControlServer
open IocpServer.Library
open IocpServer.Network
open IocpServer.Protocol

/-- What the control server makes of a report from a connection. -/
def reportDispatched (receiver : CompletionKey) : LobbyJob → Dispatched
  | .noticeLobbyReady _ key port capacity active =>
      .job (.noticeLobbyReady receiver key port capacity active)
  | .noticeLobbyInfo _ key current remain active =>
      .leftBehind
        { lobbyKey := key, current := current, remain := remain
          active := active }

/-- The call of `SendRequest` behind a report, with the whole message. -/
theorem sendCall_eq (job : LobbyJob) :
    job.sendCall =
      { targetSocket := job.socketPtr
        contentType := job.messageType.code
        stringBuffer := job.finished
        bodySize := Int32.ofNat job.finished.length } := by
  have small := job.finished_length.1
  rw [maxBufferSize] at small
  have size :
      (Int32.ofNat job.finished.length).toInt = job.finished.length :=
    Int32.toInt_ofNat_of_lt (by omega)
  simp only [LobbyJob.sendCall, LobbyJob.execute, JobOutput.sendCall, size,
    Int.toNat_natCast, List.take_length]

/-- The longest key of a report leaves the message within every limit. -/
theorem finished_short {job : LobbyJob}
    (short : job.key.length ≤ job.longestKey) :
    job.finished.length ≤ bufferSizeMax ∧
      job.finished.length < maxBufferSize - 1 := by
  have length := job.finished_length.2.mpr short
  rw [bufferSizeMax, maxBufferSize]
  omega

/-- A packet of a report. -/
def reportPacket
    (receiver : CompletionKey) (senderType : Int32) (job : LobbyJob) :
    Packet where
  completionKey := receiver
  senderType := senderType
  contentsType := job.messageType.code.toInt32
  buffer := job.finished

section Packet

variable {receiver : CompletionKey} {senderType : Int32} {job : LobbyJob}

theorem reportPacket_messageType :
    MessageType.ofContentsType
        (reportPacket receiver senderType job).contentsType =
      some job.messageType := by
  cases job <;> rfl

/-- The size of a report whose key is short enough. -/
theorem noticeSize_short {key : ByteString} {second third : Int32}
    {active : Bool}
    (short : key.length ≤ longestNoticeKey second third active) :
    noticeSize key.length second third active < maxBufferSize := by
  have size := (noticeSize_le_iff key.length second third active).mpr short
  rw [maxBufferSize]
  omega

/-- The switch decodes the report it was sent. -/
theorem dispatch_reportPacket
    (short : job.key.length ≤ job.longestKey) :
    dispatch flatBuffers (reportPacket receiver senderType job) =
      reportDispatched receiver job := by
  rw [dispatch, reportPacket_messageType]
  cases job with
  | noticeLobbyReady socketPtr key port capacity active =>
      have decoded :
          flatBuffers.noticeLobbyReady
              (Protocol.noticeLobbyReady key port capacity active) =
            some ⟨key, port, capacity, active⟩ :=
        noticeLobbyReady_decoded (noticeSize_short short)
      simp only [LobbyJob.messageType, reportPacket, LobbyJob.finished,
        decoded, reportDispatched]
  | noticeLobbyInfo socketPtr key current remain active =>
      have decoded :
          flatBuffers.noticeLobbyInfo
              (Protocol.noticeLobbyInfo key current remain active) =
            some ⟨key, current, remain, active⟩ :=
        noticeLobbyInfo_decoded (noticeSize_short short)
      simp only [LobbyJob.messageType, reportPacket, LobbyJob.finished,
        decoded, reportDispatched]

/-- The key of a notice within the limit is in its table. -/
theorem fieldEntry_notice {key : ByteString} {second third : Int32}
    {active : Bool}
    (fits : noticeSize key.length second third active < maxBufferSize) :
    fieldEntry (message key (noticeWrites · second third active)) 4 ≠ 0 := by
  rcases notice_built fits with ⟨root, vtableSize, built, bounds⟩
  have holds :=
    memoryOf_holds (message key (noticeWrites · second third active))
  have short := bounds.short
  have room := built.room
  rcases value_verifyBuffer (by omega) (notice_verified fits holds) with
    ⟨four, verifier, size, started, -⟩
  have read := readWord_of_stored holds built.head 0 (by omega)
  rw [wordBytes_length, bytesWord_wordBytes] at read
  have atRoot :
      rootTable (memoryOf (message key (noticeWrites · second third active))) +
          root =
        (message key (noticeWrites · second third active)).length := by
    rw [rootTable]
    change (Memory.readWord _ (0 : Nat) 4).value.toNat + root = _
    rw [read, toNat_ofNat_of_lt (by omega)]
    omega
  have notNull : stringSize key.length ≠ 0 := by
    rw [stringSize]
    omega
  have member :
      FieldWrite.offset 4 (stringSize key.length) ∈
        noticeWrites (stringSize key.length) second third active := by
    simp [noticeWrites]
  rcases built.entry_of_kept bounds member notNull with
    ⟨place, found, there, -⟩
  change Table.getOptionalFieldOffset _ 4 = _ at found
  have entry := started.value_entry holds atRoot (by decide) found
  rw [← value_entry_eq_fieldEntry started holds four (by decide), entry]
  exact there

/-- Dispatching a report reads nothing outside its body. -/
theorem safeDispatch_reportPacket
    (short : job.key.length ≤ job.longestKey) {memory : Memory}
    (holds : memory.Holds job.finished) :
    SafeDispatch memory (reportPacket receiver senderType job) := by
  have length := (finished_short short).1
  rw [bufferSizeMax] at length
  have small :
      (reportPacket receiver senderType job).buffer.length < 2 ^ 63 := by
    change job.finished.length < _
    omega
  have inMemory : memory.Holds (reportPacket receiver senderType job).buffer :=
    holds
  have present : KeyPresent (reportPacket receiver senderType job) := by
    rw [KeyPresent, reportPacket_messageType]
    cases job with
    | noticeLobbyReady socketPtr key port capacity active =>
        exact fieldEntry_notice (noticeSize_short short)
    | noticeLobbyInfo socketPtr key current remain active =>
        exact fieldEntry_notice (noticeSize_short short)
  have verified :
      (verifyBuffer (checksOf job.messageType)
          (.construct job.finished.length .standard) memory).value =
        true := by
    cases job with
    | noticeLobbyReady socketPtr key port capacity active =>
        exact notice_verified (noticeSize_short short) holds
    | noticeLobbyInfo socketPtr key current remain active =>
        exact notice_verified (noticeSize_short short) holds
  have wellFormed :=
    wellFormedBody_of_verified reportPacket_messageType inMemory small
      verified present
  have inside := (inside_dispatchIn inMemory).mpr wellFormed
  exact ⟨inside, pushed_length _, value_dispatchIn inMemory inside⟩

end Packet

/--
A report with a short enough key, sent over a registered connection and
received in one piece, is read by the control server as the report it was:
the same key and figures, under the key of the receiving connection, and
without a read outside the body.
-/
theorem report_delivered
    {Owner : Type} {sender after : NetworkManager Owner} (job : LobbyJob)
    {socket : SocketPointer} {answer : PostAnswer}
    (short : job.key.length ≤ job.longestKey)
    (registered :
      sender.connectedSocketMap.lookup job.sendCall.targetSocket =
        some socket)
    (accepted : answer.failed = false)
    (done :
      sender.sendRequest job.sendCall.targetSocket job.sendCall.contentType
          job.sendCall.stringBuffer job.sendCall.bodySize answer =
        .ok after)
    {posted : CustomOverlapped}
    (queued : after.outstanding = sender.outstanding ++ [posted])
    {completion : ReceiveCompletion}
    (arrived : completion.bytes = posted.sentBytes)
    (receiver : SocketPointer) :
    ∃ packet,
      Receives receiver completion packet ∧
        dispatch flatBuffers packet = reportDispatched receiver job ∧
          ∀ memory : Memory,
            memory.Holds packet.buffer → SafeDispatch memory packet := by
  rw [sendCall_eq] at registered done
  have receives :=
    sent_message_receives (finished_short short).1 registered accepted done
      queued arrived receiver
  exact
    ⟨reportPacket receiver _ job, receives, dispatch_reportPacket short,
      fun _ holds => safeDispatch_reportPacket short holds⟩

/-- The report that the lobby `L` is ready. -/
def lobbyLReady : LobbyJob :=
  .noticeLobbyReady 5 [76] 9000 30 true

/-- A lobby behind its `SendRequest` of the report. -/
def lobbyLSent : Except Fault (NetworkManager Unit) :=
  connectedLobby.sendRequest lobbyLReady.sendCall.targetSocket
    lobbyLReady.sendCall.contentType lobbyLReady.sendCall.stringBuffer
    lobbyLReady.sendCall.bodySize .success

/-- The operation posted by it. -/
def lobbyLOperation : CustomOverlapped :=
  (lobbyLSent.toOption.bind fun after => after.outstanding.head?).getD
    (.construct 0 default)

/-- Its bytes in one completion. -/
def lobbyLArrived : ReceiveCompletion :=
  completionOf lobbyLOperation.sentBytes (by decide +kernel)
    (by decide +kernel)

/-- The report of the lobby `L` becomes the job that registers it. -/
theorem report_delivered_lobbyL :
    ∃ packet,
      Receives 9 lobbyLArrived packet ∧
        dispatch flatBuffers packet =
          .job (.noticeLobbyReady 9 [76] 9000 30 true) := by
  have registered :
      connectedLobby.connectedSocketMap.lookup
          lobbyLReady.sendCall.targetSocket =
        some 5 :=
    Finmap.lookup_singleton_eq
  have sent :
      ∃ after,
        lobbyLSent = .ok after ∧
          after.outstanding =
            connectedLobby.outstanding ++ [lobbyLOperation] :=
    ⟨_, rfl, rfl⟩
  rcases sent with ⟨after, done, queued⟩
  rcases
    report_delivered lobbyLReady (by decide) registered (by decide) done
      queued (rfl : lobbyLArrived.bytes = _) 9 with
    ⟨packet, receives, dispatched, -⟩
  exact ⟨packet, receives, dispatched⟩

end IocpServer.LobbyServer
