import IocpServer.Protocol.ControlServerProtocol
import IocpServer.Protocol.FlatBufferBuilder

/-!
# The jobs of a lobby

A lobby's jobs report it to the control server.  Both write every field of
the `JobOutput`, so nothing is left of the job before.
-/

namespace IocpServer.Protocol

open IocpServer.Library
open IocpServer.Network

/-- `JOB_NOTICE_LOBBYREADY` and `JOB_NOTICE_LOBBYINFO` of a lobby. -/
inductive LobbyJob where
  | noticeLobbyReady
      (socketPtr : SocketPointer)
      (key : ByteString) (port capacity : Int32) (active : Bool)
  | noticeLobbyInfo
      (socketPtr : SocketPointer)
      (key : ByteString) (current remain : Int32) (active : Bool)
deriving DecidableEq, Repr

namespace LobbyJob

/-- The message `Execute` builds. -/
def finished : LobbyJob → ByteString
  | .noticeLobbyReady _ key port capacity active =>
      Protocol.noticeLobbyReady key port capacity active
  | .noticeLobbyInfo _ key current remain active =>
      Protocol.noticeLobbyInfo key current remain active

/-- The type of the message. -/
def messageType : LobbyJob → MessageType
  | .noticeLobbyReady _ _ _ _ _ => .noticeLobbyReady
  | .noticeLobbyInfo _ _ _ _ _ => .noticeLobbyInfo

/-- `SocketPtr`. -/
def socketPtr : LobbyJob → SocketPointer
  | .noticeLobbyReady socketPtr _ _ _ _ => socketPtr
  | .noticeLobbyInfo socketPtr _ _ _ _ => socketPtr

/-- `_key`. -/
def key : LobbyJob → ByteString
  | .noticeLobbyReady _ key _ _ _ => key
  | .noticeLobbyInfo _ key _ _ _ => key

/-- `Execute`. -/
def execute (job : LobbyJob) : JobOutput :=
  let bodySize := Int32.ofNat job.finished.length
  { bodySize := bodySize
    buffer := job.finished.take bodySize.toInt.toNat
    contentsType := job.messageType.code
    socketPtr := job.socketPtr
    isSend := true }

/-- The call of `SendRequest` behind `Execute`. -/
def sendCall (job : LobbyJob) : SendCall :=
  job.execute.sendCall

/-- The longest key with which the report has at most 1024 bytes. -/
def longestKey : LobbyJob → Nat
  | .noticeLobbyReady _ _ port capacity active =>
      longestNoticeKey port capacity active
  | .noticeLobbyInfo _ _ current remain active =>
      longestNoticeKey current remain active

/-- A report is short if its key is, and never longer than a builder's buffer. -/
theorem finished_length (job : LobbyJob) :
    job.finished.length < maxBufferSize ∧
      (job.finished.length ≤ 1024 ↔ job.key.length ≤ job.longestKey) := by
  cases job with
  | noticeLobbyReady socketPtr key port capacity active =>
      have length := notice_length key port capacity active
      have short := noticeSize_le_iff key.length port capacity active
      change (Protocol.noticeLobbyReady key port capacity active).length = _ at length
      simp only [finished, LobbyJob.key, longestKey, length, maxBufferSize]
      omega
  | noticeLobbyInfo socketPtr key current remain active =>
      have length := notice_length key current remain active
      have short := noticeSize_le_iff key.length current remain active
      change (Protocol.noticeLobbyInfo key current remain active).length = _ at length
      simp only [finished, LobbyJob.key, longestKey, length, maxBufferSize]
      omega

end LobbyJob

end IocpServer.Protocol
