import IocpServer.Json.Nlohmann
import IocpServer.Library.Fallible
import IocpServer.Network.BasicData
import Mathlib.Algebra.Group.Nat.Defs

/-!
# The jobs of the control server

A job answers a request for a lobby or takes a lobby's registration.
`Execute` writes its result into a `JobOutput` that the calling thread uses
for one job after another.

`NOTICE_LOBBYINFO`, whose base class is private, is no job a queue of jobs
can hold; it is with the thread that makes it.
-/

namespace IocpServer.Protocol

open IocpServer.Library
open IocpServer.Library.Fallible
open IocpServer.Network
open IocpServer.Json

/-- The message types of `protocol::MESSAGETYPE`. -/
inductive MessageType where
  | requestLobbyInfo
  | responseLobbyInfo
  | noticeLobbyReady
  | noticeLobbyInfo
  | noticeSecretKey
  | noticeResponseSpeed
deriving DecidableEq, Repr

/-- The enumerator's value. -/
def MessageType.code : MessageType → UInt32
  | .requestLobbyInfo => 1
  | .responseLobbyInfo => 2
  | .noticeLobbyReady => 3
  | .noticeLobbyInfo => 4
  | .noticeSecretKey => 5
  | .noticeResponseSpeed => 6

/-- The message type a packet's number is cast to, if it is one of these. -/
def MessageType.ofContentsType (contentsType : Int32) : Option MessageType :=
  [.requestLobbyInfo, .responseLobbyInfo, .noticeLobbyReady,
    .noticeLobbyInfo, .noticeSecretKey, .noticeResponseSpeed].find?
      fun messageType => messageType.code.toInt32 == contentsType

/-- The fields the server reads of a `NOTICE_LOBBYREADY`. -/
structure LobbyReadyNotice where
  lobbyKey : ByteString
  port : Int32
  capacity : Int32
  active : Bool
deriving DecidableEq, Repr

/-- The fields the server reads of a `NOTICE_LOBBYINFO`. -/
structure LobbyInfoNotice where
  lobbyKey : ByteString
  current : Int32
  remain : Int32
  active : Bool
deriving DecidableEq, Repr

/--
The reading of a message's fields from its bytes.  The code does not verify
them; `none` stands for bytes it would read through a null or a wild pointer.
-/
structure MessageDecoder where
  noticeLobbyReady : ByteString → Option LobbyReadyNotice
  noticeLobbyInfo : ByteString → Option LobbyInfoNotice

/-- `Protocol::JobOutput`. -/
structure JobOutput where
  socketPtr : SocketPointer
  bodySize : Int32
  contentsType : UInt32
  buffer : ByteString
  isSend : Bool
deriving DecidableEq, Repr

/-- The arguments of a call of `SendRequest`. -/
structure SendCall where
  targetSocket : SocketPointer
  contentType : UInt32
  stringBuffer : ByteString
  bodySize : Int32
deriving DecidableEq, Repr

/-- The call `RequestSendMessage` makes. -/
def JobOutput.sendCall (output : JobOutput) : SendCall where
  targetSocket := output.socketPtr
  contentType := output.contentsType
  stringBuffer := output.buffer
  bodySize := output.bodySize

/-- `JOB_REQUEST_LOBBYINFO` and `JOB_NOTICE_LOBBYREADY`. -/
inductive Job where
  | requestLobbyInfo (socketPtr : SocketPointer)
  | noticeLobbyReady
      (socketPtr : SocketPointer)
      (lobbyKey : ByteString) (port capacity : Int32) (active : Bool)
deriving DecidableEq, Repr

/--
The functions the jobs are made with.  The first writes a key and a port
through its references; its flag is passed by value.
-/
structure JobCallbacks (Manager : Type) where
  requestLobbyInfo :
    Manager → ByteString → Int32 → Bool →
      Except JsonException (Manager × ByteString × Int32)
  saveLobbyInfo :
    Manager → ByteString → Int32 → Int32 → Bool →
      Except JsonException Manager

/-- A finished `RESPONSE_LOBBYINFO`; a builder holds less than 2 GiB. -/
structure ResponseBuilder where
  finish : Bool → ByteString → Int32 → ByteString
  bounded :
    ∀ success lobbyKey lobbyPort,
      (finish success lobbyKey lobbyPort).length < 2 ^ 31

namespace Job

/-- `SocketPtr`. -/
def socketPtr : Job → SocketPointer
  | .requestLobbyInfo socketPtr => socketPtr
  | .noticeLobbyReady socketPtr .. => socketPtr

variable {Manager : Type}

/-- `Execute`. -/
def execute
    (callbacks : JobCallbacks Manager) (builder : ResponseBuilder)
    (manager : Manager) (output : JobOutput) :
    Job → Except JsonException (Manager × JobOutput)
  | .requestLobbyInfo socketPtr => do
      let success := false
      let (manager, lobbyKey, lobbyPort) ←
        callbacks.requestLobbyInfo manager (literal "") 0 success
      let finished := builder.finish success lobbyKey lobbyPort
      let bodySize := Int32.ofNat finished.length
      return (manager,
        { bodySize := bodySize
          buffer := finished.take bodySize.toInt.toNat
          contentsType := MessageType.responseLobbyInfo.code
          socketPtr := socketPtr
          isSend := true })
  | .noticeLobbyReady _ lobbyKey port capacity active => do
      let manager ←
        callbacks.saveLobbyInfo manager lobbyKey port capacity active
      return (manager, { output with isSend := false })

/-- What executing a job does to the manager. -/
def effect
    (callbacks : JobCallbacks Manager) (manager : Manager) :
    Job → Except JsonException Manager
  | .requestLobbyInfo _ =>
      (callbacks.requestLobbyInfo manager (literal "") 0 false).map Prod.fst
  | .noticeLobbyReady _ lobbyKey port capacity active =>
      callbacks.saveLobbyInfo manager lobbyKey port capacity active

/--
The message a job is answered with: nothing for a registration, and for a
request the whole of the response made for it.
-/
def answer
    (callbacks : JobCallbacks Manager) (builder : ResponseBuilder)
    (manager : Manager) : Job → Option SendCall
  | .requestLobbyInfo socketPtr =>
      match callbacks.requestLobbyInfo manager (literal "") 0 false with
      | .error _ => none
      | .ok (_, lobbyKey, lobbyPort) =>
          let response := builder.finish false lobbyKey lobbyPort
          some
            { targetSocket := socketPtr
              contentType := MessageType.responseLobbyInfo.code
              stringBuffer := response
              bodySize := Int32.ofNat response.length }
  | .noticeLobbyReady .. => none

end Job

/-- What the output of an executed job makes its thread send. -/
def JobOutput.message (output : JobOutput) : Option SendCall :=
  if output.isSend then some output.sendCall else none

/-- A response's length survives as an `int`. -/
theorem ResponseBuilder.toInt_length
    (builder : ResponseBuilder)
    (success : Bool) (lobbyKey : ByteString) (lobbyPort : Int32) :
    (Int32.ofNat (builder.finish success lobbyKey lobbyPort).length).toInt =
      (builder.finish success lobbyKey lobbyPort).length :=
  Int32.toInt_ofNat_of_lt (builder.bounded success lobbyKey lobbyPort)

namespace Job

variable {Manager : Type}
variable {callbacks : JobCallbacks Manager} {builder : ResponseBuilder}

/--
A job that returns leaves the message it is answered with in the output,
whatever the output held before.
-/
theorem message_of_execute
    {job : Job} {manager managerAfter : Manager}
    {output outputAfter : JobOutput}
    (returned :
      job.execute callbacks builder manager output =
        .ok (managerAfter, outputAfter)) :
    outputAfter.message = job.answer callbacks builder manager := by
  cases job with
  | requestLobbyInfo socketPtr =>
      rcases bind_eq_ok.mp returned with
        ⟨⟨_, lobbyKey, lobbyPort⟩, response, finished⟩
      cases finished
      simp [JobOutput.message, JobOutput.sendCall, answer, response,
        builder.toInt_length]
  | noticeLobbyReady socketPtr lobbyKey port capacity active =>
      rcases bind_eq_ok.mp returned with ⟨saved, -, finished⟩
      cases finished
      rfl

/-- A job that returns has had its effect, whatever the output held. -/
theorem effect_of_execute
    {job : Job} {manager managerAfter : Manager}
    {output outputAfter : JobOutput}
    (returned :
      job.execute callbacks builder manager output =
        .ok (managerAfter, outputAfter)) :
    job.effect callbacks manager = .ok managerAfter := by
  cases job with
  | requestLobbyInfo socketPtr =>
      rcases bind_eq_ok.mp returned with
        ⟨⟨_, lobbyKey, lobbyPort⟩, response, finished⟩
      cases finished
      rw [effect, response]
      rfl
  | noticeLobbyReady socketPtr lobbyKey port capacity active =>
      rcases bind_eq_ok.mp returned with ⟨saved, response, finished⟩
      cases finished
      exact response

/-- A message's body size is the length of its body. -/
theorem bodySize_of_answer
    {job : Job} {manager : Manager} {call : SendCall}
    (answered : job.answer callbacks builder manager = some call) :
    call.bodySize.toInt = call.stringBuffer.length := by
  cases job with
  | requestLobbyInfo socketPtr =>
      cases response :
          callbacks.requestLobbyInfo manager (literal "") 0 false with
      | error exception => simp [answer, response] at answered
      | ok result =>
          simp only [answer, response, Option.some.injEq] at answered
          rw [← answered]
          exact builder.toInt_length false _ _
  | noticeLobbyReady socketPtr lobbyKey port capacity active =>
      cases answered

end Job

end IocpServer.Protocol
