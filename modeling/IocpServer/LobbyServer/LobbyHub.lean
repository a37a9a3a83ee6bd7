import IocpServer.ControlServer.Hub
import IocpServer.Protocol.LobbyServerProtocol

/-!
# The lobby hub

`LobbyMonitor` counts the users of a lobby.  `LobbyHub` registers a user when
a client is accepted and makes a job that reports the lobby: on every accept
its occupancy, and on the completed connection to the control server its
readiness.  A disconnect is not acted on.
-/

namespace IocpServer.LobbyServer

open IocpServer.ControlServer
open IocpServer.Library
open IocpServer.Network
open IocpServer.Protocol
open IocpServer.Utility

/-- `LobbyMonitor`; its counters are atomic. -/
structure LobbyMonitor where
  capacity : Int32
  currentUser : Int32
  remainCapacity : Int32
deriving DecidableEq, Repr

namespace LobbyMonitor

/-- `Construct`. -/
def construct (capacity : Int32) : LobbyMonitor where
  capacity := capacity
  currentUser := 0
  remainCapacity := capacity

/-- `RegisterLobbyUser`. -/
def registerLobbyUser (monitor : LobbyMonitor) : LobbyMonitor :=
  { monitor with
    currentUser := monitor.currentUser + 1
    remainCapacity := monitor.remainCapacity - 1 }

/-- `UnregisterLobbyUser`, which has no caller. -/
def unregisterLobbyUser (monitor : LobbyMonitor) : LobbyMonitor :=
  { monitor with
    currentUser := monitor.currentUser - 1
    remainCapacity := monitor.remainCapacity + 1 }

end LobbyMonitor

/-- A client as it was accepted, with the monitor behind its registration. -/
structure AcceptedClient where
  completionKey : CompletionKey
  monitor : LobbyMonitor
deriving DecidableEq, Repr

/--
`LobbyHub`, with a record of the accepted clients and of the completed
connections to the control server.
-/
structure LobbyHub where
  lobbyKey : ByteString
  lobbyPort : Int32
  lobbyMonitor : LobbyMonitor
  isOn : Bool
  controlServerCompletionKey : CompletionKey
  packetQueue : LockFreeCircleQueue (SharedPointer Packet)
  jobQueue : LockFreeCircleQueue (SharedPointer LobbyJob)
  accepted : List AcceptedClient
  controlConnections : List CompletionKey

namespace LobbyHub

/-- `Construct`, but for the network manager. -/
def construct
    (lobbyKey : ByteString) (lobbyPort : Int32)
    (overlappedQueueMax packetQueueCapacity : Nat)
    (lobbyCapacity : Int32) : LobbyHub where
  lobbyKey := lobbyKey
  lobbyPort := lobbyPort
  lobbyMonitor := .construct lobbyCapacity
  isOn := true
  controlServerCompletionKey := 0
  packetQueue := .construct packetQueueCapacity
  jobQueue := .construct overlappedQueueMax
  accepted := []
  controlConnections := []

/-- The push of a job; its result is not looked at. -/
def pushJob (hub : LobbyHub) (job : LobbyJob) : LobbyHub :=
  { hub with jobQueue := (hub.jobQueue.push (.to job)).2 }

/-- The report of the lobby's occupancy, as the hub makes it. -/
def infoJob (hub : LobbyHub) (socketPtr : SocketPointer) : LobbyJob :=
  .noticeLobbyInfo socketPtr hub.lobbyKey hub.lobbyMonitor.currentUser
    hub.lobbyMonitor.remainCapacity hub.isOn

/-- The report that the lobby is ready. -/
def readyJob (hub : LobbyHub) (socketPtr : SocketPointer) : LobbyJob :=
  .noticeLobbyReady socketPtr hub.lobbyKey hub.lobbyPort
    hub.lobbyMonitor.capacity hub.isOn

/-- The case of `OP_ACCEPT` for a client. -/
def acceptClient (hub : LobbyHub) (completionKey : CompletionKey) : LobbyHub :=
  let monitor := hub.lobbyMonitor.registerLobbyUser
  let registered : LobbyHub :=
    { hub with
      lobbyMonitor := monitor
      accepted := hub.accepted ++ [⟨completionKey, monitor⟩] }
  registered.pushJob (registered.infoJob completionKey)

/-- The case of `OP_CONNECT` for the control server. -/
def connectControlServer
    (hub : LobbyHub) (completionKey : CompletionKey) : LobbyHub :=
  let connected : LobbyHub :=
    { hub with
      controlServerCompletionKey := completionKey
      controlConnections := hub.controlConnections ++ [completionKey] }
  connected.pushJob
    (connected.readyJob connected.controlServerCompletionKey)

/-- `ProcessIocp`. -/
def processIocp
    (hub : LobbyHub)
    (completionKey : CompletionKey)
    (overlapped : CustomOverlapped) :
    Except Fault LobbyHub :=
  match overlapped.operationType with
  | .opAccept =>
      if overlapped.senderType = .client then
        .ok (hub.acceptClient completionKey)
      else
        .ok hub
  | .opConnect =>
      if overlapped.senderType = .controlServer then
        .ok (hub.connectControlServer completionKey)
      else
        .ok hub
  | .opRecv =>
      match packetOf completionKey overlapped with
      | .error fault => .error fault
      | .ok packet =>
          .ok { hub with packetQueue := (hub.packetQueue.push (.to packet)).2 }
  | .opSend => .ok hub
  | .opDefault => .ok hub

/-- `ProcessDisconnect` of the lobby does nothing. -/
def processDisconnect (hub : LobbyHub) (_ : CompletionKey) : LobbyHub :=
  hub

/-- The callbacks the lobby passes to `NetworkManager::Construct`. -/
def callbacks : Callbacks LobbyHub where
  iocpCallback hub completionKey overlapped :=
    hub.processIocp completionKey overlapped
  disconnectCallback hub completionKey :=
    hub.processDisconnect completionKey
  iocpCallback_ne := by
    intro hub completionKey overlapped failed
    simp only [processIocp] at failed
    split at failed
    · split_ifs at failed
    · split_ifs at failed
    · split at failed
      · next fault refused =>
          cases failed
          exact Hub.packetOf_ne completionKey overlapped refused
      · cases failed
    · cases failed
    · cases failed

/-- What a callback of the lobby does. -/
theorem processIocp_cases
    {hub after : LobbyHub} {completionKey : CompletionKey}
    {overlapped : CustomOverlapped}
    (done : hub.processIocp completionKey overlapped = .ok after) :
    overlapped.operationType = .opAccept ∧
        overlapped.senderType = .client ∧
          after = hub.acceptClient completionKey ∨
      overlapped.operationType = .opConnect ∧
          overlapped.senderType = .controlServer ∧
            after = hub.connectControlServer completionKey ∨
        ∃ packetQueue, after = { hub with packetQueue := packetQueue } := by
  simp only [processIocp] at done
  split at done
  · next kind =>
      split_ifs at done with client
      · cases done
        exact .inl ⟨kind, client, rfl⟩
      · cases done
        exact .inr (.inr ⟨_, rfl⟩)
  · next kind =>
      split_ifs at done with control
      · cases done
        exact .inr (.inl ⟨kind, control, rfl⟩)
      · cases done
        exact .inr (.inr ⟨_, rfl⟩)
  · split at done
    · cases done
    · cases done
      exact .inr (.inr ⟨_, rfl⟩)
  · cases done
    exact .inr (.inr ⟨_, rfl⟩)
  · cases done
    exact .inr (.inr ⟨_, rfl⟩)

end LobbyHub

end IocpServer.LobbyServer
