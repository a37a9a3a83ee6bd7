import IocpServer.Network.NetworkManager

/-!
# The hub's completion callback

`Hub::ProcessIocp` copies a finished receive into a packet and pushes it.
The header is read where the buffers start, whatever the receive has put
there, and the body is as long as the header says.
-/

namespace IocpServer.ControlServer

open IocpServer.Network
open IocpServer.Utility

/--
`std::string(buf, count)` with an `int` count: a negative one becomes a size
no string can have.
-/
def stringOfBuffer (buf : List UInt8) (count : Int32) :
    Except Fault (List UInt8) :=
  if count.toInt < 0 then
    .error .lengthError
  else if buf.length < count.toInt.toNat then
    .error .bufferOverread
  else
    .ok (buf.take count.toInt.toNat)

/-- The packet `ProcessIocp` makes of a finished receive. -/
def packetOf
    (completionKey : CompletionKey) (overlapped : CustomOverlapped) :
    Except Fault Packet :=
  let receivedHeader := MessageHeader.ofBytes overlapped.header.buf
  let bodySize := (ntohl receivedHeader.bodySize).toInt32
  match stringOfBuffer overlapped.body.buf bodySize with
  | .error fault => .error fault
  | .ok buffer =>
      .ok
        { completionKey := completionKey
          senderType := (ntohl receivedHeader.senderType).toInt32
          contentsType := (ntohl receivedHeader.contentsType).toInt32
          buffer := buffer }

/-- What `ProcessIocp` uses of the hub. -/
structure Hub where
  packetQueue : LockFreeCircleQueue (SharedPointer Packet)

namespace Hub

/-- `_packetQueue.Construct`. -/
def construct (packetQueueCapacity : Nat) : Hub where
  packetQueue := LockFreeCircleQueue.construct packetQueueCapacity

/-- `ProcessIocp`; the result of the push is not looked at. -/
def processIocp
    (hub : Hub)
    (completionKey : CompletionKey)
    (overlapped : CustomOverlapped) :
    Except Fault Hub :=
  match overlapped.operationType with
  | .opAccept => .ok hub
  | .opConnect => .ok hub
  | .opRecv =>
      match packetOf completionKey overlapped with
      | .error fault => .error fault
      | .ok packet =>
          .ok { hub with packetQueue := (hub.packetQueue.push (.to packet)).2 }
  | .opSend => .ok hub
  | .opDefault => .ok hub

/-- `ProcessDisconnect` of the hub does nothing. -/
def processDisconnect (hub : Hub) (_ : CompletionKey) : Hub :=
  hub

theorem packetOf_ne
    (completionKey : CompletionKey) (overlapped : CustomOverlapped) :
    packetOf completionKey overlapped ≠ .error .nullOverlapped := by
  simp only [packetOf, stringOfBuffer]
  split_ifs <;> nofun

/-- The callbacks the hub passes to `NetworkManager::Construct`. -/
def callbacks : Callbacks Hub where
  iocpCallback hub completionKey overlapped :=
    hub.processIocp completionKey overlapped
  disconnectCallback hub completionKey :=
    hub.processDisconnect completionKey
  iocpCallback_ne := by
    intro hub completionKey overlapped failed
    unfold processIocp at failed
    split at failed
    · cases failed
    · cases failed
    · split at failed
      · next fault refused =>
          cases failed
          exact packetOf_ne completionKey overlapped refused
      · cases failed
    · cases failed
    · cases failed

end Hub

end IocpServer.ControlServer
