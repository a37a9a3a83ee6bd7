import IocpServer.Library.TransitionSystem
import IocpServer.Utility.LockFreeCircleQueue
import IocpServer.Network.BasicData
import Mathlib.Data.Finmap

/-!
# The network manager, one call at a time

`NetworkManager` with the part of the system it talks to: the operations in
flight, and what became of the sockets it allocated.  A call takes the
answers of its system calls as arguments, and a completion names the
operation that is dequeued, so every order of completions and every pattern
of failures is a list of events.

`WSASocket` and `CreateIoCompletionPort` are taken to succeed.  The addresses
that `new SOCKET` returns are a part of the state, one after the other; the
address of a deleted object may be among them again.
-/

namespace IocpServer.Network

open IocpServer.Library
open IocpServer.Utility

/-- `WSA_IO_PENDING`. -/
def wsaIoPending : Int := 997

/-- What a posting call returns, and `WSAGetLastError` behind it. -/
structure PostAnswer where
  succeeded : Bool
  lastError : Int
deriving DecidableEq, Repr

/-- The test after `AcceptEx`, `ConnectEx`, `WSASend` and `WSARecv`. -/
def PostAnswer.failed (answer : PostAnswer) : Bool :=
  !answer.succeeded && answer.lastError != wsaIoPending

/-- An answer without an error. -/
def PostAnswer.success : PostAnswer := ⟨true, 0⟩

/-- `SOCKET_ERROR` with `WSAENOTSOCK`. -/
def PostAnswer.notSocket : PostAnswer := ⟨false, 10038⟩

/-- What `GetQueuedCompletionStatus` reports about the operation. -/
inductive CompletionStatus where
  | failed (errorCode : Int)
  /-- `bytes` is what a receive brought. -/
  | succeeded (bytes : List UInt8)
deriving DecidableEq, Repr

/--
The codes with a case in `ProcessCompletionHandler`: `WSAECONNRESET`,
`WSAECONNABORTED`, `WSAENETRESET`, `WSAETIMEDOUT`, `WSAENOTCONN`,
`WSAESHUTDOWN` and `ERROR_NETNAME_DELETED`.
-/
def disconnectCodes : List Int :=
  [10054, 10053, 10052, 10060, 10057, 10058, 64]

/-- The callbacks of `Construct`, over the state of their owner. -/
structure Callbacks (Owner : Type) where
  iocpCallback :
    Owner → CompletionKey → CustomOverlapped → Except Fault Owner
  disconnectCallback : Owner → CompletionKey → Owner
  /-- The pool is private to the network manager. -/
  iocpCallback_ne :
    ∀ owner completionKey overlapped,
      iocpCallback owner completionKey overlapped ≠
        .error .nullOverlapped

/-- The callbacks of an owner without state. -/
def Callbacks.idle : Callbacks Unit where
  iocpCallback _ _ _ := .ok ()
  disconnectCallback _ _ := ()
  iocpCallback_ne := nofun

/-- An `AcceptSetting`, `ConnectSetting`, `ReceiveSetting` or `SendSetting`. -/
structure OverlappedSetting where
  set : CustomOverlapped → Except Fault CustomOverlapped
  socket : SocketPointer
  operationType : OperationType
  set_ok :
    ∀ {overlapped posted},
      set overlapped = .ok posted →
        posted.address = overlapped.address ∧
          posted.operationType = operationType ∧
            posted.socket = some socket
  set_ne :
    ∀ overlapped, set overlapped ≠ .error .nullOverlapped

namespace OverlappedSetting

/-- `AcceptSetting` with its arguments. -/
def accept
    (socket : SocketPointer) (senderType : SenderType) :
    OverlappedSetting where
  set overlapped := .ok (overlapped.acceptSetting socket senderType)
  socket := socket
  operationType := .opAccept
  set_ok := by
    intro overlapped posted done
    cases done
    exact ⟨rfl, rfl, rfl⟩
  set_ne := by
    intro overlapped failed
    cases failed

/-- `ConnectSetting` with its arguments. -/
def connect
    (socket : SocketPointer) (senderType : SenderType) :
    OverlappedSetting where
  set overlapped := .ok (overlapped.connectSetting socket senderType)
  socket := socket
  operationType := .opConnect
  set_ok := by
    intro overlapped posted done
    cases done
    exact ⟨rfl, rfl, rfl⟩
  set_ne := by
    intro overlapped failed
    cases failed

/-- `ReceiveSetting` with its argument. -/
def receive (socket : SocketPointer) : OverlappedSetting where
  set overlapped := .ok (overlapped.receiveSetting socket)
  socket := socket
  operationType := .opRecv
  set_ok := by
    intro overlapped posted done
    cases done
    exact ⟨rfl, rfl, rfl⟩
  set_ne := by
    intro overlapped failed
    cases failed

/-- `SendSetting` with its arguments. -/
def send
    (socket : SocketPointer)
    (messageHeader : MessageHeader)
    (stringBuffer : List UInt8)
    (bodySize : Int32) :
    OverlappedSetting where
  set overlapped :=
    overlapped.sendSetting socket messageHeader stringBuffer
      bodySize.toUInt32
  socket := socket
  operationType := .opSend
  set_ok := CustomOverlapped.sendSetting_eq_ok
  set_ne := by
    intro overlapped failed
    simp only [CustomOverlapped.sendSetting] at failed
    split_ifs at failed <;> cases failed

end OverlappedSetting

/--
`NetworkManager` and what the system keeps for it.  `nextSocket` numbers the
`SOCKET` objects, and `socketNumber` tells which of them was the last one at
an address.  `connected` and `disconnected` list the keys that were registered
and the keys passed to `_disconnectCallback`, `connections` and `reported` the
numbers of the objects behind these keys.
-/
structure NetworkManager (Owner : Type) where
  senderType : SenderType
  overlappedQueue : LockFreeCircleQueue (RawPointer CustomOverlapped)
  prepareSocketMax : Nat
  preparedSocketQueue : LockFreeCircleQueue (RawPointer SocketPointer)
  listenSocket : SocketPointer
  connectedSocketMap : Finmap fun _ : CompletionKey => SocketPointer
  newAddress : Nat → SocketPointer
  nextSocket : Nat
  socketStatus : SocketPointer → SocketStatus
  socketNumber : SocketPointer → Nat
  outstanding : List CustomOverlapped
  connected : List CompletionKey
  disconnected : List CompletionKey
  connections : List Nat
  reported : List Nat
  owner : Owner

namespace NetworkManager

variable {Owner : Type}

/-- `Construct` pushes the new objects one after the other. -/
def constructQueue
    (overlappedQueueMax : Nat) (memory : Nat → BufferMemory) :
    LockFreeCircleQueue (RawPointer CustomOverlapped) :=
  (LockFreeCircleQueue.construct overlappedQueueMax).pushAll
    (fun address => .to (.construct address (memory address)))
    (List.range overlappedQueueMax)

/-- What the next `new SOCKET` returns. -/
def socketAddress (manager : NetworkManager Owner) : SocketPointer :=
  manager.newAddress manager.nextSocket

/-- `new SOCKET(WSASocket(...))`. -/
def newSocket (manager : NetworkManager Owner) : NetworkManager Owner :=
  { manager with
    nextSocket := manager.nextSocket + 1
    socketStatus :=
      Function.update manager.socketStatus manager.socketAddress .opened
    socketNumber :=
      Function.update manager.socketNumber manager.socketAddress
        manager.nextSocket }

/-- One round of the loop in `FillSocketQueue`. -/
def pushNewSocket (manager : NetworkManager Owner) :
    NetworkManager Owner :=
  { manager.newSocket with
    preparedSocketQueue :=
      (manager.preparedSocketQueue.push (.to manager.socketAddress)).2 }

/-- `FillSocketQueue`. -/
def fillSocketQueue (manager : NetworkManager Owner) :
    NetworkManager Owner :=
  pushNewSocket^[manager.prepareSocketMax] manager

/-- `Construct` and `SetupListenSocket`, up to its `FillSocketQueue`. -/
def listeningAt
    (newAddress : Nat → SocketPointer)
    (senderType : SenderType)
    (overlappedQueueMax prepareSocketMax : Nat)
    (memory : Nat → BufferMemory)
    (owner : Owner) :
    NetworkManager Owner where
  senderType := senderType
  overlappedQueue := constructQueue overlappedQueueMax memory
  prepareSocketMax := prepareSocketMax
  preparedSocketQueue := .construct prepareSocketMax
  listenSocket := 1
  connectedSocketMap := ∅
  newAddress := newAddress
  nextSocket := 2
  socketStatus := Function.update (fun _ => .deleted) 1 .opened
  socketNumber := Function.update (fun _ => 0) 1 1
  outstanding := []
  connected := []
  disconnected := []
  connections := []
  reported := []
  owner := owner

/-- `Construct` and `SetupListenSocket`. -/
def setupAt
    (newAddress : Nat → SocketPointer)
    (senderType : SenderType)
    (overlappedQueueMax prepareSocketMax : Nat)
    (memory : Nat → BufferMemory)
    (owner : Owner) :
    NetworkManager Owner :=
  (listeningAt newAddress senderType overlappedQueueMax prepareSocketMax
    memory owner).fillSocketQueue

/--
`Construct` and `SetupListenSocket`, with an address of its own for every
`new SOCKET`.
-/
def setup
    (senderType : SenderType)
    (overlappedQueueMax prepareSocketMax : Nat)
    (memory : Nat → BufferMemory)
    (owner : Owner) :
    NetworkManager Owner :=
  setupAt id senderType overlappedQueueMax prepareSocketMax memory owner

/-- The read of the `SOCKET` behind a `SOCKET*`. -/
def dereference
    (manager : NetworkManager Owner) (socket : SocketPointer) :
    Except Fault Unit :=
  if manager.socketStatus socket = .deleted then
    .error .danglingSocket
  else
    .ok ()

/--
The common part of the four posting functions: a `pop` of the pool, `Clear`,
the setting and the posting call.  A failed call only ends in a log entry.
-/
def post
    (manager : NetworkManager Owner)
    (setting : OverlappedSetting)
    (answer : PostAnswer) :
    Except Fault (Bool × NetworkManager Owner) :=
  match manager.overlappedQueue.pop with
  | (.null, _) => .error .nullOverlapped
  | (.to overlapped, popped) =>
      match setting.set overlapped.clear with
      | .error fault => .error fault
      | .ok posted =>
          match manager.dereference setting.socket with
          | .error fault => .error fault
          | .ok _ =>
              if answer.failed then
                .ok (false, { manager with overlappedQueue := popped })
              else
                .ok
                  (true,
                    { manager with
                      overlappedQueue := popped
                      outstanding := manager.outstanding ++ [posted] })

/-- The refill at the start of `PrepareAcceptSocket`. -/
def refill (manager : NetworkManager Owner) : NetworkManager Owner :=
  if manager.preparedSocketQueue.size < 1 then
    manager.fillSocketQueue
  else
    manager

/-- `PrepareAcceptSocket`. -/
def prepareAcceptSocket
    (manager : NetworkManager Owner)
    (senderType : SenderType)
    (errorCode : Int)
    (answer : PostAnswer) :
    Except Fault (NetworkManager Owner) :=
  match manager.refill.preparedSocketQueue.pop with
  | (.null, _) => .error .nullSocket
  | (.to targetSocket, popped) =>
      let taken := { manager.refill with preparedSocketQueue := popped }
      match taken.dereference targetSocket with
      | .error fault => .error fault
      | .ok _ =>
          if errorCode ≠ 0 then
            .ok taken
          else
            (taken.post (.accept targetSocket senderType) answer).map
              Prod.snd

/-- `SetupConnectSocket`. -/
def setupConnectSocket
    (manager : NetworkManager Owner)
    (senderType : SenderType)
    (bindFails ioctlFails : Bool)
    (answer : PostAnswer) :
    Except Fault (NetworkManager Owner) :=
  let connectSocket := manager.socketAddress
  let allocated := manager.newSocket
  if bindFails then
    .ok manager
  else if ioctlFails then
    .ok allocated
  else
    (allocated.post (.connect connectSocket senderType) answer).map
      Prod.snd

/-- `SendRequest`. -/
def sendRequest
    (manager : NetworkManager Owner)
    (targetSocket : CompletionKey)
    (contentType : UInt32)
    (stringBuffer : List UInt8)
    (bodySize : Int32)
    (answer : PostAnswer) :
    Except Fault (NetworkManager Owner) :=
  match manager.connectedSocketMap.lookup targetSocket with
  | none => .ok manager
  | some socket =>
      let responseBodySize := htonl bodySize.toUInt32
      let responseContentType := htonl contentType
      let messageHeader : MessageHeader :=
        ⟨manager.senderType.toUInt32, responseBodySize,
          responseContentType⟩
      (manager.post
        (.send socket messageHeader stringBuffer bodySize) answer).map
          Prod.snd

/-- `CallReceiveReady`. -/
def callReceiveReady
    (manager : NetworkManager Owner)
    (targetSocket : SocketPointer)
    (errorCode : Int)
    (answer : PostAnswer) :
    Except Fault (Bool × NetworkManager Owner) :=
  match manager.dereference targetSocket with
  | .error fault => .error fault
  | .ok _ =>
      if errorCode ≠ 0 then
        .ok (false, manager)
      else
        manager.post (.receive targetSocket) answer

/-- `ProcessDisconnect`. -/
def processDisconnect
    (manager : NetworkManager Owner) (targetSocket : SocketPointer) :
    Except Fault (Bool × NetworkManager Owner) :=
  match manager.socketStatus targetSocket with
  | .deleted => .error .danglingSocket
  | .invalidated => .ok (false, manager)
  | .opened | .closed =>
      .ok
        (true,
          { manager with
            socketStatus :=
              Function.update manager.socketStatus targetSocket
                .deleted })

/-- `HandleDisconnectComplete`. -/
def handleDisconnectComplete
    (callbacks : Callbacks Owner)
    (manager : NetworkManager Owner)
    (key : CompletionKey) :
    Except Fault (NetworkManager Owner) :=
  match manager.connectedSocketMap.lookup key with
  | none => .ok manager
  | some targetSocket =>
      match manager.processDisconnect targetSocket with
      | .error fault => .error fault
      | .ok (result, after) =>
          .ok
            { after with
              connectedSocketMap :=
                if result then
                  after.connectedSocketMap.erase key
                else
                  after.connectedSocketMap
              disconnected := after.disconnected ++ [key]
              reported :=
                after.reported ++ [after.socketNumber targetSocket]
              owner := callbacks.disconnectCallback after.owner key }

/-- A call of `_iocpCallback`. -/
def callIocpCallback
    (callbacks : Callbacks Owner)
    (manager : NetworkManager Owner)
    (completionKey : CompletionKey)
    (overlapped : CustomOverlapped) :
    Except Fault (NetworkManager Owner) :=
  match callbacks.iocpCallback manager.owner completionKey overlapped with
  | .error fault => .error fault
  | .ok owner => .ok { manager with owner := owner }

/-- `_connectedSocketMap.insert`, which keeps an entry that is there. -/
def register
    (manager : NetworkManager Owner) (targetSocket : SocketPointer) :
    NetworkManager Owner :=
  { manager with
    connectedSocketMap :=
      if targetSocket ∈ manager.connectedSocketMap then
        manager.connectedSocketMap
      else
        manager.connectedSocketMap.insert targetSocket targetSocket
    connected := manager.connected ++ [targetSocket]
    connections :=
      manager.connections ++ [manager.socketNumber targetSocket] }

/-- `HandleAcceptComplete` and `HandleConnectComplete`, which agree. -/
def handleConnectionComplete
    (callbacks : Callbacks Owner)
    (manager : NetworkManager Owner)
    (overlapped : CustomOverlapped)
    (errorCode : Int)
    (answer : PostAnswer) :
    Except Fault (NetworkManager Owner) :=
  match overlapped.socket with
  | none => .error .nullSocket
  | some targetSocket =>
      match
        (manager.register targetSocket).callIocpCallback callbacks
          targetSocket overlapped
      with
      | .error fault => .error fault
      | .ok called =>
          (called.callReceiveReady targetSocket errorCode answer).map
            Prod.snd

/-- `HandleAcceptComplete`. -/
def handleAcceptComplete
    (callbacks : Callbacks Owner)
    (manager : NetworkManager Owner)
    (overlapped : CustomOverlapped)
    (errorCode : Int)
    (answer : PostAnswer) :
    Except Fault (NetworkManager Owner) :=
  manager.handleConnectionComplete callbacks overlapped errorCode answer

/-- `HandleConnectComplete`. -/
def handleConnectComplete
    (callbacks : Callbacks Owner)
    (manager : NetworkManager Owner)
    (overlapped : CustomOverlapped)
    (errorCode : Int)
    (answer : PostAnswer) :
    Except Fault (NetworkManager Owner) :=
  manager.handleConnectionComplete callbacks overlapped errorCode answer

/-- `HandleReceiveComplete`. -/
def handleReceiveComplete
    (callbacks : Callbacks Owner)
    (manager : NetworkManager Owner)
    (completionKey : CompletionKey)
    (overlapped : CustomOverlapped)
    (bytes : Nat)
    (errorCode : Int)
    (answer : PostAnswer) :
    Except Fault (NetworkManager Owner) :=
  if bytes ≤ 0 then
    manager.handleDisconnectComplete callbacks completionKey
  else
    match overlapped.socket with
    | none => .error .nullSocket
    | some targetSocket =>
        match
          manager.callIocpCallback callbacks completionKey overlapped
        with
        | .error fault => .error fault
        | .ok called =>
            (called.callReceiveReady targetSocket errorCode answer).map
              Prod.snd

/-- `HandleSendComplete`. -/
def handleSendComplete
    (callbacks : Callbacks Owner)
    (manager : NetworkManager Owner)
    (completionKey : CompletionKey)
    (overlapped : CustomOverlapped) :
    Except Fault (NetworkManager Owner) :=
  manager.callIocpCallback callbacks completionKey overlapped

/-- The end of the loop body: `Clear` and the push into the pool. -/
def recycle
    (manager : NetworkManager Owner) (overlapped : CustomOverlapped) :
    NetworkManager Owner :=
  { manager with
    overlappedQueue :=
      (manager.overlappedQueue.push (.to overlapped.clear)).2 }

/--
The completion key of an operation: an `AcceptEx` completes on the listening
socket, every other operation on its own.
-/
def completionKey
    (manager : NetworkManager Owner) (overlapped : CustomOverlapped) :
    CompletionKey :=
  match overlapped.operationType with
  | .opAccept => manager.listenSocket
  | _ => overlapped.socket.getD manager.listenSocket

/-- The object with what the system has written into its buffers. -/
def received
    (overlapped : CustomOverlapped) (bytes : List UInt8) :
    CustomOverlapped :=
  match overlapped.operationType with
  | .opRecv => overlapped.kernelReceive bytes
  | _ => overlapped

/-- The switch over the operation of a successful completion. -/
def handleCompletion
    (callbacks : Callbacks Owner)
    (manager : NetworkManager Owner)
    (completionKey : CompletionKey)
    (overlapped : CustomOverlapped)
    (bytes : Nat)
    (errorCode : Int)
    (answer : PostAnswer) :
    Except Fault (NetworkManager Owner) :=
  match overlapped.operationType with
  | .opConnect =>
      manager.handleConnectComplete callbacks overlapped errorCode answer
  | .opAccept =>
      manager.handleAcceptComplete callbacks overlapped errorCode answer
  | .opRecv =>
      manager.handleReceiveComplete callbacks completionKey overlapped
        bytes errorCode answer
  | .opSend =>
      manager.handleSendComplete callbacks completionKey overlapped
  | .opDefault => .ok manager

/--
One round of the loop in `ProcessCompletionHandler`, for the operation that
`GetQueuedCompletionStatus` has dequeued from `manager`.
-/
def processCompletion
    (callbacks : Callbacks Owner)
    (manager : NetworkManager Owner)
    (overlapped : CustomOverlapped)
    (status : CompletionStatus)
    (errorCode : Int)
    (answer : PostAnswer) :
    Except Fault (NetworkManager Owner) :=
  let key := manager.completionKey overlapped
  match status with
  | .failed code =>
      if code ∈ disconnectCodes then
        (manager.handleDisconnectComplete callbacks key).map
          fun after => after.recycle overlapped
      else
        .ok (manager.recycle overlapped)
  | .succeeded bytes =>
      (manager.handleCompletion callbacks key (received overlapped bytes)
        bytes.length errorCode answer).map
          fun after => after.recycle (received overlapped bytes)

/-- The calls into the network manager, with the answers they get. -/
inductive NetworkEvent where
  | prepareAcceptSocket
      (senderType : SenderType) (errorCode : Int) (answer : PostAnswer)
  | setupConnectSocket
      (senderType : SenderType) (bindFails ioctlFails : Bool)
      (answer : PostAnswer)
  | sendRequest
      (targetSocket : CompletionKey) (contentType : UInt32)
      (stringBuffer : List UInt8) (bodySize : Int32)
      (answer : PostAnswer)
  /-- The operation at `index` completes. -/
  | completion
      (index : Nat) (status : CompletionStatus)
      (errorCode : Int) (answer : PostAnswer)

/-- One call, run to its end; without a completion the thread waits on. -/
def call
    (callbacks : Callbacks Owner)
    (manager : NetworkManager Owner) :
    NetworkEvent → Except Fault (NetworkManager Owner)
  | .prepareAcceptSocket senderType errorCode answer =>
      manager.prepareAcceptSocket senderType errorCode answer
  | .setupConnectSocket senderType bindFails ioctlFails answer =>
      manager.setupConnectSocket senderType bindFails ioctlFails answer
  | .sendRequest targetSocket contentType stringBuffer bodySize answer =>
      manager.sendRequest targetSocket contentType stringBuffer bodySize
        answer
  | .completion index status errorCode answer =>
      match manager.outstanding[index]? with
      | none => .ok manager
      | some overlapped =>
          processCompletion callbacks
            { manager with
              outstanding := manager.outstanding.eraseIdx index }
            overlapped status errorCode answer

/-- The network manager as a system; a fault ends the run. -/
def system (callbacks : Callbacks Owner) :
    TransitionSystem (NetworkManager Owner) NetworkEvent where
  step manager event := (manager.call callbacks event).toOption

end NetworkManager

end IocpServer.Network
