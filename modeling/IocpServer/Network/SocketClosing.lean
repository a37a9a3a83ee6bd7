import IocpServer.Network.CallPhases
import Mathlib.Data.List.Nodup

/-!
# Closing a socket once

The sockets of the network manager where `new` may hand out the address of a
deleted socket again.  A completion that was posted for an older socket then
finds the entry of a younger one under its key, so a completion may carry any
key and any object here.  Only an accept or a connect completes once, and on
the socket it was posted for.

`CallReceiveReady`, `SendRequest` and the pool of overlapped objects change
none of what is followed here, and a `SOCKET` that cannot be bound is closed
before there is an object for it.
-/

namespace IocpServer.Network.SocketClosing

open IocpServer.Library

/-- What a `new SOCKET` has made; `identity` tells it from all others. -/
structure SocketObject where
  identity : Nat
  /-- `INVALID_SOCKET` is stored in it. -/
  invalid : Bool
deriving DecidableEq, Repr

/--
The `SOCKET` objects by their addresses, and where the network manager keeps
these.  `closed` and `deleted` list the objects passed to `closesocket` and
`delete`, `disconnected` the keys passed to `_disconnectCallback`, and
`shutdownErrors` what `ProcessDisconnect` has logged.
-/
structure SocketTable (Owner : Type) where
  listenSocket : SocketPointer
  sockets : SocketPointer → Option SocketObject
  created : Nat
  /-- In `_preparedSocketQueue`, or local to `SetupConnectSocket`. -/
  prepared : List SocketPointer
  /-- Accepts and connects in flight. -/
  pending : List SocketPointer
  connectedSocketMap : Finmap fun _ : CompletionKey => SocketPointer
  closed : List Nat
  deleted : List Nat
  shutdownErrors : List Int
  disconnected : List CompletionKey
  owner : Owner

namespace SocketTable

variable {Owner : Type}

/-- The table behind `SetupListenSocket`, before its `FillSocketQueue`. -/
def setup (listenSocket : SocketPointer) (owner : Owner) :
    SocketTable Owner where
  listenSocket := listenSocket
  sockets := Function.update (fun _ => none) listenSocket (some ⟨0, false⟩)
  created := 1
  prepared := []
  pending := []
  connectedSocketMap := ∅
  closed := []
  deleted := []
  shutdownErrors := []
  disconnected := []
  owner := owner

/--
`new SOCKET(WSASocket(...))` at an address without a live object; a
`WSASocket` that fails returns `INVALID_SOCKET`.
-/
def newSocket
    (table : SocketTable Owner) (address : SocketPointer) (fails : Bool) :
    SocketTable Owner :=
  { table with
    sockets :=
      Function.update table.sockets address (some ⟨table.created, fails⟩)
    created := table.created + 1
    prepared := table.prepared ++ [address] }

/--
`AcceptEx` or `ConnectEx` on a socket that was prepared for it.  Both fail
with `INVALID_SOCKET`; a socket they fail on is not used any more.
-/
def postConnection
    (table : SocketTable Owner)
    (socket : SocketPointer) (object : SocketObject) (answer : PostAnswer) :
    SocketTable Owner :=
  { table with
    prepared := table.prepared.erase socket
    pending :=
      if object.invalid || answer.failed then
        table.pending
      else
        table.pending ++ [socket] }

/-- `closesocket`. -/
def closesocket (table : SocketTable Owner) (object : SocketObject) :
    SocketTable Owner :=
  { table with closed := table.closed ++ [object.identity] }

/-- The end of `SetupConnectSocket` without `ConnectEx`. -/
def abandon
    (table : SocketTable Owner)
    (socket : SocketPointer) (object : SocketObject) :
    SocketTable Owner :=
  { table.closesocket object with
    prepared := table.prepared.erase socket }

/-- The store of `INVALID_SOCKET`. -/
def invalidate
    (table : SocketTable Owner)
    (socket : SocketPointer) (object : SocketObject) :
    SocketTable Owner :=
  { table with
    sockets :=
      Function.update table.sockets socket
        (some { object with invalid := true }) }

/-- `delete`. -/
def delete
    (table : SocketTable Owner)
    (socket : SocketPointer) (object : SocketObject) :
    SocketTable Owner :=
  { table with
    sockets := Function.update table.sockets socket none
    deleted := table.deleted ++ [object.identity] }

/-- `shutdown`, which is only logged if it fails. -/
def shutdown (table : SocketTable Owner) (error : Option Int) :
    SocketTable Owner :=
  { table with shutdownErrors := table.shutdownErrors ++ error.toList }

/-- `ProcessDisconnect`; the null pointer is no `SocketPointer`. -/
def processDisconnect
    (table : SocketTable Owner)
    (targetSocket : SocketPointer)
    (shutdownError : Option Int) :
    Except Fault (Bool × SocketTable Owner) :=
  match table.sockets targetSocket with
  | none => .error .danglingSocket
  | some object =>
      if object.invalid then
        .ok (false, table)
      else
        .ok
          (true,
            (((table.shutdown shutdownError).closesocket object).invalidate
              targetSocket object).delete targetSocket object)

/-- `HandleDisconnectComplete`. -/
def handleDisconnectComplete
    (callbacks : Callbacks Owner)
    (table : SocketTable Owner)
    (key : CompletionKey)
    (shutdownError : Option Int) :
    Except Fault (SocketTable Owner) :=
  match table.connectedSocketMap.lookup key with
  | none => .ok table
  | some targetSocket =>
      match table.processDisconnect targetSocket shutdownError with
      | .error fault => .error fault
      | .ok (result, after) =>
          .ok
            { after with
              connectedSocketMap :=
                if result then
                  after.connectedSocketMap.erase key
                else
                  after.connectedSocketMap
              disconnected := after.disconnected ++ [key]
              owner := callbacks.disconnectCallback after.owner key }

/-- A call of `_iocpCallback`. -/
def callIocpCallback
    (callbacks : Callbacks Owner)
    (table : SocketTable Owner)
    (completionKey : CompletionKey)
    (overlapped : CustomOverlapped) :
    Except Fault (SocketTable Owner) :=
  match callbacks.iocpCallback table.owner completionKey overlapped with
  | .error fault => .error fault
  | .ok owner => .ok { table with owner := owner }

/-- `_connectedSocketMap.insert`, which keeps an entry that is there. -/
def register (table : SocketTable Owner) (targetSocket : SocketPointer) :
    SocketTable Owner :=
  { table with
    connectedSocketMap :=
      if targetSocket ∈ table.connectedSocketMap then
        table.connectedSocketMap
      else
        table.connectedSocketMap.insert targetSocket targetSocket }

/-- `HandleAcceptComplete` and `HandleConnectComplete`, which agree. -/
def handleConnectionComplete
    (callbacks : Callbacks Owner)
    (table : SocketTable Owner)
    (overlapped : CustomOverlapped) :
    Except Fault (SocketTable Owner) :=
  match overlapped.socket with
  | none => .error .nullSocket
  | some targetSocket =>
      (table.register targetSocket).callIocpCallback callbacks targetSocket
        overlapped

/-- `HandleAcceptComplete`. -/
def handleAcceptComplete
    (callbacks : Callbacks Owner)
    (table : SocketTable Owner)
    (overlapped : CustomOverlapped) :
    Except Fault (SocketTable Owner) :=
  table.handleConnectionComplete callbacks overlapped

/-- `HandleConnectComplete`. -/
def handleConnectComplete
    (callbacks : Callbacks Owner)
    (table : SocketTable Owner)
    (overlapped : CustomOverlapped) :
    Except Fault (SocketTable Owner) :=
  table.handleConnectionComplete callbacks overlapped

/-- `HandleReceiveComplete`. -/
def handleReceiveComplete
    (callbacks : Callbacks Owner)
    (table : SocketTable Owner)
    (completionKey : CompletionKey)
    (overlapped : CustomOverlapped)
    (bytes : Nat)
    (shutdownError : Option Int) :
    Except Fault (SocketTable Owner) :=
  if bytes ≤ 0 then
    table.handleDisconnectComplete callbacks completionKey shutdownError
  else
    table.callIocpCallback callbacks completionKey overlapped

/-- `HandleSendComplete`. -/
def handleSendComplete
    (callbacks : Callbacks Owner)
    (table : SocketTable Owner)
    (completionKey : CompletionKey)
    (overlapped : CustomOverlapped) :
    Except Fault (SocketTable Owner) :=
  table.callIocpCallback callbacks completionKey overlapped

/-- The switches in the loop of `ProcessCompletionHandler`. -/
def processCompletion
    (callbacks : Callbacks Owner)
    (table : SocketTable Owner)
    (status : CompletionStatus)
    (completionKey : CompletionKey)
    (overlapped : CustomOverlapped)
    (shutdownError : Option Int) :
    Except Fault (SocketTable Owner) :=
  match status with
  | .failed code =>
      if code ∈ disconnectCodes then
        table.handleDisconnectComplete callbacks completionKey shutdownError
      else
        .ok table
  | .succeeded bytes =>
      let received := NetworkManager.received overlapped bytes
      match received.operationType with
      | .opConnect => table.handleConnectComplete callbacks received
      | .opAccept => table.handleAcceptComplete callbacks received
      | .opRecv =>
          table.handleReceiveComplete callbacks completionKey received
            bytes.length shutdownError
      | .opSend =>
          table.handleSendComplete callbacks completionKey received
      | .opDefault => .ok table

/-- An accept or a connect in flight completes once. -/
def finishConnection (table : SocketTable Owner) :
    Option SocketPointer → Option (SocketTable Owner)
  | none => none
  | some socket =>
      if socket ∈ table.pending then
        some { table with pending := table.pending.erase socket }
      else
        none

/-- `GetQueuedCompletionStatus` returns with an operation. -/
def dequeue (table : SocketTable Owner) (overlapped : CustomOverlapped) :
    Option (SocketTable Owner) :=
  match overlapped.operationType with
  | .opAccept | .opConnect => table.finishConnection overlapped.socket
  | .opDefault | .opRecv | .opSend => some table

end SocketTable

/-- A `SOCKET` object is made, or goes on, or a completion is handled. -/
inductive ClosingEvent where
  | newSocket (address : SocketPointer) (fails : Bool)
  | postConnection (socket : SocketPointer) (answer : PostAnswer)
  | abandon (socket : SocketPointer)
  | completion
      (status : CompletionStatus) (completionKey : CompletionKey)
      (overlapped : CustomOverlapped) (shutdownError : Option Int)

variable {Owner : Type}

/-- The sockets as a system; a fault ends the run. -/
def system (callbacks : Callbacks Owner) :
    TransitionSystem (SocketTable Owner) ClosingEvent where
  step table
    | .newSocket address fails =>
        match table.sockets address with
        | some _ => none
        | none => some (table.newSocket address fails)
    | .postConnection socket answer =>
        if socket ∈ table.prepared then
          (table.sockets socket).map fun object =>
            table.postConnection socket object answer
        else
          none
    | .abandon socket =>
        if socket ∈ table.prepared then
          (table.sockets socket).map fun object =>
            table.abandon socket object
        else
          none
    | .completion status completionKey overlapped shutdownError =>
        match table.dequeue overlapped with
        | none => none
        | some dequeued =>
            (dequeued.processCompletion callbacks status completionKey
              overlapped shutdownError).toOption

/--
A step calls `_disconnectCallback` once for a key that leaves the map and for
no other key, and leaves the entries of all other keys as they are.
-/
structure DisconnectsOnce (before after : SocketTable Owner) : Prop where
  callback :
    ∀ key,
      after.disconnected.count key =
        before.disconnected.count key +
          if key ∈ before.connectedSocketMap ∧
              key ∉ after.connectedSocketMap then
            1
          else
            0
  others :
    ∀ key ∈ before.connectedSocketMap, key ∉ after.connectedSocketMap →
      ∀ other, other ≠ key →
        after.connectedSocketMap.lookup other =
          before.connectedSocketMap.lookup other
  stays :
    ∀ key ∈ before.connectedSocketMap, key ∈ after.connectedSocketMap →
      after.connectedSocketMap.lookup key =
        before.connectedSocketMap.lookup key

namespace SocketTable

/-! ## Where the sockets are -/

/-- The sockets that are not registered yet, and the listening one. -/
def waiting (table : SocketTable Owner) : List SocketPointer :=
  table.listenSocket :: (table.prepared ++ table.pending)

/-- There is an object that was not closed. -/
def Open (table : SocketTable Owner) (socket : SocketPointer) : Prop :=
  ∃ object,
    table.sockets socket = some object ∧ object.identity ∉ table.closed

/-- There is an object that was not closed and holds a `SOCKET`. -/
def Usable (table : SocketTable Owner) (socket : SocketPointer) : Prop :=
  ∃ object,
    table.sockets socket = some object ∧
      object.identity ∉ table.closed ∧ object.invalid = false

/--
Every object is one of its own, and a socket is waiting in one place or
registered under its own address.
-/
structure Sound (table : SocketTable Owner) : Prop where
  numbered :
    ∀ socket object,
      table.sockets socket = some object → object.identity < table.created
  distinct :
    ∀ first second object other,
      table.sockets first = some object →
        table.sockets second = some other →
          object.identity = other.identity → first = second
  closedCreated : ∀ identity ∈ table.closed, identity < table.created
  deletedClosed : ∀ identity ∈ table.deleted, identity ∈ table.closed
  closedOnce : table.closed.Nodup
  deletedOnce : table.deleted.Nodup
  waitingOnce : table.waiting.Nodup
  waitingOpen : ∀ socket ∈ table.waiting, table.Open socket
  unregistered :
    ∀ socket ∈ table.waiting, socket ∉ table.connectedSocketMap
  pendingUsable : ∀ socket ∈ table.pending, table.Usable socket
  entry :
    ∀ key socket,
      table.connectedSocketMap.lookup key = some socket →
        socket = key ∧ table.Usable socket

section Steps

variable {table : SocketTable Owner}

theorem setup_sound (listenSocket : SocketPointer) (owner : Owner) :
    (setup listenSocket owner).Sound := by
  have atListening :
      (setup listenSocket owner).sockets listenSocket = some ⟨0, false⟩ := by
    simp only [setup, Function.update_self]
  have only {socket : SocketPointer} {object : SocketObject}
      (present : (setup listenSocket owner).sockets socket = some object) :
      socket = listenSocket ∧ object = ⟨0, false⟩ := by
    change
      Function.update (fun _ => none) listenSocket (some ⟨0, false⟩) socket =
        some object at present
    rw [Function.update_apply] at present
    split_ifs at present with same
    cases present
    exact ⟨same, rfl⟩
  exact
    { numbered := by
        intro socket object present
        rw [(only present).2]
        exact Nat.zero_lt_one
      distinct := by
        intro first second object other atFirst atSecond _
        rw [(only atFirst).1, (only atSecond).1]
      closedCreated := nofun
      deletedClosed := nofun
      closedOnce := List.nodup_nil
      deletedOnce := List.nodup_nil
      waitingOnce := List.nodup_singleton listenSocket
      waitingOpen := by
        intro socket present
        rw [List.mem_singleton.mp present]
        exact ⟨⟨0, false⟩, atListening, List.not_mem_nil⟩
      unregistered := fun _ _ => Finmap.notMem_empty
      pendingUsable := nofun
      entry := by
        intro key socket present
        cases present }

/-- Sockets may change their place, and be given up. -/
theorem Sound.move {prepared pending : List SocketPointer}
    (sound : table.Sound)
    (once : (table.listenSocket :: (prepared ++ pending)).Nodup)
    (kept :
      ∀ socket ∈ table.listenSocket :: (prepared ++ pending),
        socket ∈ table.waiting)
    (usable : ∀ socket ∈ pending, table.Usable socket) :
    Sound { table with prepared := prepared, pending := pending } :=
  { sound with
    waitingOnce := once
    waitingOpen := fun socket present =>
      sound.waitingOpen socket (kept socket present)
    unregistered := fun socket present =>
      sound.unregistered socket (kept socket present)
    pendingUsable := usable }

/-- Another object stays open when one is closed. -/
theorem Sound.open_close {socket other : SocketPointer} {object : SocketObject}
    (sound : table.Sound) (present : table.sockets socket = some object)
    (different : other ≠ socket) :
    (table.Open other → (table.closesocket object).Open other) ∧
      (table.Usable other → (table.closesocket object).Usable other) := by
  have notThis {found : SocketObject}
      (atOther : table.sockets other = some found)
      (isOpen : found.identity ∉ table.closed) :
      found.identity ∉ (table.closesocket object).closed := by
    intro closed
    rcases List.mem_append.mp closed with before | this
    · exact isOpen before
    · exact
        different
          (sound.distinct other socket found object atOther present
            (List.mem_singleton.mp this))
  constructor
  · rintro ⟨found, atOther, isOpen⟩
    exact ⟨found, atOther, notThis atOther isOpen⟩
  · rintro ⟨found, atOther, isOpen, valid⟩
    exact ⟨found, atOther, notThis atOther isOpen, valid⟩

/--
What happens to a socket without a place leaves the placed ones open if it
leaves all others so.
-/
theorem Sound.carry {socket : SocketPointer} {after : SocketTable Owner}
    (sound : table.Sound)
    (notWaiting : socket ∉ table.waiting)
    (missing : socket ∉ table.connectedSocketMap)
    (frame :
      ∀ other, other ≠ socket →
        (table.Open other → after.Open other) ∧
          (table.Usable other → after.Usable other)) :
    (∀ other ∈ table.waiting, after.Open other) ∧
      (∀ other ∈ table.pending, after.Usable other) ∧
        ∀ key other,
          table.connectedSocketMap.lookup key = some other →
            other = key ∧ after.Usable other := by
  have apart {other : SocketPointer} (isWaiting : other ∈ table.waiting) :
      other ≠ socket :=
    fun same => notWaiting (same ▸ isWaiting)
  refine ⟨?_, ?_, ?_⟩
  · intro other isWaiting
    exact (frame other (apart isWaiting)).1 (sound.waitingOpen other isWaiting)
  · intro other isPending
    have isWaiting : other ∈ table.waiting :=
      List.mem_cons_of_mem _ (List.mem_append_right _ isPending)
    exact
      (frame other (apart isWaiting)).2 (sound.pendingUsable other isPending)
  · intro key other found
    rcases sound.entry key other found with ⟨same, usable⟩
    have different : other ≠ socket := by
      intro also
      apply missing
      rw [← also, same]
      exact Finmap.mem_iff.mpr ⟨other, found⟩
    exact ⟨same, (frame other different).2 usable⟩

/-- An open object without a place may be closed. -/
theorem Sound.close {socket : SocketPointer} {object : SocketObject}
    (sound : table.Sound) (present : table.sockets socket = some object)
    (isOpen : object.identity ∉ table.closed)
    (notWaiting : socket ∉ table.waiting)
    (missing : socket ∉ table.connectedSocketMap) :
    (table.closesocket object).Sound := by
  rcases sound.carry notWaiting missing fun _ different =>
      sound.open_close present different with
    ⟨waitingOpen, pendingUsable, entry⟩
  refine
    { sound with
      closedCreated := ?_
      deletedClosed := ?_
      closedOnce := ?_
      waitingOpen := waitingOpen
      pendingUsable := pendingUsable
      entry := entry }
  · intro identity closed
    rcases List.mem_append.mp closed with before | this
    · exact sound.closedCreated identity before
    · rw [List.mem_singleton.mp this]
      exact sound.numbered socket object present
  · intro identity deleted
    exact List.mem_append_left _ (sound.deletedClosed identity deleted)
  · exact List.Nodup.append sound.closedOnce (List.nodup_singleton _)
      (List.disjoint_singleton.mpr isOpen)

/-- A new object is prepared at a free address. -/
theorem Sound.newSocket {address : SocketPointer}
    (sound : table.Sound) (free : table.sockets address = none)
    (fails : Bool) :
    (table.newSocket address fails).Sound := by
  have notWaiting : address ∉ table.waiting := by
    intro isWaiting
    rcases sound.waitingOpen address isWaiting with ⟨object, present, -⟩
    rw [free] at present
    cases present
  have missing : address ∉ table.connectedSocketMap := by
    intro registered
    rcases Finmap.mem_iff.mp registered with ⟨socket, found⟩
    rcases sound.entry address socket found with ⟨rfl, object, present, -⟩
    rw [free] at present
    cases present
  have atNew :
      (table.newSocket address fails).sockets address =
        some ⟨table.created, fails⟩ :=
    Function.update_self address _ _
  have atOther {socket : SocketPointer} (different : socket ≠ address) :
      (table.newSocket address fails).sockets socket = table.sockets socket :=
    Function.update_of_ne different _ _
  have numbered {socket : SocketPointer} {object : SocketObject}
      (present :
        (table.newSocket address fails).sockets socket = some object) :
      socket = address ∧ object.identity = table.created ∨
        socket ≠ address ∧ table.sockets socket = some object ∧
          object.identity < table.created := by
    by_cases same : socket = address
    · rw [same, atNew] at present
      cases present
      exact .inl ⟨same, rfl⟩
    · rw [atOther same] at present
      exact .inr ⟨same, present, sound.numbered socket object present⟩
  have waiting :
      (table.newSocket address fails).waiting.Perm
        (address :: table.waiting) := by
    simp only [SocketTable.waiting, SocketTable.newSocket]
    grind
  have frame (socket : SocketPointer) (different : socket ≠ address) :
      (table.Open socket → (table.newSocket address fails).Open socket) ∧
        (table.Usable socket →
          (table.newSocket address fails).Usable socket) := by
    simp only [SocketTable.Open, Usable, atOther different]
    exact ⟨id, id⟩
  rcases sound.carry notWaiting missing frame with
    ⟨waitingOpen, pendingUsable, entry⟩
  refine
    { numbered := ?_
      distinct := ?_
      closedCreated := ?_
      deletedClosed := sound.deletedClosed
      closedOnce := sound.closedOnce
      deletedOnce := sound.deletedOnce
      waitingOnce := ?_
      waitingOpen := ?_
      unregistered := ?_
      pendingUsable := pendingUsable
      entry := entry }
  · intro socket object present
    change _ < table.created + 1
    rcases numbered present with ⟨-, new⟩ | ⟨-, -, old⟩
    · omega
    · omega
  · intro first second object other atFirst atSecond same
    rcases numbered atFirst with ⟨firstNew, new⟩ | ⟨firstOld, before, old⟩
    · rcases numbered atSecond with ⟨secondNew, -⟩ | ⟨-, -, secondOld⟩
      · rw [firstNew, secondNew]
      · omega
    · rcases numbered atSecond with ⟨-, secondNew⟩ | ⟨-, secondBefore, -⟩
      · omega
      · exact sound.distinct first second object other before secondBefore same
  · intro identity closed
    exact Nat.lt_succ_of_lt (sound.closedCreated identity closed)
  · rw [waiting.nodup_iff, List.nodup_cons]
    exact ⟨notWaiting, sound.waitingOnce⟩
  · intro socket isWaiting
    rcases List.mem_cons.mp (waiting.mem_iff.mp isWaiting) with new | old
    · rw [new]
      refine ⟨_, atNew, ?_⟩
      intro closed
      exact Nat.lt_irrefl _ (sound.closedCreated _ closed)
    · exact waitingOpen socket old
  · intro socket isWaiting
    rcases List.mem_cons.mp (waiting.mem_iff.mp isWaiting) with new | old
    · rw [new]
      exact missing
    · exact sound.unregistered socket old

/-- A closed object without a place may be deleted. -/
theorem Sound.delete {socket : SocketPointer} {object : SocketObject}
    (sound : table.Sound)
    (isClosed : object.identity ∈ table.closed)
    (notDeleted : object.identity ∉ table.deleted)
    (notWaiting : socket ∉ table.waiting)
    (missing : socket ∉ table.connectedSocketMap) :
    (table.delete socket object).Sound := by
  have atOther {other : SocketPointer} (different : other ≠ socket) :
      (table.delete socket object).sockets other = table.sockets other :=
    Function.update_of_ne different _ _
  have before {other : SocketPointer} {found : SocketObject}
      (present : (table.delete socket object).sockets other = some found) :
      table.sockets other = some found := by
    by_cases same : other = socket
    · have gone : (table.delete socket object).sockets socket = none :=
        Function.update_self socket _ _
      rw [same, gone] at present
      cases present
    · rw [← atOther same]
      exact present
  have frame (other : SocketPointer) (different : other ≠ socket) :
      (table.Open other → (table.delete socket object).Open other) ∧
        (table.Usable other →
          (table.delete socket object).Usable other) := by
    simp only [SocketTable.Open, Usable, atOther different]
    exact ⟨id, id⟩
  rcases sound.carry notWaiting missing frame with
    ⟨waitingOpen, pendingUsable, entry⟩
  refine
    { sound with
      numbered := fun other found present =>
        sound.numbered other found (before present)
      distinct := fun first second found other atFirst atSecond =>
        sound.distinct first second found other (before atFirst)
          (before atSecond)
      deletedClosed := ?_
      deletedOnce := ?_
      waitingOpen := waitingOpen
      pendingUsable := pendingUsable
      entry := entry }
  · intro identity deleted
    rcases List.mem_append.mp deleted with earlier | this
    · exact sound.deletedClosed identity earlier
    · rw [List.mem_singleton.mp this]
      exact isClosed
  · exact List.Nodup.append sound.deletedOnce (List.nodup_singleton _)
      (List.disjoint_singleton.mpr notDeleted)

/-- A usable socket without a place may be registered. -/
theorem Sound.register {socket : SocketPointer}
    (sound : table.Sound) (usable : table.Usable socket)
    (notWaiting : socket ∉ table.waiting)
    (missing : socket ∉ table.connectedSocketMap) :
    (table.register socket).Sound ∧
      (table.register socket).connectedSocketMap =
        table.connectedSocketMap.insert socket socket := by
  have map :
      (table.register socket).connectedSocketMap =
        table.connectedSocketMap.insert socket socket :=
    if_neg missing
  refine ⟨{ sound with unregistered := ?_, entry := ?_ }, map⟩
  · intro other isWaiting
    rw [map, Finmap.mem_insert, not_or]
    exact
      ⟨fun same => notWaiting (same ▸ isWaiting),
        sound.unregistered other isWaiting⟩
  · intro key other found
    rw [map] at found
    by_cases same : key = socket
    · rw [same, Finmap.lookup_insert] at found
      cases found
      exact ⟨same.symm, usable⟩
    · rw [Finmap.lookup_insert_of_ne _ same] at found
      exact sound.entry key other found

/-- An entry may be erased. -/
theorem Sound.erase (sound : table.Sound) (key : CompletionKey) :
    Sound
      { table with
        connectedSocketMap := table.connectedSocketMap.erase key } := by
  refine { sound with unregistered := ?_, entry := ?_ }
  · intro socket isWaiting registered
    exact
      sound.unregistered socket isWaiting
        (Finmap.mem_erase.mp registered).2
  · intro other socket found
    by_cases same : other = key
    · rw [same, Finmap.lookup_erase] at found
      cases found
    · rw [Finmap.lookup_erase_ne same] at found
      exact sound.entry other socket found

/-- Nothing else depends on the callbacks' owner and on what is logged. -/
theorem Sound.log
    (sound : table.Sound) (shutdownErrors : List Int)
    (disconnected : List CompletionKey) (owner : Owner) :
    Sound
      { table with
        shutdownErrors := shutdownErrors
        disconnected := disconnected
        owner := owner } :=
  { sound with }

/-! ## What a step does to the map -/

/-- What a step does to the map, and whether it calls `_disconnectCallback`. -/
inductive Effect (before after : SocketTable Owner) : Prop where
  | unchanged
      (map : after.connectedSocketMap = before.connectedSocketMap)
      (calls : after.disconnected = before.disconnected)
  | joins (key : CompletionKey)
      (missing : key ∉ before.connectedSocketMap)
      (map :
        after.connectedSocketMap = before.connectedSocketMap.insert key key)
      (calls : after.disconnected = before.disconnected)
  | leaves (key : CompletionKey)
      (registered : key ∈ before.connectedSocketMap)
      (map : after.connectedSocketMap = before.connectedSocketMap.erase key)
      (calls : after.disconnected = before.disconnected ++ [key])

/-- In any of these cases the callback is called once for what leaves. -/
theorem Effect.disconnectsOnce {before after : SocketTable Owner}
    (effect : Effect before after) : DisconnectsOnce before after := by
  cases effect with
  | unchanged map calls =>
      refine ⟨?_, ?_, ?_⟩
      · intro key
        rw [map, calls, if_neg fun leaves => leaves.2 leaves.1, Nat.add_zero]
      · intro key registered gone
        rw [map] at gone
        exact absurd registered gone
      · intro key _ _
        rw [map]
  | joins key missing map calls =>
      have kept {other : CompletionKey}
          (registered : other ∈ before.connectedSocketMap) :
          other ∈ after.connectedSocketMap := by
        rw [map]
        exact Finmap.mem_insert.mpr (.inr registered)
      refine ⟨?_, ?_, ?_⟩
      · intro other
        rw [calls, if_neg fun leaves => leaves.2 (kept leaves.1),
          Nat.add_zero]
      · intro other registered gone
        exact absurd (kept registered) gone
      · intro other registered _
        have different : other ≠ key := fun same => missing (same ▸ registered)
        rw [map, Finmap.lookup_insert_of_ne _ different]
  | leaves key registered map calls =>
      have gone : key ∉ after.connectedSocketMap := by
        rw [map]
        exact fun present => (Finmap.mem_erase.mp present).1 rfl
      have others (other : CompletionKey) (different : other ≠ key) :
          after.connectedSocketMap.lookup other =
            before.connectedSocketMap.lookup other := by
        rw [map, Finmap.lookup_erase_ne different]
      have onlyKey {other : CompletionKey}
          (before' : other ∈ before.connectedSocketMap)
          (after' : other ∉ after.connectedSocketMap) : other = key := by
        by_contra different
        apply after'
        rw [map]
        exact Finmap.mem_erase.mpr ⟨different, before'⟩
      refine ⟨?_, ?_, ?_⟩
      · intro other
        rw [calls, List.count_append, List.count_singleton]
        by_cases same : other = key
        · rw [same, if_pos (beq_self_eq_true key), if_pos ⟨registered, gone⟩]
        · rw [if_neg fun equal => same (beq_iff_eq.mp equal).symm,
            if_neg fun leaves => same (onlyKey leaves.1 leaves.2)]
      · intro other before' after' third different
        rw [onlyKey before' after'] at different
        exact others third different
      · intro other _ after'
        apply others other
        rintro rfl
        exact gone after'

/--
With a registered key `HandleDisconnectComplete` closes and deletes its
socket, with any other it does nothing.
-/
theorem handleDisconnectComplete_of_sound
    (sound : table.Sound) (callbacks : Callbacks Owner)
    (key : CompletionKey) (shutdownError : Option Int) :
    ∃ after,
      table.handleDisconnectComplete callbacks key shutdownError =
          .ok after ∧
        after.Sound ∧ Effect table after := by
  unfold handleDisconnectComplete
  cases found : table.connectedSocketMap.lookup key with
  | none => exact ⟨table, rfl, sound, .unchanged rfl rfl⟩
  | some socket =>
      rcases sound.entry key socket found with
        ⟨rfl, object, present, isOpen, valid⟩
      have registered : socket ∈ table.connectedSocketMap :=
        Finmap.mem_iff.mpr ⟨socket, found⟩
      have notWaiting : socket ∉ table.waiting :=
        fun isWaiting => sound.unregistered socket isWaiting registered
      have notDeleted : object.identity ∉ table.deleted :=
        fun deleted => isOpen (sound.deletedClosed _ deleted)
      have missing :
          socket ∉ table.connectedSocketMap.erase socket :=
        fun still => (Finmap.mem_erase.mp still).1 rfl
      -- the entry is erased last, but the order does not matter to the table
      have closed := (sound.erase socket).close present isOpen notWaiting missing
      have isClosed :
          object.identity ∈ table.closed ++ [object.identity] :=
        List.mem_append_right _ (List.mem_singleton_self object.identity)
      have deleted := closed.delete isClosed notDeleted notWaiting missing
      have logged :=
        deleted.log (table.shutdownErrors ++ shutdownError.toList)
          (table.disconnected ++ [socket])
          (callbacks.disconnectCallback table.owner socket)
      have disconnects :
          table.processDisconnect socket shutdownError =
            .ok
              (true,
                (((table.shutdown shutdownError).closesocket object).invalidate
                  socket object).delete socket object) := by
        rw [processDisconnect, present]
        exact if_neg (by rw [valid]; exact Bool.false_ne_true)
      simp only [disconnects]
      refine ⟨_, rfl, ?_, .leaves socket registered rfl rfl⟩
      simpa only [shutdown, closesocket, invalidate, SocketTable.delete,
        Function.update_idem, if_true] using logged

/-- `_iocpCallback` changes its owner alone. -/
theorem callIocpCallback_of_ok
    {callbacks : Callbacks Owner} {key : CompletionKey}
    {overlapped : CustomOverlapped} {after : SocketTable Owner}
    (sound : table.Sound)
    (called :
      table.callIocpCallback callbacks key overlapped = .ok after) :
    after.Sound ∧ after.connectedSocketMap = table.connectedSocketMap ∧
      after.disconnected = table.disconnected := by
  unfold callIocpCallback at called
  split at called
  · cases called
  · cases called
    exact ⟨sound.log table.shutdownErrors table.disconnected _, rfl, rfl⟩

/-- A finished accept or connect registers its socket. -/
theorem handleConnectionComplete_of_ok
    {callbacks : Callbacks Owner} {overlapped : CustomOverlapped}
    {socket : SocketPointer} {after : SocketTable Owner}
    (sound : table.Sound)
    (target : overlapped.socket = some socket)
    (usable : table.Usable socket)
    (notWaiting : socket ∉ table.waiting)
    (missing : socket ∉ table.connectedSocketMap)
    (handled :
      table.handleConnectionComplete callbacks overlapped = .ok after) :
    after.Sound ∧ Effect table after := by
  simp only [handleConnectionComplete, target] at handled
  rcases sound.register usable notWaiting missing with ⟨registered, map⟩
  rcases callIocpCallback_of_ok registered handled with
    ⟨after', sameMap, calls⟩
  exact ⟨after', .joins socket missing (sameMap.trans map) calls⟩

/-- The handlers behind a dequeued completion. -/
theorem processCompletion_of_ok
    {callbacks : Callbacks Owner} {status : CompletionStatus}
    {key : CompletionKey} {overlapped : CustomOverlapped}
    {shutdownError : Option Int} {after : SocketTable Owner}
    (sound : table.Sound)
    (opens :
      overlapped.operationType = .opAccept ∨
          overlapped.operationType = .opConnect →
        ∃ socket,
          overlapped.socket = some socket ∧ table.Usable socket ∧
            socket ∉ table.waiting ∧ socket ∉ table.connectedSocketMap)
    (handled :
      table.processCompletion callbacks status key overlapped
        shutdownError = .ok after) :
    after.Sound ∧ Effect table after := by
  have disconnects (key : CompletionKey) {after : SocketTable Owner}
      (handled :
        table.handleDisconnectComplete callbacks key shutdownError =
          .ok after) :
      after.Sound ∧ Effect table after := by
    rcases handleDisconnectComplete_of_sound sound callbacks key
        shutdownError with
      ⟨after', alsoHandled, done⟩
    rw [alsoHandled] at handled
    cases handled
    exact done
  have calls {received : CustomOverlapped} {after : SocketTable Owner}
      (called : table.callIocpCallback callbacks key received = .ok after) :
      after.Sound ∧ Effect table after := by
    rcases callIocpCallback_of_ok sound called with ⟨after', map, same⟩
    exact ⟨after', .unchanged map same⟩
  cases status with
  | failed code =>
      simp only [processCompletion] at handled
      split_ifs at handled
      · exact disconnects key handled
      · cases handled
        exact ⟨sound, .unchanged rfl rfl⟩
  | succeeded bytes =>
      have connects
          (isOpening :
            overlapped.operationType = .opAccept ∨
              overlapped.operationType = .opConnect)
          (handled :
            table.handleConnectionComplete callbacks
              (NetworkManager.received overlapped bytes) = .ok after) :
          after.Sound ∧ Effect table after := by
        rcases opens isOpening with
          ⟨socket, target, usable, notWaiting, missing⟩
        rw [← NetworkManager.received_socket overlapped bytes] at target
        exact
          handleConnectionComplete_of_ok sound target usable notWaiting
            missing handled
      simp only [processCompletion,
        NetworkManager.received_operationType] at handled
      split at handled
      · next isConnect => exact connects (.inr isConnect) handled
      · next isAccept => exact connects (.inl isAccept) handled
      · rw [handleReceiveComplete] at handled
        split_ifs at handled
        · exact disconnects key handled
        · exact calls handled
      · exact calls handled
      · cases handled
        exact ⟨sound, .unchanged rfl rfl⟩

/-- The effect depends on the map and the calls in front of it alone. -/
theorem Effect.of_same {before same after : SocketTable Owner}
    (effect : Effect same after)
    (map : same.connectedSocketMap = before.connectedSocketMap)
    (calls : same.disconnected = before.disconnected) :
    Effect before after := by
  cases effect with
  | unchanged map' calls' =>
      exact .unchanged (map'.trans map) (calls'.trans calls)
  | joins key missing map' calls' =>
      rw [map] at missing map'
      exact .joins key missing map' (calls'.trans calls)
  | leaves key registered map' calls' =>
      rw [map] at registered map'
      rw [calls] at calls'
      exact .leaves key registered map' calls'

/-- A socket that leaves its place is open, and in no other place. -/
theorem Sound.leave {socket : SocketPointer}
    {prepared pending : List SocketPointer}
    (sound : table.Sound)
    (rearranged :
      table.waiting.Perm
        (socket :: table.listenSocket :: (prepared ++ pending)))
    (usable : ∀ other ∈ pending, table.Usable other) :
    let left := { table with prepared := prepared, pending := pending }
    left.Sound ∧ left.Open socket ∧
      socket ∉ left.waiting ∧ socket ∉ left.connectedSocketMap := by
  intro left
  have isWaiting := rearranged.mem_iff.mpr List.mem_cons_self
  have split := rearranged.nodup_iff.mp sound.waitingOnce
  rw [List.nodup_cons] at split
  refine
    ⟨sound.move split.2 ?_ usable, sound.waitingOpen socket isWaiting,
      split.1, sound.unregistered socket isWaiting⟩
  intro other still
  exact rearranged.mem_iff.mpr (List.mem_cons_of_mem socket still)

/-- A prepared socket that is taken leaves its place. -/
theorem Sound.take {socket : SocketPointer}
    (sound : table.Sound) (isPrepared : socket ∈ table.prepared) :
    let taken := { table with prepared := table.prepared.erase socket }
    taken.Sound ∧ taken.Open socket ∧
      socket ∉ taken.waiting ∧ socket ∉ taken.connectedSocketMap := by
  have apart := List.perm_cons_erase isPrepared
  refine sound.leave ?_ sound.pendingUsable
  simp only [SocketTable.waiting]
  grind

/-- Posting an accept or a connect. -/
theorem Sound.postConnection {socket : SocketPointer} {object : SocketObject}
    (sound : table.Sound) (isPrepared : socket ∈ table.prepared)
    (present : table.sockets socket = some object) (answer : PostAnswer) :
    (table.postConnection socket object answer).Sound := by
  rcases sound.take isPrepared with ⟨taken, isOpen, notWaiting, -⟩
  cases posted : object.invalid || answer.failed with
  | true =>
      have same :
          table.postConnection socket object answer =
            { table with prepared := table.prepared.erase socket } := by
        simp only [SocketTable.postConnection, posted, if_true]
      rw [same]
      exact taken
  | false =>
      have same :
          table.postConnection socket object answer =
            { table with
              prepared := table.prepared.erase socket
              pending := table.pending ++ [socket] } := by
        simp only [SocketTable.postConnection, posted, Bool.false_eq_true,
          if_false]
      have valid : object.invalid = false :=
        (Bool.or_eq_false_iff.mp posted).1
      have usable : table.Usable socket := by
        rcases isOpen with ⟨found, alsoPresent, notClosed⟩
        rw [present] at alsoPresent
        cases alsoPresent
        exact ⟨object, present, notClosed, valid⟩
      have places :
          (table.listenSocket
            :: (table.prepared.erase socket
              ++ (table.pending ++ [socket]))).Perm table.waiting := by
        have apart := List.perm_cons_erase isPrepared
        simp only [SocketTable.waiting]
        grind
      rw [same]
      refine sound.move (places.nodup_iff.mpr sound.waitingOnce) ?_ ?_
      · intro other still
        exact places.mem_iff.mp still
      · intro other isPending
        rcases List.mem_append.mp isPending with before | this
        · exact sound.pendingUsable other before
        · rw [List.mem_singleton.mp this]
          exact usable

/-- Closing a prepared socket that is given up. -/
theorem Sound.abandon {socket : SocketPointer} {object : SocketObject}
    (sound : table.Sound) (isPrepared : socket ∈ table.prepared)
    (present : table.sockets socket = some object) :
    (table.abandon socket object).Sound := by
  rcases sound.take isPrepared with
    ⟨taken, ⟨found, alsoPresent, isOpen⟩, notWaiting, missing⟩
  have same : some found = some object := alsoPresent.symm.trans present
  cases same
  exact taken.close present isOpen notWaiting missing

/-- A finished accept or connect leaves its socket without a place. -/
theorem Sound.finishConnection {socket : SocketPointer}
    (sound : table.Sound) (isPending : socket ∈ table.pending) :
    let finished :=
      { table with pending := table.pending.erase socket }
    finished.Sound ∧ finished.Usable socket ∧
      socket ∉ finished.waiting ∧ socket ∉ finished.connectedSocketMap := by
  intro finished
  have apart := List.perm_cons_erase isPending
  have rearranged : table.waiting.Perm (socket :: finished.waiting) := by
    simp only [SocketTable.waiting, finished]
    grind
  rcases sound.leave rearranged fun other still =>
      sound.pendingUsable other (List.mem_of_mem_erase still) with
    ⟨soundAfter, -, notWaiting, missing⟩
  exact
    ⟨soundAfter, sound.pendingUsable socket isPending, notWaiting, missing⟩

/-- What a dequeued completion leaves of the table. -/
theorem Sound.dequeue {overlapped : CustomOverlapped}
    {dequeued : SocketTable Owner}
    (sound : table.Sound)
    (taken : table.dequeue overlapped = some dequeued) :
    dequeued.Sound ∧
      dequeued.connectedSocketMap = table.connectedSocketMap ∧
      dequeued.disconnected = table.disconnected ∧
      (overlapped.operationType = .opAccept ∨
          overlapped.operationType = .opConnect →
        ∃ socket,
          overlapped.socket = some socket ∧ dequeued.Usable socket ∧
            socket ∉ dequeued.waiting ∧
              socket ∉ dequeued.connectedSocketMap) := by
  by_cases opens :
      overlapped.operationType = .opAccept ∨
        overlapped.operationType = .opConnect
  · have finished :
        table.finishConnection overlapped.socket = some dequeued := by
      rcases opens with isAccept | isConnect
      · rwa [SocketTable.dequeue, isAccept] at taken
      · rwa [SocketTable.dequeue, isConnect] at taken
    cases target : overlapped.socket with
    | none =>
        rw [target] at finished
        cases finished
    | some socket =>
        rw [target, SocketTable.finishConnection] at finished
        split_ifs at finished with isPending
        cases finished
        rcases sound.finishConnection isPending with
          ⟨soundAfter, usable, notWaiting, missing⟩
        exact
          ⟨soundAfter, rfl, rfl,
            fun _ => ⟨socket, rfl, usable, notWaiting, missing⟩⟩
  · have same : dequeued = table := by
      unfold SocketTable.dequeue at taken
      split at taken
      · next isAccept => exact absurd (.inl isAccept) opens
      · next isConnect => exact absurd (.inr isConnect) opens
      · exact (Option.some.inj taken).symm
      · exact (Option.some.inj taken).symm
      · exact (Option.some.inj taken).symm
    rw [same]
    exact ⟨sound, rfl, rfl, fun also => absurd also opens⟩

/-- Every step keeps the table sound. -/
theorem step_of_sound
    {callbacks : Callbacks Owner} {event : ClosingEvent}
    {after : SocketTable Owner}
    (sound : table.Sound)
    (taken : (system callbacks).step table event = some after) :
    after.Sound ∧ Effect table after := by
  cases event with
  | newSocket address fails =>
      cases free : table.sockets address with
      | some object =>
          simp only [system, free] at taken
          cases taken
      | none =>
          simp only [system, free, Option.some.injEq] at taken
          rw [← taken]
          exact ⟨sound.newSocket free fails, .unchanged rfl rfl⟩
  | postConnection socket answer =>
      simp only [system] at taken
      split_ifs at taken with isPrepared
      rcases Option.map_eq_some_iff.mp taken with ⟨object, present, rfl⟩
      exact
        ⟨sound.postConnection isPrepared present answer,
          .unchanged rfl rfl⟩
  | abandon socket =>
      simp only [system] at taken
      split_ifs at taken with isPrepared
      rcases Option.map_eq_some_iff.mp taken with ⟨object, present, rfl⟩
      exact ⟨sound.abandon isPrepared present, .unchanged rfl rfl⟩
  | completion status key overlapped shutdownError =>
      cases found : table.dequeue overlapped with
      | none =>
          simp only [system, found] at taken
          cases taken
      | some dequeued =>
          simp only [system, found] at taken
          rcases sound.dequeue found with
            ⟨soundDequeued, map, calls, opens⟩
          have handled := Fallible.toOption_eq_some.mp taken
          rcases processCompletion_of_ok soundDequeued opens handled with
            ⟨soundAfter, effect⟩
          exact ⟨soundAfter, effect.of_same map calls⟩

end Steps

end SocketTable

/-! ## Every run -/

section Runs

variable {callbacks : Callbacks Owner}
variable {listenSocket : SocketPointer} {owner : Owner}
variable {table : SocketTable Owner}

/-- Every reached table is sound. -/
theorem sound_of_reachable
    (reached :
      (system callbacks).Reachable (.setup listenSocket owner) table) :
    table.Sound :=
  reached.invariant (SocketTable.setup_sound listenSocket owner)
    fun _ _ _ sound _ taken => (SocketTable.step_of_sound sound taken).1

/--
However completions follow each other, every socket is closed and deleted at
most once, the listening socket is never registered, each call of
`HandleDisconnectComplete` returns, and a step disconnects once the key that
it takes out of the map.
-/
theorem disconnected_once
    (reached :
      (system callbacks).Reachable (.setup listenSocket owner) table) :
    table.closed.Nodup ∧ table.deleted.Nodup ∧
      table.listenSocket ∉ table.connectedSocketMap ∧
      (∀ key shutdownError,
        ∃ after,
          table.handleDisconnectComplete callbacks key shutdownError =
            .ok after) ∧
      ∀ event after,
        (system callbacks).step table event = some after →
          DisconnectsOnce table after := by
  have sound := sound_of_reachable reached
  refine ⟨sound.closedOnce, sound.deletedOnce, ?_, ?_, ?_⟩
  · exact sound.unregistered table.listenSocket List.mem_cons_self
  · intro key shutdownError
    rcases SocketTable.handleDisconnectComplete_of_sound sound callbacks key
        shutdownError with
      ⟨after, handled, -⟩
    exact ⟨after, handled⟩
  · intro event after taken
    exact (SocketTable.step_of_sound sound taken).2.disconnectsOnce

end Runs

/-! ## An address that is used again -/

/-- An object on a socket, with an operation. -/
def operationOn (operationType : OperationType) (socket : SocketPointer) :
    CustomOverlapped :=
  { CustomOverlapped.construct 0 default with
    operationType := operationType
    socket := some socket }

/--
A connection is reset, its address goes to another one, and a receive and a
send of the first fail behind that.
-/
def reusedAddress : List ClosingEvent :=
  [.newSocket 2 false,
    .postConnection 2 .success,
    .completion (.succeeded []) 1 (operationOn .opAccept 2) none,
    .completion (.failed 10054) 2 (operationOn .opRecv 2) none,
    .newSocket 2 false,
    .postConnection 2 .success,
    .completion (.failed 10054) 2 (operationOn .opSend 2) none,
    .completion (.succeeded []) 1 (operationOn .opAccept 2) none,
    .completion (.succeeded []) 2 (operationOn .opRecv 2) (some 10057),
    .completion (.failed 64) 2 (operationOn .opSend 2) none]

theorem reusedAddress_complete :
    ((system Callbacks.idle).runAllowed (fun _ _ => True) (.setup 1 ())
      reusedAddress).isSome = true := by
  decide +kernel

/-- The table behind these completions. -/
def reusedTable : SocketTable Unit :=
  ((system Callbacks.idle).runAllowed (fun _ _ => True) (.setup 1 ())
    reusedAddress).get reusedAddress_complete

/-- Two connections at one address are two disconnects. -/
example :
    reusedTable.deleted = [1, 2] ∧ reusedTable.disconnected = [2, 2] := by
  decide +kernel

/-- Behind these completions too. -/
theorem disconnected_once_reused :
    reusedTable.closed.Nodup ∧ reusedTable.deleted.Nodup ∧
      reusedTable.listenSocket ∉ reusedTable.connectedSocketMap ∧
      (∀ key shutdownError,
        ∃ after,
          reusedTable.handleDisconnectComplete Callbacks.idle key
            shutdownError = .ok after) ∧
      ∀ event after,
        (system Callbacks.idle).step reusedTable event = some after →
          DisconnectsOnce reusedTable after :=
  disconnected_once (TransitionSystem.reaches_get reusedAddress_complete)

end IocpServer.Network.SocketClosing
