import IocpServer.Library.ListCuts
import IocpServer.Network.CallPhases
import Mathlib.Data.List.Perm.Subperm
import Mathlib.Data.List.Nodup

/-!
# The way of a socket through the network manager

A socket is prepared or allocated for a connect, then waits for its accept
or connect, and is registered and read through one receive at a time until
it is disconnected.  Behind the `delete` its address may be that of another
socket while its receive is still in flight, so an operation is followed
together with the number of the socket it was posted for.  `Tracked` says that
every socket is in one of these places, with the sockets the call in progress
holds set apart; the lemmas of this file are what each phase of a call does
to it.
-/

namespace IocpServer.Network.NetworkManager

open IocpServer.Library
open IocpServer.Utility

variable {Owner : Type}

/-! ## Sockets by what they are used for -/

/-- An accept or a connect. -/
def opens : OperationType → Bool
  | .opAccept | .opConnect => true
  | .opDefault | .opRecv | .opSend => false

/-- A receive. -/
def receives : OperationType → Bool
  | .opRecv => true
  | .opDefault | .opAccept | .opConnect | .opSend => false

/-- The sockets of the operations of a kind. -/
def socketsOf
    (kind : OperationType → Bool) (operations : List CustomOverlapped) :
    List SocketPointer :=
  operations.filterMap fun overlapped =>
    if kind overlapped.operationType then overlapped.socket else none

@[simp]
theorem socketsOf_append
    (kind : OperationType → Bool)
    (first second : List CustomOverlapped) :
    socketsOf kind (first ++ second) =
      socketsOf kind first ++ socketsOf kind second :=
  List.filterMap_append

/-- The sockets an operation contributes. -/
theorem socketsOf_singleton
    {kind : OperationType → Bool} {overlapped : CustomOverlapped}
    {socket : SocketPointer}
    (target : overlapped.socket = some socket) :
    socketsOf kind [overlapped] =
      if kind overlapped.operationType then [socket] else [] := by
  unfold socketsOf
  cases applies : kind overlapped.operationType with
  | true => simp [applies, target]
  | false => simp [applies]

/-- The receives, each with the number of the socket it was posted for. -/
def receivesIn
    (operations : List CustomOverlapped) (postedFor : List Nat) :
    List (CustomOverlapped × Nat) :=
  (operations.zip postedFor).filter fun operation =>
    receives operation.1.operationType

/-- What an operation posted for the socket of this number contributes. -/
def receivesOf (overlapped : CustomOverlapped) (number : Nat) :
    List (CustomOverlapped × Nat) :=
  receivesIn [overlapped] [number]

theorem receivesOf_receive
    {overlapped : CustomOverlapped}
    (kind : receives overlapped.operationType = true) (number : Nat) :
    receivesOf overlapped number = [(overlapped, number)] := by
  simp [receivesOf, receivesIn, kind]

theorem receivesOf_other
    {overlapped : CustomOverlapped}
    (kind : receives overlapped.operationType = false) (number : Nat) :
    receivesOf overlapped number = [] := by
  simp [receivesOf, receivesIn, kind]

theorem receivesIn_append_singleton
    {operations : List CustomOverlapped} {postedFor : List Nat}
    (paired : postedFor.length = operations.length)
    (overlapped : CustomOverlapped) (number : Nat) :
    receivesIn (operations ++ [overlapped]) (postedFor ++ [number]) =
      receivesIn operations postedFor ++ receivesOf overlapped number := by
  unfold receivesOf receivesIn
  rw [List.zip_append paired.symm, List.filter_append]

theorem receivesIn_eraseIdx
    {operations : List CustomOverlapped} {postedFor : List Nat}
    {index : Nat} {overlapped : CustomOverlapped} {number : Nat}
    (found : operations[index]? = some overlapped)
    (posted : postedFor[index]? = some number) :
    (receivesOf overlapped number ++
        receivesIn (operations.eraseIdx index)
          (postedFor.eraseIdx index)).Perm
      (receivesIn operations postedFor) := by
  have both :
      (operations.zip postedFor)[index]? = some (overlapped, number) := by
    rw [List.getElem?_zip_eq_some]
    exact ⟨found, posted⟩
  have taken :=
    (perm_cons_eraseIdx both).filter fun operation =>
      receives operation.1.operationType
  unfold receivesOf receivesIn
  rw [eraseIdx_zip_eraseIdx, ← List.filter_append]
  exact taken

/-- The sockets waiting in `_preparedSocketQueue`. -/
def prepared (manager : NetworkManager Owner) : List SocketPointer :=
  manager.preparedSocketQueue.contents.filterMap fun
    | .null => none
    | .to socket => some socket

/-- The sockets on their way to a connection, with the `spare` ones. -/
def waiting
    (manager : NetworkManager Owner) (spare : List SocketPointer) :
    List SocketPointer :=
  spare ++ (manager.prepared ++ socketsOf opens manager.outstanding)

/-- The numbers of the sockets being read. -/
def receiving (manager : NetworkManager Owner) (postedFor : List Nat) :
    List Nat :=
  (receivesIn manager.outstanding postedFor).map Prod.snd

/-- The sockets being read, with those `unheard` for the moment. -/
def heard
    (manager : NetworkManager Owner) (postedFor unheard : List Nat) :
    List Nat :=
  unheard ++ manager.receiving postedFor

/-- The object of this number has not been deleted. -/
def Alive (manager : NetworkManager Owner) (number : Nat) : Prop :=
  manager.socketStatus (manager.newAddress number) ≠ .deleted ∧
    manager.socketNumber (manager.newAddress number) = number

/-- The object of this number is registered. -/
def Registered (manager : NetworkManager Owner) (number : Nat) : Prop :=
  ∃ key ∈ manager.connectedSocketMap, manager.socketNumber key = number

/-- There is an object at the address, and it was made there. -/
structure Held
    (manager : NetworkManager Owner) (socket : SocketPointer) : Prop where
  opened : manager.socketStatus socket = .opened
  numbered : manager.socketNumber socket < manager.nextSocket
  address : manager.newAddress (manager.socketNumber socket) = socket

theorem Held.alive
    {manager : NetworkManager Owner} {socket : SocketPointer}
    (held : manager.Held socket) :
    manager.Alive (manager.socketNumber socket) := by
  unfold Alive
  rw [held.address, held.opened]
  exact ⟨nofun, rfl⟩

theorem Held.of_same
    {manager after : NetworkManager Owner} {socket : SocketPointer}
    (held : manager.Held socket)
    (status : after.socketStatus socket = manager.socketStatus socket)
    (number : after.socketNumber socket = manager.socketNumber socket)
    (address : after.newAddress = manager.newAddress)
    (next : manager.nextSocket ≤ after.nextSocket) :
    after.Held socket where
  opened := status.trans held.opened
  numbered := by
    rw [number]
    exact held.numbered.trans_le next
  address := by
    rw [number, address]
    exact held.address

/-- The numbers tell the objects apart. -/
theorem Held.eq
    {manager : NetworkManager Owner} {socket other : SocketPointer}
    (held : manager.Held socket) (otherHeld : manager.Held other)
    (same : manager.socketNumber socket = manager.socketNumber other) :
    socket = other := by
  rw [← held.address, same, otherHeld.address]

/-! ### An object made or deleted -/

/-- The address of a new object is that of no other. -/
theorem Held.ne_socketAddress
    {manager : NetworkManager Owner} {socket : SocketPointer}
    (held : manager.Held socket)
    (free : manager.socketStatus manager.socketAddress = .deleted) :
    socket ≠ manager.socketAddress := by
  rintro rfl
  rw [held.opened] at free
  cases free

theorem newSocket_status
    {manager : NetworkManager Owner} {socket : SocketPointer}
    (different : socket ≠ manager.socketAddress) :
    manager.newSocket.socketStatus socket = manager.socketStatus socket :=
  Function.update_of_ne different _ _

theorem newSocket_number
    {manager : NetworkManager Owner} {socket : SocketPointer}
    (different : socket ≠ manager.socketAddress) :
    manager.newSocket.socketNumber socket = manager.socketNumber socket :=
  Function.update_of_ne different _ _

theorem newSocket_number_self (manager : NetworkManager Owner) :
    manager.newSocket.socketNumber manager.socketAddress =
      manager.nextSocket :=
  Function.update_self ..

theorem Held.newSocket
    {manager : NetworkManager Owner} {socket : SocketPointer}
    (held : manager.Held socket)
    (free : manager.socketStatus manager.socketAddress = .deleted) :
    manager.newSocket.Held socket := by
  have different := held.ne_socketAddress free
  exact
    held.of_same (newSocket_status different) (newSocket_number different)
      rfl (Nat.le_succ _)

theorem newSocket_held (manager : NetworkManager Owner) :
    manager.newSocket.Held manager.socketAddress where
  opened := Function.update_self ..
  numbered := by
    rw [newSocket_number_self]
    exact Nat.lt_succ_self _
  address := by
    rw [newSocket_number_self]
    rfl

/-- The object behind `new` is not an older one. -/
theorem Alive.of_newSocket
    {manager : NetworkManager Owner} {number : Nat}
    (alive : manager.newSocket.Alive number)
    (older : number < manager.nextSocket) :
    manager.Alive number := by
  rcases alive with ⟨alive, same⟩
  change
    manager.newSocket.socketStatus (manager.newAddress number) ≠
      .deleted at alive
  change
    manager.newSocket.socketNumber (manager.newAddress number) =
      number at same
  by_cases reused : manager.newAddress number = manager.socketAddress
  · -- the object that is there now is a younger one
    rw [reused, newSocket_number_self] at same
    omega
  · rw [newSocket_status reused] at alive
    rw [newSocket_number reused] at same
    exact ⟨alive, same⟩

/-- The manager behind the `delete` of a socket. -/
def deleteSocket
    (manager : NetworkManager Owner) (socket : SocketPointer) :
    NetworkManager Owner :=
  { manager with
    socketStatus :=
      Function.update manager.socketStatus socket .deleted }

theorem Held.processDisconnect
    {manager : NetworkManager Owner} {socket : SocketPointer}
    (held : manager.Held socket) :
    manager.processDisconnect socket =
      .ok (true, manager.deleteSocket socket) := by
  unfold NetworkManager.processDisconnect
  rw [held.opened]
  rfl

theorem Held.deleteSocket
    {manager : NetworkManager Owner} {socket other : SocketPointer}
    (held : manager.Held other) (different : other ≠ socket) :
    (manager.deleteSocket socket).Held other :=
  held.of_same (Function.update_of_ne different _ _) rfl rfl
    (Nat.le_refl _)

theorem Held.not_alive_deleteSocket
    {manager : NetworkManager Owner} {socket : SocketPointer}
    (held : manager.Held socket) :
    ¬ (manager.deleteSocket socket).Alive
      (manager.socketNumber socket) := by
  rintro ⟨alive, _⟩
  apply alive
  change
    Function.update manager.socketStatus socket .deleted
        (manager.newAddress (manager.socketNumber socket)) =
      .deleted
  rw [held.address, Function.update_self]

/-- A `delete` makes no object. -/
theorem Alive.of_deleteSocket
    {manager : NetworkManager Owner} {socket : SocketPointer}
    {number : Nat}
    (alive : (manager.deleteSocket socket).Alive number) :
    manager.Alive number := by
  rcases alive with ⟨alive, same⟩
  refine ⟨?_, same⟩
  intro deleted
  apply alive
  change
    Function.update manager.socketStatus socket .deleted
        (manager.newAddress number) =
      .deleted
  rw [Function.update_apply, deleted, ite_self]

/--
Every socket is in one place.  The call in progress holds the `spare`
sockets, which are not connected, and has no receive out on the `unheard`
ones.
-/
structure Tracked
    (manager : NetworkManager Owner) (postedFor : List Nat)
    (spare : List SocketPointer) (unheard : List Nat) : Prop where
  paired : postedFor.length = manager.outstanding.length
  distinct : (manager.waiting spare).Nodup
  unregistered :
    ∀ socket ∈ manager.waiting spare, socket ∉ manager.connectedSocketMap
  waitingHeld : ∀ socket ∈ manager.waiting spare, manager.Held socket
  registeredHeld :
    ∀ key ∈ manager.connectedSocketMap, manager.Held key
  addressed :
    ∀ operation ∈ receivesIn manager.outstanding postedFor,
      operation.1.socket = some (manager.newAddress operation.2)
  heardOnce : (manager.heard postedFor unheard).Nodup
  heardConnected :
    ∀ number ∈ manager.heard postedFor unheard,
      number ∈ manager.connections
  numbered :
    ∀ number ∈ manager.connections, number < manager.nextSocket
  entry :
    ∀ key socket,
      manager.connectedSocketMap.lookup key = some socket →
        socket = key ∧ manager.socketNumber key ∈ manager.connections ∧
          manager.socketNumber key ∈ manager.heard postedFor unheard
  gone :
    ∀ number ∈ manager.connections,
      ¬ manager.Registered number →
        ¬ manager.Alive number ∧ number ∈ manager.reported

/-! ## What each phase does to the sockets -/

section Phases

variable {manager : NetworkManager Owner}
variable {postedFor : List Nat} {spare : List SocketPointer}
variable {unheard : List Nat}

/-- A registered key is an entry under itself. -/
theorem Tracked.lookup
    {key : CompletionKey}
    (tracked : manager.Tracked postedFor spare unheard)
    (present : key ∈ manager.connectedSocketMap) :
    manager.connectedSocketMap.lookup key = some key := by
  rcases Finmap.mem_iff.mp present with ⟨socket, found⟩
  rw [found, (tracked.entry key socket found).1]

/-- A socket on its way to a connection has not had one. -/
theorem Tracked.fresh
    {socket : SocketPointer}
    (tracked : manager.Tracked postedFor spare unheard)
    (member : socket ∈ manager.waiting spare) :
    manager.socketNumber socket ∉ manager.connections := by
  intro connected
  have held := tracked.waitingHeld socket member
  apply (tracked.gone _ connected ?_).1
  · exact held.alive
  · rintro ⟨key, present, same⟩
    apply tracked.unregistered socket member
    rw [← (tracked.registeredHeld key present).eq held same]
    exact present

/-- Sockets may be given up. -/
theorem Tracked.drop
    (tracked : manager.Tracked postedFor spare unheard) :
    manager.Tracked postedFor [] unheard := by
  have fewer :
      (manager.waiting []).Sublist (manager.waiting spare) :=
    List.sublist_append_right spare _
  exact
    { tracked with
      distinct := fewer.nodup tracked.distinct
      unregistered := fun socket member =>
        tracked.unregistered socket (fewer.subset member)
      waitingHeld := fun socket member =>
        tracked.waitingHeld socket (fewer.subset member) }

/-- A socket out of the map need not be read any more. -/
theorem Tracked.silence
    {number : Nat}
    (tracked : manager.Tracked postedFor spare [number])
    (missing : ¬ manager.Registered number) :
    manager.Tracked postedFor spare [] := by
  have fewer :
      (manager.heard postedFor []).Sublist
        (manager.heard postedFor [number]) :=
    List.sublist_append_right [number] _
  refine
    { tracked with
      heardOnce := fewer.nodup tracked.heardOnce
      heardConnected := fun other member =>
        tracked.heardConnected other (fewer.subset member)
      entry := ?_ }
  intro key found present
  rcases tracked.entry key found present with ⟨same, connected, member⟩
  refine ⟨same, connected, ?_⟩
  rcases List.mem_append.mp member with alone | reading
  · exact
      (missing
        ⟨key, Finmap.mem_of_lookup_eq_some present,
          List.mem_singleton.mp alone⟩).elim
  · exact reading

/-- A dequeued operation leaves its socket with the handler. -/
theorem Tracked.dequeue
    {index : Nat} {overlapped : CustomOverlapped} {number : Nat}
    (tracked : manager.Tracked postedFor [] [])
    (found : manager.outstanding[index]? = some overlapped)
    (posted : postedFor[index]? = some number) :
    (manager.dequeue index).Tracked (postedFor.eraseIdx index)
        (socketsOf opens [overlapped])
        ((receivesOf overlapped number).map Prod.snd) ∧
      ∀ operation ∈ receivesOf overlapped number,
        operation.1.socket = some (manager.newAddress operation.2) := by
  have opening :
      (socketsOf opens [overlapped] ++
          socketsOf opens (manager.outstanding.eraseIdx index)).Perm
        (socketsOf opens manager.outstanding) := by
    rw [← socketsOf_append]
    exact (perm_cons_eraseIdx found).filterMap _
  have waiting :
      ((manager.dequeue index).waiting
        (socketsOf opens [overlapped])).Perm (manager.waiting []) := by
    rw [NetworkManager.waiting, NetworkManager.waiting]
    change
      (socketsOf opens [overlapped] ++
        (manager.prepared ++
          socketsOf opens (manager.outstanding.eraseIdx index))).Perm _
    grind
  have reading := receivesIn_eraseIdx found posted
  have heard :
      ((manager.dequeue index).heard (postedFor.eraseIdx index)
        ((receivesOf overlapped number).map Prod.snd)).Perm
          (manager.heard postedFor []) := by
    rw [NetworkManager.heard, receiving, ← List.map_append]
    exact reading.map Prod.snd
  have lengths :
      (postedFor.eraseIdx index).length =
        (manager.outstanding.eraseIdx index).length := by
    rw [List.length_eraseIdx, List.length_eraseIdx, tracked.paired]
  refine ⟨?_, fun operation member => ?_⟩
  · exact
      { paired := lengths
        distinct := waiting.nodup_iff.mpr tracked.distinct
        unregistered := fun socket member =>
          tracked.unregistered socket (waiting.mem_iff.mp member)
        waitingHeld := fun socket member =>
          (tracked.waitingHeld socket (waiting.mem_iff.mp member)).of_same
            rfl rfl rfl (Nat.le_refl _)
        registeredHeld := fun key present =>
          (tracked.registeredHeld key present).of_same rfl rfl rfl
            (Nat.le_refl _)
        addressed := fun operation member =>
          tracked.addressed operation
            (reading.mem_iff.mp (List.mem_append_right _ member))
        heardOnce := heard.nodup_iff.mpr tracked.heardOnce
        heardConnected := fun other member =>
          tracked.heardConnected other (heard.mem_iff.mp member)
        numbered := tracked.numbered
        entry := fun key socket present => by
          rcases tracked.entry key socket present with
            ⟨same, connected, member⟩
          exact ⟨same, connected, heard.mem_iff.mpr member⟩
        gone := tracked.gone }
  · exact
      tracked.addressed operation
        (reading.mem_iff.mp (List.mem_append_left _ member))

/-- A posted operation takes over what the call held for it. -/
theorem Tracked.posted
    {posted : CustomOverlapped} {number : Nat}
    (tracked :
      manager.Tracked postedFor (socketsOf opens [posted])
        ((receivesOf posted number).map Prod.snd))
    (addressed :
      ∀ operation ∈ receivesOf posted number,
        operation.1.socket = some (manager.newAddress operation.2))
    (popped : LockFreeCircleQueue (RawPointer CustomOverlapped)) :
    NetworkManager.Tracked
      { manager with
        overlappedQueue := popped
        outstanding := manager.outstanding ++ [posted] }
      (postedFor ++ [number]) [] [] := by
  have waiting :
      (NetworkManager.waiting
        { manager with
          overlappedQueue := popped
          outstanding := manager.outstanding ++ [posted] }
        []).Perm (manager.waiting (socketsOf opens [posted])) := by
    rw [NetworkManager.waiting, NetworkManager.waiting, socketsOf_append]
    change
      (manager.prepared ++
        (socketsOf opens manager.outstanding ++
          socketsOf opens [posted])).Perm _
    grind
  have appended :=
    receivesIn_append_singleton tracked.paired posted number
  have heard :
      (NetworkManager.heard
        { manager with
          overlappedQueue := popped
          outstanding := manager.outstanding ++ [posted] }
        (postedFor ++ [number]) []).Perm
          (manager.heard postedFor
            ((receivesOf posted number).map Prod.snd)) := by
    rw [NetworkManager.heard, receiving, appended, List.map_append,
      List.nil_append]
    exact List.perm_append_comm
  exact
    { paired := by
        rw [List.length_append, List.length_append, tracked.paired]
        rfl
      distinct := waiting.nodup_iff.mpr tracked.distinct
      unregistered := fun socket member =>
        tracked.unregistered socket (waiting.mem_iff.mp member)
      waitingHeld := fun socket member =>
        (tracked.waitingHeld socket (waiting.mem_iff.mp member)).of_same
          rfl rfl rfl (Nat.le_refl _)
      registeredHeld := fun key present =>
        (tracked.registeredHeld key present).of_same rfl rfl rfl
          (Nat.le_refl _)
      addressed := fun operation member => by
        rw [appended] at member
        rcases List.mem_append.mp member with before | last
        · exact tracked.addressed operation before
        · exact addressed operation last
      heardOnce := heard.nodup_iff.mpr tracked.heardOnce
      heardConnected := fun other member =>
        tracked.heardConnected other (heard.mem_iff.mp member)
      numbered := tracked.numbered
      entry := fun key socket present => by
        rcases tracked.entry key socket present with
          ⟨same, connected, member⟩
        exact ⟨same, connected, heard.mem_iff.mpr member⟩
      gone := tracked.gone }

/-- The pool and the owner's state play no role. -/
theorem Tracked.elsewhere
    (tracked : manager.Tracked postedFor spare unheard)
    (overlappedQueue : LockFreeCircleQueue (RawPointer CustomOverlapped))
    (owner : Owner) :
    NetworkManager.Tracked
      { manager with
        overlappedQueue := overlappedQueue
        owner := owner }
      postedFor spare unheard :=
  { paired := tracked.paired
    distinct := tracked.distinct
    unregistered := tracked.unregistered
    waitingHeld := fun socket member =>
      (tracked.waitingHeld socket member).of_same rfl rfl rfl
        (Nat.le_refl _)
    registeredHeld := fun key present =>
      (tracked.registeredHeld key present).of_same rfl rfl rfl
        (Nat.le_refl _)
    addressed := tracked.addressed
    heardOnce := tracked.heardOnce
    heardConnected := tracked.heardConnected
    numbered := tracked.numbered
    entry := tracked.entry
    gone := tracked.gone }

/-- A socket that waits is registered under itself. -/
theorem Tracked.register_map
    {socket : SocketPointer}
    (tracked : manager.Tracked postedFor spare unheard)
    (member : socket ∈ manager.waiting spare) :
    (manager.register socket).connectedSocketMap =
      manager.connectedSocketMap.insert socket socket :=
  if_neg (tracked.unregistered socket member)

/-- Registering the socket of a finished accept or connect. -/
theorem Tracked.register
    {socket : SocketPointer}
    (tracked : manager.Tracked postedFor [socket] []) :
    (manager.register socket).Tracked postedFor []
      [manager.socketNumber socket] := by
  have first : socket ∈ manager.waiting [socket] := List.mem_cons_self
  have held := tracked.waitingHeld socket first
  have map := tracked.register_map first
  have apart : socket ∉ manager.waiting [] := by
    have distinct := tracked.distinct
    rw [NetworkManager.waiting, List.singleton_append,
      List.nodup_cons] at distinct
    exact distinct.1
  have heldBehind {other : SocketPointer} (held : manager.Held other) :
      (manager.register socket).Held other :=
    held.of_same rfl rfl rfl (Nat.le_refl _)
  have registered {key : CompletionKey} :
      key ∈ (manager.register socket).connectedSocketMap ↔
        key = socket ∨ key ∈ manager.connectedSocketMap := by
    rw [map, Finmap.mem_insert]
  have unheard :
      (manager.register socket).heard postedFor
          [manager.socketNumber socket] =
        manager.socketNumber socket :: manager.heard postedFor [] :=
    rfl
  exact
    { paired := tracked.paired
      distinct := tracked.drop.distinct
      unregistered := by
        intro other member present
        rcases registered.mp present with rfl | before
        · exact apart member
        · exact tracked.drop.unregistered other member before
      waitingHeld := fun other member =>
        heldBehind (tracked.drop.waitingHeld other member)
      registeredHeld := by
        intro key present
        rcases registered.mp present with rfl | before
        · exact heldBehind held
        · exact heldBehind (tracked.registeredHeld key before)
      addressed := tracked.addressed
      heardOnce := by
        rw [unheard, List.nodup_cons]
        exact
          ⟨fun member =>
              tracked.fresh first (tracked.heardConnected _ member),
            tracked.heardOnce⟩
      heardConnected := by
        intro other member
        rw [unheard] at member
        rcases List.mem_cons.mp member with rfl | reading
        · exact List.mem_append_right _ List.mem_cons_self
        · exact
            List.mem_append_left _ (tracked.heardConnected other reading)
      numbered := by
        intro other member
        rcases List.mem_append.mp member with before | last
        · exact tracked.numbered other before
        · rw [List.mem_singleton.mp last]
          exact held.numbered
      entry := by
        intro key value found
        rw [map] at found
        rw [unheard]
        by_cases same : key = socket
        · cases same
          rw [Finmap.lookup_insert] at found
          cases found
          exact
            ⟨rfl, List.mem_append_right _ List.mem_cons_self,
              List.mem_cons_self⟩
        · rw [Finmap.lookup_insert_of_ne _ same] at found
          rcases tracked.entry key value found with
            ⟨equal, connected, member⟩
          exact
            ⟨equal, List.mem_append_left _ connected,
              List.mem_cons_of_mem _ member⟩
      gone := by
        intro number connected missing
        rcases List.mem_append.mp connected with before | last
        · apply tracked.gone number before
          rintro ⟨key, present, same⟩
          exact missing ⟨key, registered.mpr (.inr present), same⟩
        · exact
            (missing
              ⟨socket, registered.mpr (.inl rfl),
                (List.mem_singleton.mp last).symm⟩).elim }

/-- A registered connection that is deleted, erased and reported. -/
theorem Tracked.erase
    {key : CompletionKey}
    (tracked : manager.Tracked postedFor spare unheard)
    (registered : key ∈ manager.connectedSocketMap)
    (disconnected : List CompletionKey) (owner : Owner) :
    NetworkManager.Tracked
      { manager.deleteSocket key with
        connectedSocketMap := manager.connectedSocketMap.erase key
        disconnected := disconnected
        reported := manager.reported ++ [manager.socketNumber key]
        owner := owner }
      postedFor spare unheard := by
  have held := tracked.registeredHeld key registered
  have heldBehind {other : SocketPointer}
      (otherHeld : manager.Held other) (different : other ≠ key) :
      NetworkManager.Held
        { manager.deleteSocket key with
          connectedSocketMap := manager.connectedSocketMap.erase key
          disconnected := disconnected
          reported := manager.reported ++ [manager.socketNumber key]
          owner := owner }
        other :=
    (otherHeld.deleteSocket different).of_same rfl rfl rfl (Nat.le_refl _)
  exact
    { paired := tracked.paired
      distinct := tracked.distinct
      unregistered := fun socket member present =>
        tracked.unregistered socket member (Finmap.mem_erase.mp present).2
      waitingHeld := by
        intro socket member
        apply heldBehind (tracked.waitingHeld socket member)
        rintro rfl
        exact tracked.unregistered socket member registered
      registeredHeld := by
        intro other present
        rcases Finmap.mem_erase.mp present with ⟨different, before⟩
        exact heldBehind (tracked.registeredHeld other before) different
      addressed := tracked.addressed
      heardOnce := tracked.heardOnce
      heardConnected := tracked.heardConnected
      numbered := tracked.numbered
      entry := by
        intro other value present
        have different : other ≠ key :=
          (Finmap.mem_erase.mp (Finmap.mem_of_lookup_eq_some present)).1
        change
          (manager.connectedSocketMap.erase key).lookup other =
            some value at present
        rw [Finmap.lookup_erase_ne different] at present
        exact tracked.entry other value present
      gone := by
        intro number connected missing
        by_cases same : manager.socketNumber key = number
        · subst same
          exact
            ⟨held.not_alive_deleteSocket,
              List.mem_append_right _ List.mem_cons_self⟩
        · have gone :
              ¬ manager.Alive number ∧ number ∈ manager.reported := by
            apply tracked.gone number connected
            rintro ⟨other, present, equal⟩
            refine missing ⟨other, ?_, equal⟩
            apply Finmap.mem_erase.mpr
            refine ⟨?_, present⟩
            rintro rfl
            exact same equal
          exact
            ⟨fun alive => gone.1 (Alive.of_deleteSocket alive),
              List.mem_append_left _ gone.2⟩ }

/-- A disconnect closes a registered connection and reports it. -/
theorem Tracked.disconnect
    {callbacks : Callbacks Owner} {after : NetworkManager Owner}
    {key : CompletionKey}
    (tracked : manager.Tracked postedFor spare unheard)
    (done :
      manager.handleDisconnectComplete callbacks key = .ok after) :
    after.Tracked postedFor spare unheard ∧
      key ∉ after.connectedSocketMap ∧
        after.newAddress = manager.newAddress := by
  unfold handleDisconnectComplete at done
  split at done
  · next missing =>
      cases done
      exact ⟨tracked, Finmap.lookup_eq_none.mp missing, rfl⟩
  · next targetSocket found =>
      rcases tracked.entry key targetSocket found with ⟨rfl, _⟩
      have registered := Finmap.mem_of_lookup_eq_some found
      have held := tracked.registeredHeld targetSocket registered
      rw [held.processDisconnect] at done
      cases done
      exact
        ⟨tracked.erase registered _ _,
          fun present => (Finmap.mem_erase.mp present).1 rfl, rfl⟩

/-- A new socket is in no other place. -/
theorem Tracked.newSocket
    (tracked : manager.Tracked postedFor [] [])
    (free : manager.socketStatus manager.socketAddress = .deleted) :
    manager.newSocket.Tracked postedFor [manager.socketAddress] [] := by
  have apart : manager.socketAddress ∉ manager.waiting [] := fun member =>
    (tracked.waitingHeld _ member).ne_socketAddress free rfl
  have number {key : CompletionKey}
      (present : key ∈ manager.connectedSocketMap) :
      manager.newSocket.socketNumber key = manager.socketNumber key :=
    newSocket_number
      ((tracked.registeredHeld key present).ne_socketAddress free)
  exact
    { paired := tracked.paired
      distinct := List.nodup_cons.mpr ⟨apart, tracked.distinct⟩
      unregistered := by
        intro socket member present
        rcases List.mem_cons.mp member with rfl | before
        · exact
            (tracked.registeredHeld _ present).ne_socketAddress free rfl
        · exact tracked.unregistered socket before present
      waitingHeld := by
        intro socket member
        rcases List.mem_cons.mp member with rfl | before
        · exact manager.newSocket_held
        · exact (tracked.waitingHeld socket before).newSocket free
      registeredHeld := fun key present =>
        (tracked.registeredHeld key present).newSocket free
      addressed := tracked.addressed
      heardOnce := tracked.heardOnce
      heardConnected := tracked.heardConnected
      numbered := fun other member =>
        Nat.lt_succ_of_lt (tracked.numbered other member)
      entry := by
        intro key socket found
        rw [number (Finmap.mem_of_lookup_eq_some found)]
        exact tracked.entry key socket found
      gone := by
        intro old connected missing
        have gone : ¬ manager.Alive old ∧ old ∈ manager.reported := by
          apply tracked.gone old connected
          rintro ⟨key, present, same⟩
          exact missing ⟨key, present, (number present).trans same⟩
        refine ⟨fun alive => gone.1 ?_, gone.2⟩
        exact alive.of_newSocket (tracked.numbered old connected) }

/-- Moving sockets between the spare and the prepared ones. -/
theorem Tracked.prepare
    {moved : List SocketPointer}
    {queue : LockFreeCircleQueue (RawPointer SocketPointer)}
    (tracked : manager.Tracked postedFor spare unheard)
    (contained :
      (moved ++
          NetworkManager.prepared
            { manager with preparedSocketQueue := queue }).Subperm
        (spare ++ manager.prepared)) :
    NetworkManager.Tracked
      { manager with preparedSocketQueue := queue } postedFor moved
      unheard := by
  have waiting :
      (NetworkManager.waiting
        { manager with preparedSocketQueue := queue } moved).Subperm
          (manager.waiting spare) := by
    have longer :=
      (List.subperm_append_right
        (socketsOf opens manager.outstanding)).mpr contained
    rw [List.append_assoc, List.append_assoc] at longer
    exact longer
  rcases waiting with ⟨rest, rearranged, sublist⟩
  have before {socket : SocketPointer}
      (member :
        socket ∈
          NetworkManager.waiting
            { manager with preparedSocketQueue := queue } moved) :
      socket ∈ manager.waiting spare :=
    sublist.subset (rearranged.mem_iff.mpr member)
  exact
    { paired := tracked.paired
      distinct :=
        rearranged.nodup_iff.mp (sublist.nodup tracked.distinct)
      unregistered := fun socket member =>
        tracked.unregistered socket (before member)
      waitingHeld := fun socket member =>
        (tracked.waitingHeld socket (before member)).of_same rfl rfl rfl
          (Nat.le_refl _)
      registeredHeld := fun key present =>
        (tracked.registeredHeld key present).of_same rfl rfl rfl
          (Nat.le_refl _)
      addressed := tracked.addressed
      heardOnce := tracked.heardOnce
      heardConnected := tracked.heardConnected
      numbered := tracked.numbered
      entry := tracked.entry
      gone := tracked.gone }

/-- A push of a new socket, which a full queue drops. -/
theorem Tracked.pushNewSocket
    (tracked : manager.Tracked postedFor [] [])
    (free : manager.socketStatus manager.socketAddress = .deleted) :
    manager.pushNewSocket.Tracked postedFor [] [] := by
  apply (tracked.newSocket free).prepare
  have bound := manager.preparedSocketQueue.size_lt
  rw [← LockFreeCircleQueue.contents_length] at bound
  have kept : manager.newSocket.prepared = manager.prepared := rfl
  rcases Nat.lt_or_eq_of_le (Nat.succ_le_of_lt bound) with room | full
  · have appended :=
      (manager.preparedSocketQueue.push_of_room
        (.to manager.socketAddress) room).2
    apply List.Perm.subperm
    rw [kept]
    simp only [prepared, appended, List.filterMap_append,
      List.nil_append]
    exact List.perm_append_singleton _ _
  · have same :=
      manager.preparedSocketQueue.push_of_full
        (.to manager.socketAddress) full
    apply List.Sublist.subperm
    rw [kept]
    simp only [prepared, same, List.nil_append]
    exact List.sublist_cons_self _ _

/-- A socket popped from the prepared ones. -/
theorem Tracked.takePrepared
    {targetSocket : SocketPointer}
    {popped : LockFreeCircleQueue (RawPointer SocketPointer)}
    (tracked : manager.Tracked postedFor [] [])
    (taken :
      manager.preparedSocketQueue.pop = (.to targetSocket, popped)) :
    NetworkManager.Tracked
      { manager with preparedSocketQueue := popped }
      postedFor [targetSocket] [] := by
  apply tracked.prepare
  apply List.Perm.subperm
  simp only [prepared, LockFreeCircleQueue.contents_of_pop taken]
  exact .refl _

end Phases

end IocpServer.Network.NetworkManager
