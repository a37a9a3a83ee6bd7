import IocpServer.LobbyServer.LobbyHub
import IocpServer.Network.OutstandingAccepts

/-!
# How full a lobby is

`LobbyMonitor` counts the clients that were accepted.  `Counted` says so of
every state of a run; what the counters say about the clients that are still
connected, and about the capacity, follows from it.
-/

namespace IocpServer.LobbyServer

open IocpServer.ControlServer
open IocpServer.Library
open IocpServer.Network
open IocpServer.Utility

/-- The arguments of a lobby's `Construct`, and the answers to its calls. -/
structure LobbySettings where
  lobbyKey : ByteString
  lobbyPort : Int32
  preparedSocketMax : Nat
  overlappedQueueMax : Nat
  packetQueueCapacity : Nat
  lobbyCapacity : Int32
  memory : Nat → BufferMemory
  answers : List (Int × PostAnswer)
  answers_length : answers.length = preparedSocketMax
  /-- It is an `int`. -/
  prepared_lt : preparedSocketMax < 2 ^ 31

/-- `Construct` of the lobby. -/
def LobbySettings.construction (settings : LobbySettings) :
    NetworkManager.Construction LobbyHub where
  senderType := .lobbyServer
  acceptFrom := .client
  overlappedQueueMax := settings.overlappedQueueMax
  preparedSocketMax := settings.preparedSocketMax
  memory := settings.memory
  owner :=
    .construct settings.lobbyKey settings.lobbyPort
      settings.overlappedQueueMax settings.packetQueueCapacity
      settings.lobbyCapacity
  answers := settings.answers
  answers_length := settings.answers_length

/-- The network manager of a lobby. -/
abbrev LobbyNetwork := NetworkManager LobbyHub

/-- The lobby's network thread, and the calls of its job threads. -/
abbrev lobbySystem : TransitionSystem LobbyNetwork NetworkManager.NetworkEvent :=
  NetworkManager.system LobbyHub.callbacks

/-- The keys of the accepted clients, oldest first. -/
def clientKeys (manager : LobbyNetwork) : List CompletionKey :=
  manager.owner.accepted.map AcceptedClient.completionKey

/-- The monitor of a lobby that has accepted this many clients. -/
def monitorOf (capacity : Int32) (count : Nat) : LobbyMonitor where
  capacity := capacity
  currentUser := Int32.ofNat count
  remainCapacity := capacity - Int32.ofNat count

/-- The lobby counts the clients it has accepted. -/
structure Counted (settings : LobbySettings) (manager : LobbyNetwork) :
    Prop where
  apart : manager.Apart
  clients : (clientKeys manager).Sublist manager.connected
  monitor :
    manager.owner.lobbyMonitor =
      monitorOf settings.lobbyCapacity manager.owner.accepted.length
  bound :
    manager.accepts.length + manager.owner.accepted.length ≤
      settings.preparedSocketMax
  fromClients :
    ∀ overlapped ∈ manager.accepts, overlapped.senderType = .client

/-- The counters add up to the capacity. -/
theorem monitorOf_balance (capacity : Int32) (count : Nat) :
    (monitorOf capacity count).currentUser +
        (monitorOf capacity count).remainCapacity =
      capacity := by
  rw [Int32.add_comm]
  exact Int32.sub_add_cancel ..

/-- A connection that has just been made is new. -/
theorem Counted.fresh
    {settings : LobbySettings} {before after : LobbyNetwork}
    {socket : SocketPointer}
    (counted : Counted settings after)
    (connected : after.connected = before.connected ++ [socket]) :
    socket ∉ before.connected := by
  have distinct :=
    (List.sublist_append_right _ _).nodup counted.apart.distinct
  rw [connected] at distinct
  intro member
  exact
    List.disjoint_of_nodup_append distinct member List.mem_cons_self

/-- Registering one more user. -/
theorem registerLobbyUser_monitorOf (capacity : Int32) (count : Nat) :
    (monitorOf capacity count).registerLobbyUser =
      monitorOf capacity (count + 1) := by
  have one : Int32.ofNat 1 = 1 := rfl
  simp [LobbyMonitor.registerLobbyUser, monitorOf, Int32.ofNat_add, one,
    Int32.sub_sub]

/-- What a call does to the lobby hub. -/
inductive LobbyEffect
    (before : LobbyNetwork) (event : NetworkManager.NetworkEvent)
    (after : LobbyNetwork) : Prop where
  /-- At most a packet is queued. -/
  | quiet
      {packetQueue : LockFreeCircleQueue (SharedPointer Packet)}
      (connected : before.connected.Sublist after.connected)
      (owner : after.owner = { before.owner with packetQueue := packetQueue })
  /-- A client is accepted. -/
  | accepted
      {overlapped : CustomOverlapped} {socket : SocketPointer}
      (finished : before.completed event = some overlapped)
      (kind : overlapped.operationType = .opAccept)
      (connections :
        NetworkManager.SameConnections (before.register socket) after)
      (owner : after.owner = before.owner.acceptClient socket)
  /-- The connection to the control server is completed. -/
  | ready
      {overlapped : CustomOverlapped} {socket : SocketPointer}
      (finished : before.completed event = some overlapped)
      (kind : overlapped.operationType = .opConnect)
      (sender : overlapped.senderType = .controlServer)
      (connections :
        NetworkManager.SameConnections (before.register socket) after)
      (owner : after.owner = before.owner.connectControlServer socket)

section Steps

variable {settings : LobbySettings}
variable {before after : LobbyNetwork} {event : NetworkManager.NetworkEvent}

theorem lobby_effect
    (done : before.call LobbyHub.callbacks event = .ok after) :
    LobbyEffect before event after := by
  cases NetworkManager.call_effect done with
  | quiet _ same owner =>
      exact .quiet (by rw [same.connected]) owner
  | transferred finished kind _ same called =>
      rcases LobbyHub.processIocp_cases called with
        ⟨accept, -⟩ | ⟨connect, -⟩ | ⟨packetQueue, owner⟩
      · rw [NetworkManager.received_operationType] at accept
        rw [accept] at kind
        cases kind
      · rw [NetworkManager.received_operationType] at connect
        rw [connect] at kind
        cases kind
      · exact .quiet (by rw [same.connected]) owner
  | connected finished _ _ _ same called =>
      rcases LobbyHub.processIocp_cases called with
        ⟨accept, -, owner⟩ | ⟨connect, control, owner⟩ | ⟨packetQueue, owner⟩
      · exact .accepted finished accept same owner
      · exact .ready finished connect control same owner
      · refine .quiet ?_ owner
        rw [same.connected]
        exact List.sublist_append_left _ _
  | disconnected _ _ _ _ connected _ _ _ owner =>
      exact .quiet (by rw [connected]) owner

/-- The hub's record of clients, behind a callback other than an accept. -/
theorem Counted.sameClients
    (counted : Counted settings before)
    (apart : after.Apart)
    (accepted : after.owner.accepted = before.owner.accepted)
    (monitor : after.owner.lobbyMonitor = before.owner.lobbyMonitor)
    (connected : before.connected.Sublist after.connected)
    (fewer : after.accepts.Subperm before.accepts) :
    Counted settings after where
  apart := apart
  clients := by
    rw [clientKeys, accepted]
    exact counted.clients.trans connected
  monitor := by
    rw [monitor, accepted]
    exact counted.monitor
  bound := by
    have bound := counted.bound
    have length := fewer.length_le
    rw [accepted]
    omega
  fromClients := fun overlapped member =>
    counted.fromClients overlapped (fewer.subset member)

/-- Every call keeps the count. -/
theorem Counted.call
    (counted : Counted settings before)
    (runs : before.AfterConstruct event)
    (done : before.call LobbyHub.callbacks event = .ok after) :
    Counted settings after := by
  have apart := counted.apart.call runs done
  have balance := NetworkManager.accepts_call runs done
  have fewer : after.accepts.Subperm before.accepts :=
    (NetworkManager.accepts_perm runs done).subperm_left.mp
      (List.sublist_append_right _ _).subperm
  cases lobby_effect done with
  | quiet connected owner =>
      exact
        counted.sameClients apart (by rw [owner]) (by rw [owner]) connected
          fewer
  | @accepted overlapped socket finished accept same owner =>
      have completed :
          ((before.completed event).toList.filter
            NetworkManager.isAccept).length = 1 := by
        rw [finished, Option.toList_some,
          List.filter_cons_of_pos
            (by rw [NetworkManager.isAccept, accept]; rfl)]
        rfl
      have keys :
          clientKeys after = clientKeys before ++ [socket] := by
        rw [clientKeys, owner]
        exact List.map_append
      have bound := counted.bound
      exact
        { apart := apart
          clients := by
            rw [keys, same.connected]
            exact counted.clients.append (.refl _)
          monitor := by
            rw [owner]
            change
              before.owner.lobbyMonitor.registerLobbyUser =
                monitorOf settings.lobbyCapacity
                  (before.owner.accepted ++ [_]).length
            rw [counted.monitor, registerLobbyUser_monitorOf,
              List.length_append, List.length_singleton]
          bound := by
            rw [owner]
            change
              after.accepts.length + (before.owner.accepted ++ [_]).length ≤ _
            rw [List.length_append, List.length_singleton]
            omega
          fromClients := fun overlapped member =>
            counted.fromClients overlapped (fewer.subset member) }
  | ready _ _ _ same owner =>
      refine
        counted.sameClients apart (by rw [owner]; rfl) (by rw [owner]; rfl)
          ?_ fewer
      rw [same.connected]
      exact List.sublist_append_left _ _

end Steps

/-- A lobby right behind its `Construct` has accepted nobody. -/
theorem Counted.construct
    {settings : LobbySettings} {start : LobbyNetwork}
    (constructed : settings.construction.manager = .ok start) :
    Counted settings start := by
  rcases NetworkManager.Construction.idle constructed with
    ⟨apart, owner, connected, accepts, fromClients⟩
  have nobody : start.owner.accepted = [] := by
    rw [owner]
    rfl
  exact
    { apart := apart
      clients := by
        rw [clientKeys, nobody]
        exact List.nil_sublist _
      monitor := by
        rw [nobody, owner]
        change LobbyMonitor.construct settings.lobbyCapacity = _
        simp [LobbyMonitor.construct, monitorOf]
      bound := by
        rw [nobody]
        exact accepts
      fromClients := fromClients }

/-- The count is right in every state of a run behind `Construct`. -/
theorem counted_of_reaches
    {settings : LobbySettings} {start manager : LobbyNetwork}
    (constructed : settings.construction.manager = .ok start)
    (reached :
      lobbySystem.Reaches NetworkManager.AfterConstruct start manager) :
    Counted settings manager :=
  reached.invariant (.construct constructed)
    fun _ _ _ counted runs taken =>
      counted.call runs (Fallible.toOption_eq_some.mp taken)

/-! ## Occupancy and connected clients -/

/-- The accepted clients that are still registered. -/
def presentClients (manager : LobbyNetwork) : Finset CompletionKey :=
  (clientKeys manager).toFinset.filter fun key =>
    key ∈ manager.connectedSocketMap

/-- The counters are those of the accepted clients still registered. -/
def Occupied (settings : LobbySettings) (manager : LobbyNetwork) : Prop :=
  manager.owner.lobbyMonitor.currentUser.toInt =
      (presentClients manager).card ∧
    manager.owner.lobbyMonitor.remainCapacity =
      settings.lobbyCapacity - Int32.ofNat (presentClients manager).card

/-- Every accepted client is still registered. -/
def AllPresent (manager : LobbyNetwork) : Prop :=
  ∀ key ∈ clientKeys manager, key ∈ manager.connectedSocketMap

theorem Counted.currentUser
    {settings : LobbySettings} {manager : LobbyNetwork}
    (counted : Counted settings manager) :
    manager.owner.lobbyMonitor.currentUser.toInt =
      manager.owner.accepted.length := by
  have bound := counted.bound
  have small := settings.prepared_lt
  rw [counted.monitor]
  exact Int32.toInt_ofNat_of_lt (by omega)

/-- The counters are right as long as every accepted client is there. -/
theorem Counted.occupied_iff
    {settings : LobbySettings} {manager : LobbyNetwork}
    (counted : Counted settings manager) :
    Occupied settings manager ↔ AllPresent manager := by
  have distinct : (clientKeys manager).Nodup :=
    counted.clients.nodup
      ((List.sublist_append_right _ _).nodup counted.apart.distinct)
  have all :
      (clientKeys manager).toFinset.card = manager.owner.accepted.length := by
    rw [List.toFinset_card_of_nodup distinct, clientKeys, List.length_map]
  have present :
      AllPresent manager ↔
        (presentClients manager).card = manager.owner.accepted.length := by
    rw [← all, presentClients, Finset.card_filter_eq_iff]
    simp only [List.mem_toFinset]
    rfl
  rw [present, Occupied, counted.currentUser]
  constructor
  · rintro ⟨current, -⟩
    exact_mod_cast current.symm
  · intro same
    rw [same, counted.monitor]
    exact ⟨rfl, rfl⟩

/-- The call does not handle the disconnect of an accepted client. -/
def KeepsClients
    (manager : LobbyNetwork) (event : NetworkManager.NetworkEvent) : Prop :=
  manager.AfterConstruct event ∧
    ∀ key ∈ clientKeys manager, manager.disconnectKey event ≠ some key

instance (manager : LobbyNetwork) (event : NetworkManager.NetworkEvent) :
    Decidable (KeepsClients manager event) :=
  inferInstanceAs (Decidable (_ ∧ _))

/-- Clients stay, if no call handles their disconnect. -/
theorem AllPresent.call
    {before after : LobbyNetwork} {event : NetworkManager.NetworkEvent}
    (present : AllPresent before)
    (keeps : KeepsClients before event)
    (done : before.call LobbyHub.callbacks event = .ok after) :
    AllPresent after := by
  have effect := NetworkManager.call_effect done
  have stays :
      ∀ key ∈ clientKeys before, key ∈ after.connectedSocketMap := by
    intro key member
    exact effect.mem_of_mem (present key member) (keeps.2 key member)
  cases lobby_effect done with
  | quiet _ owner =>
      rw [AllPresent, clientKeys, owner]
      exact stays
  | @accepted _ socket _ _ same owner =>
      have keys :
          clientKeys after = clientKeys before ++ [socket] := by
        rw [clientKeys, owner]
        exact List.map_append
      intro key member
      rw [keys, List.mem_append, List.mem_singleton] at member
      rcases member with member | rfl
      · exact stays key member
      · rw [same.connectedSocketMap]
        exact NetworkManager.mem_register_iff.mpr (.inr rfl)
  | ready _ _ _ _ owner =>
      rw [AllPresent, clientKeys, owner]
      exact stays

/--
In every run the counters are right exactly while all accepted clients are
registered, and so throughout a run in which none of them disconnects.
-/
theorem occupancy_counts_clients
    {settings : LobbySettings} {start manager : LobbyNetwork}
    (constructed : settings.construction.manager = .ok start) :
    (lobbySystem.Reaches NetworkManager.AfterConstruct start manager →
        (Occupied settings manager ↔ AllPresent manager)) ∧
      (lobbySystem.Reaches KeepsClients start manager →
        Occupied settings manager) := by
  constructor
  · intro reached
    exact (counted_of_reaches constructed reached).occupied_iff
  · intro reached
    have counted :=
      counted_of_reaches constructed
        (reached.mono fun _ _ keeps => keeps.1)
    apply counted.occupied_iff.mpr
    refine reached.invariant ?_ ?_
    · rw [AllPresent, clientKeys,
        (NetworkManager.Construction.idle constructed).2.1]
      exact nofun
    · intro before event after present keeps taken
      exact present.call keeps (Fallible.toOption_eq_some.mp taken)

/-- A lobby with one prepared socket. -/
def oneSocket (lobbyCapacity : Int32) : LobbySettings where
  lobbyKey := [76]
  lobbyPort := 9000
  preparedSocketMax := 1
  overlappedQueueMax := 4
  packetQueueCapacity := 4
  lobbyCapacity := lobbyCapacity
  memory := fun _ => default
  answers := [(0, .success)]
  answers_length := rfl
  prepared_lt := by decide

theorem oneSocket_constructed :
    (oneSocket 30).construction.manager.toOption.isSome = true := by
  decide +kernel

/-- A completion of the oldest operation, without bytes. -/
def oldestCompletes : NetworkManager.NetworkEvent :=
  .completion 0 (.succeeded []) 0 .success

/-- The lobby with room for thirty users, right behind `Construct`. -/
def emptyLobby : LobbyNetwork :=
  (oneSocket 30).construction.manager.toOption.get oneSocket_constructed

theorem emptyLobby_constructed :
    (oneSocket 30).construction.manager = .ok emptyLobby :=
  Fallible.toOption_eq_some.mp (Option.some_get _).symm

theorem client_joins :
    (lobbySystem.runAllowed KeepsClients emptyLobby
      [oldestCompletes]).isSome = true := by
  decide

theorem client_leaves :
    (lobbySystem.runAllowed NetworkManager.AfterConstruct emptyLobby
      [oldestCompletes, oldestCompletes]).isSome = true := by
  decide

/-- The client that has joined is counted. -/
theorem occupancy_one_client :
    Occupied (oneSocket 30)
      ((lobbySystem.runAllowed KeepsClients emptyLobby
        [oldestCompletes]).get client_joins) :=
  (occupancy_counts_clients emptyLobby_constructed).2
    (TransitionSystem.reaches_get client_joins)

/-- The client that has left is still counted. -/
theorem occupancy_client_left :
    ¬ ∀ (settings : LobbySettings) (start manager : LobbyNetwork),
      settings.construction.manager = .ok start →
        lobbySystem.Reaches NetworkManager.AfterConstruct start manager →
          Occupied settings manager := by
  intro occupied
  have counts :=
    (occupied (oneSocket 30) emptyLobby _ emptyLobby_constructed
      (TransitionSystem.reaches_get client_leaves)).1
  revert counts
  decide

/-! ## Occupancy and capacity -/

/-- The counters are within the capacity. -/
def LobbyMonitor.InRange (monitor : LobbyMonitor) : Prop :=
  0 ≤ monitor.remainCapacity.toInt ∧
    0 ≤ monitor.currentUser.toInt ∧
      monitor.currentUser.toInt ≤ monitor.capacity.toInt

instance (monitor : LobbyMonitor) : Decidable monitor.InRange :=
  inferInstanceAs (Decidable (_ ∧ _))

/-- Whoever connects is registered, in the manager and in the monitor. -/
def AdmitsAll (manager : LobbyNetwork) : Prop :=
  ∀ index bytes errorCode answer overlapped after,
    manager.outstanding[index]? = some overlapped →
      overlapped.operationType = .opAccept →
        manager.call LobbyHub.callbacks
            (.completion index (.succeeded bytes) errorCode answer) =
          .ok after →
        after.owner.lobbyMonitor =
            manager.owner.lobbyMonitor.registerLobbyUser ∧
          ∃ socket,
            overlapped.socket = some socket ∧
              socket ∈ after.connectedSocketMap

theorem Counted.admitsAll
    {settings : LobbySettings} {manager : LobbyNetwork}
    (counted : Counted settings manager) :
    AdmitsAll manager := by
  intro index bytes errorCode answer overlapped after found kind done
  have member : overlapped ∈ manager.accepts := by
    refine List.mem_filter.mpr ⟨List.mem_of_getElem? found, ?_⟩
    rw [NetworkManager.isAccept, kind]
    rfl
  have client := counted.fromClients overlapped member
  rcases NetworkManager.call_accepted found kind done with
    ⟨socket, target, called, connections⟩
  have owner : after.owner = manager.owner.acceptClient socket := by
    change
      LobbyHub.processIocp manager.owner socket overlapped = _ at called
    simp only [LobbyHub.processIocp, kind, if_pos client,
      Except.ok.injEq] at called
    exact called.symm
  refine ⟨by rw [owner]; rfl, socket, target, ?_⟩
  rw [connections.connectedSocketMap]
  exact NetworkManager.mem_register_iff.mpr (.inr rfl)

/-- What is left of the capacity. -/
theorem Counted.remainCapacity
    {settings : LobbySettings} {manager : LobbyNetwork}
    (counted : Counted settings manager)
    (nonneg : 0 ≤ settings.lobbyCapacity.toInt) :
    manager.owner.lobbyMonitor.remainCapacity.toInt =
      settings.lobbyCapacity.toInt - manager.owner.accepted.length := by
  have bound := counted.bound
  have small := settings.prepared_lt
  have upper := settings.lobbyCapacity.toInt_lt
  rw [counted.monitor]
  change (settings.lobbyCapacity - Int32.ofNat _).toInt = _
  rw [Int32.toInt_sub, Int32.toInt_ofNat_of_lt (by omega)]
  apply Int.bmod_eq_of_le
  · omega
  · omega

/-- How a lobby treats its capacity. -/
structure Admission (settings : LobbySettings) (manager : LobbyNetwork) :
    Prop where
  admitsAll : AdmitsAll manager
  capacity :
    manager.owner.lobbyMonitor.capacity = settings.lobbyCapacity
  /-- The two counters are updated together. -/
  balance :
    manager.owner.lobbyMonitor.currentUser.toInt +
        manager.owner.lobbyMonitor.remainCapacity.toInt =
      settings.lobbyCapacity.toInt
  current_nonneg : 0 ≤ manager.owner.lobbyMonitor.currentUser.toInt
  current_le :
    manager.owner.lobbyMonitor.currentUser.toInt ≤
      manager.owner.accepted.length
  /-- Every accepted client has used up a prepared socket. -/
  accepted_le :
    manager.owner.accepted.length ≤ settings.preparedSocketMax
  inRange :
    manager.owner.accepted.length ≤ settings.lobbyCapacity.toInt →
      manager.owner.lobbyMonitor.InRange

/--
In every reachable state each arriving client is registered, full or not; the
two counters add up to the capacity, and they are in range as long as no more
clients have been accepted than the lobby has room for.
-/
theorem lobby_admits_all
    {settings : LobbySettings} {start manager : LobbyNetwork}
    (nonneg : 0 ≤ settings.lobbyCapacity.toInt)
    (constructed : settings.construction.manager = .ok start)
    (reached :
      lobbySystem.Reaches NetworkManager.AfterConstruct start manager) :
    Admission settings manager := by
  have counted := counted_of_reaches constructed reached
  have bound := counted.bound
  have current := counted.currentUser
  have remain := counted.remainCapacity nonneg
  have capacity :
      manager.owner.lobbyMonitor.capacity = settings.lobbyCapacity := by
    rw [counted.monitor]
    rfl
  exact
    { admitsAll := counted.admitsAll
      capacity := capacity
      balance := by omega
      current_nonneg := by omega
      current_le := by omega
      accepted_le := by omega
      inRange := by
        intro room
        rw [LobbyMonitor.InRange, capacity]
        omega }

/-- Both accepts are taken. -/
def twoAccepts : List (Int × PostAnswer) :=
  [(0, .success), (0, .success)]

theorem twoAccepts_length : twoAccepts.length = 2 :=
  rfl

theorem twoSockets_lt : 2 < 2 ^ 31 := by
  decide

/-- A lobby with two prepared sockets. -/
def twoSockets (lobbyCapacity : Int32) : LobbySettings where
  lobbyKey := [76]
  lobbyPort := 9000
  preparedSocketMax := 2
  overlappedQueueMax := 4
  packetQueueCapacity := 4
  lobbyCapacity := lobbyCapacity
  memory := fun _ => default
  answers := twoAccepts
  answers_length := twoAccepts_length
  prepared_lt := twoSockets_lt

theorem twoSockets_constructed :
    (twoSockets 0).construction.manager.toOption.isSome = true := by
  decide +kernel

/-- A lobby without room, right behind `Construct`. -/
def fullLobby : LobbyNetwork :=
  (twoSockets 0).construction.manager.toOption.get twoSockets_constructed

theorem fullLobby_constructed :
    (twoSockets 0).construction.manager = .ok fullLobby :=
  Fallible.toOption_eq_some.mp (Option.some_get _).symm

theorem fullLobby_accepts :
    (lobbySystem.runAllowed NetworkManager.AfterConstruct fullLobby
      [oldestCompletes]).isSome = true := by
  decide

/-- The lobby without room behind its first client. -/
def oneTooMany : LobbyNetwork :=
  (lobbySystem.runAllowed NetworkManager.AfterConstruct fullLobby
    [oldestCompletes]).get fullLobby_accepts

/-- A lobby without room that has accepted a client, and accepts a second. -/
theorem lobby_admits_all_full :
    oneTooMany.accepts.length = 1 ∧ Admission (twoSockets 0) oneTooMany :=
  ⟨by decide,
    lobby_admits_all (Int.le_refl 0) fullLobby_constructed
      (TransitionSystem.reaches_get fullLobby_accepts)⟩

/-- A client that connects to a full lobby is not refused. -/
theorem full_lobby_admits :
    ¬ ∀ (settings : LobbySettings) (start manager : LobbyNetwork),
      0 ≤ settings.lobbyCapacity.toInt →
        settings.construction.manager = .ok start →
          lobbySystem.Reaches NetworkManager.AfterConstruct start manager →
            manager.owner.lobbyMonitor.InRange := by
  intro inRange
  have full :=
    inRange (twoSockets 0) fullLobby oneTooMany (by decide)
      fullLobby_constructed (TransitionSystem.reaches_get fullLobby_accepts)
  revert full
  decide

end IocpServer.LobbyServer
