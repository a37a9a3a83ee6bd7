import IocpServer.Network.OverlappedPool
import IocpServer.Network.SocketTracking

/-!
# What a call does

One inversion for all calls of a run behind `Construct`, in which nothing
calls `PrepareAcceptSocket` any more: which operation is completed, which one
is posted, and what becomes of the connections and of the owner's state.
-/

namespace IocpServer.Network.NetworkManager

open IocpServer.Library
open IocpServer.Utility

variable {Owner : Type}

/-- The event is not a call of `PrepareAcceptSocket`. -/
def AfterConstruct (_ : NetworkManager Owner) : NetworkEvent → Prop
  | .prepareAcceptSocket _ _ _ => False
  | .setupConnectSocket _ _ _ _ => True
  | .sendRequest _ _ _ _ _ => True
  | .completion _ _ _ _ => True

instance (manager : NetworkManager Owner) (event : NetworkEvent) :
    Decidable (manager.AfterConstruct event) := by
  unfold AfterConstruct
  split <;> infer_instance

/-- The operation whose completion a call handles. -/
def completed (manager : NetworkManager Owner) :
    NetworkEvent → Option CustomOverlapped
  | .completion index _ _ _ => manager.outstanding[index]?
  | _ => none

/-- The key whose disconnect a call handles. -/
def disconnectKey (manager : NetworkManager Owner) :
    NetworkEvent → Option CompletionKey
  | .completion index status _ _ =>
      match manager.outstanding[index]?, status with
      | none, _ => none
      | some overlapped, .failed code =>
          if code ∈ disconnectCodes then
            some (manager.completionKey overlapped)
          else
            none
      | some overlapped, .succeeded bytes =>
          if overlapped.operationType = .opRecv ∧ bytes = [] then
            some (manager.completionKey overlapped)
          else
            none
  | _ => none

/-- The connections are the same; sockets may have been allocated. -/
structure SameConnections (before after : NetworkManager Owner) : Prop where
  connectedSocketMap :
    after.connectedSocketMap = before.connectedSocketMap
  connected : after.connected = before.connected
  disconnected : after.disconnected = before.disconnected
  newAddress : after.newAddress = before.newAddress
  nextSocket : before.nextSocket ≤ after.nextSocket

theorem SameConnections.refl (manager : NetworkManager Owner) :
    SameConnections manager manager :=
  ⟨rfl, rfl, rfl, rfl, Nat.le_refl _⟩

theorem SameConnections.trans
    {before middle after : NetworkManager Owner}
    (first : SameConnections before middle)
    (second : SameConnections middle after) :
    SameConnections before after :=
  ⟨second.connectedSocketMap.trans first.connectedSocketMap,
    second.connected.trans first.connected,
    second.disconnected.trans first.disconnected,
    second.newAddress.trans first.newAddress,
    first.nextSocket.trans second.nextSocket⟩

/-- The registered connections behind an insert. -/
theorem mem_register_iff
    {manager : NetworkManager Owner} {targetSocket : SocketPointer}
    {key : CompletionKey} :
    key ∈ (manager.register targetSocket).connectedSocketMap ↔
      key ∈ manager.connectedSocketMap ∨ key = targetSocket := by
  rw [register]
  dsimp only
  split_ifs with present
  · constructor
    · exact .inl
    · rintro (member | rfl)
      · exact member
      · exact present
  · rw [Finmap.mem_insert, or_comm]

/-- What a call does to the connections and to the owner's state. -/
inductive Effect
    (callbacks : Callbacks Owner) (before : NetworkManager Owner)
    (event : NetworkEvent) (after : NetworkManager Owner) : Prop where
  /-- Nothing. -/
  | quiet
      (noDisconnect :
        ∀ key, before.disconnectKey event = some key →
          key ∉ before.connectedSocketMap)
      (connections : SameConnections before after)
      (owner : after.owner = before.owner)
  /-- The callback for a receive with data or for a send. -/
  | transferred
      {overlapped : CustomOverlapped} {bytes : List UInt8}
      (finished : before.completed event = some overlapped)
      (kind : opens overlapped.operationType = false)
      (noDisconnect : before.disconnectKey event = none)
      (connections : SameConnections before after)
      (owner :
        callbacks.iocpCallback before.owner
            (before.completionKey overlapped)
            (received overlapped bytes) =
          .ok after.owner)
  /-- A new connection, and the callback for it. -/
  | connected
      {overlapped : CustomOverlapped} {socket : SocketPointer}
      (finished : before.completed event = some overlapped)
      (kind : opens overlapped.operationType = true)
      (target : overlapped.socket = some socket)
      (noDisconnect : before.disconnectKey event = none)
      (connections : SameConnections (before.register socket) after)
      (owner :
        callbacks.iocpCallback before.owner socket overlapped =
          .ok after.owner)
  /-- The end of a registered connection, and the callback for it. -/
  | disconnected
      {key : CompletionKey}
      (handled : before.disconnectKey event = some key)
      (present : key ∈ before.connectedSocketMap)
      (fewer :
        ∀ other, other ∈ after.connectedSocketMap →
          other ∈ before.connectedSocketMap)
      (others :
        ∀ other, other ≠ key → other ∈ before.connectedSocketMap →
          other ∈ after.connectedSocketMap)
      (connected : after.connected = before.connected)
      (reported : after.disconnected = before.disconnected ++ [key])
      (newAddress : after.newAddress = before.newAddress)
      (nextSocket : before.nextSocket ≤ after.nextSocket)
      (owner :
        after.owner = callbacks.disconnectCallback before.owner key)

section Effects

variable {callbacks : Callbacks Owner}
variable {manager reached after : NetworkManager Owner}
variable {request : Option OverlappedSetting} {event : NetworkEvent}

/-- What comes behind an effect does not touch the connections. -/
theorem Effect.trans
    (effect : Effect callbacks manager event reached)
    (connections : SameConnections reached after)
    (owner : after.owner = reached.owner) :
    Effect callbacks manager event after := by
  cases effect with
  | quiet noDisconnect same unchanged =>
      exact
        .quiet noDisconnect (same.trans connections)
          (owner.trans unchanged)
  | transferred finished kind noDisconnect same called =>
      exact
        .transferred finished kind noDisconnect (same.trans connections)
          (owner ▸ called)
  | connected finished kind target noDisconnect same called =>
      exact
        .connected finished kind target noDisconnect
          (same.trans connections) (owner ▸ called)
  | disconnected handled present fewer others connected reported address
      next called =>
      exact
        .disconnected handled present
          (fun other member =>
            fewer other (connections.connectedSocketMap ▸ member))
          (fun other different member =>
            connections.connectedSocketMap ▸ others other different member)
          (connections.connected.trans connected)
          (connections.disconnected.trans reported)
          (connections.newAddress.trans address)
          (next.trans connections.nextSocket) (owner.trans called)

/-- A `CallReceiveReady` leaves the connections alone up to its posting. -/
theorem receiveReadyFront_same
    {targetSocket : SocketPointer} {errorCode : Int}
    (done :
      manager.receiveReadyFront targetSocket errorCode =
        .ok (reached, request)) :
    reached = manager := by
  unfold receiveReadyFront at done
  split at done
  · cases done
  · split_ifs at done
    · cases done
      rfl
    · cases done
      rfl

/-- A callback, and the front part of the `CallReceiveReady` behind it. -/
theorem callback_receiveReady_same
    {completionKey : CompletionKey} {overlapped : CustomOverlapped}
    {targetSocket : SocketPointer} {errorCode : Int}
    (done :
      (match
        manager.callIocpCallback callbacks completionKey overlapped
      with
      | .error fault => .error fault
      | .ok called => called.receiveReadyFront targetSocket errorCode) =
        Except.ok (reached, request)) :
    callbacks.iocpCallback manager.owner completionKey overlapped =
        .ok reached.owner ∧
      reached = { manager with owner := reached.owner } := by
  split at done
  · cases done
  · next called returned =>
      have same := receiveReadyFront_same done
      unfold callIocpCallback at returned
      split at returned
      · cases returned
      · next owner answered =>
          cases returned
          rw [same]
          exact ⟨answered, rfl⟩

/-- What is dequeued does not matter for a registration. -/
theorem register_dequeue_same
    (manager : NetworkManager Owner) (index : Nat) (socket : SocketPointer) :
    SameConnections (manager.register socket)
      ((manager.dequeue index).register socket) :=
  ⟨rfl, rfl, rfl, rfl, Nat.le_refl _⟩

/-- Only a receive brings bytes. -/
theorem received_of_ne
    {overlapped : CustomOverlapped} (bytes : List UInt8)
    (notReceive : overlapped.operationType ≠ .opRecv) :
    received overlapped bytes = overlapped := by
  unfold received
  split
  · next receive => exact absurd receive notReceive
  · rfl

/-- `HandleAcceptComplete` or `HandleConnectComplete`, up to its posting. -/
theorem connectionFront_cases
    {start : NetworkManager Owner} {overlapped : CustomOverlapped}
    {errorCode : Int}
    (done :
      start.connectionFront callbacks overlapped errorCode =
        .ok (reached, request)) :
    ∃ socket,
      overlapped.socket = some socket ∧
        callbacks.iocpCallback start.owner socket overlapped =
            .ok reached.owner ∧
          SameConnections (start.register socket) reached := by
  unfold connectionFront at done
  split at done
  · cases done
  · next socket target =>
      rcases callback_receiveReady_same done with ⟨called, equal⟩
      refine ⟨socket, target, called, ?_⟩
      rw [equal]
      exact ⟨rfl, rfl, rfl, rfl, Nat.le_refl _⟩

/-- `HandleDisconnectComplete` of the key, for the dequeued completion. -/
theorem handleDisconnectComplete_effect
    {start : NetworkManager Owner} {key : CompletionKey}
    (handled : manager.disconnectKey event = some key)
    (same : SameConnections manager start)
    (owner : start.owner = manager.owner)
    (done : start.handleDisconnectComplete callbacks key = .ok reached) :
    Effect callbacks manager event reached := by
  rcases same with ⟨map, connected, disconnected, address, next⟩
  unfold handleDisconnectComplete at done
  split at done
  · next missing =>
      cases done
      rw [map] at missing
      refine .quiet ?_ ⟨map, connected, disconnected, address, next⟩ owner
      intro other also
      rw [handled, Option.some.injEq] at also
      rw [← also]
      exact Finmap.lookup_eq_none.mp missing
  · next targetSocket found =>
      rw [map] at found
      have present := Finmap.mem_of_lookup_eq_some found
      split at done
      · cases done
      · next result after closed =>
          cases done
          have kept :
              after.connectedSocketMap = manager.connectedSocketMap ∧
                after.connected = manager.connected ∧
                  after.disconnected = manager.disconnected ∧
                    after.newAddress = manager.newAddress ∧
                      manager.nextSocket ≤ after.nextSocket ∧
                        after.owner = manager.owner := by
            unfold processDisconnect at closed
            split at closed
            · cases closed
            · cases closed
              exact ⟨map, connected, disconnected, address, next, owner⟩
            · cases closed
              exact ⟨map, connected, disconnected, address, next, owner⟩
            · cases closed
              exact ⟨map, connected, disconnected, address, next, owner⟩
          rcases kept with
            ⟨sameMap, sameConnected, sameReported, sameAddress, allocated,
              sameOwner⟩
          refine
            .disconnected handled present ?_ ?_ sameConnected
              (congrArg (· ++ [key]) sameReported) sameAddress allocated
              (congrArg (callbacks.disconnectCallback · key) sameOwner)
          · intro other member
            dsimp only at member
            rw [sameMap] at member
            split_ifs at member
            · exact (Finmap.mem_erase.mp member).2
            · exact member
          · intro other different member
            dsimp only
            rw [sameMap]
            split_ifs
            · exact Finmap.mem_erase.mpr ⟨different, member⟩
            · exact member

/-- A completion that only disconnects. -/
theorem onlyDisconnect_effect
    {index : Nat} {key : CompletionKey}
    (handled : manager.disconnectKey event = some key)
    (done :
      onlyFront
          ((manager.dequeue index).handleDisconnectComplete callbacks key) =
        .ok (reached, request)) :
    Effect callbacks manager event reached := by
  rcases Fallible.map_eq_ok.mp done with ⟨after, called, equal⟩
  cases equal
  have same : SameConnections manager (manager.dequeue index) :=
    ⟨rfl, rfl, rfl, rfl, Nat.le_refl _⟩
  exact handleDisconnectComplete_effect handled same rfl called

section Succeeded

variable {index : Nat} {bytes : List UInt8} {errorCode : Int}
variable {answer : PostAnswer} {overlapped : CustomOverlapped}

/-- A success disconnects only where a receive brought nothing. -/
theorem disconnectKey_succeeded
    (found : manager.outstanding[index]? = some overlapped)
    (speaking : ¬ (overlapped.operationType = .opRecv ∧ bytes = [])) :
    manager.disconnectKey
        (.completion index (.succeeded bytes) errorCode answer) =
      none := by
  simp only [disconnectKey, found, if_neg speaking]

/-- An accept or a connect registers the connection. -/
theorem connectionFront_effect
    (found : manager.outstanding[index]? = some overlapped)
    (kind : opens overlapped.operationType = true)
    (done :
      (manager.dequeue index).connectionFront callbacks
          (received overlapped bytes) errorCode =
        .ok (reached, request)) :
    Effect callbacks manager
      (.completion index (.succeeded bytes) errorCode answer) reached := by
  have notReceive : overlapped.operationType ≠ .opRecv := by
    intro receive
    rw [receive] at kind
    cases kind
  rw [received_of_ne bytes notReceive] at done
  rcases connectionFront_cases done with
    ⟨socket, target, called, connections⟩
  exact
    .connected found kind target
      (disconnectKey_succeeded found fun both => notReceive both.1)
      ((manager.register_dequeue_same index socket).trans connections) called

/-- A receive brings bytes to the owner, or ends the connection. -/
theorem receiveFront_effect
    (found : manager.outstanding[index]? = some overlapped)
    (kind : overlapped.operationType = .opRecv)
    (done :
      (manager.dequeue index).receiveFront callbacks
          (manager.completionKey overlapped) (received overlapped bytes)
          bytes.length errorCode =
        .ok (reached, request)) :
    Effect callbacks manager
      (.completion index (.succeeded bytes) errorCode answer) reached := by
  unfold receiveFront at done
  split_ifs at done with empty
  · have nothing : bytes = [] :=
      List.length_eq_zero_iff.mp (Nat.le_zero.mp empty)
    refine onlyDisconnect_effect ?_ done
    simp only [disconnectKey, found, if_pos (And.intro kind nothing)]
  · split at done
    · cases done
    · next targetSocket target =>
        rcases callback_receiveReady_same done with ⟨called, equal⟩
        have speaking : bytes ≠ [] := by
          rintro rfl
          exact empty (Nat.le_refl 0)
        refine
          .transferred found (by rw [kind]; rfl)
            (disconnectKey_succeeded found fun both => speaking both.2)
            ?_ called
        rw [equal]
        exact ⟨rfl, rfl, rfl, rfl, Nat.le_refl _⟩

/-- A send is reported to the owner. -/
theorem sendFront_effect
    (found : manager.outstanding[index]? = some overlapped)
    (kind : overlapped.operationType = .opSend)
    (done :
      onlyFront
          ((manager.dequeue index).handleSendComplete callbacks
            (manager.completionKey overlapped)
            (received overlapped bytes)) =
        .ok (reached, request)) :
    Effect callbacks manager
      (.completion index (.succeeded bytes) errorCode answer) reached := by
  rcases Fallible.map_eq_ok.mp done with ⟨after, called, equal⟩
  cases equal
  unfold handleSendComplete callIocpCallback at called
  split at called
  · cases called
  · next owner answered =>
      cases called
      exact
        .transferred found (by rw [kind]; rfl)
          (disconnectKey_succeeded found (by rw [kind]; nofun))
          ⟨rfl, rfl, rfl, rfl, Nat.le_refl _⟩ answered

end Succeeded

/-- The front part of a completion. -/
theorem completionFront_effect
    {index : Nat} {status : CompletionStatus} {errorCode : Int}
    {answer : PostAnswer} {overlapped : CustomOverlapped}
    (found : manager.outstanding[index]? = some overlapped)
    (done :
      (manager.dequeue index).completionFront callbacks overlapped status
          errorCode =
        .ok (reached, request)) :
    Effect callbacks manager (.completion index status errorCode answer)
      reached := by
  have same : SameConnections manager (manager.dequeue index) :=
    ⟨rfl, rfl, rfl, rfl, Nat.le_refl _⟩
  cases status with
  | failed code =>
      simp only [completionFront] at done
      split_ifs at done with listed
      · refine onlyDisconnect_effect ?_ done
        simp only [disconnectKey, found, if_pos listed]
        rfl
      · cases done
        refine .quiet ?_ same rfl
        intro key handled
        simp [disconnectKey, found, listed] at handled
  | succeeded bytes =>
      simp only [completionFront, handlerFront,
        received_operationType] at done
      split at done
      · next kind => exact connectionFront_effect found (by rw [kind]; rfl) done
      · next kind => exact connectionFront_effect found (by rw [kind]; rfl) done
      · next kind => exact receiveFront_effect found kind done
      · next kind => exact sendFront_effect found kind done
      · next kind =>
          cases done
          refine .quiet ?_ same rfl
          intro key handled
          rw [disconnectKey_succeeded found (by rw [kind]; nofun)] at handled
          cases handled

/-- `FillSocketQueue` allocates sockets and does nothing else. -/
theorem fillSocketQueue_same (manager : NetworkManager Owner) :
    SameConnections manager manager.fillSocketQueue ∧
      manager.fillSocketQueue.owner = manager.owner := by
  refine
    Function.Iterate.rec
      (fun filled : NetworkManager Owner =>
        SameConnections manager filled ∧ filled.owner = manager.owner)
      ⟨.refl manager, rfl⟩ ?_ _
  intro filled same
  exact ⟨same.1.trans ⟨rfl, rfl, rfl, rfl, Nat.le_succ _⟩, same.2⟩

theorem refill_same (manager : NetworkManager Owner) :
    SameConnections manager manager.refill ∧
      manager.refill.owner = manager.owner := by
  unfold refill
  split_ifs
  · exact manager.fillSocketQueue_same
  · exact ⟨.refl manager, rfl⟩

/-- Without a key to disconnect a call only has to keep the connections. -/
theorem Effect.of_none
    {before after : NetworkManager Owner}
    (none : before.disconnectKey event = none)
    (connections : SameConnections before after)
    (owner : after.owner = before.owner) :
    Effect callbacks before event after := by
  refine .quiet ?_ connections owner
  intro key handled
  rw [none] at handled
  cases handled

/-- The front part of any call. -/
theorem front_effect
    (done : manager.front callbacks event = .ok (reached, request)) :
    Effect callbacks manager event reached := by
  cases event with
  | prepareAcceptSocket senderType errorCode answer =>
      rcases manager.refill_same with ⟨same, owner⟩
      simp only [front, prepareAcceptFront] at done
      split at done
      · cases done
      · split at done
        · cases done
        · split_ifs at done
          · cases done
            exact
              .of_none rfl (same.trans ⟨rfl, rfl, rfl, rfl, Nat.le_refl _⟩)
                owner
          · cases done
            exact
              .of_none rfl (same.trans ⟨rfl, rfl, rfl, rfl, Nat.le_refl _⟩)
                owner
  | setupConnectSocket senderType bindFails ioctlFails answer =>
      simp only [front, setupConnectFront] at done
      split_ifs at done
      · cases done
        exact .of_none rfl (.refl manager) rfl
      · cases done
        exact .of_none rfl ⟨rfl, rfl, rfl, rfl, Nat.le_succ _⟩ rfl
      · cases done
        exact .of_none rfl ⟨rfl, rfl, rfl, rfl, Nat.le_succ _⟩ rfl
  | sendRequest targetSocket contentType stringBuffer bodySize answer =>
      simp only [front, sendFront] at done
      split at done
      · cases done
        exact .of_none rfl (.refl manager) rfl
      · cases done
        exact .of_none rfl (.refl manager) rfl
  | completion index status errorCode answer =>
      simp only [front] at done
      split at done
      · next missing =>
          cases done
          refine .quiet ?_ (.refl manager) rfl
          intro key handled
          simp [disconnectKey, missing] at handled
      · next overlapped found => exact completionFront_effect found done

/--
A call is its front part, which takes the completed operation out, and a
posting of the operation the front part asks for, unless it fails.
-/
theorem call_cases
    (done : manager.call callbacks event = .ok after) :
    ∃ reached request overlappedQueue,
      manager.front callbacks event = .ok (reached, request) ∧
        reached.outstanding = (manager.accepted event).outstanding ∧
          (after = { reached with overlappedQueue := overlappedQueue } ∧
              (request.isSome = true → event.answer.failed = true) ∨
            ∃ setting overlapped posted,
              request = some setting ∧
                event.answer.failed = false ∧
                  setting.set overlapped = .ok posted ∧
                    after =
                      { reached with
                        overlappedQueue := overlappedQueue
                        outstanding := reached.outstanding ++ [posted] }) := by
  rw [call_eq_phases] at done
  rcases Fallible.map_eq_ok.mp done with ⟨settled, resumed, rfl⟩
  have recycled :
      ∃ overlappedQueue,
        tail (manager.returned event) settled =
          { settled with overlappedQueue := overlappedQueue } := by
    cases manager.returned event with
    | none => exact ⟨_, rfl⟩
    | some overlapped => exact ⟨_, rfl⟩
  rcases recycled with ⟨overlappedQueue, recycled⟩
  rw [recycled]
  have leaves : (manager.accepted event).LeavesPool
      (manager.front callbacks event) :=
    front_leavesPool event
  cases fronted : manager.front callbacks event with
  | error fault =>
      rw [fronted] at resumed
      cases resumed
  | ok outcome =>
      rcases outcome with ⟨reached, request⟩
      rw [fronted] at resumed leaves
      refine ⟨reached, request, overlappedQueue, rfl, leaves.outstanding, ?_⟩
      cases request with
      | none =>
          cases resumed
          exact .inl ⟨rfl, nofun⟩
      | some setting =>
          rcases Fallible.map_eq_ok.mp resumed with
            ⟨⟨result, after⟩, posting, rfl⟩
          rcases post_cases posting with
            ⟨overlapped, popped, posted, _, prepared, outcome⟩
          rcases outcome with ⟨failed, _, rfl⟩ | ⟨accepted, _, rfl⟩
          · exact .inl ⟨rfl, fun _ => failed⟩
          · exact
              .inr ⟨setting, overlapped.clear, posted, rfl, accepted,
                prepared, rfl⟩

/-- What a call does to the connections and to the owner's state. -/
theorem call_effect
    (done : manager.call callbacks event = .ok after) :
    Effect callbacks manager event after := by
  rcases call_cases done with
    ⟨reached, request, overlappedQueue, fronted, _,
      ⟨rfl, _⟩ | ⟨_, _, _, _, _, _, rfl⟩⟩
  · exact
      (front_effect fronted).trans ⟨rfl, rfl, rfl, rfl, Nat.le_refl _⟩ rfl
  · exact
      (front_effect fronted).trans ⟨rfl, rfl, rfl, rfl, Nat.le_refl _⟩ rfl

/-- A successful completion of an accept registers the connection. -/
theorem call_accepted
    {index : Nat} {bytes : List UInt8} {errorCode : Int}
    {answer : PostAnswer} {overlapped : CustomOverlapped}
    (found : manager.outstanding[index]? = some overlapped)
    (kind : overlapped.operationType = .opAccept)
    (done :
      manager.call callbacks
          (.completion index (.succeeded bytes) errorCode answer) =
        .ok after) :
    ∃ socket,
      overlapped.socket = some socket ∧
        callbacks.iocpCallback manager.owner socket overlapped =
            .ok after.owner ∧
          SameConnections (manager.register socket) after := by
  rcases call_cases done with
    ⟨reached, request, overlappedQueue, fronted, _, outcome⟩
  have notReceive : overlapped.operationType ≠ .opRecv := by
    rw [kind]
    nofun
  have opening :
      (manager.dequeue index).connectionFront callbacks overlapped
          errorCode =
        .ok (reached, request) := by
    simp only [front, found, completionFront, handlerFront,
      received_of_ne bytes notReceive, kind] at fronted
    exact fronted
  rcases connectionFront_cases opening with
    ⟨socket, target, called, connections⟩
  have same :=
    (manager.register_dequeue_same index socket).trans connections
  refine ⟨socket, target, ?_⟩
  rcases outcome with ⟨rfl, _⟩ | ⟨_, _, _, _, _, _, rfl⟩
  · exact ⟨called, same.trans ⟨rfl, rfl, rfl, rfl, Nat.le_refl _⟩⟩
  · exact ⟨called, same.trans ⟨rfl, rfl, rfl, rfl, Nat.le_refl _⟩⟩

/-- The outstanding accepts and connects. -/
def openings (manager : NetworkManager Owner) : List CustomOverlapped :=
  manager.outstanding.filter fun overlapped => opens overlapped.operationType

/-- A `CallReceiveReady` asks for a receive. -/
theorem receiveReadyFront_request
    {socket : SocketPointer} {errorCode : Int} {setting : OverlappedSetting}
    (done :
      manager.receiveReadyFront socket errorCode =
        .ok (reached, some setting)) :
    setting.operationType = .opRecv := by
  unfold receiveReadyFront at done
  split at done
  · cases done
  · split_ifs at done
    · cases done
    · cases done
      rfl

/-- So does a callback with a `CallReceiveReady` behind it. -/
theorem callback_receiveReady_request
    {completionKey : CompletionKey} {overlapped : CustomOverlapped}
    {socket : SocketPointer} {errorCode : Int} {setting : OverlappedSetting}
    (done :
      (match
        manager.callIocpCallback callbacks completionKey overlapped
      with
      | .error fault => .error fault
      | .ok called => called.receiveReadyFront socket errorCode) =
        Except.ok (reached, some setting)) :
    setting.operationType = .opRecv := by
  split at done
  · cases done
  · exact receiveReadyFront_request done

theorem onlyFront_request
    {call : Except Fault (NetworkManager Owner)}
    {setting : OverlappedSetting} :
    onlyFront call ≠ .ok (reached, some setting) := by
  intro done
  rcases Fallible.map_eq_ok.mp done with ⟨_, _, equal⟩
  cases equal

/-- A handler asks for a receive, if it asks for anything. -/
theorem completionFront_request
    {overlapped : CustomOverlapped} {status : CompletionStatus}
    {errorCode : Int} {setting : OverlappedSetting}
    (done :
      manager.completionFront callbacks overlapped status errorCode =
        .ok (reached, some setting)) :
    setting.operationType = .opRecv := by
  cases status with
  | failed code =>
      simp only [completionFront] at done
      split_ifs at done
      · exact absurd done onlyFront_request
      · cases done
  | succeeded bytes =>
      simp only [completionFront, handlerFront, connectionFront,
        receiveFront] at done
      split at done
      · split at done
        · cases done
        · exact callback_receiveReady_request done
      · split at done
        · cases done
        · exact callback_receiveReady_request done
      · split_ifs at done
        · exact absurd done onlyFront_request
        · split at done
          · cases done
          · exact callback_receiveReady_request done
      · exact absurd done onlyFront_request
      · cases done

/--
Behind `Construct` a call asks for no accept, and for a connect only with a
socket it has just allocated.
-/
theorem front_request
    {setting : OverlappedSetting}
    (runs : manager.AfterConstruct event)
    (done :
      manager.front callbacks event = .ok (reached, some setting)) :
    opens setting.operationType = false ∨
      setting.operationType = .opConnect ∧
        setting.socket = manager.socketAddress ∧
          reached.nextSocket = manager.nextSocket + 1 := by
  cases event with
  | prepareAcceptSocket senderType errorCode answer => exact runs.elim
  | setupConnectSocket senderType bindFails ioctlFails answer =>
      simp only [front, setupConnectFront] at done
      split_ifs at done
      · cases done
      · cases done
      · cases done
        exact .inr ⟨rfl, rfl, rfl⟩
  | sendRequest targetSocket contentType stringBuffer bodySize answer =>
      simp only [front, sendFront] at done
      split at done
      · cases done
      · cases done
        exact .inl rfl
  | completion index status errorCode answer =>
      simp only [front] at done
      split at done
      · cases done
      · left
        rw [completionFront_request done]
        rfl

/-- Sockets are only ever allocated. -/
theorem Effect.nextSocket_le
    (effect : Effect callbacks manager event after) :
    manager.nextSocket ≤ after.nextSocket := by
  cases effect with
  | quiet _ same _ => exact same.nextSocket
  | transferred _ _ _ same _ => exact same.nextSocket
  | connected _ _ _ _ same _ => exact same.nextSocket
  | disconnected _ _ _ _ _ _ _ next _ => exact next

theorem Effect.newAddress_eq
    (effect : Effect callbacks manager event after) :
    after.newAddress = manager.newAddress := by
  cases effect with
  | quiet _ same _ => exact same.newAddress
  | transferred _ _ _ same _ => exact same.newAddress
  | connected _ _ _ _ same _ => exact same.newAddress
  | disconnected _ _ _ _ _ _ address _ _ => exact address

/-- A registered connection stays, unless its disconnect is handled. -/
theorem Effect.mem_of_mem
    {key : CompletionKey}
    (effect : Effect callbacks manager event after)
    (present : key ∈ manager.connectedSocketMap)
    (remains : manager.disconnectKey event ≠ some key) :
    key ∈ after.connectedSocketMap := by
  cases effect with
  | quiet _ same _ => exact same.connectedSocketMap ▸ present
  | transferred _ _ _ same _ => exact same.connectedSocketMap ▸ present
  | @connected _ socket _ _ _ _ same _ =>
      rw [same.connectedSocketMap, mem_register_iff]
      exact .inl present
  | disconnected handled _ _ others _ _ _ _ _ =>
      refine others key ?_ present
      rintro rfl
      exact remains handled

/--
Behind `Construct` a call posts no accept, and a connect only on a socket it
has just allocated.
-/
theorem call_openings
    (runs : manager.AfterConstruct event)
    (done : manager.call callbacks event = .ok after) :
    after.openings = (manager.accepted event).openings ∨
      ∃ posted,
        after.openings = (manager.accepted event).openings ++ [posted] ∧
          posted.operationType = .opConnect ∧
            posted.socket = some manager.socketAddress ∧
              manager.nextSocket < after.nextSocket := by
  rcases call_cases done with
    ⟨reached, request, overlappedQueue, fronted, taken, outcome⟩
  rcases outcome with
    ⟨rfl, _⟩ | ⟨setting, overlapped, posted, rfl, _, prepared, rfl⟩
  · left
    exact congrArg (List.filter _) taken
  · rcases setting.set_ok prepared with ⟨_, operation, target⟩
    have appended :
        openings
            { reached with
              overlappedQueue := overlappedQueue
              outstanding := reached.outstanding ++ [posted] } =
          (manager.accepted event).openings ++
            [posted].filter fun overlapped =>
              opens overlapped.operationType := by
      rw [openings, List.filter_append, taken]
      rfl
    rcases front_request runs fronted with other | ⟨kind, socket, next⟩
    · left
      have closed :
          [posted].filter (fun overlapped => opens overlapped.operationType) =
            [] := by
        apply List.filter_cons_of_neg
        rw [operation, other]
        exact Bool.false_ne_true
      rw [appended, closed]
      exact List.append_nil _
    · right
      refine ⟨posted, ?_, operation.trans kind, socket ▸ target, ?_⟩
      · rw [appended,
          List.filter_cons_of_pos (by rw [operation, kind]; rfl)]
        rfl
      · rw [next]
        exact Nat.lt_succ_self _

/-- What a completion takes out of the outstanding openings. -/
theorem openings_accepted
    (manager : NetworkManager Owner) (event : NetworkEvent) :
    ((manager.completed event).toList.filter
        (fun overlapped => opens overlapped.operationType) ++
      (manager.accepted event).openings).Perm manager.openings := by
  rw [openings, ← List.filter_append]
  apply List.Perm.filter
  cases event with
  | prepareAcceptSocket senderType errorCode answer => exact .refl _
  | setupConnectSocket senderType bindFails ioctlFails answer =>
      exact .refl _
  | sendRequest targetSocket contentType stringBuffer bodySize answer =>
      exact .refl _
  | completion index status errorCode answer =>
      rw [completed, accepted, dequeue]
      cases found : manager.outstanding[index]? with
      | none =>
          rw [List.eraseIdx_of_length_le
            (List.getElem?_eq_none_iff.mp found)]
          exact .refl _
      | some overlapped => exact perm_cons_eraseIdx found

/-! ## Sockets are told apart -/

/-- The sockets of the outstanding accepts and connects. -/
def openSockets (manager : NetworkManager Owner) : List SocketPointer :=
  manager.openings.filterMap CustomOverlapped.socket

/--
With an address of its own for every socket, no two accepts or connects are
for the same one, and none is for one that has been connected already.
-/
structure Apart (manager : NetworkManager Owner) : Prop where
  numbered : manager.newAddress = id
  distinct : (manager.openSockets ++ manager.connected).Nodup
  allocated :
    ∀ socket ∈ manager.openSockets ++ manager.connected,
      socket < manager.nextSocket

/-- The sockets of the completed accept or connect. -/
def completedSockets
    (manager : NetworkManager Owner) (event : NetworkEvent) :
    List SocketPointer :=
  ((manager.completed event).toList.filter fun overlapped =>
    opens overlapped.operationType).filterMap CustomOverlapped.socket

/-- A call connects the socket of the completed operation, or none. -/
theorem Effect.connected_eq
    (effect : Effect callbacks manager event after) :
    after.connected = manager.connected ∨
      after.connected =
        manager.connected ++ manager.completedSockets event := by
  cases effect with
  | quiet _ same _ => exact .inl same.connected
  | transferred _ _ _ same _ => exact .inl same.connected
  | disconnected _ _ _ _ connected _ _ _ _ => exact .inl connected
  | connected finished kind target _ same _ =>
      right
      rw [same.connected, completedSockets, finished]
      simp [register, kind, target]

/-- A call opens on a socket it has allocated, or on none. -/
theorem call_openSockets
    (runs : manager.AfterConstruct event)
    (done : manager.call callbacks event = .ok after) :
    ∃ allocated,
      after.openSockets =
          (manager.accepted event).openSockets ++ allocated ∧
        (allocated = [] ∨
          allocated = [manager.socketAddress] ∧
            manager.nextSocket < after.nextSocket) := by
  rcases call_openings runs done with
    same | ⟨posted, appended, _, target, next⟩
  · refine ⟨[], ?_, .inl rfl⟩
    rw [openSockets, same, List.append_nil]
    rfl
  · refine ⟨[manager.socketAddress], ?_, .inr ⟨rfl, next⟩⟩
    rw [openSockets, appended, List.filterMap_append,
      List.filterMap_cons_some target]
    rfl

/-- Every call behind `Construct` keeps the sockets apart. -/
theorem Apart.call
    (apart : manager.Apart)
    (runs : manager.AfterConstruct event)
    (done : manager.call callbacks event = .ok after) :
    after.Apart := by
  have effect := call_effect done
  have next := effect.nextSocket_le
  have taken :=
    (openings_accepted manager event).filterMap CustomOverlapped.socket
  rw [List.filterMap_append] at taken
  have counted (socket : SocketPointer) :
      manager.openSockets.count socket =
        (manager.completedSockets event).count socket +
          (manager.accepted event).openSockets.count socket := by
    rw [openSockets, ← taken.count_eq, List.count_append]
    rfl
  rcases call_openSockets runs done with ⟨allocated, opened, fresh⟩
  have contained :
      (after.openSockets ++ after.connected).Subperm
        (allocated ++ (manager.openSockets ++ manager.connected)) := by
    apply List.subperm_ext_iff.mpr
    intro socket _
    have count := counted socket
    rw [opened]
    rcases effect.connected_eq with same | appended
    · rw [same]
      simp only [List.count_append]
      omega
    · rw [appended]
      simp only [List.count_append]
      omega
  have distinct :
      (allocated ++ (manager.openSockets ++ manager.connected)).Nodup ∧
        ∀ socket ∈
            allocated ++ (manager.openSockets ++ manager.connected),
          socket < after.nextSocket := by
    rcases fresh with rfl | ⟨rfl, more⟩
    · exact
        ⟨apart.distinct, fun socket member =>
          Nat.lt_of_lt_of_le (apart.allocated socket member) next⟩
    · have address : manager.socketAddress = manager.nextSocket :=
        congrFun apart.numbered manager.nextSocket
      have new :
          manager.nextSocket ∉
            manager.openSockets ++ manager.connected := by
        intro member
        exact Nat.lt_irrefl _ (apart.allocated _ member)
      rw [address]
      refine ⟨List.nodup_cons.mpr ⟨new, apart.distinct⟩, ?_⟩
      intro socket member
      rcases List.mem_cons.mp member with rfl | before
      · exact more
      · exact Nat.lt_of_lt_of_le (apart.allocated socket before) next
  rcases contained with ⟨rest, rearranged, sublist⟩
  exact
    { numbered := effect.newAddress_eq.trans apart.numbered
      distinct := rearranged.nodup_iff.mp (sublist.nodup distinct.1)
      allocated := fun socket member =>
        distinct.2 socket
          (sublist.subset (rearranged.mem_iff.mpr member)) }

end Effects

end IocpServer.Network.NetworkManager
