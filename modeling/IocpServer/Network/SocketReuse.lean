import IocpServer.Network.CallEffects

/-!
# Addresses that are used again

`new SOCKET` never returns the address of an object that is there, but it may
return that of a deleted one.  A receive which is still in flight for the
deleted object then completes on the key of the new one, and nothing in the
source tells the two apart; `ObservedManager` notes for every operation which
object it was posted for.
-/

namespace IocpServer.Network

open IocpServer.Library
open IocpServer.Utility

variable {Owner : Type}

namespace NetworkManager

/-- The next `new SOCKET` returns an address without an object. -/
def NextFree (manager : NetworkManager Owner) : Prop :=
  manager.socketStatus manager.socketAddress = .deleted

instance (manager : NetworkManager Owner) : Decidable manager.NextFree :=
  inferInstanceAs (Decidable (_ = _))

/-- So do those in the next rounds of the loop in `FillSocketQueue`. -/
def FillsFree : Nat → NetworkManager Owner → Prop
  | 0, _ => True
  | count + 1, manager =>
      manager.NextFree ∧ FillsFree count manager.pushNewSocket

instance : (count : Nat) → (manager : NetworkManager Owner) →
    Decidable (FillsFree count manager)
  | 0, _ => inferInstanceAs (Decidable True)
  | count + 1, manager =>
      have := instDecidableFillsFree count manager.pushNewSocket
      inferInstanceAs (Decidable (_ ∧ _))

/-- Every `new SOCKET` of the call returns an address without an object. -/
def AllocatesFree (manager : NetworkManager Owner) : NetworkEvent → Prop
  | .prepareAcceptSocket _ _ _ =>
      manager.preparedSocketQueue.size < 1 →
        FillsFree manager.prepareSocketMax manager
  | .setupConnectSocket _ bindFails _ _ =>
      bindFails = false → manager.NextFree
  | .sendRequest _ _ _ _ _ => True
  | .completion _ _ _ _ => True

instance (manager : NetworkManager Owner) :
    (event : NetworkEvent) → Decidable (manager.AllocatesFree event)
  | .prepareAcceptSocket _ _ _ => inferInstanceAs (Decidable (_ → _))
  | .setupConnectSocket _ _ _ _ => inferInstanceAs (Decidable (_ → _))
  | .sendRequest _ _ _ _ _ => inferInstanceAs (Decidable True)
  | .completion _ _ _ _ => inferInstanceAs (Decidable True)

theorem Tracked.fill
    {manager : NetworkManager Owner} {postedFor : List Nat} {count : Nat}
    (tracked : manager.Tracked postedFor [] [])
    (free : FillsFree count manager) :
    (NetworkManager.pushNewSocket^[count] manager).Tracked postedFor [] [] := by
  induction count generalizing manager with
  | zero => exact tracked
  | succ count induction =>
      exact induction (tracked.pushNewSocket free.1) free.2

theorem Tracked.refill
    {manager : NetworkManager Owner} {postedFor : List Nat}
    (tracked : manager.Tracked postedFor [] [])
    (free :
      manager.preparedSocketQueue.size < 1 →
        FillsFree manager.prepareSocketMax manager) :
    manager.refill.Tracked postedFor [] [] := by
  unfold NetworkManager.refill
  split_ifs with empty
  · exact tracked.fill (free empty)
  · exact tracked

/-! ## An address for every socket -/

/-- Every socket gets an address of its own. -/
structure OwnAddresses (manager : NetworkManager Owner) : Prop where
  numbered : manager.newAddress = id
  unused :
    ∀ socket, manager.nextSocket ≤ socket →
      manager.socketStatus socket = .deleted

section OwnAddresses

variable {callbacks : Callbacks Owner}
variable {manager reached after : NetworkManager Owner}
variable {request : Option OverlappedSetting}

theorem OwnAddresses.of_same
    (own : manager.OwnAddresses)
    (address : after.newAddress = manager.newAddress)
    (next : after.nextSocket = manager.nextSocket)
    (status :
      ∀ socket, manager.socketStatus socket = .deleted →
        after.socketStatus socket = .deleted) :
    after.OwnAddresses where
  numbered := address.trans own.numbered
  unused := fun socket above =>
    status socket (own.unused socket (next ▸ above))

theorem OwnAddresses.socketAddress
    (own : manager.OwnAddresses) :
    manager.socketAddress = manager.nextSocket :=
  congrFun own.numbered manager.nextSocket

theorem OwnAddresses.nextFree
    (own : manager.OwnAddresses) : manager.NextFree := by
  rw [NextFree, own.socketAddress]
  exact own.unused _ (Nat.le_refl _)

theorem OwnAddresses.newSocket
    (own : manager.OwnAddresses) : manager.newSocket.OwnAddresses where
  numbered := own.numbered
  unused := fun socket above => by
    have different : socket ≠ manager.socketAddress := by
      rw [own.socketAddress]
      exact (Nat.lt_of_succ_le above).ne'
    exact
      (Function.update_of_ne different _ _).trans
        (own.unused socket (Nat.le_of_succ_le above))

theorem OwnAddresses.pushNewSocket
    (own : manager.OwnAddresses) : manager.pushNewSocket.OwnAddresses :=
  own.newSocket.of_same rfl rfl fun _ deleted => deleted

theorem OwnAddresses.fillsFree
    (own : manager.OwnAddresses) (count : Nat) :
    FillsFree count manager := by
  induction count generalizing manager with
  | zero => trivial
  | succ count induction =>
      exact ⟨own.nextFree, induction own.pushNewSocket⟩

theorem OwnAddresses.allocatesFree
    (own : manager.OwnAddresses) (event : NetworkEvent) :
    manager.AllocatesFree event := by
  cases event with
  | prepareAcceptSocket senderType errorCode answer =>
      exact fun _ => own.fillsFree _
  | setupConnectSocket senderType bindFails ioctlFails answer =>
      exact fun _ => own.nextFree
  | sendRequest targetSocket contentType stringBuffer bodySize answer =>
      trivial
  | completion index status errorCode answer => trivial

theorem OwnAddresses.fillSocketQueue
    (own : manager.OwnAddresses) : manager.fillSocketQueue.OwnAddresses :=
  Function.Iterate.rec OwnAddresses own
    (fun _ filled => filled.pushNewSocket) _

theorem OwnAddresses.disconnect
    {key : CompletionKey}
    (own : manager.OwnAddresses)
    (done : manager.handleDisconnectComplete callbacks key = .ok after) :
    after.OwnAddresses := by
  unfold handleDisconnectComplete at done
  split at done
  · cases done
    exact own
  · next targetSocket found =>
      split at done
      · cases done
      · next result closing closed =>
          cases done
          unfold processDisconnect at closed
          have deletes (socket : SocketPointer)
              (deleted : manager.socketStatus socket = .deleted) :
              Function.update manager.socketStatus targetSocket .deleted
                  socket =
                .deleted := by
            rw [Function.update_apply, deleted, ite_self]
          split at closed
          · cases closed
          · cases closed
            exact own.of_same rfl rfl fun _ deleted => deleted
          · cases closed
            exact own.of_same rfl rfl deletes
          · cases closed
            exact own.of_same rfl rfl deletes

theorem OwnAddresses.onlyDisconnect
    {key : CompletionKey}
    (own : manager.OwnAddresses)
    (done :
      onlyFront (manager.handleDisconnectComplete callbacks key) =
        .ok (reached, request)) :
    reached.OwnAddresses := by
  rcases Fallible.map_eq_ok.mp done with ⟨closed, called, equal⟩
  cases equal
  exact own.disconnect called

theorem OwnAddresses.handler
    {key : CompletionKey} {overlapped : CustomOverlapped} {bytes : Nat}
    {errorCode : Int}
    (own : manager.OwnAddresses)
    (done :
      manager.handlerFront callbacks key overlapped bytes errorCode =
        .ok (reached, request)) :
    reached.OwnAddresses := by
  have connects
      (done :
        manager.connectionFront callbacks overlapped errorCode =
          .ok (reached, request)) :
      reached.OwnAddresses := by
    unfold connectionFront at done
    split at done
    · cases done
    · rw [(callback_receiveReady_same done).2]
      exact own.of_same rfl rfl fun _ deleted => deleted
  unfold handlerFront at done
  split at done
  · exact connects done
  · exact connects done
  · unfold receiveFront at done
    split_ifs at done
    · exact own.onlyDisconnect done
    · split at done
      · cases done
      · rw [(callback_receiveReady_same done).2]
        exact own.of_same rfl rfl fun _ deleted => deleted
  · rcases Fallible.map_eq_ok.mp done with ⟨told, called, equal⟩
    cases equal
    unfold handleSendComplete callIocpCallback at called
    split at called
    · cases called
    · cases called
      exact own.of_same rfl rfl fun _ deleted => deleted
  · cases done
    exact own

theorem OwnAddresses.front
    {event : NetworkEvent}
    (own : manager.OwnAddresses)
    (done : manager.front callbacks event = .ok (reached, request)) :
    reached.OwnAddresses := by
  cases event with
  | prepareAcceptSocket senderType errorCode answer =>
      have refilled : manager.refill.OwnAddresses := by
        unfold refill
        split_ifs
        · exact own.fillSocketQueue
        · exact own
      simp only [NetworkManager.front, prepareAcceptFront] at done
      split at done
      · cases done
      · split at done
        · cases done
        · split_ifs at done <;> cases done <;>
            exact refilled.of_same rfl rfl fun _ deleted => deleted
  | setupConnectSocket senderType bindFails ioctlFails answer =>
      simp only [NetworkManager.front, setupConnectFront] at done
      split_ifs at done
      · cases done
        exact own
      · cases done
        exact own.newSocket
      · cases done
        exact own.newSocket
  | sendRequest targetSocket contentType stringBuffer bodySize answer =>
      simp only [NetworkManager.front, sendFront] at done
      split at done <;> cases done <;> exact own
  | completion index status errorCode answer =>
      simp only [NetworkManager.front] at done
      split at done
      · cases done
        exact own
      · have dequeued : (manager.dequeue index).OwnAddresses :=
          own.of_same rfl rfl fun _ deleted => deleted
        cases status with
        | failed code =>
            simp only [completionFront] at done
            split_ifs at done
            · exact dequeued.onlyDisconnect done
            · cases done
              exact dequeued
        | succeeded bytes =>
            simp only [completionFront] at done
            exact dequeued.handler done

/-- No call gives two sockets one address, if none has before. -/
theorem OwnAddresses.call
    {event : NetworkEvent}
    (own : manager.OwnAddresses)
    (done : manager.call callbacks event = .ok after) :
    after.OwnAddresses := by
  rcases call_cases done with
    ⟨reached, request, overlappedQueue, fronted, -, outcome⟩
  have front := own.front fronted
  rcases outcome with ⟨rfl, -⟩ | ⟨setting, overlapped, posted, -, -, -, rfl⟩
  · exact front.of_same rfl rfl fun _ deleted => deleted
  · exact front.of_same rfl rfl fun _ deleted => deleted

theorem listeningAt_ownAddresses
    (senderType : SenderType)
    (overlappedQueueMax prepareSocketMax : Nat)
    (memory : Nat → BufferMemory)
    (owner : Owner) :
    (listeningAt id senderType overlappedQueueMax prepareSocketMax memory
      owner).OwnAddresses where
  numbered := rfl
  unused := fun socket above => by
    have different : socket ≠ 1 := (Nat.lt_of_succ_le above).ne'
    simp only [listeningAt, Function.update_of_ne different]

end OwnAddresses

/-- The number of the object at the address an operation is posted for. -/
def numberOf
    (manager : NetworkManager Owner) (overlapped : CustomOverlapped) : Nat :=
  (overlapped.socket.map manager.socketNumber).getD 0

end NetworkManager

/--
The network manager, and for every outstanding operation the number of the
socket it was posted for.
-/
structure ObservedManager (Owner : Type) where
  manager : NetworkManager Owner
  postedFor : List Nat

namespace ObservedManager

open NetworkManager (NetworkEvent)

/-- What is noted for the operations a call does not complete. -/
def remaining (observed : ObservedManager Owner) :
    NetworkEvent → List Nat
  | .prepareAcceptSocket _ _ _ => observed.postedFor
  | .setupConnectSocket _ _ _ _ => observed.postedFor
  | .sendRequest _ _ _ _ _ => observed.postedFor
  | .completion index _ _ _ => observed.postedFor.eraseIdx index

/-- The notes behind a call, in which a new operation is the last one. -/
def observe
    (observed : ObservedManager Owner)
    (event : NetworkEvent)
    (after : NetworkManager Owner) :
    ObservedManager Owner where
  manager := after
  postedFor :=
    observed.remaining event ++
      (after.outstanding.drop (observed.remaining event).length).map
        after.numberOf

/-- Behind `Construct` and `SetupListenSocket`. -/
def setup
    (newAddress : Nat → SocketPointer)
    (senderType : SenderType)
    (overlappedQueueMax prepareSocketMax : Nat)
    (memory : Nat → BufferMemory)
    (owner : Owner) :
    ObservedManager Owner where
  manager :=
    .setupAt newAddress senderType overlappedQueueMax prepareSocketMax
      memory owner
  postedFor := []

/-- The network manager as a system in which `new` keeps objects apart. -/
def system (callbacks : Callbacks Owner) :
    TransitionSystem (ObservedManager Owner) NetworkEvent where
  step observed event :=
    if observed.manager.AllocatesFree event then
      ((observed.manager.call callbacks event).map
        (observed.observe event)).toOption
    else
      none

theorem step_eq_some
    {callbacks : Callbacks Owner} {observed after : ObservedManager Owner}
    {event : NetworkEvent}
    (taken : (system callbacks).step observed event = some after) :
    observed.manager.AllocatesFree event ∧
      ∃ manager,
        observed.manager.call callbacks event = .ok manager ∧
          after = observed.observe event manager := by
  simp only [system] at taken
  split_ifs at taken with free
  rcases
    Fallible.map_eq_ok.mp (Fallible.toOption_eq_some.mp taken) with
    ⟨manager, called, equal⟩
  exact ⟨free, manager, called, equal.symm⟩

/-- With an address for every socket every call is a step. -/
theorem step_of_own
    {callbacks : Callbacks Owner} {manager after : NetworkManager Owner}
    {event : NetworkEvent}
    (own : manager.OwnAddresses)
    (called : manager.call callbacks event = .ok after)
    (postedFor : List Nat) :
    (system callbacks).step ⟨manager, postedFor⟩ event =
      some (observe ⟨manager, postedFor⟩ event after) := by
  simp only [system]
  rw [if_pos (own.allocatesFree event), called]
  rfl

/-- A run with an address for every socket is one of this system. -/
theorem reachable_of_setup
    {callbacks : Callbacks Owner}
    {senderType : SenderType}
    {overlappedQueueMax prepareSocketMax : Nat}
    {memory : Nat → BufferMemory}
    {owner : Owner}
    {manager : NetworkManager Owner}
    (reached :
      (NetworkManager.system callbacks).Reachable
        (.setup senderType overlappedQueueMax prepareSocketMax memory owner)
        manager) :
    ∃ postedFor,
      (system callbacks).Reachable
        (setup id senderType overlappedQueueMax prepareSocketMax memory
          owner)
        ⟨manager, postedFor⟩ := by
  suffices
      manager.OwnAddresses ∧
        ∃ postedFor,
          (system callbacks).Reachable
            (setup id senderType overlappedQueueMax prepareSocketMax memory
              owner)
            ⟨manager, postedFor⟩ from this.2
  induction reached with
  | refl =>
      exact
        ⟨(NetworkManager.listeningAt_ownAddresses ..).fillSocketQueue, [],
          .refl⟩
  | @step before after event _ _ taken induction =>
      rcases induction with ⟨own, postedFor, observed⟩
      have called := Fallible.toOption_eq_some.mp taken
      exact
        ⟨own.call called, _,
          observed.step trivial (step_of_own own called postedFor)⟩

end ObservedManager

end IocpServer.Network
