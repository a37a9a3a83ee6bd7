import IocpServer.Library.ListCuts
import IocpServer.Network.CallPhases
import Mathlib.Data.List.Perm.Basic
import Mathlib.Data.List.Nodup

/-!
# The overlapped pool across calls

The calls of the network manager run one after another.  `held` lists the
addresses of the objects in `_overlappedQueue` and of those attached to an
outstanding operation.  A call moves objects between the two, except that a
posting which fails at once drops the object it has taken: nothing returns
it to the pool.
-/

namespace IocpServer.Network.NetworkManager

open IocpServer.Library
open IocpServer.Utility

variable {Owner : Type}

/-- The object behind a pointer of the pool. -/
def pointerAddress : RawPointer CustomOverlapped → Option Nat
  | .null => none
  | .to overlapped => some overlapped.address

/-- The objects in `_overlappedQueue`. -/
def pooled (manager : NetworkManager Owner) : List (Option Nat) :=
  manager.overlappedQueue.contents.map pointerAddress

/-- The objects attached to the given operations. -/
def addresses (operations : List CustomOverlapped) : List (Option Nat) :=
  operations.map fun overlapped => some overlapped.address

/-- The objects in the pool and those of the outstanding operations. -/
def held (manager : NetworkManager Owner) : List (Option Nat) :=
  manager.pooled ++ addresses manager.outstanding

/--
Every object `Construct` made is either in the pool or attached to one
outstanding operation, and nothing else is.
-/
def Partitioned
    (manager : NetworkManager Owner) (overlappedQueueMax : Nat) : Prop :=
  manager.held.Perm ((List.range overlappedQueueMax).map some)

/-- The call gets as far as a `pop` of the pool. -/
def Acquires
    (callbacks : Callbacks Owner)
    (manager : NetworkManager Owner)
    (event : NetworkEvent) : Prop :=
  ∃ reached setting,
    manager.front callbacks event = .ok (reached, some setting)

/-- The call takes an object from the pool, and its posting call fails. -/
def Loses
    (callbacks : Callbacks Owner)
    (manager : NetworkManager Owner)
    (event : NetworkEvent) : Prop :=
  manager.Acquires callbacks event ∧ event.answer.failed = true

/-! ## What each phase does to the pool -/

/-- Neither the pool nor the outstanding operations change. -/
structure SamePool (before after : NetworkManager Owner) : Prop where
  queue : after.overlappedQueue = before.overlappedQueue
  outstanding : after.outstanding = before.outstanding

theorem SamePool.refl (manager : NetworkManager Owner) :
    SamePool manager manager :=
  ⟨rfl, rfl⟩

theorem SamePool.trans
    {before middle after : NetworkManager Owner}
    (first : SamePool before middle) (second : SamePool middle after) :
    SamePool before after :=
  ⟨second.queue.trans first.queue,
    second.outstanding.trans first.outstanding⟩

theorem fillSocketQueue_samePool (manager : NetworkManager Owner) :
    SamePool manager manager.fillSocketQueue := by
  unfold fillSocketQueue
  apply Function.Iterate.rec (SamePool manager)
  · exact .refl manager
  · intro filled same
    exact same.trans ⟨rfl, rfl⟩

theorem refill_samePool (manager : NetworkManager Owner) :
    SamePool manager manager.refill := by
  unfold refill
  split_ifs
  · exact manager.fillSocketQueue_samePool
  · exact .refl manager

/--
The outcome of a front part started from `manager`: it has not touched the
pool, and whatever fault it ends in is not that of an empty pool.
-/
def LeavesPool (manager : NetworkManager Owner) : Front Owner → Prop
  | .error fault => fault ≠ .nullOverlapped
  | .ok (reached, _) => SamePool manager reached

section Fronts

variable {callbacks : Callbacks Owner}
variable {start manager : NetworkManager Owner}

theorem dereference_ne
    {socket : SocketPointer} {fault : Fault}
    (failed : manager.dereference socket = .error fault) :
    fault ≠ .nullOverlapped := by
  unfold dereference at failed
  split_ifs at failed
  cases failed
  nofun

theorem handleDisconnectComplete_leavesPool (key : CompletionKey) :
    manager.LeavesPool
      (onlyFront (manager.handleDisconnectComplete callbacks key)) := by
  unfold handleDisconnectComplete processDisconnect
  cases manager.connectedSocketMap.lookup key with
  | none => exact .refl manager
  | some targetSocket =>
      cases status : manager.socketStatus targetSocket with
      | opened => simp only [status]; exact ⟨rfl, rfl⟩
      | closed => simp only [status]; exact ⟨rfl, rfl⟩
      | invalidated => simp only [status]; exact ⟨rfl, rfl⟩
      | deleted => simp only [status]; exact nofun

theorem callIocpCallback_ok
    {after : NetworkManager Owner}
    {completionKey : CompletionKey} {overlapped : CustomOverlapped}
    (done :
      manager.callIocpCallback callbacks completionKey overlapped =
        .ok after) :
    ∃ owner, after = { manager with owner := owner } := by
  unfold callIocpCallback at done
  split at done
  · cases done
  · next owner _ =>
      cases done
      exact ⟨owner, rfl⟩

theorem callIocpCallback_ne
    {completionKey : CompletionKey} {overlapped : CustomOverlapped}
    {fault : Fault}
    (failed :
      manager.callIocpCallback callbacks completionKey overlapped =
        .error fault) :
    fault ≠ .nullOverlapped := by
  unfold callIocpCallback at failed
  split at failed
  · next reported refused =>
      cases failed
      rintro rfl
      exact callbacks.iocpCallback_ne _ _ _ refused
  · cases failed

theorem receiveReadyFront_leavesPool
    (same : SamePool start manager)
    (targetSocket : SocketPointer) (errorCode : Int) :
    start.LeavesPool
      (manager.receiveReadyFront targetSocket errorCode) := by
  unfold receiveReadyFront
  split
  · next failed => exact dereference_ne failed
  · split_ifs <;> exact same

/-- The callback, and `CallReceiveReady` if it returns. -/
theorem callback_receiveReady_leavesPool
    (same : SamePool start manager)
    (completionKey : CompletionKey)
    (overlapped : CustomOverlapped)
    (targetSocket : SocketPointer)
    (errorCode : Int) :
    start.LeavesPool
      (match
        manager.callIocpCallback callbacks completionKey overlapped
      with
      | .error fault => .error fault
      | .ok called => called.receiveReadyFront targetSocket errorCode) := by
  split
  · next failed => exact callIocpCallback_ne failed
  · next called returned =>
      rcases callIocpCallback_ok returned with ⟨owner, rfl⟩
      have calledSame :
          SamePool start { manager with owner := owner } :=
        same.trans ⟨rfl, rfl⟩
      exact
        receiveReadyFront_leavesPool calledSame targetSocket errorCode

theorem prepareAcceptFront_leavesPool
    (senderType : SenderType) (errorCode : Int) :
    manager.LeavesPool
      (manager.prepareAcceptFront senderType errorCode) := by
  unfold prepareAcceptFront
  split
  · nofun
  · dsimp only
    split
    · next failed => exact dereference_ne failed
    · split_ifs <;> exact manager.refill_samePool.trans ⟨rfl, rfl⟩

theorem setupConnectFront_leavesPool
    (senderType : SenderType) (bindFails ioctlFails : Bool) :
    manager.LeavesPool
      (manager.setupConnectFront senderType bindFails ioctlFails) := by
  simp only [setupConnectFront]
  split_ifs <;> exact ⟨rfl, rfl⟩

theorem sendFront_leavesPool
    (targetSocket : CompletionKey) (contentType : UInt32)
    (stringBuffer : List UInt8) (bodySize : Int32) :
    manager.LeavesPool
      (manager.sendFront targetSocket contentType stringBuffer
        bodySize) := by
  unfold sendFront
  split <;> exact .refl manager

theorem connectionFront_leavesPool
    (overlapped : CustomOverlapped) (errorCode : Int) :
    manager.LeavesPool
      (manager.connectionFront callbacks overlapped errorCode) := by
  unfold connectionFront
  split
  · nofun
  · next targetSocket _ =>
      have registered :
          SamePool manager (manager.register targetSocket) :=
        ⟨rfl, rfl⟩
      exact
        callback_receiveReady_leavesPool registered targetSocket
          overlapped targetSocket errorCode

theorem receiveFront_leavesPool
    (completionKey : CompletionKey)
    (overlapped : CustomOverlapped)
    (bytes : Nat)
    (errorCode : Int) :
    manager.LeavesPool
      (manager.receiveFront callbacks completionKey overlapped bytes
        errorCode) := by
  unfold receiveFront
  split_ifs
  · exact handleDisconnectComplete_leavesPool completionKey
  · split
    · nofun
    · exact
        callback_receiveReady_leavesPool (.refl manager) completionKey
          overlapped _ errorCode

theorem sendCompleteFront_leavesPool
    (completionKey : CompletionKey) (overlapped : CustomOverlapped) :
    manager.LeavesPool
      (onlyFront
        (manager.handleSendComplete callbacks completionKey
          overlapped)) := by
  unfold handleSendComplete
  cases called :
      manager.callIocpCallback callbacks completionKey overlapped with
  | error fault => exact callIocpCallback_ne called
  | ok after =>
      rcases callIocpCallback_ok called with ⟨owner, rfl⟩
      exact ⟨rfl, rfl⟩

theorem completionFront_leavesPool
    (overlapped : CustomOverlapped)
    (status : CompletionStatus)
    (errorCode : Int) :
    manager.LeavesPool
      (manager.completionFront callbacks overlapped status
        errorCode) := by
  unfold completionFront
  cases status with
  | failed code =>
      dsimp only
      split_ifs
      · exact handleDisconnectComplete_leavesPool _
      · exact .refl manager
  | succeeded bytes =>
      dsimp only [handlerFront]
      split
      · exact connectionFront_leavesPool _ errorCode
      · exact connectionFront_leavesPool _ errorCode
      · exact receiveFront_leavesPool _ _ _ errorCode
      · exact sendCompleteFront_leavesPool _ _
      · exact .refl manager

/-- The state a front part starts from: a completion is dequeued first. -/
def accepted (manager : NetworkManager Owner) :
    NetworkEvent → NetworkManager Owner
  | .completion index _ _ _ => manager.dequeue index
  | _ => manager

theorem front_leavesPool (event : NetworkEvent) :
    (manager.accepted event).LeavesPool
      (manager.front callbacks event) := by
  cases event with
  | prepareAcceptSocket senderType errorCode answer =>
      exact prepareAcceptFront_leavesPool senderType errorCode
  | setupConnectSocket senderType bindFails ioctlFails answer =>
      exact
        setupConnectFront_leavesPool senderType bindFails ioctlFails
  | sendRequest targetSocket contentType stringBuffer bodySize answer =>
      exact
        sendFront_leavesPool targetSocket contentType stringBuffer
          bodySize
  | completion index status errorCode answer =>
      rw [front, accepted]
      cases found : manager.outstanding[index]? with
      | none =>
          refine ⟨rfl, ?_⟩
          rw [dequeue,
            List.eraseIdx_of_length_le
              (List.getElem?_eq_none_iff.mp found)]
      | some overlapped =>
          exact
            completionFront_leavesPool overlapped status errorCode

/-- Dequeuing a completion detaches its object. -/
theorem accepted_addresses (event : NetworkEvent) :
    (addresses manager.outstanding).Perm
      (addresses (manager.returned event).toList ++
        addresses (manager.accepted event).outstanding) := by
  cases event with
  | prepareAcceptSocket senderType errorCode answer => exact .refl _
  | setupConnectSocket senderType bindFails ioctlFails answer =>
      exact .refl _
  | sendRequest targetSocket contentType stringBuffer bodySize answer =>
      exact .refl _
  | completion index status errorCode answer =>
      rw [returned, accepted, dequeue]
      cases found : manager.outstanding[index]? with
      | none =>
          rw [List.eraseIdx_of_length_le
            (List.getElem?_eq_none_iff.mp found)]
          exact .refl _
      | some overlapped =>
          have detached := perm_cons_eraseIdx found
          simpa [addresses] using
            (detached.map fun overlapped => some overlapped.address).symm

/--
The front part leaves the pool alone, and takes the completed operation, if
there is one, out of the outstanding ones.
-/
theorem front_held
    {reached : NetworkManager Owner} {event : NetworkEvent}
    {request : Option OverlappedSetting}
    (done : manager.front callbacks event = .ok (reached, request)) :
    reached.overlappedQueue = manager.overlappedQueue ∧
      manager.held.Perm
        (addresses (manager.returned event).toList ++ reached.held) := by
  have leaves := @front_leavesPool Owner callbacks manager event
  rw [done] at leaves
  rcases leaves with ⟨queue, outstanding⟩
  have detached := @accepted_addresses Owner manager event
  rw [← outstanding] at detached
  have sameQueue : reached.overlappedQueue = manager.overlappedQueue := by
    cases event <;> exact queue
  refine ⟨sameQueue, ?_⟩
  rw [held, held, pooled, pooled, sameQueue]
  grind

end Fronts

theorem post_held
    {manager after : NetworkManager Owner}
    {setting : OverlappedSetting} {answer : PostAnswer} {result : Bool}
    (done : manager.post setting answer = .ok (result, after)) :
    after.overlappedQueue.queueMaxSize =
        manager.overlappedQueue.queueMaxSize ∧
      (answer.failed = true →
        ∃ address, manager.held.Perm (address :: after.held)) ∧
      (answer.failed = false → manager.held.Perm after.held) := by
  rcases post_cases done with
    ⟨overlapped, popped, posted, taken, prepared, outcome⟩
  have capacity : popped.queueMaxSize =
      manager.overlappedQueue.queueMaxSize := by
    have kept := manager.overlappedQueue.queueMaxSize_pop
    rw [taken] at kept
    exact kept
  have first :
      manager.pooled =
        some overlapped.address :: popped.contents.map pointerAddress := by
    rw [pooled, LockFreeCircleQueue.contents_of_pop taken]
    rfl
  rcases outcome with ⟨failed, _, rfl⟩ | ⟨succeeded, _, rfl⟩
  · refine ⟨capacity, ?_, ?_⟩
    · intro _
      refine ⟨some overlapped.address, ?_⟩
      rw [held, first]
      exact .refl _
    · intro succeeded
      rw [failed] at succeeded
      cases succeeded
  · refine ⟨capacity, ?_, ?_⟩
    · intro failed
      rw [failed] at succeeded
      cases succeeded
    · intro _
      have sameAddress : posted.address = overlapped.address :=
        (setting.set_ok prepared).1
      rw [held, held, first, pooled, addresses, addresses,
        List.map_append, List.map_singleton, sameAddress]
      grind

theorem recycle_held
    {manager : NetworkManager Owner} (overlapped : CustomOverlapped)
    (room :
      manager.held.length + 1 < manager.overlappedQueue.queueMaxSize) :
    (manager.recycle overlapped).held.Perm
      (some overlapped.address :: manager.held) := by
  have fits :
      manager.overlappedQueue.contents.length + 1 <
        manager.overlappedQueue.queueMaxSize := by
    simp only [held, pooled, List.length_append,
      List.length_map] at room
    omega
  have appended :=
    (manager.overlappedQueue.push_of_room (.to overlapped.clear) fits).2
  have pool :
      (manager.recycle overlapped).pooled =
        manager.pooled ++ [some overlapped.address] := by
    rw [pooled, recycle, appended, List.map_append]
    rfl
  rw [held, pool, held]
  change
    ((manager.pooled ++ [some overlapped.address]) ++
      addresses manager.outstanding).Perm _
  grind

/-- The posting of a call loses an object where the call does. -/
theorem resume_held
    {callbacks : Callbacks Owner}
    {manager reached posted : NetworkManager Owner} {event : NetworkEvent}
    {request : Option OverlappedSetting}
    (fronted : manager.front callbacks event = .ok (reached, request))
    (resumed :
      Front.resume event.answer (.ok (reached, request)) = .ok posted) :
    posted.overlappedQueue.queueMaxSize =
        reached.overlappedQueue.queueMaxSize ∧
      (manager.Loses callbacks event →
        ∃ address, reached.held.Perm (address :: posted.held)) ∧
      (¬ manager.Loses callbacks event →
        reached.held.Perm posted.held) := by
  cases request with
  | none =>
      cases resumed
      refine ⟨rfl, ?_, fun _ => .refl _⟩
      rintro ⟨⟨other, setting, acquires⟩, _⟩
      rw [fronted] at acquires
      cases acquires
  | some setting =>
      rcases Fallible.map_eq_ok.mp resumed with
        ⟨⟨result, after⟩, called, rfl⟩
      rcases post_held called with ⟨capacity, lost, kept⟩
      refine ⟨capacity, fun loses => lost loses.2, ?_⟩
      intro keeps
      apply kept
      apply Bool.eq_false_of_not_eq_true
      intro failed
      exact keeps ⟨⟨reached, setting, fronted⟩, failed⟩

/-- The tail puts the returned object back where there is room for it. -/
theorem tail_held
    {manager : NetworkManager Owner} (overlapped : Option CustomOverlapped)
    (room :
      (addresses overlapped.toList ++ manager.held).length <
        manager.overlappedQueue.queueMaxSize) :
    (tail overlapped manager).overlappedQueue.queueMaxSize =
        manager.overlappedQueue.queueMaxSize ∧
      (tail overlapped manager).held.Perm
        (addresses overlapped.toList ++ manager.held) := by
  cases overlapped with
  | none => exact ⟨rfl, .refl _⟩
  | some overlapped =>
      refine ⟨LockFreeCircleQueue.queueMaxSize_push _ _, ?_⟩
      apply recycle_held
      simpa [addresses] using room

/--
A call that returns keeps the objects, except that a posting which fails
loses one.
-/
theorem call_held
    {callbacks : Callbacks Owner}
    {manager after : NetworkManager Owner} {event : NetworkEvent}
    (room : manager.held.length < manager.overlappedQueue.queueMaxSize)
    (done : manager.call callbacks event = .ok after) :
    after.overlappedQueue.queueMaxSize =
        manager.overlappedQueue.queueMaxSize ∧
      (manager.Loses callbacks event →
        ∃ address, manager.held.Perm (address :: after.held)) ∧
      (¬ manager.Loses callbacks event →
        manager.held.Perm after.held) := by
  rw [call_eq_phases] at done
  rcases Fallible.map_eq_ok.mp done with ⟨posted, resumed, rfl⟩
  cases fronted : manager.front callbacks event with
  | error fault =>
      rw [fronted] at resumed
      cases resumed
  | ok outcome =>
      rcases outcome with ⟨reached, request⟩
      rcases front_held fronted with ⟨queue, frontHeld⟩
      rw [fronted] at resumed
      rcases resume_held fronted resumed with ⟨capacity, lost, kept⟩
      rw [queue] at capacity
      have shorter :
          posted.held.length ≤ reached.held.length := by
        by_cases loses : manager.Loses callbacks event
        · rcases lost loses with ⟨address, rearranged⟩
          rw [rearranged.length_eq, List.length_cons]
          exact Nat.le_succ _
        · exact (kept loses).length_eq.ge
      have tailRoom :
          (addresses (manager.returned event).toList ++
              posted.held).length <
            posted.overlappedQueue.queueMaxSize := by
        have counted := frontHeld.length_eq
        rw [List.length_append] at counted ⊢
        omega
      rcases tail_held _ tailRoom with ⟨tailCapacity, tailHeld⟩
      refine ⟨tailCapacity.trans capacity, ?_, ?_⟩
      · intro loses
        rcases lost loses with ⟨address, rearranged⟩
        refine ⟨address, ?_⟩
        grind
      · intro keeps
        exact
          (frontHeld.trans ((kept keeps).append_left _)).trans
            tailHeld.symm

/-! ## The constructed manager -/

theorem setup_queue
    (senderType : SenderType)
    (overlappedQueueMax prepareSocketMax : Nat)
    (memory : Nat → BufferMemory)
    (owner : Owner) :
    (setup senderType overlappedQueueMax prepareSocketMax memory
        owner).overlappedQueue =
      constructQueue overlappedQueueMax memory :=
  (fillSocketQueue_samePool _).queue

theorem contents_constructQueue
    (overlappedQueueMax : Nat) (memory : Nat → BufferMemory) :
    (constructQueue overlappedQueueMax memory).contents =
      (List.range overlappedQueueMax).map fun address =>
        .to (.construct address (memory address)) := by
  rw [constructQueue,
    LockFreeCircleQueue.contents_pushAll _ _ _ (by simp)]
  rfl

theorem setup_partitioned
    (senderType : SenderType)
    (overlappedQueueMax prepareSocketMax : Nat)
    (memory : Nat → BufferMemory)
    (owner : Owner) :
    (setup senderType overlappedQueueMax prepareSocketMax memory
      owner).Partitioned overlappedQueueMax := by
  have outstanding :
      (setup senderType overlappedQueueMax prepareSocketMax memory
        owner).outstanding = [] :=
    (fillSocketQueue_samePool _).outstanding
  rw [Partitioned, held, pooled, setup_queue, contents_constructQueue,
    outstanding, List.map_map]
  exact .of_eq (List.append_nil _)

theorem setup_capacity
    (senderType : SenderType)
    (overlappedQueueMax prepareSocketMax : Nat)
    (memory : Nat → BufferMemory)
    (owner : Owner) :
    (setup senderType overlappedQueueMax prepareSocketMax memory
        owner).overlappedQueue.queueMaxSize =
      overlappedQueueMax + 1 := by
  rw [setup_queue, constructQueue,
    LockFreeCircleQueue.queueMaxSize_pushAll,
    LockFreeCircleQueue.queueMaxSize_construct]

theorem Partitioned.held_length
    {manager : NetworkManager Owner} {overlappedQueueMax : Nat}
    (partitioned : manager.Partitioned overlappedQueueMax) :
    manager.held.length = overlappedQueueMax := by
  rw [partitioned.length_eq, List.length_map, List.length_range]

/-! ## Conservation -/

/--
Over a run the objects are conserved exactly as long as no posting call
fails: each that does makes the held ones fewer for good.
-/
theorem run_held
    {callbacks : Callbacks Owner}
    {start finish : NetworkManager Owner} {events : List NetworkEvent}
    (room : start.held.length < start.overlappedQueue.queueMaxSize)
    (replayed :
      (system callbacks).run start events = some finish) :
    ((system callbacks).Always
          (fun manager event => ¬ manager.Loses callbacks event)
          start events ∧
        start.held.Perm finish.held) ∨
      (¬ (system callbacks).Always
          (fun manager event => ¬ manager.Loses callbacks event)
          start events ∧
        finish.held.length < start.held.length) := by
  induction events generalizing start with
  | nil =>
      cases replayed
      exact .inl ⟨trivial, .refl _⟩
  | cons event rest induction =>
      rcases TransitionSystem.run_cons_eq_some.mp replayed with
        ⟨next, taken, continued⟩
      have returned :
          start.call callbacks event = .ok next :=
        Fallible.toOption_eq_some.mp taken
      rcases call_held room returned with ⟨capacity, lost, kept⟩
      -- the step is the only one the schedule can take here
      have always_iff :
          (system callbacks).Always
              (fun manager event => ¬ manager.Loses callbacks event)
              start (event :: rest) ↔
            ¬ start.Loses callbacks event ∧
              (system callbacks).Always
                (fun manager event => ¬ manager.Loses callbacks event)
                next rest := by
        rw [TransitionSystem.Always, taken]
        simp
      rw [always_iff]
      by_cases loses : start.Loses callbacks event
      · rcases lost loses with ⟨address, rearranged⟩
        have counted := rearranged.length_eq
        rw [List.length_cons] at counted
        have roomNext :
            next.held.length < next.overlappedQueue.queueMaxSize := by
          omega
        refine .inr ⟨fun always => always.1 loses, ?_⟩
        rcases induction roomNext continued with
          ⟨_, rest⟩ | ⟨_, fewer⟩
        · have same := rest.length_eq
          omega
        · omega
      · have rearranged := kept loses
        have counted := rearranged.length_eq
        have roomNext :
            next.held.length < next.overlappedQueue.queueMaxSize := by
          omega
        rcases induction roomNext continued with
          ⟨always, rest⟩ | ⟨never, fewer⟩
        · exact .inl ⟨⟨loses, always⟩, rearranged.trans rest⟩
        · refine .inr ⟨fun always => never always.2, ?_⟩
          omega

/--
Between two calls the objects are partitioned into the pool and the
outstanding operations if and only if no posting call of the run failed
after its object was taken.
-/
theorem pool_partitioned_iff
    (callbacks : Callbacks Owner)
    (senderType : SenderType)
    (overlappedQueueMax prepareSocketMax : Nat)
    (memory : Nat → BufferMemory)
    (owner : Owner)
    (events : List NetworkEvent)
    (finish : NetworkManager Owner)
    (replayed :
      (system callbacks).run
          (setup senderType overlappedQueueMax prepareSocketMax memory
            owner)
          events =
        some finish) :
    finish.Partitioned overlappedQueueMax ↔
      (system callbacks).Always
        (fun manager event => ¬ manager.Loses callbacks event)
        (setup senderType overlappedQueueMax prepareSocketMax memory
          owner)
        events := by
  have start :=
    setup_partitioned senderType overlappedQueueMax prepareSocketMax
      memory owner
  have startLength := start.held_length
  have room :
      (setup senderType overlappedQueueMax prepareSocketMax memory
          owner).held.length <
        (setup senderType overlappedQueueMax prepareSocketMax memory
          owner).overlappedQueue.queueMaxSize := by
    rw [setup_capacity, startLength]
    exact Nat.lt_succ_self _
  rcases run_held room replayed with ⟨always, kept⟩ | ⟨never, fewer⟩
  · exact ⟨fun _ => always, fun _ => kept.symm.trans start⟩
  · constructor
    · intro partitioned
      have finishLength := partitioned.held_length
      omega
    · intro always
      exact (never always).elim

/-- A connection is accepted, answered and closed by its peer. -/
def acceptedConnection : List NetworkEvent :=
  [.prepareAcceptSocket .default 0 .success,
    .completion 0 (.succeeded []) 0 .success,
    .sendRequest 2 2 [7] 1 .success,
    .completion 1 (.succeeded []) 0 .success,
    .completion 0 (.succeeded []) 0 .success]

/-- A whole connection, after which all objects are back. -/
theorem pool_partitioned_iff_accepted :
    (((system Callbacks.idle).run
        (setup .controlServer 3 1 (fun _ => default) ())
        acceptedConnection).get (by decide)).Partitioned 3 ↔
      (system Callbacks.idle).Always
        (fun manager event => ¬ manager.Loses Callbacks.idle event)
        (setup .controlServer 3 1 (fun _ => default) ())
        acceptedConnection :=
  pool_partitioned_iff Callbacks.idle .controlServer 3 1
    (fun _ => default) () acceptedConnection _
    (Option.some_get _).symm

/-- One failing `AcceptEx` and the pool is not conserved. -/
theorem pool_loses_failed_accept :
    ¬ ∀ (overlappedQueueMax prepareSocketMax : Nat)
        (events : List NetworkEvent) (finish : NetworkManager Unit),
      (system Callbacks.idle).run
            (setup .controlServer overlappedQueueMax prepareSocketMax
              (fun _ => default) ())
            events =
          some finish →
        finish.Partitioned overlappedQueueMax := by
  intro conserved
  have complete :
      ((system Callbacks.idle).run
        (setup .controlServer 2 1 (fun _ => default) ())
        [.prepareAcceptSocket .default 0 .notSocket]).isSome := by
    decide
  have partitioned := conserved 2 1 _ _ (Option.some_get complete).symm
  have fewer :
      (((system Callbacks.idle).run
        (setup .controlServer 2 1 (fun _ => default) ())
        [.prepareAcceptSocket .default 0 .notSocket]).get
          (by decide)).held.length = 1 := by
    decide
  have allHeld := partitioned.held_length
  rw [fewer] at allHeld
  cases allHeld

end IocpServer.Network.NetworkManager
