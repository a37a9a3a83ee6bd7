import IocpServer.Network.CallEffects

/-!
# The prepared sockets

`FillSocketQueue` pushes as many new sockets as the queue has room for, and
`PrepareAcceptSocket` calls it only when the queue is empty.  So a push
always has room, a pop always finds a socket, and a socket leaves the queue
once, at whatever position of the ring a refill starts.

`SetupListenSocket` is taken to get as far as its `FillSocketQueue`.
-/

namespace IocpServer.Network.NetworkManager

open IocpServer.Library
open IocpServer.Utility

variable {Owner : Type}

/-- What the first `count` pushes in the loop of `FillSocketQueue` return. -/
def pushResults : Nat → NetworkManager Owner → List Bool
  | 0, _ => []
  | count + 1, manager =>
      (manager.preparedSocketQueue.push (.to manager.socketAddress)).1 ::
        pushResults count manager.pushNewSocket

/-- What the pushes of `FillSocketQueue` return. -/
def fillResults (manager : NetworkManager Owner) : List Bool :=
  pushResults manager.prepareSocketMax manager

/-- What the pushes of the refill in `PrepareAcceptSocket` return. -/
def refillResults (manager : NetworkManager Owner) : List Bool :=
  if manager.preparedSocketQueue.size < 1 then
    manager.fillResults
  else
    []

/-- `SetupListenSocket` in front of its `FillSocketQueue`. -/
def listening
    (senderType : SenderType)
    (overlappedQueueMax prepareSocketMax : Nat)
    (memory : Nat → BufferMemory)
    (owner : Owner) :
    NetworkManager Owner :=
  listeningAt id senderType overlappedQueueMax prepareSocketMax memory owner

theorem setup_eq_fillSocketQueue
    (senderType : SenderType)
    (overlappedQueueMax prepareSocketMax : Nat)
    (memory : Nat → BufferMemory)
    (owner : Owner) :
    setup senderType overlappedQueueMax prepareSocketMax memory owner =
      (listening senderType overlappedQueueMax prepareSocketMax memory
        owner).fillSocketQueue :=
  rfl

/--
What a `PrepareAcceptSocket` does with the prepared sockets: the results of
its pushes, what it pops, and the socket it hands to `AcceptEx`, if it gets
that far.
-/
structure PreparedCall where
  pushes : List Bool
  popped : RawPointer SocketPointer
  accepting : Option SocketPointer
deriving DecidableEq, Repr

/-- The `PrepareAcceptSocket` an event is, whether or not it returns. -/
def preparedCall (manager : NetworkManager Owner) :
    NetworkEvent → Option PreparedCall
  | .prepareAcceptSocket senderType errorCode _ =>
      some
        { pushes := manager.refillResults
          popped := manager.refill.preparedSocketQueue.pop.1
          accepting :=
            match manager.prepareAcceptFront senderType errorCode with
            | .error _ => none
            | .ok (_, request) => request.map OverlappedSetting.socket }
  | .setupConnectSocket _ _ _ _ => none
  | .sendRequest _ _ _ _ _ => none
  | .completion _ _ _ _ => none

/-- The `PrepareAcceptSocket`s along a schedule. -/
def preparedCalls
    (callbacks : Callbacks Owner) (manager : NetworkManager Owner) :
    List NetworkEvent → List PreparedCall
  | [] => []
  | event :: rest =>
      (manager.preparedCall event).toList ++
        match (system callbacks).step manager event with
        | none => []
        | some next => preparedCalls callbacks next rest

/-- The queue is for `bound` sockets and holds the listed ones. -/
structure Stocked
    (bound : Nat) (manager : NetworkManager Owner)
    (sockets : List SocketPointer) : Prop where
  numbered : manager.newAddress = id
  capacity : manager.preparedSocketQueue.queueMaxSize = bound + 1
  refills : manager.prepareSocketMax = bound
  contents : manager.preparedSocketQueue.contents = sockets.map .to
  distinct : sockets.Nodup
  allocated : ∀ socket ∈ sockets, socket < manager.nextSocket

section Refill

variable {bound : Nat} {manager : NetworkManager Owner}
variable {sockets : List SocketPointer}

/-- A push with room is not refused and appends a new socket. -/
theorem Stocked.pushNewSocket
    (stocked : manager.Stocked bound sockets)
    (room : sockets.length < bound) :
    (manager.preparedSocketQueue.push (.to manager.socketAddress)).1 = true ∧
      manager.pushNewSocket.Stocked bound
        (sockets ++ [manager.nextSocket]) := by
  have fits :
      manager.preparedSocketQueue.contents.length + 1 <
        manager.preparedSocketQueue.queueMaxSize := by
    rw [stocked.contents, stocked.capacity, List.length_map]
    exact Nat.succ_lt_succ room
  rcases
    manager.preparedSocketQueue.push_of_room (.to manager.socketAddress) fits
    with ⟨succeeded, appended⟩
  have address : manager.socketAddress = manager.nextSocket :=
    congrFun stocked.numbered manager.nextSocket
  have fresh : manager.nextSocket ∉ sockets := by
    intro member
    exact Nat.lt_irrefl _ (stocked.allocated _ member)
  refine ⟨succeeded, ?_⟩
  exact
    { numbered := stocked.numbered
      capacity :=
        (LockFreeCircleQueue.queueMaxSize_push ..).trans stocked.capacity
      refills := stocked.refills
      contents := by
        rw [List.map_append, ← stocked.contents, ← address]
        exact appended
      distinct :=
        (List.perm_append_singleton _ _).nodup_iff.mpr
          (List.nodup_cons.mpr ⟨fresh, stocked.distinct⟩)
      allocated := by
        intro socket member
        rcases List.mem_append.mp member with before | new
        · exact Nat.lt_succ_of_lt (stocked.allocated socket before)
        · rw [List.mem_singleton.mp new]
          exact Nat.lt_succ_self _ }

/-- Pushes for which there is room: none is refused. -/
theorem Stocked.pushNewSockets
    {count : Nat}
    (stocked : manager.Stocked bound sockets)
    (room : sockets.length + count ≤ bound) :
    (∀ pushed ∈ pushResults count manager, pushed = true) ∧
      manager.nextSocket ≤
          (NetworkManager.pushNewSocket^[count] manager).nextSocket ∧
        ∃ added,
          (NetworkManager.pushNewSocket^[count] manager).Stocked bound
              (sockets ++ added) ∧
            added.length = count ∧
              ∀ socket ∈ added, manager.nextSocket ≤ socket := by
  induction count generalizing manager sockets with
  | zero =>
      refine ⟨nofun, Nat.le_refl _, [], ?_, rfl, nofun⟩
      rw [List.append_nil]
      exact stocked
  | succ count induction =>
      rcases stocked.pushNewSocket (by omega) with ⟨succeeded, pushed⟩
      have roomLeft :
          (sockets ++ [manager.nextSocket]).length + count ≤ bound := by
        rw [List.length_append, List.length_singleton]
        omega
      rcases induction pushed roomLeft with
        ⟨others, next, added, filled, length, above⟩
      have step : manager.nextSocket ≤ manager.pushNewSocket.nextSocket :=
        Nat.le_succ _
      refine
        ⟨List.forall_mem_cons.mpr ⟨succeeded, others⟩, step.trans next,
          manager.nextSocket :: added, ?_, congrArg Nat.succ length, ?_⟩
      · rw [← List.singleton_append, ← List.append_assoc]
        exact filled
      · exact
          List.forall_mem_cons.mpr
            ⟨Nat.le_refl _, fun socket member =>
              step.trans (above socket member)⟩

/-- A `FillSocketQueue` of an empty queue fills it. -/
theorem Stocked.fillSocketQueue
    (stocked : manager.Stocked bound []) :
    (∀ pushed ∈ manager.fillResults, pushed = true) ∧
      manager.nextSocket ≤ manager.fillSocketQueue.nextSocket ∧
        ∃ added,
          manager.fillSocketQueue.Stocked bound added ∧
            added.length = bound ∧
              ∀ socket ∈ added, manager.nextSocket ≤ socket := by
  unfold fillResults NetworkManager.fillSocketQueue
  rw [stocked.refills]
  exact stocked.pushNewSockets (Nat.le_of_eq (Nat.zero_add bound))

/-- Behind the refill there is a socket to pop. -/
theorem Stocked.refill
    (stocked : manager.Stocked bound sockets)
    (positive : 1 ≤ bound) :
    (∀ pushed ∈ manager.refillResults, pushed = true) ∧
      manager.nextSocket ≤ manager.refill.nextSocket ∧
        ∃ socket rest,
          manager.refill.Stocked bound (socket :: rest) ∧
            ∀ other ∈ socket :: rest,
              other ∈ sockets ∨ manager.nextSocket ≤ other := by
  have size : manager.preparedSocketQueue.size = sockets.length := by
    rw [← LockFreeCircleQueue.contents_length, stocked.contents,
      List.length_map]
  unfold refillResults NetworkManager.refill
  rw [size]
  cases sockets with
  | nil =>
      have nothing : ([] : List SocketPointer).length < 1 := Nat.one_pos
      rw [if_pos nothing, if_pos nothing]
      rcases stocked.fillSocketQueue with
        ⟨succeeded, next, added, filled, length, above⟩
      cases added with
      | nil =>
          rw [← length] at positive
          cases positive
      | cons socket rest =>
          exact
            ⟨succeeded, next, socket, rest, filled, fun other member =>
              .inr (above other member)⟩
  | cons socket rest =>
      have some : ¬ (socket :: rest).length < 1 := by
        rw [List.length_cons]
        omega
      rw [if_neg some, if_neg some]
      exact
        ⟨nofun, Nat.le_refl _, socket, rest, stocked, fun other member =>
          .inl member⟩

/-- A pop takes the first socket out. -/
theorem Stocked.pop
    {socket : SocketPointer} {rest : List SocketPointer}
    (stocked : manager.Stocked bound (socket :: rest)) :
    manager.preparedSocketQueue.pop.1 = .to socket ∧
      Stocked bound
        { manager with
          preparedSocketQueue := manager.preparedSocketQueue.pop.2 }
        rest := by
  rcases manager.preparedSocketQueue.pop_of_cons stocked.contents with
    ⟨first, left⟩
  refine ⟨first, ?_⟩
  exact
    { numbered := stocked.numbered
      capacity :=
        (LockFreeCircleQueue.queueMaxSize_pop ..).trans stocked.capacity
      refills := stocked.refills
      contents := left
      distinct := stocked.distinct.of_cons
      allocated := fun other member =>
        stocked.allocated other (List.mem_cons_of_mem socket member) }

end Refill

/-! ## The other calls -/

/-- The prepared sockets are the same; sockets may have been allocated. -/
structure SamePrepared (before after : NetworkManager Owner) : Prop where
  preparedSocketQueue :
    after.preparedSocketQueue = before.preparedSocketQueue
  prepareSocketMax : after.prepareSocketMax = before.prepareSocketMax
  newAddress : after.newAddress = before.newAddress
  nextSocket : before.nextSocket ≤ after.nextSocket

theorem SamePrepared.refl (manager : NetworkManager Owner) :
    SamePrepared manager manager :=
  ⟨rfl, rfl, rfl, Nat.le_refl _⟩

section Calls

variable {callbacks : Callbacks Owner} {bound : Nat}
variable {manager reached after : NetworkManager Owner}
variable {sockets : List SocketPointer} {event : NetworkEvent}
variable {request : Option OverlappedSetting}

theorem Stocked.same
    (stocked : manager.Stocked bound sockets)
    (same : SamePrepared manager after) :
    after.Stocked bound sockets where
  numbered := same.newAddress.trans stocked.numbered
  capacity := by
    rw [same.preparedSocketQueue]
    exact stocked.capacity
  refills := same.prepareSocketMax.trans stocked.refills
  contents := by
    rw [same.preparedSocketQueue]
    exact stocked.contents
  distinct := stocked.distinct
  allocated := fun socket member =>
    (stocked.allocated socket member).trans_le same.nextSocket

theorem handleDisconnectComplete_samePrepared
    {start : NetworkManager Owner} {key : CompletionKey}
    (done : start.handleDisconnectComplete callbacks key = .ok reached) :
    SamePrepared start reached := by
  unfold handleDisconnectComplete at done
  split at done
  · cases done
    exact .refl _
  · split at done
    · cases done
    · next result closing closed =>
        cases done
        unfold processDisconnect at closed
        split at closed
        · cases closed
        · cases closed
          exact ⟨rfl, rfl, rfl, Nat.le_refl _⟩
        · cases closed
          exact ⟨rfl, rfl, rfl, Nat.le_refl _⟩
        · cases closed
          exact ⟨rfl, rfl, rfl, Nat.le_refl _⟩

theorem onlyDisconnect_samePrepared
    {start : NetworkManager Owner} {key : CompletionKey}
    (done :
      onlyFront (start.handleDisconnectComplete callbacks key) =
        .ok (reached, request)) :
    SamePrepared start reached := by
  rcases Fallible.map_eq_ok.mp done with ⟨closed, called, equal⟩
  cases equal
  exact handleDisconnectComplete_samePrepared called

theorem connectionFront_samePrepared
    {start : NetworkManager Owner} {overlapped : CustomOverlapped}
    {errorCode : Int}
    (done :
      start.connectionFront callbacks overlapped errorCode =
        .ok (reached, request)) :
    SamePrepared start reached := by
  unfold connectionFront at done
  split at done
  · cases done
  · rw [(callback_receiveReady_same done).2]
    exact ⟨rfl, rfl, rfl, Nat.le_refl _⟩

theorem handlerFront_samePrepared
    {start : NetworkManager Owner} {overlapped : CustomOverlapped}
    {key : CompletionKey} {bytes : Nat} {errorCode : Int}
    (done :
      start.handlerFront callbacks key overlapped bytes errorCode =
        .ok (reached, request)) :
    SamePrepared start reached := by
  unfold handlerFront at done
  split at done
  · exact connectionFront_samePrepared done
  · exact connectionFront_samePrepared done
  · unfold receiveFront at done
    split_ifs at done
    · exact onlyDisconnect_samePrepared done
    · split at done
      · cases done
      · rw [(callback_receiveReady_same done).2]
        exact ⟨rfl, rfl, rfl, Nat.le_refl _⟩
  · rcases Fallible.map_eq_ok.mp done with ⟨told, called, equal⟩
    cases equal
    unfold handleSendComplete callIocpCallback at called
    split at called
    · cases called
    · cases called
      exact ⟨rfl, rfl, rfl, Nat.le_refl _⟩
  · cases done
    exact .refl _

theorem completionFront_samePrepared
    {start : NetworkManager Owner} {overlapped : CustomOverlapped}
    {status : CompletionStatus} {errorCode : Int}
    (done :
      start.completionFront callbacks overlapped status errorCode =
        .ok (reached, request)) :
    SamePrepared start reached := by
  cases status with
  | failed code =>
      simp only [completionFront] at done
      split_ifs at done
      · exact onlyDisconnect_samePrepared done
      · cases done
        exact .refl _
  | succeeded bytes =>
      simp only [completionFront] at done
      exact handlerFront_samePrepared done

/-- Every other call leaves the prepared sockets alone. -/
theorem front_samePrepared
    (other : manager.preparedCall event = none)
    (done : manager.front callbacks event = .ok (reached, request)) :
    SamePrepared manager reached := by
  cases event with
  | prepareAcceptSocket senderType errorCode answer => cases other
  | setupConnectSocket senderType bindFails ioctlFails answer =>
      simp only [front, setupConnectFront] at done
      split_ifs at done
      · cases done
        exact .refl _
      · cases done
        exact ⟨rfl, rfl, rfl, Nat.le_succ _⟩
      · cases done
        exact ⟨rfl, rfl, rfl, Nat.le_succ _⟩
  | sendRequest targetSocket contentType stringBuffer bodySize answer =>
      simp only [front, sendFront] at done
      split at done
      · cases done
        exact .refl _
      · cases done
        exact .refl _
  | completion index status errorCode answer =>
      simp only [front] at done
      split at done
      · cases done
        exact .refl _
      · next overlapped found =>
          have same := completionFront_samePrepared done
          exact
            ⟨same.preparedSocketQueue, same.prepareSocketMax,
              same.newAddress, same.nextSocket⟩

/-- Posting an operation leaves the prepared sockets alone. -/
theorem call_samePrepared
    (done : manager.call callbacks event = .ok after) :
    ∃ reached request,
      manager.front callbacks event = .ok (reached, request) ∧
        SamePrepared reached after := by
  rcases call_cases done with
    ⟨reached, request, overlappedQueue, fronted, -, outcome⟩
  refine ⟨reached, request, fronted, ?_⟩
  rcases outcome with ⟨rfl, -⟩ | ⟨setting, overlapped, posted, -, -, -, rfl⟩
  · exact ⟨rfl, rfl, rfl, Nat.le_refl _⟩
  · exact ⟨rfl, rfl, rfl, Nat.le_refl _⟩

/-- The front part of a `PrepareAcceptSocket` pops one socket. -/
theorem prepareAcceptFront_cases
    {senderType : SenderType} {errorCode : Int}
    (done :
      manager.prepareAcceptFront senderType errorCode =
        .ok (reached, request)) :
    reached =
        { manager.refill with
          preparedSocketQueue := manager.refill.preparedSocketQueue.pop.2 } ∧
      ∃ socket,
        manager.refill.preparedSocketQueue.pop.1 = .to socket ∧
          (request = none ∨ request = some (.accept socket senderType)) := by
  unfold prepareAcceptFront at done
  split at done
  · cases done
  · next socket popped taken =>
      dsimp only at done
      rw [taken]
      split at done
      · cases done
      · split_ifs at done
        · cases done
          exact ⟨rfl, socket, rfl, .inl rfl⟩
        · cases done
          exact ⟨rfl, socket, rfl, .inr rfl⟩

/-- What is true of a call that finds the queue with these sockets. -/
structure PreparedCall.Served
    (call : PreparedCall) (manager : NetworkManager Owner)
    (sockets : List SocketPointer) (socket : SocketPointer) : Prop where
  pushes : ∀ pushed ∈ call.pushes, pushed = true
  popped : call.popped = .to socket
  accepting : ∀ target, call.accepting = some target → target = socket
  origin : socket ∈ sockets ∨ manager.nextSocket ≤ socket

/-- What a `PrepareAcceptSocket` pops, and what it hands to `AcceptEx`. -/
theorem Stocked.preparedCall
    {call : PreparedCall}
    (stocked : manager.Stocked bound sockets)
    (positive : 1 ≤ bound)
    (called : manager.preparedCall event = some call) :
    ∃ socket, call.Served manager sockets socket := by
  rcases stocked.refill positive with
    ⟨succeeded, -, socket, rest, refilled, origin⟩
  have popped := refilled.pop.1
  cases event with
  | prepareAcceptSocket senderType errorCode answer =>
      cases called
      refine
        ⟨socket, succeeded, popped, ?_,
          origin socket List.mem_cons_self⟩
      intro target accepting
      cases fronted : manager.prepareAcceptFront senderType errorCode with
      | error fault =>
          rw [fronted] at accepting
          cases accepting
      | ok outcome =>
          rcases outcome with ⟨reached, request⟩
          rcases prepareAcceptFront_cases fronted with
            ⟨-, first, atFront, outcome⟩
          rw [popped] at atFront
          cases atFront
          rw [fronted] at accepting
          rcases outcome with rfl | rfl
          · cases accepting
          · cases accepting
            rfl
  | setupConnectSocket senderType bindFails ioctlFails answer => cases called
  | sendRequest targetSocket contentType stringBuffer bodySize answer =>
      cases called
  | completion index status errorCode answer => cases called

/-- A call that returns keeps the queue in order; what it popped is gone. -/
theorem Stocked.call
    (stocked : manager.Stocked bound sockets)
    (positive : 1 ≤ bound)
    (done : manager.call callbacks event = .ok after) :
    ∃ left,
      after.Stocked bound left ∧
        (∀ socket ∈ left,
          socket ∈ sockets ∨ manager.nextSocket ≤ socket) ∧
          manager.nextSocket ≤ after.nextSocket ∧
            ∀ call,
              manager.preparedCall event = some call →
                ∀ socket,
                  call.popped = .to socket →
                    socket ∉ left ∧ socket < after.nextSocket := by
  rcases call_samePrepared done with ⟨reached, request, fronted, posted⟩
  cases prepares : manager.preparedCall event with
  | none =>
      have same := front_samePrepared prepares fronted
      refine
        ⟨sockets, (stocked.same same).same posted,
          fun socket member => .inl member,
          same.nextSocket.trans posted.nextSocket, ?_⟩
      rintro call ⟨⟩
  | some call =>
      cases event with
      | prepareAcceptSocket senderType errorCode answer =>
          rcases stocked.refill positive with
            ⟨-, next, socket, rest, refilled, origin⟩
          rcases refilled.pop with ⟨popped, kept⟩
          rcases prepareAcceptFront_cases fronted with ⟨rfl, -⟩
          refine
            ⟨rest, kept.same posted,
              fun other member =>
                origin other (List.mem_cons_of_mem socket member),
              next.trans posted.nextSocket, ?_⟩
          rintro _ ⟨⟩ other first
          cases prepares
          have same : RawPointer.to socket = .to other :=
            popped.symm.trans first
          cases same
          refine ⟨(List.nodup_cons.mp refilled.distinct).1, ?_⟩
          exact
            (refilled.allocated socket List.mem_cons_self).trans_le
              posted.nextSocket
      | setupConnectSocket senderType bindFails ioctlFails answer =>
          cases prepares
      | sendRequest targetSocket contentType stringBuffer bodySize answer =>
          cases prepares
      | completion index status errorCode answer => cases prepares

/-- The calls along a schedule: nothing is refused, and nothing missing. -/
theorem Stocked.preparedCalls
    {schedule : List NetworkEvent}
    (stocked : manager.Stocked bound sockets)
    (positive : 1 ≤ bound) :
    (∀ call ∈ manager.preparedCalls callbacks schedule,
        ∃ socket, call.Served manager sockets socket) ∧
      ((manager.preparedCalls callbacks schedule).map
        PreparedCall.popped).Nodup := by
  induction schedule generalizing manager sockets with
  | nil => exact ⟨nofun, List.nodup_nil⟩
  | cons event rest induction =>
      rw [NetworkManager.preparedCalls]
      cases taken : (system callbacks).step manager event with
      | none =>
          dsimp only
          rw [List.append_nil]
          cases prepares : manager.preparedCall event with
          | none => exact ⟨nofun, List.nodup_nil⟩
          | some call =>
              refine ⟨?_, List.nodup_singleton _⟩
              intro only member
              rw [List.mem_singleton.mp member]
              exact stocked.preparedCall positive prepares
      | some next =>
          dsimp only
          rcases
            stocked.call positive (Fallible.toOption_eq_some.mp taken) with
            ⟨left, kept, remaining, allocated, gone⟩
          rcases induction kept with ⟨served, distinct⟩
          -- what a later call pops was left over or is allocated later
          have later :
              ∀ call ∈ next.preparedCalls callbacks rest,
                ∃ socket, call.Served manager sockets socket := by
            intro call member
            rcases served call member with ⟨socket, serves⟩
            refine
              ⟨socket, serves.pushes, serves.popped, serves.accepting, ?_⟩
            rcases serves.origin with leftOver | new
            · exact remaining socket leftOver
            · exact .inr (allocated.trans new)
          cases prepares : manager.preparedCall event with
          | none => exact ⟨later, distinct⟩
          | some call =>
              rcases stocked.preparedCall positive prepares with
                ⟨socket, serves⟩
              refine
                ⟨List.forall_mem_cons.mpr ⟨⟨socket, serves⟩, later⟩,
                  List.nodup_cons.mpr ⟨?_, distinct⟩⟩
              intro again
              rcases List.mem_map.mp again with ⟨other, member, same⟩
              rcases served other member with ⟨second, alsoServes⟩
              have equal : RawPointer.to second = .to socket :=
                alsoServes.popped.symm.trans (same.trans serves.popped)
              cases equal
              rcases gone call prepares socket serves.popped with
                ⟨notLeft, below⟩
              rcases alsoServes.origin with leftOver | new
              · exact notLeft leftOver
              · exact Nat.lt_irrefl _ (below.trans_le new)

/-- An empty queue behind its `Construct`. -/
theorem listening_stocked
    (senderType : SenderType)
    (overlappedQueueMax prepareSocketMax : Nat)
    (memory : Nat → BufferMemory)
    (owner : Owner) :
    (listening senderType overlappedQueueMax prepareSocketMax memory
      owner).Stocked prepareSocketMax [] where
  numbered := rfl
  capacity := rfl
  refills := rfl
  contents := rfl
  distinct := List.nodup_nil
  allocated := nofun

end Calls

/--
Behind `SetupListenSocket`, in every sequence of calls with whatever answers:
no push of a `FillSocketQueue` is refused, no pop of a `PrepareAcceptSocket`
comes back empty, and no two of them pop or hand to `AcceptEx` one socket.
-/
theorem prepared_sockets_suffice
    {callbacks : Callbacks Owner}
    (senderType : SenderType)
    (overlappedQueueMax prepareSocketMax : Nat)
    (memory : Nat → BufferMemory)
    (owner : Owner)
    (positive : 1 ≤ prepareSocketMax)
    (schedule : List NetworkEvent) :
    let calls :=
      (setup senderType overlappedQueueMax prepareSocketMax memory
        owner).preparedCalls callbacks schedule
    (∀ pushed ∈
        (listening senderType overlappedQueueMax prepareSocketMax memory
          owner).fillResults, pushed = true) ∧
      (∀ call ∈ calls,
        (∀ pushed ∈ call.pushes, pushed = true) ∧ call.popped ≠ .null) ∧
        (calls.map PreparedCall.popped).Nodup ∧
          (calls.filterMap PreparedCall.accepting).Nodup := by
  intro calls
  have empty :=
    listening_stocked senderType overlappedQueueMax prepareSocketMax memory
      owner
  rcases empty.fillSocketQueue with ⟨pushes, -, sockets, filled, -, -⟩
  rw [← setup_eq_fillSocketQueue] at filled
  rcases filled.preparedCalls positive with ⟨served, distinct⟩
  refine ⟨pushes, ?_, distinct, ?_⟩
  · intro call member
    rcases served call member with ⟨socket, serves⟩
    refine ⟨serves.pushes, ?_⟩
    rw [serves.popped]
    intro null
    cases null
  · -- an `AcceptEx` gets the socket that was popped
    apply List.pairwise_filterMap.mpr
    apply (List.pairwise_map.mp distinct).imp_of_mem
    intro first second isFirst isSecond different one gotOne other gotOther same
    rcases served first isFirst with ⟨firstSocket, servesFirst⟩
    rcases served second isSecond with ⟨secondSocket, servesSecond⟩
    apply different
    rw [servesFirst.popped, servesSecond.popped,
      ← servesFirst.accepting one gotOne,
      ← servesSecond.accepting other gotOther, same]

/-- Four accepts with two prepared sockets; two of them fail. -/
def fourAccepts : List NetworkEvent :=
  [.prepareAcceptSocket .default 0 .success,
    .prepareAcceptSocket .default 10038 .success,
    .prepareAcceptSocket .default 0 .notSocket,
    .prepareAcceptSocket .default 0 .success]

theorem prepared_sockets_suffice_four :
    (((setup .controlServer 4 2 (fun _ => default) ()).preparedCalls .idle
      fourAccepts).filterMap PreparedCall.accepting).Nodup :=
  (prepared_sockets_suffice .controlServer 4 2 (fun _ => default) ()
    (by decide) fourAccepts).2.2.2

example :
    (((setup .controlServer 4 2 (fun _ => default) ()).preparedCalls .idle
      fourAccepts).map PreparedCall.popped) =
        [.to 2, .to 3, .to 4, .to 5] := by
  decide

end IocpServer.Network.NetworkManager
