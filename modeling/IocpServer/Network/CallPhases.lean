import IocpServer.Library.Fallible
import IocpServer.Network.NetworkManager

/-!
# The phases of a call

Every call into the network manager takes at most one object from the pool.
It consists of a front part, which ends in front of the `pop` or without
one, of the posting if the front part got that far, and of a tail, in which
the completion loop returns the finished object.  `call_eq_phases` is this
decomposition; the properties of the pool and of the connections are proved
phase by phase.
-/

namespace IocpServer.Network.NetworkManager

open IocpServer.Library
open IocpServer.Utility

variable {Owner : Type}

/-- The answer the posting call of an event gets. -/
def NetworkEvent.answer : NetworkEvent → PostAnswer
  | .prepareAcceptSocket _ _ answer => answer
  | .setupConnectSocket _ _ _ answer => answer
  | .sendRequest _ _ _ _ answer => answer
  | .completion _ _ _ answer => answer

/--
The outcome of a front part: the state in front of the `pop` with the
setting of the operation to post, or the state at the return.
-/
abbrev Front (Owner : Type) :=
  Except Fault (NetworkManager Owner × Option OverlappedSetting)

/-- Continue behind a front part. -/
def Front.resume (answer : PostAnswer) :
    Front Owner → Except Fault (NetworkManager Owner)
  | .error fault => .error fault
  | .ok (reached, none) => .ok reached
  | .ok (reached, some setting) =>
      (reached.post setting answer).map Prod.snd

/-- The front part of `CallReceiveReady`. -/
def receiveReadyFront
    (manager : NetworkManager Owner)
    (targetSocket : SocketPointer)
    (errorCode : Int) :
    Front Owner :=
  match manager.dereference targetSocket with
  | .error fault => .error fault
  | .ok _ =>
      if errorCode ≠ 0 then
        .ok (manager, none)
      else
        .ok (manager, some (.receive targetSocket))

/-- The front part of `PrepareAcceptSocket`. -/
def prepareAcceptFront
    (manager : NetworkManager Owner)
    (senderType : SenderType)
    (errorCode : Int) :
    Front Owner :=
  match manager.refill.preparedSocketQueue.pop with
  | (.null, _) => .error .nullSocket
  | (.to targetSocket, popped) =>
      let taken := { manager.refill with preparedSocketQueue := popped }
      match taken.dereference targetSocket with
      | .error fault => .error fault
      | .ok _ =>
          if errorCode ≠ 0 then
            .ok (taken, none)
          else
            .ok (taken, some (.accept targetSocket senderType))

/-- The front part of `SetupConnectSocket`. -/
def setupConnectFront
    (manager : NetworkManager Owner)
    (senderType : SenderType)
    (bindFails ioctlFails : Bool) :
    Front Owner :=
  let allocated := manager.newSocket
  if bindFails then
    .ok (manager, none)
  else if ioctlFails then
    .ok (allocated, none)
  else
    .ok (allocated, some (.connect manager.socketAddress senderType))

/-- The front part of `SendRequest`. -/
def sendFront
    (manager : NetworkManager Owner)
    (targetSocket : CompletionKey)
    (contentType : UInt32)
    (stringBuffer : List UInt8)
    (bodySize : Int32) :
    Front Owner :=
  match manager.connectedSocketMap.lookup targetSocket with
  | none => .ok (manager, none)
  | some socket =>
      .ok
        (manager,
          some
            (.send socket
              ⟨manager.senderType.toUInt32, htonl bodySize.toUInt32,
                htonl contentType⟩
              stringBuffer bodySize))

/-- The front part of `HandleAcceptComplete` and `HandleConnectComplete`. -/
def connectionFront
    (callbacks : Callbacks Owner)
    (manager : NetworkManager Owner)
    (overlapped : CustomOverlapped)
    (errorCode : Int) :
    Front Owner :=
  match overlapped.socket with
  | none => .error .nullSocket
  | some targetSocket =>
      match
        (manager.register targetSocket).callIocpCallback callbacks
          targetSocket overlapped
      with
      | .error fault => .error fault
      | .ok called => called.receiveReadyFront targetSocket errorCode

/-- A call which acquires nothing is all front. -/
def onlyFront (done : Except Fault (NetworkManager Owner)) :
    Front Owner :=
  done.map fun reached => (reached, none)

/-- The front part of `HandleReceiveComplete`. -/
def receiveFront
    (callbacks : Callbacks Owner)
    (manager : NetworkManager Owner)
    (completionKey : CompletionKey)
    (overlapped : CustomOverlapped)
    (bytes : Nat)
    (errorCode : Int) :
    Front Owner :=
  if bytes ≤ 0 then
    onlyFront (manager.handleDisconnectComplete callbacks completionKey)
  else
    match overlapped.socket with
    | none => .error .nullSocket
    | some targetSocket =>
        match
          manager.callIocpCallback callbacks completionKey overlapped
        with
        | .error fault => .error fault
        | .ok called => called.receiveReadyFront targetSocket errorCode

/-- The front part of the handler of a successful completion. -/
def handlerFront
    (callbacks : Callbacks Owner)
    (manager : NetworkManager Owner)
    (completionKey : CompletionKey)
    (overlapped : CustomOverlapped)
    (bytes : Nat)
    (errorCode : Int) :
    Front Owner :=
  match overlapped.operationType with
  | .opConnect | .opAccept =>
      manager.connectionFront callbacks overlapped errorCode
  | .opRecv =>
      manager.receiveFront callbacks completionKey overlapped bytes
        errorCode
  | .opSend =>
      onlyFront
        (manager.handleSendComplete callbacks completionKey overlapped)
  | .opDefault => .ok (manager, none)

/-- The front part of the completion loop. -/
def completionFront
    (callbacks : Callbacks Owner)
    (manager : NetworkManager Owner)
    (overlapped : CustomOverlapped)
    (status : CompletionStatus)
    (errorCode : Int) :
    Front Owner :=
  let key := manager.completionKey overlapped
  match status with
  | .failed code =>
      if code ∈ disconnectCodes then
        onlyFront (manager.handleDisconnectComplete callbacks key)
      else
        .ok (manager, none)
  | .succeeded bytes =>
      manager.handlerFront callbacks key (received overlapped bytes)
        bytes.length errorCode

/-- The state behind `GetQueuedCompletionStatus`. -/
def dequeue (manager : NetworkManager Owner) (index : Nat) :
    NetworkManager Owner :=
  { manager with outstanding := manager.outstanding.eraseIdx index }

/-- The front part of any call. -/
def front
    (callbacks : Callbacks Owner)
    (manager : NetworkManager Owner) :
    NetworkEvent → Front Owner
  | .prepareAcceptSocket senderType errorCode _ =>
      manager.prepareAcceptFront senderType errorCode
  | .setupConnectSocket senderType bindFails ioctlFails _ =>
      manager.setupConnectFront senderType bindFails ioctlFails
  | .sendRequest targetSocket contentType stringBuffer bodySize _ =>
      manager.sendFront targetSocket contentType stringBuffer bodySize
  | .completion index status errorCode _ =>
      match manager.outstanding[index]? with
      | none => .ok (manager, none)
      | some overlapped =>
          (manager.dequeue index).completionFront callbacks overlapped
            status errorCode

/-- The finished object, as the completion loop returns it. -/
def finished
    (overlapped : CustomOverlapped) : CompletionStatus → CustomOverlapped
  | .failed _ => overlapped
  | .succeeded bytes => received overlapped bytes

/-- The object a call returns to the pool. -/
def returned (manager : NetworkManager Owner) :
    NetworkEvent → Option CustomOverlapped
  | .prepareAcceptSocket _ _ _ => none
  | .setupConnectSocket _ _ _ _ => none
  | .sendRequest _ _ _ _ _ => none
  | .completion index status _ _ =>
      manager.outstanding[index]?.map fun overlapped =>
        finished overlapped status

/-- The tail of a call. -/
def tail
    (overlapped : Option CustomOverlapped)
    (manager : NetworkManager Owner) :
    NetworkManager Owner :=
  match overlapped with
  | none => manager
  | some overlapped => manager.recycle overlapped

@[simp]
theorem received_address
    (overlapped : CustomOverlapped) (bytes : List UInt8) :
    (received overlapped bytes).address = overlapped.address := by
  unfold received
  split <;> rfl

@[simp]
theorem received_operationType
    (overlapped : CustomOverlapped) (bytes : List UInt8) :
    (received overlapped bytes).operationType =
      overlapped.operationType := by
  unfold received
  split <;> rfl

@[simp]
theorem received_socket
    (overlapped : CustomOverlapped) (bytes : List UInt8) :
    (received overlapped bytes).socket = overlapped.socket := by
  unfold received
  split <;> rfl

@[simp]
theorem finished_address
    (overlapped : CustomOverlapped) (status : CompletionStatus) :
    (finished overlapped status).address = overlapped.address := by
  cases status with
  | failed code => rfl
  | succeeded bytes => exact received_address overlapped bytes

/-! ## The decomposition -/

@[simp]
theorem resume_onlyFront
    (done : Except Fault (NetworkManager Owner)) (answer : PostAnswer) :
    (onlyFront done).resume answer = done := by
  cases done <;> rfl

theorem callReceiveReady_eq
    (manager : NetworkManager Owner)
    (targetSocket : SocketPointer)
    (errorCode : Int)
    (answer : PostAnswer) :
    (manager.callReceiveReady targetSocket errorCode answer).map
        Prod.snd =
      (manager.receiveReadyFront targetSocket errorCode).resume
        answer := by
  unfold callReceiveReady receiveReadyFront
  cases manager.dereference targetSocket with
  | error fault => rfl
  | ok read =>
      dsimp only
      split_ifs <;> rfl

theorem prepareAcceptSocket_eq
    (manager : NetworkManager Owner)
    (senderType : SenderType)
    (errorCode : Int)
    (answer : PostAnswer) :
    manager.prepareAcceptSocket senderType errorCode answer =
      (manager.prepareAcceptFront senderType errorCode).resume
        answer := by
  unfold prepareAcceptSocket prepareAcceptFront
  rcases manager.refill.preparedSocketQueue.pop with
    ⟨_ | targetSocket, popped⟩
  · rfl
  · dsimp only
    cases
      dereference
        { manager.refill with preparedSocketQueue := popped }
        targetSocket with
    | error fault => rfl
    | ok read =>
        dsimp only
        split_ifs <;> rfl

theorem setupConnectSocket_eq
    (manager : NetworkManager Owner)
    (senderType : SenderType)
    (bindFails ioctlFails : Bool)
    (answer : PostAnswer) :
    manager.setupConnectSocket senderType bindFails ioctlFails answer =
      (manager.setupConnectFront senderType bindFails
        ioctlFails).resume answer := by
  simp only [setupConnectSocket, setupConnectFront]
  split_ifs <;> rfl

theorem sendRequest_eq
    (manager : NetworkManager Owner)
    (targetSocket : CompletionKey)
    (contentType : UInt32)
    (stringBuffer : List UInt8)
    (bodySize : Int32)
    (answer : PostAnswer) :
    manager.sendRequest targetSocket contentType stringBuffer bodySize
        answer =
      (manager.sendFront targetSocket contentType stringBuffer
        bodySize).resume answer := by
  unfold sendRequest sendFront
  cases manager.connectedSocketMap.lookup targetSocket with
  | none => rfl
  | some socket => rfl

theorem handleConnectionComplete_eq
    (callbacks : Callbacks Owner)
    (manager : NetworkManager Owner)
    (overlapped : CustomOverlapped)
    (errorCode : Int)
    (answer : PostAnswer) :
    manager.handleConnectionComplete callbacks overlapped errorCode
        answer =
      (manager.connectionFront callbacks overlapped errorCode).resume
        answer := by
  unfold handleConnectionComplete connectionFront
  cases overlapped.socket with
  | none => rfl
  | some targetSocket =>
      dsimp only
      cases
        (manager.register targetSocket).callIocpCallback callbacks
          targetSocket overlapped with
      | error fault => rfl
      | ok called =>
          exact
            callReceiveReady_eq called targetSocket errorCode answer

theorem handleReceiveComplete_eq
    (callbacks : Callbacks Owner)
    (manager : NetworkManager Owner)
    (completionKey : CompletionKey)
    (overlapped : CustomOverlapped)
    (bytes : Nat)
    (errorCode : Int)
    (answer : PostAnswer) :
    manager.handleReceiveComplete callbacks completionKey overlapped
        bytes errorCode answer =
      (manager.receiveFront callbacks completionKey overlapped bytes
        errorCode).resume answer := by
  unfold handleReceiveComplete receiveFront
  split_ifs with empty
  · rw [resume_onlyFront]
  · cases overlapped.socket with
    | none => rfl
    | some targetSocket =>
        dsimp only
        cases
          manager.callIocpCallback callbacks completionKey
            overlapped with
        | error fault => rfl
        | ok called =>
            exact
              callReceiveReady_eq called targetSocket errorCode answer

theorem handleCompletion_eq
    (callbacks : Callbacks Owner)
    (manager : NetworkManager Owner)
    (completionKey : CompletionKey)
    (overlapped : CustomOverlapped)
    (bytes : Nat)
    (errorCode : Int)
    (answer : PostAnswer) :
    manager.handleCompletion callbacks completionKey overlapped bytes
        errorCode answer =
      (manager.handlerFront callbacks completionKey overlapped bytes
        errorCode).resume answer := by
  unfold handleCompletion handlerFront
  cases overlapped.operationType with
  | opDefault => rfl
  | opConnect =>
      exact
        handleConnectionComplete_eq callbacks manager overlapped
          errorCode answer
  | opAccept =>
      exact
        handleConnectionComplete_eq callbacks manager overlapped
          errorCode answer
  | opRecv =>
      exact
        handleReceiveComplete_eq callbacks manager completionKey
          overlapped bytes errorCode answer
  | opSend => exact (resume_onlyFront _ answer).symm

theorem processCompletion_eq
    (callbacks : Callbacks Owner)
    (manager : NetworkManager Owner)
    (overlapped : CustomOverlapped)
    (status : CompletionStatus)
    (errorCode : Int)
    (answer : PostAnswer) :
    processCompletion callbacks manager overlapped status errorCode
        answer =
      ((manager.completionFront callbacks overlapped status
        errorCode).resume answer).map
          (tail (some (finished overlapped status))) := by
  unfold processCompletion completionFront
  cases status with
  | failed code =>
      dsimp only
      split_ifs with listed
      · rw [resume_onlyFront]
        rfl
      · rfl
  | succeeded bytes =>
      dsimp only
      rw [handleCompletion_eq]
      rfl

/-- Every call is its front part, a posting if it gets there, and a tail. -/
theorem call_eq_phases
    (callbacks : Callbacks Owner)
    (manager : NetworkManager Owner)
    (event : NetworkEvent) :
    manager.call callbacks event =
      ((manager.front callbacks event).resume event.answer).map
        (tail (manager.returned event)) := by
  have unchanged (done : Except Fault (NetworkManager Owner)) :
      done.map (tail none) = done := by
    cases done <;> rfl
  cases event with
  | prepareAcceptSocket senderType errorCode answer =>
      rw [returned, unchanged]
      exact prepareAcceptSocket_eq manager senderType errorCode answer
  | setupConnectSocket senderType bindFails ioctlFails answer =>
      rw [returned, unchanged]
      exact
        setupConnectSocket_eq manager senderType bindFails ioctlFails
          answer
  | sendRequest targetSocket contentType stringBuffer bodySize answer =>
      rw [returned, unchanged]
      exact
        sendRequest_eq manager targetSocket contentType stringBuffer
          bodySize answer
  | completion index status errorCode answer =>
      rw [call, front, returned]
      cases manager.outstanding[index]? with
      | none => rfl
      | some overlapped =>
          exact
            processCompletion_eq callbacks (manager.dequeue index)
              overlapped status errorCode answer

/-- A posting takes one object, and keeps it unless the call fails. -/
theorem post_cases
    {manager after : NetworkManager Owner}
    {setting : OverlappedSetting} {answer : PostAnswer} {result : Bool}
    (done : manager.post setting answer = .ok (result, after)) :
    ∃ overlapped popped posted,
      manager.overlappedQueue.pop = (.to overlapped, popped) ∧
        setting.set overlapped.clear = .ok posted ∧
          ((answer.failed = true ∧ result = false ∧
              after = { manager with overlappedQueue := popped }) ∨
            (answer.failed = false ∧ result = true ∧
              after =
                { manager with
                  overlappedQueue := popped
                  outstanding := manager.outstanding ++ [posted] })) := by
  unfold post at done
  split at done
  · cases done
  · next overlapped popped taken =>
      split at done
      · cases done
      · next posted prepared =>
          split at done
          · cases done
          · refine ⟨overlapped, popped, posted, taken, prepared, ?_⟩
            split_ifs at done with failed
            · cases done
              exact .inl ⟨failed, rfl, rfl⟩
            · cases done
              exact .inr ⟨Bool.eq_false_of_not_eq_true failed, rfl, rfl⟩

end IocpServer.Network.NetworkManager
