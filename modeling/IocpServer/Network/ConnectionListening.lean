import IocpServer.Network.SocketReuse

/-!
# Outstanding receives of registered connections

A connection enters `_connectedSocketMap` in `HandleAcceptComplete` or
`HandleConnectComplete` and is read through one receive at a time, which
every handler posts anew.  When `CallReceiveReady` fails, or a receive fails
with a code that has no case in `ProcessCompletionHandler`, nothing posts the
next receive and nothing disconnects either.  And when data arrives for a
socket that was deleted, its handler posts the next receive on whatever
socket has the address by now.
-/

namespace IocpServer.Network

open IocpServer.Library
open IocpServer.Utility

open NetworkManager (NetworkEvent opens receives receivesIn receivesOf
  socketsOf received)

variable {Owner : Type}

namespace ObservedManager

/-- The outstanding receives of the socket with this number. -/
def receivesFor (observed : ObservedManager Owner) (number : Nat) :
    List (CustomOverlapped × Nat) :=
  (receivesIn observed.manager.outstanding observed.postedFor).filter
    fun operation => operation.2 == number

/--
The connection under a registered key has exactly one outstanding receive; a
connection without one is out of the map, deleted and reported.
-/
structure Listening (observed : ObservedManager Owner) : Prop where
  registered :
    ∀ key socket,
      observed.manager.connectedSocketMap.lookup key = some socket →
        (observed.receivesFor
          (observed.manager.socketNumber socket)).length = 1
  silent :
    ∀ number ∈ observed.manager.connections,
      observed.receivesFor number = [] →
        ¬ observed.manager.Registered number ∧
          ¬ observed.manager.Alive number ∧
            number ∈ observed.manager.reported

/-- The handler of the completion calls `CallReceiveReady`. -/
def callsReceiveReady
    (overlapped : CustomOverlapped) (bytes : List UInt8) : Bool :=
  match overlapped.operationType with
  | .opConnect | .opAccept => true
  | .opRecv => !bytes.isEmpty
  | .opSend | .opDefault => false

/-- No other object has been made at the address since the operation. -/
def IsCurrent
    (observed : ObservedManager Owner)
    (index : Nat) (overlapped : CustomOverlapped) : Prop :=
  observed.postedFor[index]? =
    overlapped.socket.map observed.manager.socketNumber

instance
    (observed : ObservedManager Owner)
    (index : Nat) (overlapped : CustomOverlapped) :
    Decidable (observed.IsCurrent index overlapped) :=
  inferInstanceAs (Decidable (_ = _))

/--
The `CallReceiveReady` of a handler succeeds and is for the socket that was
read, and a receive of a registered connection fails only with one of the
listed codes.
-/
def KeepsListening (observed : ObservedManager Owner) :
    NetworkEvent → Prop
  | .prepareAcceptSocket _ _ _ => True
  | .setupConnectSocket _ _ _ _ => True
  | .sendRequest _ _ _ _ _ => True
  | .completion index status errorCode answer =>
      match observed.manager.outstanding[index]?, status with
      | none, _ => True
      | some overlapped, .failed code =>
          overlapped.operationType = .opRecv →
            observed.manager.completionKey overlapped ∈
                observed.manager.connectedSocketMap →
              observed.IsCurrent index overlapped →
                code ∈ disconnectCodes
      | some overlapped, .succeeded bytes =>
          callsReceiveReady overlapped bytes = true →
            (errorCode = 0 ∧ answer.failed = false) ∧
              (overlapped.operationType = .opRecv →
                observed.IsCurrent index overlapped)

instance (observed : ObservedManager Owner) :
    (event : NetworkEvent) → Decidable (observed.KeepsListening event)
  | .prepareAcceptSocket _ _ _ => inferInstanceAs (Decidable True)
  | .setupConnectSocket _ _ _ _ => inferInstanceAs (Decidable True)
  | .sendRequest _ _ _ _ _ => inferInstanceAs (Decidable True)
  | .completion index status errorCode answer =>
      show
        Decidable
          (match observed.manager.outstanding[index]?, status with
          | none, _ => True
          | some overlapped, .failed code =>
              overlapped.operationType = .opRecv →
                observed.manager.completionKey overlapped ∈
                    observed.manager.connectedSocketMap →
                  observed.IsCurrent index overlapped →
                    code ∈ disconnectCodes
          | some overlapped, .succeeded bytes =>
              callsReceiveReady overlapped bytes = true →
                (errorCode = 0 ∧ answer.failed = false) ∧
                  (overlapped.operationType = .opRecv →
                    observed.IsCurrent index overlapped)) from
      match observed.manager.outstanding[index]?, status with
      | none, _ => inferInstanceAs (Decidable True)
      | some _, .failed _ => inferInstanceAs (Decidable (_ → _ → _ → _))
      | some _, .succeeded _ =>
          inferInstanceAs (Decidable (_ → (_ ∧ _) ∧ (_ → _)))

/-- Receives are counted by the numbers they were posted for. -/
theorem receivesFor_length
    (observed : ObservedManager Owner) (number : Nat) :
    (observed.receivesFor number).length =
      (observed.manager.receiving observed.postedFor).count number := by
  rw [receivesFor, NetworkManager.receiving, ← List.countP_eq_length_filter,
    List.count, List.countP_map]
  rfl

end ObservedManager

namespace NetworkManager

theorem Tracked.listening
    {observed : ObservedManager Owner}
    (tracked : observed.manager.Tracked observed.postedFor [] []) :
    observed.Listening := by
  constructor
  · intro key socket found
    rcases tracked.entry key socket found with ⟨rfl, _, member⟩
    rw [observed.receivesFor_length]
    exact List.count_eq_one_of_mem tracked.heardOnce member
  · intro number connected silence
    have missing : ¬ observed.manager.Registered number := by
      rintro ⟨key, present, rfl⟩
      have member :=
        (tracked.entry key key (tracked.lookup present)).2.2
      have counted :=
        List.count_eq_one_of_mem tracked.heardOnce member
      rw [heard, List.nil_append, ← observed.receivesFor_length, silence]
        at counted
      cases counted
    exact ⟨missing, tracked.gone number connected missing⟩

/-! ## Whole calls -/

section Calls

variable {callbacks : Callbacks Owner}
variable {manager reached : NetworkManager Owner}
variable {postedFor : List Nat}
variable {request : Option OverlappedSetting}

/--
Where the sockets are at the end of a front part: the operation to be posted
is for the socket the call holds.
-/
def Pending (manager : NetworkManager Owner) (postedFor : List Nat) :
    Option OverlappedSetting → Prop
  | none => manager.Tracked postedFor [] []
  | some setting =>
      match setting.operationType with
      | .opAccept | .opConnect =>
          manager.Tracked postedFor [setting.socket] []
      | .opRecv =>
          manager.Tracked postedFor []
              [manager.socketNumber setting.socket] ∧
            manager.newAddress (manager.socketNumber setting.socket) =
              setting.socket
      | .opSend => manager.Tracked postedFor [] []
      | .opDefault => False

theorem Pending.paired
    (pending : manager.Pending postedFor request) :
    postedFor.length = manager.outstanding.length := by
  cases request with
  | none => exact Tracked.paired pending
  | some setting =>
      simp only [Pending] at pending
      split at pending
      · exact pending.paired
      · exact pending.paired
      · exact pending.1.paired
      · exact pending.paired
      · exact pending.elim

/-- The note for an operation which may have been posted. -/
def noted
    (before after : NetworkManager Owner) : List Nat :=
  (after.outstanding.drop before.outstanding.length).map after.numberOf

/-- A posted operation that is no receive. -/
theorem Tracked.posted_silent
    {posted : CustomOverlapped} {socket : SocketPointer}
    (tracked :
      manager.Tracked postedFor
        (if opens posted.operationType then [socket] else []) [])
    (target : posted.socket = some socket)
    (silent : receives posted.operationType = false)
    (popped : LockFreeCircleQueue (RawPointer CustomOverlapped))
    (number : Nat) :
    NetworkManager.Tracked
      { manager with
        overlappedQueue := popped
        outstanding := manager.outstanding ++ [posted] }
      (postedFor ++ [number]) [] [] := by
  have none := receivesOf_other silent number
  apply Tracked.posted
  · rw [none, socketsOf_singleton target]
    exact tracked
  · rw [none]
    exact fun _ member => absurd member List.not_mem_nil

/-- A posted receive reads for its socket from then on. -/
theorem Tracked.posted_receive
    {posted : CustomOverlapped} {socket : SocketPointer}
    (tracked :
      manager.Tracked postedFor [] [manager.socketNumber socket])
    (target : posted.socket = some socket)
    (operation : posted.operationType = .opRecv)
    (address : manager.newAddress (manager.socketNumber socket) = socket)
    (popped : LockFreeCircleQueue (RawPointer CustomOverlapped)) :
    NetworkManager.Tracked
      { manager with
        overlappedQueue := popped
        outstanding := manager.outstanding ++ [posted] }
      (postedFor ++ [manager.socketNumber socket]) [] [] := by
  have one :=
    receivesOf_receive (by rw [operation]; rfl)
      (manager.socketNumber socket)
  apply Tracked.posted
  · rw [one, socketsOf_singleton target, operation]
    exact tracked
  · rw [one]
    intro only member
    rw [List.mem_singleton.mp member, target, address]

theorem Pending.post
    {setting : OverlappedSetting} {answer : PostAnswer} {result : Bool}
    {after : NetworkManager Owner}
    (pending : manager.Pending postedFor (some setting))
    (succeeds :
      setting.operationType = .opRecv → answer.failed = false)
    (done : manager.post setting answer = .ok (result, after)) :
    after.Tracked (postedFor ++ manager.noted after) [] [] := by
  rcases post_cases done with
    ⟨overlapped, popped, posted, taken, prepared, outcome⟩
  rcases setting.set_ok prepared with ⟨_, operation, target⟩
  simp only [Pending] at pending
  rcases outcome with ⟨failed, _, rfl⟩ | ⟨_, _, rfl⟩
  · -- nothing is in flight for the socket, so it must not be registered
    have nothing :
        manager.noted { manager with overlappedQueue := popped } = [] := by
      simp [noted]
    rw [nothing, List.append_nil]
    cases kind : setting.operationType with
    | opDefault => rw [kind] at pending; exact pending.elim
    | opConnect =>
        rw [kind] at pending
        exact pending.drop.elsewhere popped manager.owner
    | opAccept =>
        rw [kind] at pending
        exact pending.drop.elsewhere popped manager.owner
    | opRecv =>
        rw [succeeds kind] at failed
        cases failed
    | opSend =>
        rw [kind] at pending
        exact pending.elsewhere popped manager.owner
  · have number :
        manager.noted
            { manager with
              overlappedQueue := popped
              outstanding := manager.outstanding ++ [posted] } =
          [manager.socketNumber setting.socket] := by
      simp [noted, numberOf, target]
    rw [number]
    cases kind : setting.operationType with
    | opDefault => rw [kind] at pending; exact pending.elim
    | opConnect =>
        rw [kind] at pending operation
        apply Tracked.posted_silent ?_ target (by rw [operation]; rfl)
        rw [operation]
        exact pending
    | opAccept =>
        rw [kind] at pending operation
        apply Tracked.posted_silent ?_ target (by rw [operation]; rfl)
        rw [operation]
        exact pending
    | opSend =>
        rw [kind] at pending operation
        apply Tracked.posted_silent ?_ target (by rw [operation]; rfl)
        rw [operation]
        exact pending
    | opRecv =>
        rw [kind] at pending operation
        exact
          pending.1.posted_receive target operation pending.2 popped

theorem prepareAcceptFront_pending
    {senderType : SenderType} {errorCode : Int}
    (tracked : manager.Tracked postedFor [] [])
    (free :
      manager.preparedSocketQueue.size < 1 →
        FillsFree manager.prepareSocketMax manager)
    (done :
      manager.prepareAcceptFront senderType errorCode =
        .ok (reached, request)) :
    reached.Pending postedFor request ∧
      ∀ setting ∈ request, setting.operationType ≠ .opRecv := by
  unfold prepareAcceptFront at done
  split at done
  · cases done
  · next targetSocket popped taken =>
      have spare := (tracked.refill free).takePrepared taken
      dsimp only at done
      split at done
      · cases done
      · split_ifs at done
        · cases done
          exact ⟨spare.drop, nofun⟩
        · cases done
          refine ⟨spare, ?_⟩
          rintro setting ⟨⟩
          nofun

theorem setupConnectFront_pending
    {senderType : SenderType} {bindFails ioctlFails : Bool}
    (tracked : manager.Tracked postedFor [] [])
    (free : bindFails = false → manager.NextFree)
    (done :
      manager.setupConnectFront senderType bindFails ioctlFails =
        .ok (reached, request)) :
    reached.Pending postedFor request ∧
      ∀ setting ∈ request, setting.operationType ≠ .opRecv := by
  simp only [setupConnectFront] at done
  split_ifs at done with bound
  · cases done
    refine ⟨tracked, ?_⟩
    rintro setting ⟨⟩
  · cases done
    refine
      ⟨(tracked.newSocket (free (Bool.eq_false_of_not_eq_true bound))).drop,
        ?_⟩
    rintro setting ⟨⟩
  · cases done
    refine
      ⟨tracked.newSocket (free (Bool.eq_false_of_not_eq_true bound)), ?_⟩
    rintro setting ⟨⟩ receive
    cases receive

theorem sendFront_pending
    {targetSocket : CompletionKey} {contentType : UInt32}
    {stringBuffer : List UInt8} {bodySize : Int32}
    (tracked : manager.Tracked postedFor [] [])
    (done :
      manager.sendFront targetSocket contentType stringBuffer bodySize =
        .ok (reached, request)) :
    reached.Pending postedFor request ∧
      ∀ setting ∈ request, setting.operationType ≠ .opRecv := by
  unfold sendFront at done
  split at done
  · cases done
    exact ⟨tracked, nofun⟩
  · cases done
    refine ⟨tracked, ?_⟩
    rintro setting ⟨⟩
    nofun

/-- The callback, and the front part of a `CallReceiveReady`. -/
theorem callback_receiveReady_pending
    {completionKey : CompletionKey} {overlapped : CustomOverlapped}
    {targetSocket : SocketPointer}
    (tracked :
      manager.Tracked postedFor [] [manager.socketNumber targetSocket])
    (address :
      manager.newAddress (manager.socketNumber targetSocket) = targetSocket)
    (done :
      (match
        manager.callIocpCallback callbacks completionKey overlapped
      with
      | .error fault => .error fault
      | .ok called => called.receiveReadyFront targetSocket 0) =
        Except.ok (reached, request)) :
    reached.Pending postedFor request := by
  split at done
  · cases done
  · next called returned =>
      unfold callIocpCallback at returned
      split at returned
      · cases returned
      · next owner _ =>
          cases returned
          unfold receiveReadyFront at done
          split at done
          · cases done
          · rw [if_neg (not_not.mpr rfl)] at done
            cases done
            exact
              ⟨tracked.elsewhere manager.overlappedQueue owner, address⟩

theorem onlyFront_pending
    {called : Except Fault (NetworkManager Owner)}
    (tracked :
      ∀ after, called = .ok after → after.Tracked postedFor [] [])
    (done : onlyFront called = .ok (reached, request)) :
    reached.Pending postedFor request ∧ request = none := by
  rcases Fallible.map_eq_ok.mp done with ⟨after, returned, equal⟩
  cases equal
  exact ⟨tracked reached returned, rfl⟩

/-- What a handler held is given up once its connection is gone. -/
theorem Tracked.settle
    {spare : List SocketPointer} {overlapped : CustomOverlapped}
    {number : Nat}
    (tracked :
      manager.Tracked postedFor spare
        ((receivesOf overlapped number).map Prod.snd))
    (closed :
      overlapped.operationType = .opRecv → ¬ manager.Registered number) :
    manager.Tracked postedFor [] [] := by
  have dropped := tracked.drop
  cases kind : receives overlapped.operationType with
  | false =>
      rw [receivesOf_other kind] at dropped
      exact dropped
  | true =>
      rw [receivesOf_receive kind] at dropped
      refine dropped.silence (closed ?_)
      cases operation : overlapped.operationType <;>
        rw [operation] at kind <;> first | rfl | cases kind

/-- A disconnect by the key of the completed operation settles it. -/
theorem Tracked.disconnectCompleted
    {overlapped : CustomOverlapped} {spare : List SocketPointer}
    {number : Nat} {after : NetworkManager Owner}
    (tracked :
      manager.Tracked postedFor spare
        ((receivesOf overlapped number).map Prod.snd))
    (addressed :
      overlapped.operationType = .opRecv →
        overlapped.socket = some (manager.newAddress number))
    (done :
      manager.handleDisconnectComplete callbacks
          (manager.completionKey overlapped) =
        .ok after) :
    after.Tracked postedFor [] [] := by
  rcases tracked.disconnect done with ⟨disconnected, missing, address⟩
  apply disconnected.settle
  rintro kind ⟨key, present, rfl⟩
  have held := disconnected.registeredHeld key present
  apply missing
  rw [completionKey, kind, addressed kind, ← address, held.address]
  exact present

theorem connectionFront_pending
    {overlapped : CustomOverlapped} {number : Nat}
    (tracked :
      manager.Tracked postedFor (socketsOf opens [overlapped])
        ((receivesOf overlapped number).map Prod.snd))
    (opening : opens overlapped.operationType = true)
    (done :
      manager.connectionFront callbacks overlapped 0 =
        .ok (reached, request)) :
    reached.Pending postedFor request := by
  unfold connectionFront at done
  split at done
  · cases done
  · next targetSocket target =>
      have other : receives overlapped.operationType = false := by
        cases kind : overlapped.operationType <;> rw [kind] at opening <;>
          first | rfl | cases opening
      rw [socketsOf_singleton target, opening, receivesOf_other other]
        at tracked
      have registered := tracked.register
      refine callback_receiveReady_pending registered ?_ done
      exact
        (tracked.waitingHeld targetSocket List.mem_cons_self).address

theorem receiveFront_pending
    {overlapped : CustomOverlapped} {number bytes : Nat} {errorCode : Int}
    (tracked :
      manager.Tracked postedFor (socketsOf opens [overlapped])
        ((receivesOf overlapped number).map Prod.snd))
    (addressed :
      overlapped.operationType = .opRecv →
        overlapped.socket = some (manager.newAddress number))
    (kind : overlapped.operationType = .opRecv)
    (noError :
      0 < bytes →
        errorCode = 0 ∧
          some number = overlapped.socket.map manager.socketNumber)
    (done :
      manager.receiveFront callbacks (manager.completionKey overlapped)
          overlapped bytes errorCode =
        .ok (reached, request)) :
    reached.Pending postedFor request ∧ (bytes ≤ 0 → request = none) := by
  unfold receiveFront at done
  split_ifs at done with empty
  · rcases
      onlyFront_pending
        (fun _ returned => tracked.disconnectCompleted addressed returned)
        done with
      ⟨pending, nothing⟩
    exact ⟨pending, fun _ => nothing⟩
  · refine ⟨?_, fun none => (empty none).elim⟩
    rcases noError (Nat.lt_of_not_le empty) with ⟨rfl, current⟩
    split at done
    · cases done
    · next targetSocket target =>
        have address := addressed kind
        rw [target] at address current
        cases current
        have unheard := tracked.drop
        rw [receivesOf_receive (by rw [kind]; rfl)] at unheard
        exact
          callback_receiveReady_pending unheard
            (Option.some.inj address).symm done

theorem Tracked.sendCompleted
    {completionKey : CompletionKey} {overlapped : CustomOverlapped}
    {after : NetworkManager Owner}
    (tracked : manager.Tracked postedFor [] [])
    (done :
      manager.handleSendComplete callbacks completionKey overlapped =
        .ok after) :
    after.Tracked postedFor [] [] := by
  unfold handleSendComplete callIocpCallback at done
  split at done
  · cases done
  · next owner _ =>
      cases done
      exact tracked.elsewhere manager.overlappedQueue owner

/-- The handlers of a successful completion. -/
theorem handlerFront_pending
    {overlapped : CustomOverlapped} {number : Nat} {bytes : List UInt8}
    {errorCode : Int} {answer : PostAnswer}
    (tracked :
      manager.Tracked postedFor (socketsOf opens [overlapped])
        ((receivesOf overlapped number).map Prod.snd))
    (addressed :
      overlapped.operationType = .opRecv →
        overlapped.socket = some (manager.newAddress number))
    (succeeds :
      ObservedManager.callsReceiveReady overlapped bytes = true →
        (errorCode = 0 ∧ answer.failed = false) ∧
          (overlapped.operationType = .opRecv →
            some number = overlapped.socket.map manager.socketNumber))
    (done :
      manager.handlerFront callbacks (manager.completionKey overlapped)
          overlapped bytes.length errorCode =
        .ok (reached, request)) :
    reached.Pending postedFor request ∧
      ∀ setting ∈ request,
        setting.operationType = .opRecv → answer.failed = false := by
  have idle
      (other : overlapped.operationType ≠ .opRecv) :
      manager.Tracked postedFor [] [] :=
    tracked.settle fun kind => (other kind).elim
  unfold handlerFront at done
  split at done
  · next kind =>
      have answers :=
        (succeeds (by rw [ObservedManager.callsReceiveReady, kind])).1
      rw [answers.1] at done
      exact
        ⟨connectionFront_pending tracked (by rw [kind]; rfl) done,
          fun _ _ _ => answers.2⟩
  · next kind =>
      have answers :=
        (succeeds (by rw [ObservedManager.callsReceiveReady, kind])).1
      rw [answers.1] at done
      exact
        ⟨connectionFront_pending tracked (by rw [kind]; rfl) done,
          fun _ _ _ => answers.2⟩
  · next kind =>
      have carries (data : 0 < bytes.length) :
          (errorCode = 0 ∧ answer.failed = false) ∧
            some number = overlapped.socket.map manager.socketNumber := by
        have answers := succeeds (by
          rw [ObservedManager.callsReceiveReady, kind]
          cases bytes with
          | nil => cases data
          | cons _ _ => rfl)
        exact ⟨answers.1, answers.2 kind⟩
      rcases
        receiveFront_pending tracked addressed kind
          (fun data => ⟨(carries data).1.1, (carries data).2⟩) done with
        ⟨pending, empty⟩
      refine ⟨pending, ?_⟩
      intro setting requested _
      rcases Nat.eq_zero_or_pos bytes.length with zero | data
      · rw [empty (Nat.le_of_eq zero)] at requested
        cases requested
      · exact (carries data).1.2
  · next kind =>
      have tracked := idle (by rw [kind]; nofun)
      rcases
        onlyFront_pending (fun _ returned => tracked.sendCompleted returned)
          done with
        ⟨pending, rfl⟩
      exact ⟨pending, nofun⟩
  · next kind =>
      cases done
      exact ⟨idle (by rw [kind]; nofun), nofun⟩

/-- Received bytes do not change whose operation it was. -/
theorem completionKey_received
    (manager : NetworkManager Owner)
    (overlapped : CustomOverlapped) (bytes : List UInt8) :
    manager.completionKey (received overlapped bytes) =
      manager.completionKey overlapped := by
  rw [completionKey, completionKey, received_operationType,
    received_socket]

theorem socketsOf_received
    (kind : OperationType → Bool)
    (overlapped : CustomOverlapped) (bytes : List UInt8) :
    socketsOf kind [received overlapped bytes] =
      socketsOf kind [overlapped] := by
  simp [socketsOf, List.filterMap_cons]

theorem receivesOf_received
    (overlapped : CustomOverlapped) (bytes : List UInt8) (number : Nat) :
    (receivesOf (received overlapped bytes) number).map Prod.snd =
      (receivesOf overlapped number).map Prod.snd := by
  cases kind : receives overlapped.operationType with
  | false =>
      rw [receivesOf_other kind,
        receivesOf_other (by rw [received_operationType, kind])]
  | true =>
      rw [receivesOf_receive kind,
        receivesOf_receive (by rw [received_operationType, kind])]
      rfl

theorem callsReceiveReady_received
    (overlapped : CustomOverlapped) (bytes : List UInt8) :
    ObservedManager.callsReceiveReady (received overlapped bytes) bytes =
      ObservedManager.callsReceiveReady overlapped bytes := by
  rw [ObservedManager.callsReceiveReady, ObservedManager.callsReceiveReady,
    received_operationType]

/-- A failed completion whose connection is gone or gets disconnected. -/
theorem failedFront_pending
    {overlapped : CustomOverlapped} {number : Nat} {code errorCode : Int}
    (tracked :
      manager.Tracked postedFor (socketsOf opens [overlapped])
        ((receivesOf overlapped number).map Prod.snd))
    (addressed :
      overlapped.operationType = .opRecv →
        overlapped.socket = some (manager.newAddress number))
    (keeps :
      overlapped.operationType = .opRecv →
        manager.completionKey overlapped ∈ manager.connectedSocketMap →
          some number = overlapped.socket.map manager.socketNumber →
            code ∈ disconnectCodes)
    (done :
      manager.completionFront callbacks overlapped (.failed code)
          errorCode =
        .ok (reached, request)) :
    reached.Pending postedFor request ∧ request = none := by
  simp only [completionFront] at done
  split_ifs at done with listed
  · exact
      onlyFront_pending
        (fun _ returned => tracked.disconnectCompleted addressed returned)
        done
  · cases done
    refine ⟨tracked.settle ?_, rfl⟩
    rintro kind ⟨key, present, rfl⟩
    -- a registered object was made last at its address
    have held := tracked.registeredHeld key present
    have target := addressed kind
    rw [held.address] at target
    apply listed
    apply keeps kind
    · rw [completionKey, kind, target]
      exact present
    · rw [target]
      rfl

theorem succeededFront_pending
    {overlapped : CustomOverlapped} {number : Nat} {bytes : List UInt8}
    {errorCode : Int} {answer : PostAnswer}
    (tracked :
      manager.Tracked postedFor (socketsOf opens [overlapped])
        ((receivesOf overlapped number).map Prod.snd))
    (addressed :
      overlapped.operationType = .opRecv →
        overlapped.socket = some (manager.newAddress number))
    (succeeds :
      ObservedManager.callsReceiveReady overlapped bytes = true →
        (errorCode = 0 ∧ answer.failed = false) ∧
          (overlapped.operationType = .opRecv →
            some number = overlapped.socket.map manager.socketNumber))
    (done :
      manager.completionFront callbacks overlapped (.succeeded bytes)
          errorCode =
        .ok (reached, request)) :
    reached.Pending postedFor request ∧
      ∀ setting ∈ request,
        setting.operationType = .opRecv → answer.failed = false := by
  simp only [completionFront] at done
  rw [← completionKey_received manager overlapped bytes] at done
  rw [← socketsOf_received opens overlapped bytes,
    ← receivesOf_received overlapped bytes number] at tracked
  rw [← callsReceiveReady_received] at succeeds
  rw [← received_operationType overlapped bytes,
    ← received_socket overlapped bytes] at addressed succeeds
  exact handlerFront_pending tracked addressed succeeds done

end Calls

end NetworkManager

namespace ObservedManager

section Calls

variable {callbacks : Callbacks Owner}
variable {observed : ObservedManager Owner}
variable {reached : NetworkManager Owner}
variable {request : Option OverlappedSetting}

/-- The front part of a call which keeps every connection heard. -/
theorem front_pending
    {event : NetworkEvent}
    (tracked : observed.manager.Tracked observed.postedFor [] [])
    (free : observed.manager.AllocatesFree event)
    (keeps : observed.KeepsListening event)
    (done :
      observed.manager.front callbacks event = .ok (reached, request)) :
    reached.Pending (observed.remaining event) request ∧
      ∀ setting ∈ request,
        setting.operationType = .opRecv →
          event.answer.failed = false := by
  have other
      (pending :
        reached.Pending (observed.remaining event) request ∧
          ∀ setting ∈ request, setting.operationType ≠ .opRecv) :
      reached.Pending (observed.remaining event) request ∧
        ∀ setting ∈ request,
          setting.operationType = .opRecv →
            event.answer.failed = false :=
    ⟨pending.1, fun setting requested receive =>
      (pending.2 setting requested receive).elim⟩
  cases event with
  | prepareAcceptSocket senderType errorCode answer =>
      exact
        other (NetworkManager.prepareAcceptFront_pending tracked free done)
  | setupConnectSocket senderType bindFails ioctlFails answer =>
      exact
        other (NetworkManager.setupConnectFront_pending tracked free done)
  | sendRequest targetSocket contentType stringBuffer bodySize answer =>
      exact other (NetworkManager.sendFront_pending tracked done)
  | completion index status errorCode answer =>
      rw [NetworkManager.front] at done
      cases found : observed.manager.outstanding[index]? with
      | none =>
          rw [found] at done
          cases done
          have kept :
              observed.remaining (.completion index status errorCode answer) =
                observed.postedFor := by
            apply List.eraseIdx_of_length_le
            rw [tracked.paired]
            exact List.getElem?_eq_none_iff.mp found
          rw [kept]
          refine ⟨tracked, ?_⟩
          rintro setting ⟨⟩
      | some overlapped =>
          rw [found] at done
          have bound : index < observed.postedFor.length := by
            rw [tracked.paired]
            exact (List.getElem?_eq_some_iff.mp found).1
          have posted :
              observed.postedFor[index]? = some observed.postedFor[index] :=
            List.getElem?_eq_getElem bound
          rcases tracked.dequeue found posted with ⟨dequeued, addressed⟩
          have target (kind : overlapped.operationType = .opRecv) :
              overlapped.socket =
                some
                  (observed.manager.newAddress observed.postedFor[index]) :=
            addressed (overlapped, observed.postedFor[index]) (by
              rw [NetworkManager.receivesOf_receive (by rw [kind]; rfl)]
              exact List.mem_singleton_self _)
          cases status with
          | failed code =>
              simp only [KeepsListening, found, IsCurrent, posted] at keeps
              rcases
                NetworkManager.failedFront_pending dequeued target keeps
                  done with
                ⟨pending, rfl⟩
              refine ⟨pending, ?_⟩
              rintro setting ⟨⟩
          | succeeded bytes =>
              simp only [KeepsListening, found, IsCurrent, posted] at keeps
              exact
                NetworkManager.succeededFront_pending dequeued target keeps
                  done

/-- A step which keeps every connection heard keeps track of it. -/
theorem step_tracked
    {event : NetworkEvent} {after : ObservedManager Owner}
    (tracked : observed.manager.Tracked observed.postedFor [] [])
    (keeps : observed.KeepsListening event)
    (taken : (system callbacks).step observed event = some after) :
    after.manager.Tracked after.postedFor [] [] := by
  rcases step_eq_some taken with ⟨free, manager, called, rfl⟩
  rw [NetworkManager.call_eq_phases] at called
  rcases Fallible.map_eq_ok.mp called with ⟨posted, resumed, rfl⟩
  have recycled :
      (observed.observe event
        (NetworkManager.tail (observed.manager.returned event)
          posted)).postedFor =
        (observed.observe event posted).postedFor := by
    cases observed.manager.returned event <;> rfl
  have settled :
      posted.Tracked (observed.observe event posted).postedFor [] [] := by
    cases fronted : observed.manager.front callbacks event with
    | error fault =>
        rw [fronted] at resumed
        cases resumed
    | ok outcome =>
        rcases outcome with ⟨reached, request⟩
        rcases front_pending tracked free keeps fronted with
          ⟨pending, succeeds⟩
        have paired :
            (observed.remaining event).length =
              reached.outstanding.length :=
          pending.paired
        rw [fronted] at resumed
        rw [observe, paired]
        cases request with
        | none =>
            cases resumed
            rw [List.drop_length, List.map_nil, List.append_nil]
            exact pending
        | some setting =>
            rcases Fallible.map_eq_ok.mp resumed with
              ⟨⟨result, after⟩, posts, rfl⟩
            exact pending.post (succeeds setting rfl) posts
  rw [recycled]
  cases observed.manager.returned event with
  | none => exact settled
  | some overlapped => exact settled.elsewhere _ posted.owner

end Calls

theorem setup_tracked
    {newAddress : Nat → SocketPointer}
    {senderType : SenderType}
    {overlappedQueueMax prepareSocketMax : Nat}
    {memory : Nat → BufferMemory}
    {owner : Owner}
    (free :
      NetworkManager.FillsFree prepareSocketMax
        (.listeningAt newAddress senderType overlappedQueueMax
          prepareSocketMax memory owner)) :
    (NetworkManager.setupAt newAddress senderType overlappedQueueMax
      prepareSocketMax memory owner).Tracked [] [] [] := by
  apply NetworkManager.Tracked.fill ?_ free
  exact
    { paired := rfl
      distinct := List.nodup_nil
      unregistered := nofun
      waitingHeld := nofun
      registeredHeld := fun key present =>
        (Finmap.notMem_empty present).elim
      addressed := nofun
      heardOnce := List.nodup_nil
      heardConnected := nofun
      numbered := nofun
      entry := fun key socket present => by
        rw [NetworkManager.listeningAt, Finmap.lookup_empty] at present
        cases present
      gone := nofun }

/-! ## Every connection is listened to -/

/--
In every run whose handlers succeed in `CallReceiveReady`, whose receives fail
only with listed codes, and in which no data arrives for a deleted socket whose
address is in use again, every registered connection has exactly one receive
outstanding between two calls.
-/
theorem listening_of_reaches
    {callbacks : Callbacks Owner}
    {newAddress : Nat → SocketPointer}
    {senderType : SenderType}
    {overlappedQueueMax prepareSocketMax : Nat}
    {memory : Nat → BufferMemory}
    {owner : Owner}
    {observed : ObservedManager Owner}
    (free :
      NetworkManager.FillsFree prepareSocketMax
        (.listeningAt newAddress senderType overlappedQueueMax
          prepareSocketMax memory owner))
    (reached :
      (system callbacks).Reaches KeepsListening
        (setup newAddress senderType overlappedQueueMax prepareSocketMax
          memory owner)
        observed) :
    observed.Listening := by
  have tracked :
      observed.manager.Tracked observed.postedFor [] [] :=
    reached.invariant (setup_tracked free)
      fun _ _ _ tracked keeps taken => step_tracked tracked keeps taken
  exact tracked.listening

/-- The only prepared socket is always at one address. -/
def oneAddress (_ : Nat) : SocketPointer :=
  2

/--
A connection is disconnected by a failed send, a second one gets its address
and is read, and then the receive of the first one is cancelled.
-/
def reusedAddress : List NetworkEvent :=
  [.prepareAcceptSocket .default 0 .success,
    .completion 0 (.succeeded []) 0 .success,
    .sendRequest 2 3 [7] 1 .success,
    .completion 1 (.failed 10054) 0 .success,
    .prepareAcceptSocket .default 0 .success,
    .completion 1 (.succeeded []) 0 .success,
    .completion 1 (.succeeded [1, 2, 3]) 0 .success,
    .completion 0 (.failed 995) 0 .success]

/-- A run in which two connections have had one address. -/
theorem listening_reused_address :
    (((system .idle).runAllowed KeepsListening
        (setup oneAddress .controlServer 4 1 (fun _ => default) ())
        reusedAddress).get (by decide)).Listening :=
  listening_of_reaches (by decide) (TransitionSystem.reaches_get (by decide))

/-- The accept completes, and the `WSARecv` posted for it fails. -/
def failedReceive : List NetworkEvent :=
  [.prepareAcceptSocket .default 0 .success,
    .completion 0 (.succeeded []) 0 .notSocket]

/-- A connection whose first `WSARecv` fails stays registered unheard. -/
theorem listening_lost :
    ¬ ∀ (overlappedQueueMax prepareSocketMax : Nat)
        (observed : ObservedManager Unit),
      (system .idle).Reachable
          (setup id .controlServer overlappedQueueMax prepareSocketMax
            (fun _ => default) ())
          observed →
        observed.Listening := by
  intro listening
  have complete :
      ((system .idle).run
        (setup id .controlServer 2 1 (fun _ => default) ())
        failedReceive).isSome := by
    decide
  have reached :=
    TransitionSystem.reachable_of_run (Option.some_get complete).symm
  have silent :
      (((system .idle).run
        (setup id .controlServer 2 1 (fun _ => default) ())
        failedReceive).get
          (by decide)).manager.connectedSocketMap.lookup 2 = some 2 ∧
      ((((system .idle).run
        (setup id .controlServer 2 1 (fun _ => default) ())
        failedReceive).get (by decide)).receivesFor
          ((((system .idle).run
            (setup id .controlServer 2 1 (fun _ => default) ())
            failedReceive).get
              (by decide)).manager.socketNumber 2)).length = 0 := by
    decide
  have heard := (listening 2 1 _ reached).registered 2 2 silent.1
  rw [silent.2] at heard
  cases heard

end ObservedManager

end IocpServer.Network
