import IocpServer.Library.ListCuts
import IocpServer.Network.NetworkManager
import Mathlib.Data.List.Perm.Basic
import Mathlib.Data.List.Nodup

/-!
# The lifetime of a `SOCKET*`

The network thread closes, invalidates and deletes a socket in
`ProcessDisconnect` and erases its entry afterwards, while job threads look
the entry up, prepare an overlapped object and call `WSASend` through the
pointer they found.  Each of these is one step here.  The pool always has an
object to give, and several job threads may be in `SendRequest` at once.

A step that uses a deleted pointer has no next state; the question is
whether such a step can ever be the next one.
-/

namespace IocpServer.Network.SocketLifetime

open IocpServer.Library

/-- Where the network thread is, with the pointers it holds. -/
inductive NetworkPoint where
  /-- In `GetQueuedCompletionStatus`. -/
  | waiting
  /-- Before the insert into `_connectedSocketMap`. -/
  | registering (socket : SocketPointer)
  /-- In `CallReceiveReady`, before `getsockopt`. -/
  | readying (socket : SocketPointer)
  /-- In `CallReceiveReady`, before `WSARecv`. -/
  | posting (socket : SocketPointer)
  /-- In `HandleDisconnectComplete`, before the lookup. -/
  | finding (key : CompletionKey)
  /-- In `ProcessDisconnect`, before the comparison with `INVALID_SOCKET`. -/
  | checking (key : CompletionKey) (socket : SocketPointer)
  /-- Before `shutdown`. -/
  | shuttingDown (key : CompletionKey) (socket : SocketPointer)
  /-- Before `closesocket`. -/
  | closing (key : CompletionKey) (socket : SocketPointer)
  /-- Before the store of `INVALID_SOCKET`. -/
  | invalidating (key : CompletionKey) (socket : SocketPointer)
  /-- Before the `delete`. -/
  | deleting (key : CompletionKey) (socket : SocketPointer)
  /-- Before `unsafe_erase`. -/
  | erasing (key : CompletionKey)
  /-- Before the finished object is pushed back. -/
  | finishing
deriving DecidableEq

/-- Where a job thread is in `SendRequest`, with the pointer it holds. -/
inductive JobPoint where
  | idle
  /-- Behind the lookup. -/
  | found (socket : SocketPointer)
  /-- Behind `SendSetting`, before `WSASend`. -/
  | prepared (socket : SocketPointer)
deriving DecidableEq

/-- The pointer of the entry a job thread has found. -/
def JobPoint.holds : JobPoint → Option SocketPointer
  | .idle => none
  | .found socket => some socket
  | .prepared socket => some socket

/-- The sockets, the map, the operations in flight and the threads. -/
structure LifetimeState (jobThreadCount : Nat) where
  listenSocket : SocketPointer
  socketStatus : SocketPointer → SocketStatus
  connectedSocketMap : Finmap fun _ : CompletionKey => SocketPointer
  outstanding : List (OperationType × SocketPointer)
  network : NetworkPoint
  jobs : Fin jobThreadCount → JobPoint

/--
A dequeued completion, or a step of one thread; `succeeds` is the answer of
the system call in that step, if there is one.
-/
inductive LifetimeEvent (jobThreadCount : Nat) where
  | complete (index : Nat) (status : CompletionStatus)
  | network (succeeds : Bool)
  | job
      (thread : Fin jobThreadCount) (targetSocket : CompletionKey)
      (succeeds : Bool)

variable {jobThreadCount : Nat}

/-- An `AcceptEx` completes on the listening socket. -/
def completionKey
    (listenSocket : SocketPointer)
    (operation : OperationType) (socket : SocketPointer) :
    CompletionKey :=
  match operation with
  | .opAccept => listenSocket
  | _ => socket

/-- The first point of the handler of a completion. -/
def handlerPoint
    (listenSocket : SocketPointer)
    (operation : OperationType) (socket : SocketPointer) :
    CompletionStatus → NetworkPoint
  | .failed code =>
      if code ∈ disconnectCodes then
        .finding (completionKey listenSocket operation socket)
      else
        .finishing
  | .succeeded bytes =>
      match operation with
      | .opConnect | .opAccept => .registering socket
      | .opRecv =>
          if bytes.length ≤ 0 then .finding socket else .readying socket
      | .opSend | .opDefault => .finishing

/-- `GetQueuedCompletionStatus` returns with one of the operations. -/
def completeStep
    (state : LifetimeState jobThreadCount)
    (index : Nat) (status : CompletionStatus) :
    Option (LifetimeState jobThreadCount) :=
  match state.network, state.outstanding[index]? with
  | .waiting, some (operation, socket) =>
      some
        { state with
          outstanding := state.outstanding.eraseIdx index
          network :=
            handlerPoint state.listenSocket operation socket status }
  | _, _ => none

/-- The next step of the network thread outside its wait. -/
def networkStep
    (state : LifetimeState jobThreadCount) (succeeds : Bool) :
    Option (LifetimeState jobThreadCount) :=
  match state.network with
  | .waiting => none
  | .registering socket =>
      some
        { state with
          connectedSocketMap :=
            if socket ∈ state.connectedSocketMap then
              state.connectedSocketMap
            else
              state.connectedSocketMap.insert socket socket
          network := .readying socket }
  | .readying socket =>
      some
        { state with
          network := if succeeds then .posting socket else .finishing }
  | .posting socket =>
      some
        { state with
          outstanding :=
            if succeeds then
              state.outstanding ++ [(.opRecv, socket)]
            else
              state.outstanding
          network := .finishing }
  | .finding key =>
      match state.connectedSocketMap.lookup key with
      | none => some { state with network := .finishing }
      | some socket => some { state with network := .checking key socket }
  | .checking key socket =>
      if state.socketStatus socket = .invalidated then
        some { state with network := .finishing }
      else
        some { state with network := .shuttingDown key socket }
  | .shuttingDown key socket =>
      some { state with network := .closing key socket }
  | .closing key socket =>
      some
        { state with
          socketStatus :=
            Function.update state.socketStatus socket .closed
          network := .invalidating key socket }
  | .invalidating key socket =>
      some
        { state with
          socketStatus :=
            Function.update state.socketStatus socket .invalidated
          network := .deleting key socket }
  | .deleting key socket =>
      some
        { state with
          socketStatus :=
            Function.update state.socketStatus socket .deleted
          network := .erasing key }
  | .erasing key =>
      some
        { state with
          connectedSocketMap := state.connectedSocketMap.erase key
          network := .finishing }
  | .finishing => some { state with network := .waiting }

/-- The next step of a job thread in `SendRequest`. -/
def jobStep
    (state : LifetimeState jobThreadCount)
    (thread : Fin jobThreadCount)
    (targetSocket : CompletionKey)
    (succeeds : Bool) :
    LifetimeState jobThreadCount :=
  match state.jobs thread with
  | .idle =>
      match state.connectedSocketMap.lookup targetSocket with
      | none => state
      | some socket =>
          { state with
            jobs := Function.update state.jobs thread (.found socket) }
  | .found socket =>
      { state with
        jobs := Function.update state.jobs thread (.prepared socket) }
  | .prepared socket =>
      { state with
        outstanding :=
          if succeeds then
            state.outstanding ++ [(.opSend, socket)]
          else
            state.outstanding
        jobs := Function.update state.jobs thread .idle }

/--
The pointer the network thread's next step dereferences, passes to the
system or deletes.
-/
def NetworkPoint.uses : NetworkPoint → Option SocketPointer
  | .readying socket | .posting socket => some socket
  | .checking _ socket | .shuttingDown _ socket => some socket
  | .closing _ socket | .invalidating _ socket => some socket
  | .deleting _ socket => some socket
  | .waiting | .registering _ | .finding _ | .erasing _ => none
  | .finishing => none

/-- The pointer the job thread's next step passes to `WSASend`. -/
def JobPoint.uses : JobPoint → Option SocketPointer
  | .prepared socket => some socket
  | .idle | .found _ => none

/-- The pointer an event uses. -/
def uses
    (state : LifetimeState jobThreadCount) :
    LifetimeEvent jobThreadCount → Option SocketPointer
  | .complete _ _ => none
  | .network _ => state.network.uses
  | .job thread _ _ => (state.jobs thread).uses

/-- The network thread and the job threads over the shared map. -/
def lifetime :
    TransitionSystem (LifetimeState jobThreadCount)
      (LifetimeEvent jobThreadCount) where
  step state event :=
    if (uses state event).map state.socketStatus = some .deleted then
      none
    else
      match event with
      | .complete index status => completeStep state index status
      | .network succeeds => networkStep state succeeds
      | .job thread targetSocket succeeds =>
          some (jobStep state thread targetSocket succeeds)

/-- The accepts and connects pending when the threads start. -/
structure PendingConnections where
  listenSocket : SocketPointer
  operations : List (OperationType × SocketPointer)
  opening :
    ∀ operation ∈ operations,
      operation.1 = .opAccept ∨ operation.1 = .opConnect
  distinct : (operations.map Prod.snd).Nodup
  notListening : listenSocket ∉ operations.map Prod.snd

/-- The state in which the threads start. -/
def started (pending : PendingConnections) :
    LifetimeState jobThreadCount where
  listenSocket := pending.listenSocket
  socketStatus := fun _ => .opened
  connectedSocketMap := ∅
  outstanding := pending.operations
  network := .waiting
  jobs := fun _ => .idle

/-- No step that is about to be taken uses a deleted pointer. -/
def NoUseAfterDelete (state : LifetimeState jobThreadCount) : Prop :=
  ∀ event socket,
    uses state event = some socket →
      state.socketStatus socket ≠ .deleted

/--
A socket is deleted only while no job thread holds it, no job thread finds
the entry of a deleted socket, and no data is received on one.
-/
def Careful
    (state : LifetimeState jobThreadCount) :
    LifetimeEvent jobThreadCount → Prop
  | .complete index (.succeeded bytes) =>
      match state.outstanding[index]? with
      | some (.opRecv, socket) =>
          0 < bytes.length → state.socketStatus socket ≠ .deleted
      | _ => True
  | .complete _ (.failed _) => True
  | .network _ =>
      match state.network with
      | .deleting _ socket =>
          ∀ thread, (state.jobs thread).holds ≠ some socket
      | _ => True
  | .job thread targetSocket _ =>
      match
        state.jobs thread, state.connectedSocketMap.lookup targetSocket
      with
      | .idle, some socket => state.socketStatus socket ≠ .deleted
      | _, _ => True

instance
    (state : LifetimeState jobThreadCount)
    (event : LifetimeEvent jobThreadCount) :
    Decidable (Careful state event) := by
  unfold Careful
  split
  · split <;> infer_instance
  · infer_instance
  · split <;> infer_instance
  · split <;> infer_instance

/-! ## The invariant of careful runs -/

/-- The sockets of accepts and connects. -/
def openings (operations : List (OperationType × SocketPointer)) :
    List SocketPointer :=
  operations.filterMap fun
    | (.opAccept, socket) | (.opConnect, socket) => some socket
    | (.opDefault, _) | (.opRecv, _) | (.opSend, _) => none

/-- The socket about to be registered. -/
def NetworkPoint.registers : NetworkPoint → List SocketPointer
  | .registering socket => [socket]
  | _ => []

/-- The entry whose socket has been closed already. -/
def NetworkPoint.destroys : NetworkPoint → Option CompletionKey
  | .invalidating key _ | .deleting key _ | .erasing key => some key
  | _ => none

/-- What holds of the pointers at each point of the network thread. -/
def HandlerSound (state : LifetimeState jobThreadCount) : Prop :=
  match state.network with
  | .waiting | .registering _ | .finding _ | .finishing => True
  | .readying socket | .posting socket =>
      state.socketStatus socket ≠ .deleted
  | .checking key socket | .shuttingDown key socket
  | .closing key socket =>
      state.connectedSocketMap.lookup key = some socket ∧
        state.socketStatus socket = .opened
  | .invalidating key socket =>
      state.connectedSocketMap.lookup key = some socket ∧
        state.socketStatus socket = .closed
  | .deleting key socket =>
      state.connectedSocketMap.lookup key = some socket ∧
        state.socketStatus socket = .invalidated
  | .erasing key => state.socketStatus key = .deleted

/--
A socket that waits for its accept or connect is fresh, an entry is open
unless the network thread is destroying it, and no pointer a thread holds is
deleted.
-/
structure Sound (state : LifetimeState jobThreadCount) : Prop where
  distinct :
    (openings state.outstanding ++ state.network.registers).Nodup
  fresh :
    ∀ socket ∈ openings state.outstanding ++ state.network.registers,
      state.connectedSocketMap.lookup socket = none ∧
        state.socketStatus socket = .opened
  entry :
    ∀ key socket,
      state.connectedSocketMap.lookup key = some socket →
        socket = key ∧
          (state.socketStatus key = .opened ∨
            state.network.destroys = some key)
  handler : HandlerSound state
  jobs :
    ∀ thread socket,
      (state.jobs thread).holds = some socket →
        state.socketStatus socket ≠ .deleted

theorem Sound.noUse
    {state : LifetimeState jobThreadCount} (sound : Sound state) :
    NoUseAfterDelete state := by
  intro event socket used
  have handler := sound.handler
  cases event with
  | complete index status => cases used
  | job thread targetSocket succeeds =>
      apply sound.jobs thread
      change (state.jobs thread).uses = some socket at used
      cases point : state.jobs thread with
      | idle => rw [point] at used; cases used
      | found held => rw [point] at used; cases used
      | prepared held => rw [point] at used; exact used
  | network succeeds =>
      change state.network.uses = some socket at used
      unfold HandlerSound at handler
      cases point : state.network with
      | waiting => rw [point] at used; cases used
      | registering other => rw [point] at used; cases used
      | finding key => rw [point] at used; cases used
      | erasing key => rw [point] at used; cases used
      | finishing => rw [point] at used; cases used
      | readying other =>
          rw [point] at used handler
          cases used
          exact handler
      | posting other =>
          rw [point] at used handler
          cases used
          exact handler
      | checking key other =>
          rw [point] at used handler
          cases used
          rw [handler.2]
          nofun
      | shuttingDown key other =>
          rw [point] at used handler
          cases used
          rw [handler.2]
          nofun
      | closing key other =>
          rw [point] at used handler
          cases used
          rw [handler.2]
          nofun
      | invalidating key other =>
          rw [point] at used handler
          cases used
          rw [handler.2]
          nofun
      | deleting key other =>
          rw [point] at used handler
          cases used
          rw [handler.2]
          nofun

section Steps

variable {state after : LifetimeState jobThreadCount}

theorem started_sound (pending : PendingConnections) :
    Sound (started pending : LifetimeState jobThreadCount) where
  distinct := by
    have sockets (operations : List (OperationType × SocketPointer)) :
        (openings operations).Sublist (operations.map Prod.snd) := by
      induction operations with
      | nil => exact .slnil
      | cons operation rest induction =>
          rcases operation with ⟨kind, socket⟩
          cases kind <;>
            first
            | exact induction.cons_cons socket
            | exact induction.cons socket
    exact
      (List.append_nil (openings pending.operations)).symm ▸
        (sockets pending.operations).nodup pending.distinct
  fresh := fun socket _ => ⟨Finmap.lookup_empty socket, rfl⟩
  entry := fun key socket present => by
    rw [started, Finmap.lookup_empty] at present
    cases present
  handler := trivial
  jobs := nofun

/-- A step of the network thread that moves on, and finishes operations. -/
theorem Sound.proceed
    {point : NetworkPoint} {operations : List (OperationType × SocketPointer)}
    (sound : Sound state)
    (finished : operations.Sublist state.outstanding)
    (registersNone : point.registers = [])
    (sameDestroys :
      state.network.destroys = none ∨
        state.network.destroys = point.destroys)
    (handler : HandlerSound { state with network := point }) :
    Sound
      { state with
        outstanding := operations
        network := point } := by
  have fewer :
      (openings operations ++ point.registers).Sublist
        (openings state.outstanding ++ state.network.registers) := by
    rw [registersNone]
    exact (finished.filterMap _).append (List.nil_sublist _)
  exact
    { distinct := fewer.nodup sound.distinct
      fresh := fun socket member =>
        sound.fresh socket (fewer.subset member)
      entry := fun key socket present => by
        rcases sound.entry key socket present with
          ⟨same, opened | destroyed⟩
        · exact ⟨same, .inl opened⟩
        · rcases sameDestroys with none | equal
          · rw [none] at destroyed
            cases destroyed
          · exact ⟨same, .inr (equal ▸ destroyed)⟩
      handler := handler
      jobs := sound.jobs }

/-- Dequeuing an operation which opens no connection. -/
theorem Sound.dequeue
    (sound : Sound state)
    (waiting : state.network = .waiting)
    (index : Nat)
    {point : NetworkPoint}
    (registersNone : point.registers = [])
    (handler :
      HandlerSound { state with network := point }) :
    Sound
      { state with
        outstanding := state.outstanding.eraseIdx index
        network := point } := by
  refine
    sound.proceed (state.outstanding.eraseIdx_sublist index) registersNone
      (.inl ?_) handler
  rw [waiting]
  rfl

/-- What the handler of a completion starts with. -/
theorem handlerPoint_cases
    (listenSocket : SocketPointer)
    (operation : OperationType) (socket : SocketPointer)
    (status : CompletionStatus) :
    (∃ key,
        handlerPoint listenSocket operation socket status =
          .finding key) ∨
      handlerPoint listenSocket operation socket status = .finishing ∨
        (openings [(operation, socket)] = [socket] ∧
          handlerPoint listenSocket operation socket status =
            .registering socket) ∨
          (operation = .opRecv ∧
            ∃ bytes,
              status = .succeeded bytes ∧ 0 < bytes.length ∧
                handlerPoint listenSocket operation socket status =
                  .readying socket) := by
  cases status with
  | failed code =>
      by_cases listed : code ∈ disconnectCodes
      · exact .inl ⟨_, if_pos listed⟩
      · exact .inr (.inl (if_neg listed))
  | succeeded bytes =>
      cases operation with
      | opDefault => exact .inr (.inl rfl)
      | opSend => exact .inr (.inl rfl)
      | opConnect => exact .inr (.inr (.inl ⟨rfl, rfl⟩))
      | opAccept => exact .inr (.inr (.inl ⟨rfl, rfl⟩))
      | opRecv =>
          by_cases empty : bytes.length ≤ 0
          · exact .inl ⟨socket, if_pos empty⟩
          · exact
              .inr (.inr (.inr
                ⟨rfl, bytes, rfl, Nat.lt_of_not_le empty,
                  if_neg empty⟩))

theorem completeStep_sound
    {index : Nat} {status : CompletionStatus}
    (sound : Sound state)
    (careful : Careful state (.complete index status))
    (taken : completeStep state index status = some after) :
    Sound after := by
  unfold completeStep at taken
  split at taken
  · next operation socket waiting found =>
      cases taken
      rcases
        handlerPoint_cases state.listenSocket operation socket status with
        ⟨key, finding⟩ | finishing | ⟨opens, registering⟩ |
          ⟨rfl, bytes, rfl, data, readying⟩
      · rw [finding]
        exact sound.dequeue waiting index rfl trivial
      · rw [finishing]
        exact sound.dequeue waiting index rfl trivial
      · rw [registering]
        have rearranged :
            (openings (state.outstanding.eraseIdx index) ++
                [socket]).Perm
              (openings state.outstanding ++
                state.network.registers) := by
          have split :
              openings ((operation, socket) ::
                  state.outstanding.eraseIdx index) =
                openings [(operation, socket)] ++
                  openings (state.outstanding.eraseIdx index) :=
            @List.filterMap_append _ _ [(operation, socket)] _ _
          have moved : (openings _).Perm (openings _) :=
            (perm_cons_eraseIdx found).filterMap _
          rw [split, opens] at moved
          rw [waiting]
          change List.Perm _ (openings state.outstanding ++ [])
          rw [List.append_nil]
          exact (List.perm_append_singleton socket _).trans moved
        exact
          { distinct := rearranged.nodup_iff.mpr sound.distinct
            fresh := fun other member =>
              sound.fresh other (rearranged.mem_iff.mp member)
            entry := fun key value present => by
              rcases sound.entry key value present with
                ⟨same, opened | destroyed⟩
              · exact ⟨same, .inl opened⟩
              · rw [waiting] at destroyed
                cases destroyed
            handler := trivial
            jobs := sound.jobs }
      · rw [readying]
        simp only [Careful, found] at careful
        exact sound.dequeue waiting index rfl (careful data)
  · cases taken

/-- A step of the network thread that only moves on. -/
theorem Sound.moveOn
    {point : NetworkPoint}
    (sound : Sound state)
    (registersNone : point.registers = [])
    (sameDestroys :
      state.network.destroys = none ∨
        state.network.destroys = point.destroys)
    (handler : HandlerSound { state with network := point }) :
    Sound { state with network := point } :=
  sound.proceed (List.Sublist.refl _) registersNone sameDestroys handler

/-- The socket of the entry being destroyed changes its status. -/
theorem Sound.setStatus
    {point : NetworkPoint} {socket : SocketPointer}
    {status : SocketStatus}
    (sound : Sound state)
    (present : state.connectedSocketMap.lookup socket = some socket)
    (registersNone : point.registers = [])
    (destroyed :
      state.network.destroys = none ∨
        state.network.destroys = some socket)
    (destroys : point.destroys = some socket)
    (handler :
      HandlerSound
        { state with
          socketStatus :=
            Function.update state.socketStatus socket status
          network := point })
    (released :
      status = .deleted →
        ∀ thread, (state.jobs thread).holds ≠ some socket) :
    Sound
      { state with
        socketStatus := Function.update state.socketStatus socket status
        network := point } := by
  have fewer :
      (openings state.outstanding ++ point.registers).Sublist
        (openings state.outstanding ++ state.network.registers) := by
    rw [registersNone]
    exact (List.nil_sublist _).append_left _
  refine
    { distinct := fewer.nodup sound.distinct
      fresh := ?_
      entry := ?_
      handler := handler
      jobs := ?_ }
  · intro other member
    rcases sound.fresh other (fewer.subset member) with
      ⟨missing, opened⟩
    have different : other ≠ socket := by
      rintro rfl
      rw [present] at missing
      cases missing
    exact
      ⟨missing, (Function.update_of_ne different _ _).trans opened⟩
  · intro key value found
    rcases sound.entry key value found with ⟨same, opened | closed⟩
    · by_cases equal : key = socket
      · exact ⟨same, .inr (equal ▸ destroys)⟩
      · exact
          ⟨same,
            .inl ((Function.update_of_ne equal _ _).trans opened)⟩
    · rcases destroyed with none | some
      · rw [none] at closed
        cases closed
      · exact ⟨same, .inr (destroys.trans (some.symm.trans closed))⟩
  · intro thread held holds
    change Function.update state.socketStatus socket status held ≠ _
    by_cases equal : held = socket
    · rw [equal, Function.update_self]
      intro deleted
      exact released deleted thread (equal ▸ holds)
    · rw [Function.update_of_ne equal]
      exact sound.jobs thread held holds

/-- The entry of a socket that was accepted or connected. -/
theorem Sound.register
    {socket : SocketPointer}
    (sound : Sound state)
    (registering : state.network = .registering socket) :
    Sound
      { state with
        connectedSocketMap :=
          if socket ∈ state.connectedSocketMap then
            state.connectedSocketMap
          else
            state.connectedSocketMap.insert socket socket
        network := .readying socket } := by
  have distinct := sound.distinct
  have fresh := sound.fresh
  rw [registering] at distinct fresh
  change (openings state.outstanding ++ [socket]).Nodup at distinct
  have last : socket ∈ openings state.outstanding ++ [socket] :=
    List.mem_append_right _ List.mem_cons_self
  rcases fresh socket last with ⟨missing, opened⟩
  have absent : socket ∉ state.connectedSocketMap :=
    Finmap.lookup_eq_none.mp missing
  rw [if_neg absent]
  have others :
      ∀ other ∈ openings state.outstanding, other ≠ socket := by
    rintro other member rfl
    exact
      (List.nodup_append.mp distinct).2.2 other member other
        List.mem_cons_self rfl
  refine
    { distinct := ?_
      fresh := ?_
      entry := ?_
      handler := ?_
      jobs := sound.jobs }
  · change (openings state.outstanding ++ []).Nodup
    rw [List.append_nil]
    exact (List.nodup_append.mp distinct).1
  · intro other member
    change other ∈ openings state.outstanding ++ [] at member
    rw [List.append_nil] at member
    rcases fresh other (List.mem_append_left _ member) with
      ⟨otherMissing, otherOpened⟩
    refine ⟨?_, otherOpened⟩
    exact
      (Finmap.lookup_insert_of_ne _ (others other member)).trans
        otherMissing
  · intro key value found
    change
      (state.connectedSocketMap.insert socket socket).lookup key =
        some value at found
    by_cases equal : key = socket
    · rw [equal, Finmap.lookup_insert] at found
      cases found
      exact ⟨equal.symm, .inl (equal ▸ opened)⟩
    · rw [Finmap.lookup_insert_of_ne _ equal] at found
      rcases sound.entry key value found with
        ⟨same, stillOpened | destroyed⟩
      · exact ⟨same, .inl stillOpened⟩
      · rw [registering] at destroyed
        cases destroyed
  · change state.socketStatus socket ≠ .deleted
    rw [opened]
    nofun

/-- Erasing the entry whose socket is deleted. -/
theorem Sound.erase
    {key : CompletionKey}
    (sound : Sound state)
    (erasing : state.network = .erasing key) :
    Sound
      { state with
        connectedSocketMap := state.connectedSocketMap.erase key
        network := .finishing } := by
  have fresh := sound.fresh
  have distinct := sound.distinct
  rw [erasing] at fresh distinct
  refine
    { distinct := distinct
      fresh := ?_
      entry := ?_
      handler := trivial
      jobs := sound.jobs }
  · intro other member
    rcases fresh other member with ⟨missing, opened⟩
    refine ⟨?_, opened⟩
    change (state.connectedSocketMap.erase key).lookup other = none
    by_cases equal : other = key
    · rw [equal, Finmap.lookup_erase]
    · rw [Finmap.lookup_erase_ne equal]
      exact missing
  · intro other value found
    change
      (state.connectedSocketMap.erase key).lookup other =
        some value at found
    by_cases equal : other = key
    · rw [equal, Finmap.lookup_erase] at found
      cases found
    · rw [Finmap.lookup_erase_ne equal] at found
      rcases sound.entry other value found with
        ⟨same, opened | destroyed⟩
      · exact ⟨same, .inl opened⟩
      · rw [erasing] at destroyed
        cases destroyed
        exact (equal rfl).elim

/-- Posting an operation that is neither an accept nor a connect. -/
theorem Sound.post
    (sound : Sound state)
    (operation : OperationType) (socket : SocketPointer)
    (opensNone : openings [(operation, socket)] = [])
    (succeeds : Bool) :
    Sound
      { state with
        outstanding :=
          if succeeds then
            state.outstanding ++ [(operation, socket)]
          else
            state.outstanding } := by
  have same :
      openings
          (if succeeds then
            state.outstanding ++ [(operation, socket)]
          else
            state.outstanding) =
        openings state.outstanding := by
    split_ifs
    · have split :
          openings (state.outstanding ++ [(operation, socket)]) =
            openings state.outstanding ++
              openings [(operation, socket)] :=
        List.filterMap_append
      rw [split, opensNone, List.append_nil]
    · rfl
  exact
    { distinct := by
        rw [same]
        exact sound.distinct
      fresh := by
        rw [same]
        exact sound.fresh
      entry := sound.entry
      handler := sound.handler
      jobs := sound.jobs }

theorem networkStep_sound
    {succeeds : Bool}
    (sound : Sound state)
    (careful : Careful state (.network succeeds))
    (taken : networkStep state succeeds = some after) :
    Sound after := by
  have handler := sound.handler
  unfold HandlerSound at handler
  unfold networkStep at taken
  split at taken
  · cases taken
  · next socket registering =>
      cases taken
      exact sound.register registering
  · next socket readying =>
      cases taken
      rw [readying] at handler
      apply sound.moveOn
      · split_ifs <;> rfl
      · rw [readying]
        exact .inl rfl
      · split_ifs
        · exact handler
        · trivial
  · next socket posting =>
      cases taken
      have posted :=
        sound.post .opRecv socket rfl succeeds
      exact posted.moveOn rfl (by rw [posting]; exact .inl rfl) trivial
  · next key finding =>
      split at taken
      · cases taken
        exact
          sound.moveOn rfl (by rw [finding]; exact .inl rfl) trivial
      · next socket found =>
          cases taken
          apply sound.moveOn rfl
          · rw [finding]
            exact .inl rfl
          · rcases sound.entry key socket found with
              ⟨rfl, opened | destroyed⟩
            · exact ⟨found, opened⟩
            · rw [finding] at destroyed
              cases destroyed
  · next key socket checking =>
      rw [checking] at handler
      rw [handler.2] at taken
      cases taken
      exact
        sound.moveOn rfl (by rw [checking]; exact .inl rfl) handler
  · next key socket shuttingDown =>
      cases taken
      rw [shuttingDown] at handler
      exact
        sound.moveOn rfl (by rw [shuttingDown]; exact .inl rfl) handler
  · next key socket closing =>
      cases taken
      rw [closing] at handler
      rcases sound.entry key socket handler.1 with ⟨rfl, _⟩
      apply sound.setStatus handler.1 rfl
      · rw [closing]
        exact .inl rfl
      · rfl
      · exact ⟨handler.1, Function.update_self ..⟩
      · nofun
  · next key socket invalidating =>
      cases taken
      rw [invalidating] at handler
      rcases sound.entry key socket handler.1 with ⟨rfl, _⟩
      apply sound.setStatus handler.1 rfl
      · rw [invalidating]
        exact .inr rfl
      · rfl
      · exact ⟨handler.1, Function.update_self ..⟩
      · nofun
  · next key socket deleting =>
      cases taken
      rw [deleting] at handler
      simp only [Careful, deleting] at careful
      rcases sound.entry key socket handler.1 with ⟨rfl, _⟩
      apply sound.setStatus handler.1 rfl
      · rw [deleting]
        exact .inr rfl
      · rfl
      · exact Function.update_self ..
      · exact fun _ => careful
  · next key erasing =>
      cases taken
      exact sound.erase erasing
  · next finishing =>
      cases taken
      exact
        sound.moveOn rfl (by rw [finishing]; exact .inl rfl) trivial

/-- A job thread moves to a point at which it holds a usable pointer. -/
theorem Sound.moveJob
    {thread : Fin jobThreadCount} {point : JobPoint}
    (sound : Sound state)
    (usable :
      ∀ socket,
        point.holds = some socket →
          state.socketStatus socket ≠ .deleted) :
    Sound
      { state with
        jobs := Function.update state.jobs thread point } :=
  { distinct := sound.distinct
    fresh := sound.fresh
    entry := sound.entry
    handler := sound.handler
    jobs := by
      intro other socket holds
      change
        (Function.update state.jobs thread point other).holds =
          some socket at holds
      by_cases equal : other = thread
      · rw [equal, Function.update_self] at holds
        exact usable socket holds
      · rw [Function.update_of_ne equal] at holds
        exact sound.jobs other socket holds }

theorem jobStep_sound
    {thread : Fin jobThreadCount} {targetSocket : CompletionKey}
    {succeeds : Bool}
    (sound : Sound state)
    (careful : Careful state (.job thread targetSocket succeeds)) :
    Sound (jobStep state thread targetSocket succeeds) := by
  unfold jobStep
  split
  · next idle =>
      split
      · exact sound
      · next socket found =>
          simp only [Careful, idle, found] at careful
          apply sound.moveJob
          rintro other ⟨⟩
          exact careful
  · next socket found =>
      apply sound.moveJob
      rintro other ⟨⟩
      exact sound.jobs thread socket (by rw [found]; rfl)
  · next socket prepared =>
      have posted :=
        sound.post .opSend socket rfl succeeds
      exact posted.moveJob nofun

end Steps

/-! ## No use after the delete -/

theorem lifetime_sound
    {before after : LifetimeState jobThreadCount}
    {event : LifetimeEvent jobThreadCount}
    (sound : Sound before)
    (careful : Careful before event)
    (taken : lifetime.step before event = some after) :
    Sound after := by
  simp only [lifetime] at taken
  split at taken
  · cases taken
  · cases event with
    | complete index status =>
        exact completeStep_sound sound careful taken
    | network succeeds => exact networkStep_sound sound careful taken
    | job thread targetSocket succeeds =>
        cases taken
        exact jobStep_sound sound careful

/--
In every careful run no step that can be taken next uses a deleted pointer.
-/
theorem noUseAfterDelete_of_reaches
    {pending : PendingConnections}
    {state : LifetimeState jobThreadCount}
    (reached : lifetime.Reaches Careful (started pending) state) :
    NoUseAfterDelete state := by
  have sound : Sound state :=
    reached.invariant (started_sound pending)
      fun _ _ _ => lifetime_sound
  exact sound.noUse

/-- One pending accept. -/
def oneAccept : PendingConnections where
  listenSocket := 1
  operations := [(.opAccept, 2)]
  opening := by decide
  distinct := by decide
  notListening := by decide

/-- The accept completes, and its connection is registered and read. -/
def acceptAndRead : List (LifetimeEvent 1) :=
  [.complete 0 (.succeeded []), .network true, .network true,
    .network true, .network true]

/-- A disconnect up to the erased entry. -/
def disconnectAndErase : List (LifetimeEvent 1) :=
  [.complete 0 (.succeeded []), .network true, .network true,
    .network true, .network true, .network true, .network true,
    .network true]

/-- A send and a disconnect, one after the other. -/
theorem noUseAfterDelete_sequential :
    NoUseAfterDelete
      ((lifetime.runAllowed Careful (started oneAccept)
        (acceptAndRead ++
          [.job 0 2 true, .job 0 2 true, .job 0 2 true] ++
            disconnectAndErase)).get (by decide)) :=
  noUseAfterDelete_of_reaches (TransitionSystem.reaches_get (by decide))

/-- The job thread has found the entry before the disconnect. -/
def foundThenDeleted : List (LifetimeEvent 1) :=
  acceptAndRead ++ [.job 0 2 true] ++ disconnectAndErase ++
    [.job 0 2 true]

/-- A job thread can call `WSASend` through a deleted pointer. -/
theorem send_after_delete :
    ¬ ∀ (jobThreadCount : Nat) (pending : PendingConnections)
        (state : LifetimeState jobThreadCount),
      lifetime.Reachable (started pending) state →
        NoUseAfterDelete state := by
  intro never
  have complete :
      (lifetime.run (started oneAccept) foundThenDeleted).isSome := by
    decide
  have reached :=
    TransitionSystem.reachable_of_run (Option.some_get complete).symm
  have sends :
      uses
          ((lifetime.run (started oneAccept) foundThenDeleted).get
            (by decide))
          (.job 0 2 true) =
        some 2 ∧
      ((lifetime.run (started oneAccept) foundThenDeleted).get
        (by decide)).socketStatus 2 = .deleted := by
    decide
  exact never 1 oneAccept _ reached _ 2 sends.1 sends.2

end IocpServer.Network.SocketLifetime
