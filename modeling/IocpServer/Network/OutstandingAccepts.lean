import IocpServer.Network.CallEffects
import IocpServer.Network.ConnectionListening

/-!
# The accepts of a listening socket

`Construct` of a hub posts one `AcceptEx` for each prepared socket.  Every
accept that completes takes one of them away, and nothing posts another.
-/

namespace IocpServer.Network.NetworkManager

open IocpServer.Library
open IocpServer.Utility

variable {Owner : Type}

/-- An `AcceptEx`. -/
def isAccept (overlapped : CustomOverlapped) : Bool :=
  overlapped.operationType == .opAccept

/-- The outstanding accepts. -/
def accepts (manager : NetworkManager Owner) : List CustomOverlapped :=
  manager.outstanding.filter isAccept

/-- The listening socket can accept the next client. -/
def ListenerOpen (manager : NetworkManager Owner) : Prop :=
  ∃ overlapped ∈ manager.outstanding, overlapped.operationType = .opAccept

theorem listenerOpen_iff (manager : NetworkManager Owner) :
    manager.ListenerOpen ↔ 0 < manager.accepts.length := by
  rw [List.length_pos_iff_exists_mem]
  simp [ListenerOpen, accepts, isAccept]

/-- Accepts are openings. -/
theorem accepts_eq (manager : NetworkManager Owner) :
    manager.accepts = manager.openings.filter isAccept := by
  rw [accepts, openings, List.filter_filter]
  congr 1
  funext overlapped
  rw [isAccept]
  cases overlapped.operationType <;> rfl

/-! ## The accepts of `Construct` -/

/-- The loop of `PrepareAcceptSocket`s, with the answers they get. -/
def prepareAcceptSockets
    (manager : NetworkManager Owner) (senderType : SenderType) :
    List (Int × PostAnswer) → Except Fault (NetworkManager Owner)
  | [] => .ok manager
  | (errorCode, answer) :: rest =>
      (manager.prepareAcceptSocket senderType errorCode answer).bind
        fun prepared => prepared.prepareAcceptSockets senderType rest

/-- The arguments of a hub's `Construct`, and the answers to its calls. -/
structure Construction (Owner : Type) where
  senderType : SenderType
  acceptFrom : SenderType
  overlappedQueueMax : Nat
  preparedSocketMax : Nat
  memory : Nat → BufferMemory
  owner : Owner
  answers : List (Int × PostAnswer)
  answers_length : answers.length = preparedSocketMax

namespace Construction

/-- The network manager behind `Construct`. -/
def manager (construction : Construction Owner) :
    Except Fault (NetworkManager Owner) :=
  (setup construction.senderType construction.overlappedQueueMax
    construction.preparedSocketMax construction.memory
    construction.owner).prepareAcceptSockets construction.acceptFrom
      construction.answers

/-- Every socket call of `Construct` succeeds. -/
def Succeeds (construction : Construction Owner) : Prop :=
  ∀ answer ∈ construction.answers,
    answer.1 = 0 ∧ answer.2.failed = false

instance (construction : Construction Owner) :
    Decidable construction.Succeeds :=
  inferInstanceAs (Decidable (∀ answer ∈ construction.answers, _))

end Construction

section Accepts

variable {callbacks : Callbacks Owner}
variable {manager after : NetworkManager Owner}

/-- A `PrepareAcceptSocket` posts one accept, if its calls succeed. -/
theorem prepareAcceptSocket_outstanding
    {senderType : SenderType} {errorCode : Int} {answer : PostAnswer}
    (done :
      manager.prepareAcceptSocket senderType errorCode answer = .ok after) :
    after.outstanding = manager.outstanding ∧
        (errorCode ≠ 0 ∨ answer.failed = true) ∨
      ∃ posted,
        after.outstanding = manager.outstanding ++ [posted] ∧
          posted.operationType = .opAccept ∧
            posted.senderType = senderType := by
  have called :
      manager.call (Callbacks.mk (fun owner _ _ => .ok owner)
          (fun owner _ => owner) nofun)
          (.prepareAcceptSocket senderType errorCode answer) =
        .ok after :=
    done
  rcases call_cases called with
    ⟨reached, request, overlappedQueue, fronted, taken, outcome⟩
  have asked :
      request = none ∧ errorCode ≠ 0 ∨
        ∃ socket, request = some (.accept socket senderType) := by
    simp only [front, prepareAcceptFront] at fronted
    split at fronted
    · cases fronted
    · split at fronted
      · cases fronted
      · split_ifs at fronted with failed
        · cases fronted
          exact .inl ⟨rfl, failed⟩
        · cases fronted
          exact .inr ⟨_, rfl⟩
  rcases outcome with
    ⟨rfl, refused⟩ | ⟨setting, overlapped, posted, rfl, _, prepared, rfl⟩
  · left
    refine ⟨taken, ?_⟩
    rcases asked with ⟨-, failed⟩ | ⟨socket, rfl⟩
    · exact .inl failed
    · exact .inr (refused rfl)
  · right
    rcases asked with ⟨nothing, -⟩ | ⟨socket, asked⟩
    · cases nothing
    · cases asked
      cases prepared
      exact
        ⟨overlapped.acceptSetting socket senderType,
          congrArg (· ++ [_]) taken, rfl, rfl⟩

/-- The accepts of a `Construct` all of whose calls succeed. -/
theorem prepareAcceptSockets_accepts
    {senderType : SenderType} {answers : List (Int × PostAnswer)}
    (succeed :
      ∀ answer ∈ answers, answer.1 = 0 ∧ answer.2.failed = false)
    (done : manager.prepareAcceptSockets senderType answers = .ok after) :
    after.accepts.length = manager.accepts.length + answers.length := by
  induction answers generalizing manager with
  | nil =>
      cases done
      rfl
  | cons answer rest induction =>
      rcases answer with ⟨errorCode, answer⟩
      rw [List.forall_mem_cons] at succeed
      rcases Fallible.bind_eq_ok.mp done with ⟨prepared, posts, continued⟩
      have others := induction succeed.2 continued
      rcases prepareAcceptSocket_outstanding posts with
        ⟨_, refused⟩ | ⟨posted, appended, kind, _⟩
      · rcases refused with failed | failed
        · exact absurd succeed.1.1 failed
        · rw [succeed.1.2] at failed
          cases failed
      · have one : prepared.accepts = manager.accepts ++ [posted] := by
          rw [accepts, appended, List.filter_append,
            List.filter_cons_of_pos (by rw [isAccept, kind]; rfl)]
          rfl
        rw [others, one, List.length_append, List.length_singleton,
          List.length_cons]
        omega

/-- What the loop of `PrepareAcceptSocket`s does, whatever the answers. -/
theorem prepareAcceptSockets_cases
    {senderType : SenderType} {answers : List (Int × PostAnswer)}
    {postedFor : List Nat}
    (own : manager.OwnAddresses)
    (tracked : manager.Tracked postedFor [] [])
    (done : manager.prepareAcceptSockets senderType answers = .ok after) :
    after.OwnAddresses ∧
      (∃ postedFor, after.Tracked postedFor [] []) ∧
        after.owner = manager.owner ∧
          after.connected = manager.connected ∧
            ∃ posted,
              after.outstanding = manager.outstanding ++ posted ∧
                posted.length ≤ answers.length ∧
                  ∀ overlapped ∈ posted,
                    overlapped.operationType = .opAccept ∧
                      overlapped.senderType = senderType := by
  induction answers generalizing manager postedFor with
  | nil =>
      cases done
      exact ⟨own, ⟨postedFor, tracked⟩, rfl, rfl, [],
        (List.append_nil _).symm, Nat.le_refl 0, nofun⟩
  | cons answer rest induction =>
      rcases answer with ⟨errorCode, answer⟩
      rcases Fallible.bind_eq_ok.mp done with ⟨prepared, posts, continued⟩
      have called :
          manager.call (Callbacks.mk (fun owner _ _ => .ok owner)
              (fun owner _ => owner) nofun)
              (.prepareAcceptSocket senderType errorCode answer) =
            .ok prepared :=
        posts
      have connections :
          prepared.owner = manager.owner ∧
            prepared.connected = manager.connected := by
        cases call_effect called with
        | quiet _ same owner => exact ⟨owner, same.connected⟩
        | transferred finished => cases finished
        | connected finished => cases finished
        | disconnected handled => cases handled
      have keeps :
          ObservedManager.KeepsListening ⟨manager, postedFor⟩
            (.prepareAcceptSocket senderType errorCode answer) :=
        trivial
      have preparedTracked :=
        ObservedManager.step_tracked tracked keeps
          (ObservedManager.step_of_own own called postedFor)
      rcases
        induction (own.call called) preparedTracked continued with
        ⟨kept, noted, owner, connected, posted, appended, length, kinds⟩
      refine
        ⟨kept, noted, owner.trans connections.1,
          connected.trans connections.2, ?_⟩
      rcases prepareAcceptSocket_outstanding posts with
        ⟨same, _⟩ | ⟨first, extended, kind, sender⟩
      · refine ⟨posted, appended.trans (by rw [same]), ?_, kinds⟩
        exact length.trans (Nat.le_succ _)
      · refine ⟨first :: posted, ?_, Nat.succ_le_succ length, ?_⟩
        · rw [appended, extended, List.append_assoc]
          rfl
        · exact List.forall_mem_cons.mpr ⟨⟨kind, sender⟩, kinds⟩

/-- Sockets with addresses of their own are told apart. -/
theorem Tracked.apart
    {postedFor : List Nat}
    (tracked : manager.Tracked postedFor [] [])
    (own : manager.OwnAddresses)
    (nobody : manager.connected = []) :
    manager.Apart := by
  have same : manager.openSockets = socketsOf opens manager.outstanding := by
    rw [openSockets, openings, List.filterMap_filter]
    rfl
  have fewer : manager.openSockets.Sublist (manager.waiting []) := by
    rw [same]
    exact List.sublist_append_right manager.prepared _
  refine
    { numbered := own.numbered
      distinct := ?_
      allocated := ?_ }
  · rw [nobody, List.append_nil]
    exact fewer.nodup tracked.distinct
  · intro socket member
    rw [nobody, List.append_nil] at member
    have held := tracked.waitingHeld socket (fewer.subset member)
    have number : manager.socketNumber socket = socket := by
      have address := held.address
      rw [own.numbered] at address
      exact address
    rw [← number]
    exact held.numbered

/-- `SetupListenSocket` posts and connects nothing. -/
theorem setup_idle
    (senderType : SenderType)
    (overlappedQueueMax prepareSocketMax : Nat)
    (memory : Nat → BufferMemory) (owner : Owner) :
    (setup senderType overlappedQueueMax prepareSocketMax memory
        owner).outstanding = [] ∧
      (setup senderType overlappedQueueMax prepareSocketMax memory
          owner).connected = [] ∧
        (setup senderType overlappedQueueMax prepareSocketMax memory
            owner).owner = owner :=
  ⟨(fillSocketQueue_samePool _).outstanding,
    (fillSocketQueue_same _).1.connected, (fillSocketQueue_same _).2⟩

/-- As many accepts as prepared sockets, if all calls succeed. -/
theorem Construction.accepts_length
    {construction : Construction Owner}
    (succeeds : construction.Succeeds)
    (constructed : construction.manager = .ok manager) :
    manager.accepts.length = construction.preparedSocketMax := by
  rw [prepareAcceptSockets_accepts succeeds constructed, accepts,
    (setup_idle ..).1, construction.answers_length]
  exact Nat.zero_add _

/-- A hub right behind `Construct`, whatever its calls answered. -/
theorem Construction.idle
    {construction : Construction Owner}
    (constructed : construction.manager = .ok manager) :
    manager.Apart ∧
      manager.owner = construction.owner ∧
        manager.connected = [] ∧
          manager.accepts.length ≤ construction.preparedSocketMax ∧
            ∀ overlapped ∈ manager.accepts,
              overlapped.senderType = construction.acceptFrom := by
  have own :=
    listeningAt_ownAddresses construction.senderType
      construction.overlappedQueueMax construction.preparedSocketMax
      construction.memory construction.owner
  have start :
      (setup construction.senderType construction.overlappedQueueMax
        construction.preparedSocketMax construction.memory
        construction.owner).Tracked [] [] [] :=
    ObservedManager.setup_tracked (own.fillsFree _)
  rcases
    prepareAcceptSockets_cases own.fillSocketQueue start constructed with
    ⟨kept, ⟨postedFor, tracked⟩, owner, connected, posted, outstanding,
      length, kinds⟩
  rcases
    setup_idle construction.senderType construction.overlappedQueueMax
      construction.preparedSocketMax construction.memory
      construction.owner with
    ⟨nothing, nobody, same⟩
  have outstanding : manager.outstanding = posted := by
    rw [outstanding]
    exact congrArg (· ++ posted) nothing
  have none := connected.trans nobody
  refine ⟨tracked.apart kept none, owner.trans same, none, ?_, ?_⟩
  · rw [accepts, outstanding, ← construction.answers_length]
    exact (List.length_filter_le _ _).trans length
  · intro overlapped member
    rw [accepts, outstanding] at member
    exact (kinds overlapped (List.mem_filter.mp member).1).2

/-! ## The accepts of a run -/

/-- Behind `Construct` an accept only ever completes. -/
theorem accepts_perm {event : NetworkEvent}
    (runs : manager.AfterConstruct event)
    (done : manager.call callbacks event = .ok after) :
    ((manager.completed event).toList.filter isAccept ++
      after.accepts).Perm manager.accepts := by
  have remaining :
      after.accepts = (manager.accepted event).accepts := by
    rw [accepts_eq, accepts_eq]
    rcases call_openings runs done with same | ⟨posted, appended, kind, _⟩
    · rw [same]
    · rw [appended, List.filter_append,
        List.filter_cons_of_neg (by rw [isAccept, kind]; nofun)]
      exact List.append_nil _
  have taken := (openings_accepted manager event).filter isAccept
  rw [List.filter_append, List.filter_filter, ← accepts_eq,
    ← accepts_eq] at taken
  have kinds :
      (fun overlapped : CustomOverlapped =>
          isAccept overlapped && opens overlapped.operationType) =
        isAccept := by
    funext overlapped
    rw [isAccept]
    cases overlapped.operationType <;> rfl
  rw [kinds] at taken
  rw [remaining]
  exact taken

theorem accepts_call {event : NetworkEvent}
    (runs : manager.AfterConstruct event)
    (done : manager.call callbacks event = .ok after) :
    ((manager.completed event).toList.filter isAccept).length +
        after.accepts.length =
      manager.accepts.length := by
  rw [← List.length_append]
  exact (accepts_perm runs done).length_eq

/-- How many accepts complete along a schedule. -/
def acceptsCompleted
    (callbacks : Callbacks Owner) (manager : NetworkManager Owner) :
    List NetworkEvent → Nat
  | [] => 0
  | event :: rest =>
      ((manager.completed event).toList.filter isAccept).length +
        match (system callbacks).step manager event with
        | none => 0
        | some next => acceptsCompleted callbacks next rest

/-- Along a run the accepts are those completed and those outstanding. -/
theorem accepts_run
    {schedule : List NetworkEvent}
    (runs : ∀ event ∈ schedule, manager.AfterConstruct event)
    (replayed : (system callbacks).run manager schedule = some after) :
    acceptsCompleted callbacks manager schedule + after.accepts.length =
      manager.accepts.length := by
  induction schedule generalizing manager with
  | nil =>
      cases replayed
      exact Nat.zero_add _
  | cons event rest induction =>
      rcases TransitionSystem.run_cons_eq_some.mp replayed with
        ⟨next, taken, continued⟩
      rw [List.forall_mem_cons] at runs
      have one :=
        accepts_call runs.1 (Fallible.toOption_eq_some.mp taken)
      have later : ∀ event ∈ rest, next.AfterConstruct event := runs.2
      have others := induction later continued
      rw [acceptsCompleted, taken]
      dsimp only
      omega

end Accepts

/--
In every run behind a `Construct` whose socket calls succeeded, the listening
socket can accept another client if and only if fewer accepts have completed
than sockets were prepared.
-/
theorem listener_open_iff
    {callbacks : Callbacks Owner} {construction : Construction Owner}
    {start finish : NetworkManager Owner} {schedule : List NetworkEvent}
    (succeeds : construction.Succeeds)
    (constructed : construction.manager = .ok start)
    (runs : ∀ event ∈ schedule, start.AfterConstruct event)
    (replayed : (system callbacks).run start schedule = some finish) :
    finish.ListenerOpen ↔
      acceptsCompleted callbacks start schedule <
        construction.preparedSocketMax := by
  have posted := construction.accepts_length succeeds constructed
  have balance := accepts_run runs replayed
  rw [finish.listenerOpen_iff]
  omega

/-- A `Construct` with two prepared sockets. -/
def twoSockets : Construction Unit where
  senderType := .controlServer
  acceptFrom := .default
  overlappedQueueMax := 4
  preparedSocketMax := 2
  memory := fun _ => default
  owner := ()
  answers := [(0, .success), (0, .success)]
  answers_length := rfl

theorem twoSockets_constructed :
    twoSockets.manager.toOption.isSome = true := by
  decide

/-- The network manager with two accepts outstanding. -/
def twoAccepts : NetworkManager Unit :=
  twoSockets.manager.toOption.get twoSockets_constructed

theorem twoSockets_manager : twoSockets.manager = .ok twoAccepts :=
  Fallible.toOption_eq_some.mp (Option.some_get _).symm

/-- A client connects. -/
def clientConnects : NetworkEvent :=
  .completion 0 (.succeeded []) 0 .success

theorem oneClient_complete :
    ((system .idle).run twoAccepts [clientConnects]).isSome = true := by
  decide

theorem twoClients_complete :
    ((system .idle).run twoAccepts
      [clientConnects, clientConnects]).isSome = true := by
  decide

/-- After one client, another one can connect. -/
theorem listener_open_after_one :
    (((system .idle).run twoAccepts [clientConnects]).get
      oneClient_complete).ListenerOpen :=
  (listener_open_iff (by decide) twoSockets_manager (by decide)
    (Option.some_get oneClient_complete).symm).mpr (by decide)

/-- After two clients, nobody can connect any more. -/
theorem listener_closed_after_two :
    ¬ ∀ (construction : Construction Unit)
        (start finish : NetworkManager Unit) (schedule : List NetworkEvent),
      1 ≤ construction.preparedSocketMax →
        construction.Succeeds →
          construction.manager = .ok start →
            (∀ event ∈ schedule, start.AfterConstruct event) →
              (∀ event ∈ schedule, event.answer.failed = false) →
                (system .idle).run start schedule = some finish →
                  finish.ListenerOpen := by
  intro opened
  have listening :=
    opened twoSockets twoAccepts _ [clientConnects, clientConnects]
      (by decide) (by decide) twoSockets_manager (by decide) (by decide)
      (Option.some_get twoClients_complete).symm
  have none :
      (((system .idle).run twoAccepts
        [clientConnects, clientConnects]).get
          twoClients_complete).accepts.length = 0 := by
    decide
  rw [listenerOpen_iff, none] at listening
  exact Nat.lt_irrefl 0 listening

end IocpServer.Network.NetworkManager
