import IocpServer.ControlServer.LobbySelection
import IocpServer.Protocol.FlatBufferAccess

/-!
# The switch on an arbitrary packet

The receive thread calls the accessors of a message on whatever body a packet
has.  `dispatchIn` is its switch with a record of these reads; it keeps to the
body exactly if the body is well formed, and then does what `dispatch` does.
-/

namespace IocpServer.ControlServer

open IocpServer.Library
open IocpServer.Library.Accessed
open IocpServer.Network
open IocpServer.Protocol

/-- The switch of `ReceiveThread`, with the reads of the accessors. -/
def dispatchIn (memory : Memory) (packet : Packet) : Accessed Dispatched :=
  match MessageType.ofContentsType packet.contentsType with
  | some .requestLobbyInfo => do
      -- The request has no fields; only its root is looked up.
      let _ ← FlatBufferAccess.getRoot memory
      return .job (.requestLobbyInfo packet.completionKey)
  | some .responseLobbyInfo => pure .nothing
  | some .noticeLobbyReady => do
      let notice ← FlatBufferAccess.noticeLobbyReady memory
      return .job
        (.noticeLobbyReady packet.completionKey notice.lobbyKey
          notice.port notice.capacity notice.active)
  | some .noticeLobbyInfo => do
      let notice ← FlatBufferAccess.noticeLobbyInfo memory
      return .leftBehind notice
  | some .noticeSecretKey => pure .nothing
  | some .noticeResponseSpeed => pure .nothing
  | none => pure .nothing

/-- The jobs one iteration pushes. -/
def Dispatched.pushed (dispatched : Dispatched) : List Job :=
  match dispatched with
  | .job made => [made]
  | .leftBehind _ => []
  | .nothing => []
  | .malformed => []

/-- One iteration is safe on a packet whose body lies in memory. -/
structure SafeDispatch (memory : Memory) (packet : Packet) : Prop where
  /-- Neither an offset nor the null pointer leads out of the body. -/
  inside : (dispatchIn memory packet).Inside packet.buffer.length
  /-- At most one job is pushed. -/
  single : (dispatchIn memory packet).value.pushed.length ≤ 1
  /-- Its fields are those in the body. -/
  decoded : (dispatchIn memory packet).value = dispatch flatBuffers packet

/-- A body that the switch on its message type can read. -/
def WellFormedBody (packet : Packet) : Prop :=
  match MessageType.ofContentsType packet.contentsType with
  | some .requestLobbyInfo => 4 ≤ packet.buffer.length
  | some .responseLobbyInfo => True
  | some .noticeLobbyReady => WellFormedNotice packet.buffer
  | some .noticeLobbyInfo => WellFormedNotice packet.buffer
  | some .noticeSecretKey => True
  | some .noticeResponseSpeed => True
  | none => True

/-! ## The reads of the switch -/

variable {memory : Memory} {packet : Packet}

/-- The reads of the switch are those of the accessors it calls. -/
theorem inside_dispatchIn (holds : memory.Holds packet.buffer) :
    (dispatchIn memory packet).Inside packet.buffer.length ↔
      WellFormedBody packet := by
  simp only [dispatchIn, WellFormedBody]
  split
  · rw [inside_bind, FlatBufferAccess.inside_getRoot]
    exact and_iff_left (inside_pure _)
  · exact iff_of_true (inside_pure _) trivial
  · rw [inside_bind, FlatBufferAccess.noticeLobbyReady,
      FlatBufferAccess.inside_notice holds]
    exact and_iff_left (inside_pure _)
  · rw [inside_bind, FlatBufferAccess.noticeLobbyInfo,
      FlatBufferAccess.inside_notice holds]
    exact and_iff_left (inside_pure _)
  · exact iff_of_true (inside_pure _) trivial
  · exact iff_of_true (inside_pure _) trivial
  · exact iff_of_true (inside_pure _) trivial

/-- Reads that keep to the body find what is decoded. -/
theorem value_dispatchIn
    (holds : memory.Holds packet.buffer)
    (inside : (dispatchIn memory packet).Inside packet.buffer.length) :
    (dispatchIn memory packet).value = dispatch flatBuffers packet := by
  rw [dispatchIn] at inside ⊢
  rw [dispatch]
  generalize MessageType.ofContentsType packet.contentsType = found
    at inside ⊢
  rcases found with _ | messageType
  · rfl
  · cases messageType with
    | requestLobbyInfo => rfl
    | responseLobbyInfo => rfl
    | noticeLobbyReady =>
        have accessors := (inside_bind.mp inside).1
        simp only [FlatBufferAccess.agrees_noticeLobbyReady holds accessors]
        rfl
    | noticeLobbyInfo =>
        have accessors := (inside_bind.mp inside).1
        simp only [FlatBufferAccess.agrees_noticeLobbyInfo holds accessors]
        rfl
    | noticeSecretKey => rfl
    | noticeResponseSpeed => rfl

theorem pushed_length (dispatched : Dispatched) :
    dispatched.pushed.length ≤ 1 := by
  cases dispatched <;> simp [Dispatched.pushed]

/-- Memory that holds a buffer, with zeros around it. -/
def memoryOf (buffer : ByteString) : Memory where
  byte position :=
    if 0 ≤ position then buffer.getD position.toNat 0 else 0

theorem memoryOf_holds (buffer : ByteString) :
    (memoryOf buffer).Holds buffer := by
  intro index byte found
  simp [memoryOf, found]

/-! ## The receive thread -/

/-- A well formed body is decoded. -/
theorem dispatch_wellFormed (wellFormed : WellFormedBody packet) :
    dispatch flatBuffers packet ≠ .malformed := by
  have holds := memoryOf_holds packet.buffer
  have inside := (inside_dispatchIn holds).mpr wellFormed
  rw [← value_dispatchIn holds inside]
  simp only [dispatchIn]
  split <;> nofun

/-- The hub's receive thread goes on behind a well formed body. -/
theorem readStep_wellFormed
    {Thread Manager : Type} [DecidableEq Thread]
    {callbacks : JobCallbacks Manager} {builder : ResponseBuilder}
    {state : HubState Thread Manager}
    (wellFormed : WellFormedBody packet) :
    (∃ job,
      state.readStep flatBuffers callbacks builder (.dispatch (.to packet)) =
        { state with receiver := .pushing }.stepJobs callbacks builder
          (.beginPush job)) ∨
      state.readStep flatBuffers callbacks builder (.dispatch (.to packet)) =
        some { state with receiver := .notify } := by
  simp only [HubState.readStep]
  cases dispatched : dispatch flatBuffers packet with
  | job job => exact .inl ⟨job, rfl⟩
  | leftBehind notice => exact .inr rfl
  | nothing => exact .inr rfl
  | malformed => exact absurd dispatched (dispatch_wellFormed wellFormed)

/--
Dispatching a packet is safe exactly if its body is one that the switch on its
message type can read.
-/
theorem dispatch_safe_iff (holds : memory.Holds packet.buffer) :
    SafeDispatch memory packet ↔ WellFormedBody packet := by
  constructor
  · intro safe
    exact (inside_dispatchIn holds).mp safe.inside
  · intro wellFormed
    have inside := (inside_dispatchIn holds).mpr wellFormed
    exact ⟨inside, pushed_length _, value_dispatchIn holds inside⟩

/-- The sample lobby's registration can be read. -/
theorem lobbyReady_wellFormed : WellFormedBody lobbyReady := by
  have entry (field : Nat)
      (listed :
        vtableAt lobbyReady.buffer + field + 2 ≤ lobbyReady.buffer.length) :
      EntryInside lobbyReady.buffer field :=
    ⟨by decide, by decide, by decide, fun _ => listed⟩
  have key : KeyInside lobbyReady.buffer :=
    ⟨entry 4 (by decide), by decide, by decide, by decide, by decide⟩
  exact
    { root := by decide
      key := key
      second := ⟨entry 6 (by decide), by decide⟩
      third := ⟨entry 8 (by decide), by decide⟩
      active := ⟨entry 10 (by decide), by decide⟩ }

theorem dispatch_safe_lobbyReady :
    SafeDispatch (memoryOf lobbyReady.buffer) lobbyReady :=
  (dispatch_safe_iff (memoryOf_holds lobbyReady.buffer)).mpr
    lobbyReady_wellFormed

/-- A `NOTICE_LOBBYREADY` whose table leaves out all fields. -/
def keylessReady : Packet where
  senderType := 3
  completionKey := 6
  contentsType := 3
  buffer := [8, 0, 0, 0, 4, 0, 4, 0, 4, 0, 0, 0]

/-- The absent key of a notice is read all the same. -/
theorem keylessReady_unsafe :
    Access.null ∈
        (dispatchIn (memoryOf keylessReady.buffer) keylessReady).accesses ∧
      ¬ SafeDispatch (memoryOf keylessReady.buffer) keylessReady := by
  have null :
      Access.null ∈
        (dispatchIn (memoryOf keylessReady.buffer) keylessReady).accesses := by
    decide
  exact ⟨null, fun safe => safe.inside Access.null null⟩

end IocpServer.ControlServer
