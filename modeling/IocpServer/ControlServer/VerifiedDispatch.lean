import IocpServer.ControlServer.DispatchSafety
import IocpServer.Protocol.VerifiedMessages

/-!
# The switch behind a verifier

The receive thread does not verify a body before it dispatches it.  If it did,
no offset would lead it out of the body, whatever the bytes are; what a
`Verify` lets pass all the same is a notice that leaves out its key, and this
is then all that can go wrong.
-/

namespace IocpServer.ControlServer

open IocpServer.Library
open IocpServer.Library.Accessed
open IocpServer.Network
open IocpServer.Protocol

/-- A notice has its key; other messages have none that is read. -/
def KeyPresent (packet : Packet) : Prop :=
  match MessageType.ofContentsType packet.contentsType with
  | some .noticeLobbyReady => fieldEntry packet.buffer 4 ≠ 0
  | some .noticeLobbyInfo => fieldEntry packet.buffer 4 ≠ 0
  | _ => True

/-- The fields of every class have even places in a vtable. -/
theorem checksOf_even (messageType : MessageType) :
    ∀ check ∈ checksOf messageType, 2 ∣ check.field := by
  cases messageType <;> decide

section Notice

variable {memory : Memory} {buffer : ByteString} {checks : List FieldCheck}
variable {options : VerifierOptions}

/-- The entries of a started table are those in the buffer's bytes. -/
theorem value_entry_eq_fieldEntry
    (started : StartedTable memory buffer.length (rootTable memory))
    (holds : memory.Holds buffer) (four : 4 ≤ buffer.length)
    {field : Nat} (even : 2 ∣ field) :
    (FlatBufferAccess.getOptionalFieldOffset memory (rootTable memory)
        field).value =
      fieldEntry buffer field := by
  have root : (rootTable memory : Int) = rootAt buffer :=
    FlatBufferAccess.value_getRoot holds four
  have inside := started.inside_entry even
  rw [root, FlatBufferAccess.inside_getOptionalFieldOffset holds] at inside
  rw [root]
  exact FlatBufferAccess.value_getOptionalFieldOffset holds inside

/-- The fields of a notice with its key are read inside a verified buffer. -/
theorem inside_notice_of_verified {Notice : Type}
    (holds : memory.Holds buffer) (short : buffer.length < 2 ^ 63)
    (verified :
      (verifyBuffer noticeLobbyReadyChecks
          (.construct buffer.length options) memory).value =
        true)
    (present : fieldEntry buffer 4 ≠ 0)
    (make : ByteString → UInt32 → UInt32 → UInt32 → Notice) :
    (do
      let notice ← FlatBufferAccess.getRoot memory
      let lobbyKey ← FlatBufferAccess.getString memory notice 4
      let second ← FlatBufferAccess.getField memory notice 6 4
      let third ← FlatBufferAccess.getField memory notice 8 4
      let active ← FlatBufferAccess.getField memory notice 10 1
      return make lobbyKey second third active :
        Accessed Notice).Inside buffer.length := by
  rcases value_verifyBuffer short verified with
    ⟨four, verifier, size, started, passed⟩
  rw [← value_entry_eq_fieldEntry started holds four (by decide)] at present
  rw [← size] at started
  have root :
      (FlatBufferAccess.getRoot memory).value = (rootTable memory : Int) :=
    rfl
  have key :=
    started.inside_getString (by decide)
      (passed (.string 4) (by decide)) present
  have second :=
    started.inside_getField (by decide) (passed (.scalar 6 4) (by decide))
  have third :=
    started.inside_getField (by decide) (passed (.scalar 8 4) (by decide))
  have active :=
    started.inside_getField (by decide) (passed (.scalar 10 1) (by decide))
  rw [size] at key second third active
  simp only [inside_bind, root]
  exact
    ⟨FlatBufferAccess.inside_getRoot.mpr four, key, second, third, active,
      inside_pure _⟩

end Notice

variable {memory : Memory} {packet : Packet} {messageType : MessageType}
variable {options : VerifierOptions}

/-- A verified body with its key is well formed. -/
theorem wellFormedBody_of_verified
    (known :
      MessageType.ofContentsType packet.contentsType = some messageType)
    (holds : memory.Holds packet.buffer)
    (short : packet.buffer.length < 2 ^ 63)
    (verified :
      (verifyBuffer (checksOf messageType)
          (.construct packet.buffer.length options) memory).value =
        true)
    (present : KeyPresent packet) :
    WellFormedBody packet := by
  rw [← inside_dispatchIn holds]
  rw [KeyPresent, known] at present
  have four := (value_verifyBuffer short verified).1
  rw [dispatchIn, known]
  cases messageType with
  | requestLobbyInfo =>
      dsimp only
      rw [inside_bind]
      exact ⟨FlatBufferAccess.inside_getRoot.mpr four, inside_pure _⟩
  | responseLobbyInfo => exact inside_pure _
  | noticeLobbyReady =>
      dsimp only
      rw [inside_bind, FlatBufferAccess.noticeLobbyReady]
      exact
        ⟨inside_notice_of_verified holds short verified present _,
          inside_pure _⟩
  | noticeLobbyInfo =>
      dsimp only
      rw [inside_bind, FlatBufferAccess.noticeLobbyInfo]
      exact
        ⟨inside_notice_of_verified holds short verified present _,
          inside_pure _⟩
  | noticeSecretKey => exact inside_pure _
  | noticeResponseSpeed => exact inside_pure _

/-- A notice that is well formed has its key. -/
theorem keyPresent_of_wellFormedBody (wellFormed : WellFormedBody packet) :
    KeyPresent packet := by
  rw [WellFormedBody] at wellFormed
  rw [KeyPresent]
  split at wellFormed <;> simp_all only
  · exact wellFormed.key.present
  · exact wellFormed.key.present

/--
The verifier reads nothing outside a body, whatever the body and its options;
and if it accepts the body, dispatching it is safe exactly if a notice has its
key.
-/
theorem verified_dispatch
    (known :
      MessageType.ofContentsType packet.contentsType = some messageType)
    (holds : memory.Holds packet.buffer)
    (short : packet.buffer.length < 2 ^ 63)
    (options : VerifierOptions) :
    (verifyBuffer (checksOf messageType)
        (.construct packet.buffer.length options) memory).Inside
          packet.buffer.length ∧
      ((verifyBuffer (checksOf messageType)
          (.construct packet.buffer.length options) memory).value = true →
        (SafeDispatch memory packet ↔ KeyPresent packet)) := by
  refine ⟨inside_verifyBuffer short (checksOf_even messageType), ?_⟩
  intro verified
  constructor
  · intro safe
    exact
      keyPresent_of_wellFormedBody
        ((inside_dispatchIn holds).mp safe.inside)
  · intro present
    have inside :=
      (inside_dispatchIn holds).mpr
        (wellFormedBody_of_verified known holds short verified present)
    exact ⟨inside, pushed_length _, value_dispatchIn holds inside⟩

/-- The sample lobby's registration, and the notice without a key. -/
theorem verified_dispatch_samples :
    SafeDispatch (memoryOf lobbyReady.buffer) lobbyReady ∧
      ¬ SafeDispatch (memoryOf keylessReady.buffer) keylessReady := by
  have readyPresent : KeyPresent lobbyReady := by
    change fieldEntry lobbyReady.buffer 4 ≠ 0
    decide
  have keylessAbsent : ¬ KeyPresent keylessReady := by
    change ¬ fieldEntry keylessReady.buffer 4 ≠ 0
    decide
  constructor
  · exact
      ((verified_dispatch rfl
        (memoryOf_holds lobbyReady.buffer) (by decide) .standard).2
          (by decide)).mpr readyPresent
  · exact fun safe =>
      keylessAbsent
        (((verified_dispatch rfl
          (memoryOf_holds keylessReady.buffer) (by decide) .standard).2
            (by decide)).mp safe)

end IocpServer.ControlServer
