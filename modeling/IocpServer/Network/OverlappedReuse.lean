import IocpServer.Network.BasicData

/-!
# One overlapped object used again and again

`Clear` wipes the bytes the length field of the body buffer covers, and a
send has made that length the length of its body.  The bytes behind it are
zero at all times, so that nothing of an earlier use outlasts a `Clear`.
-/

namespace IocpServer.Network

open IocpServer.Library

attribute [ext] WsaBuffer CustomOverlapped

namespace WsaBuffer

variable {capacity : Nat}

/-- The bytes the length field does not cover are zero. -/
def ZeroBehindLen (buffer : WsaBuffer capacity) : Prop :=
  buffer.buf.drop buffer.len = List.replicate (capacity - buffer.len) 0

/-- A length that covers the allocation leaves no bytes behind it. -/
theorem zeroBehindLen_of_full
    {buffer : WsaBuffer capacity} (full : buffer.len = capacity) :
    buffer.ZeroBehindLen := by
  unfold ZeroBehindLen
  rw [full, Nat.sub_self]
  exact List.drop_of_length_le (Nat.le_of_eq buffer.buf_length)

/-- Wiping what the length covers wipes the allocation. -/
theorem buf_zero_len
    {buffer : WsaBuffer capacity} (behind : buffer.ZeroBehindLen) :
    (buffer.zero buffer.len).buf = List.replicate capacity 0 := by
  rw [zero, buf_overwrite _ _ (by simpa using buffer.len_le),
    List.length_replicate, behind, List.replicate_append_replicate,
    Nat.add_sub_cancel' buffer.len_le]

/-- A copy into a wiped allocation leaves zeros behind its own length. -/
theorem zeroBehindLen_overwrite
    {buffer : WsaBuffer capacity} (bytes : List UInt8)
    (wiped : buffer.buf = List.replicate capacity 0)
    (fits : bytes.length ≤ capacity) :
    ((buffer.overwrite bytes).withLen bytes.length fits).ZeroBehindLen := by
  change
    (buffer.overwrite bytes).buf.drop bytes.length =
      List.replicate (capacity - bytes.length) 0
  rw [buf_overwrite_of_zero _ _ wiped fits, List.drop_left]

end WsaBuffer

namespace CustomOverlapped

/-- The most address bytes of an accept: `2 * (sizeof(sockaddr_in) + 16)`. -/
def addressesSize : Nat := 64

/-- The kernel's write of both addresses of an accepted connection. -/
def kernelAccept
    (overlapped : CustomOverlapped) (addresses : List UInt8) :
    CustomOverlapped :=
  { overlapped with body := overlapped.body.overwrite addresses }

/-- The setting behind a `Clear`, and what the kernel writes for it. -/
inductive Use where
  | accept
      (socket : SocketPointer) (senderType : SenderType)
      (addresses : List UInt8)
      (addresses_le : addresses.length ≤ addressesSize)
  | connect (socket : SocketPointer) (senderType : SenderType)
  | receive
      (socket : SocketPointer) (bytes : List UInt8)
      (bytes_le : bytes.length ≤ headerSize + bufferSizeMax)
  | send
      (socket : SocketPointer) (headerData : MessageHeader)
      (body : List UInt8) (body_le : body.length ≤ bufferSizeMax)

/-- One use. -/
def use (overlapped : CustomOverlapped) :
    Use → Except Fault CustomOverlapped
  | .accept socket senderType addresses _ =>
      .ok
        ((overlapped.clear.acceptSetting socket senderType).kernelAccept
          addresses)
  | .connect socket senderType =>
      .ok (overlapped.clear.connectSetting socket senderType)
  | .receive socket bytes _ =>
      .ok ((overlapped.clear.receiveSetting socket).kernelReceive bytes)
  | .send socket headerData body _ =>
      overlapped.clear.sendSetting socket headerData body
        (UInt32.ofNat body.length)

/--
A history of the object: uses, and calls of `Clear` without a use behind
them, as when a finished object goes back to the pool.
-/
def history (overlapped : CustomOverlapped) :
    List (Option Use) → Except Fault CustomOverlapped
  | [] => .ok overlapped
  | none :: rest => overlapped.clear.history rest
  | some next :: rest => do (← overlapped.use next).history rest

/-- Both buffers are zero, with their full lengths. -/
structure Wiped (overlapped : CustomOverlapped) : Prop where
  header : overlapped.header.buf = List.replicate headerSize 0
  headerLen : overlapped.header.len = headerSize
  body : overlapped.body.buf = List.replicate bufferSizeMax 0
  bodyLen : overlapped.body.len = bufferSizeMax

section History

variable {overlapped : CustomOverlapped}

/-- `Clear` wipes both buffers if the bytes it leaves out are zero. -/
theorem clear_wiped (behind : overlapped.body.ZeroBehindLen) :
    overlapped.clear.Wiped where
  header := overlapped.header.buf_zero_all
  headerLen := rfl
  body := WsaBuffer.buf_zero_len behind
  bodyLen := rfl

/-- A send of a body that fits does not fail. -/
theorem sendSetting_of_fits
    (socket : SocketPointer) (headerData : MessageHeader)
    {body : List UInt8} (fits : body.length ≤ bufferSizeMax) :
    ∃ sent,
      overlapped.sendSetting socket headerData body
          (UInt32.ofNat body.length) = .ok sent ∧
        (overlapped.Wiped → sent.body.ZeroBehindLen) := by
  have length : (UInt32.ofNat body.length).toNat = body.length := by
    rw [bufferSizeMax] at fits
    rw [UInt32.toNat_ofNat', Nat.mod_eq_of_lt (by omega)]
  have copied : (body ++ [0]).take body.length = body := List.take_left
  have readable : ¬ (body ++ [0]).length < body.length := by
    rw [List.length_append]
    omega
  simp only [sendSetting, length, dif_pos fits, if_neg readable, copied]
  refine ⟨_, rfl, ?_⟩
  intro wiped
  apply WsaBuffer.zeroBehindLen_overwrite
  rw [WsaBuffer.zero,
    WsaBuffer.buf_overwrite_of_zero _ _ wiped.body (by simpa using fits),
    List.length_replicate, List.replicate_append_replicate,
    Nat.add_sub_cancel' fits]

/-- Every use returns, with zeros behind the length it leaves. -/
theorem use_ok
    (behind : overlapped.body.ZeroBehindLen) (next : Use) :
    ∃ used,
      overlapped.use next = .ok used ∧ used.body.ZeroBehindLen ∧
        used.address = overlapped.address := by
  cases next with
  | accept socket senderType addresses addresses_le =>
      exact ⟨_, rfl, WsaBuffer.zeroBehindLen_of_full rfl, rfl⟩
  | connect socket senderType =>
      exact ⟨_, rfl, WsaBuffer.zeroBehindLen_of_full rfl, rfl⟩
  | receive socket bytes bytes_le =>
      exact ⟨_, rfl, WsaBuffer.zeroBehindLen_of_full rfl, rfl⟩
  | send socket headerData body body_le =>
      rcases sendSetting_of_fits socket headerData body_le with
        ⟨sent, done, behindSent⟩
      exact
        ⟨sent, done, behindSent (clear_wiped behind),
          (sendSetting_eq_ok done).1⟩

/-- A history returns, with zeros behind the length it leaves. -/
theorem history_ok
    (behind : overlapped.body.ZeroBehindLen) (uses : List (Option Use)) :
    ∃ used,
      overlapped.history uses = .ok used ∧ used.body.ZeroBehindLen ∧
        used.address = overlapped.address := by
  induction uses generalizing overlapped with
  | nil => exact ⟨overlapped, rfl, behind, rfl⟩
  | cons next rest recursive =>
      cases next with
      | none => exact recursive (WsaBuffer.zeroBehindLen_of_full rfl)
      | some next =>
          rcases use_ok behind next with ⟨used, done, behindUsed, same⟩
          rcases recursive behindUsed with
            ⟨finish, returned, behindFinish, sameFinish⟩
          refine ⟨finish, ?_, behindFinish, sameFinish.trans same⟩
          rw [history, done]
          exact returned

/-- What `Clear` leaves does not depend on what was there. -/
theorem clear_eq {other : CustomOverlapped}
    (behind : overlapped.body.ZeroBehindLen)
    (otherBehind : other.body.ZeroBehindLen)
    (same : overlapped.address = other.address) :
    overlapped.clear = other.clear := by
  have wiped := clear_wiped behind
  have otherWiped := clear_wiped otherBehind
  apply CustomOverlapped.ext
  · exact same
  · exact WsaBuffer.ext (wiped.header.trans otherWiped.header.symm) rfl
  · exact WsaBuffer.ext (wiped.body.trans otherWiped.body.symm) rfl
  · rfl
  · rfl
  · rfl

end History

/--
Every history of a new object returns, and a `Clear` behind it wipes both
buffers: it leaves what it leaves behind any other history of the object.
-/
theorem clear_wipes_every_history
    (address : Nat) (memory otherMemory : BufferMemory)
    (uses otherUses : List (Option Use)) :
    ∃ used other,
      (construct address memory).history uses = .ok used ∧
        (construct address otherMemory).history otherUses = .ok other ∧
          used.clear.Wiped ∧ used.clear = other.clear := by
  have behindNew (memory : BufferMemory) :
      (construct address memory).body.ZeroBehindLen :=
    WsaBuffer.zeroBehindLen_of_full rfl
  rcases history_ok (behindNew memory) uses with
    ⟨used, returned, behind, same⟩
  rcases history_ok (behindNew otherMemory) otherUses with
    ⟨other, otherReturned, otherBehind, otherSame⟩
  exact
    ⟨used, other, returned, otherReturned, clear_wiped behind,
      clear_eq behind otherBehind (same.trans otherSame.symm)⟩

end CustomOverlapped

end IocpServer.Network
