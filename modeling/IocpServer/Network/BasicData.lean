import IocpServer.Library.Words

/-!
# Message headers, overlapped objects and packets

The data of `Network/BasicData.h` and the member functions of
`CustomOverlapped`.  A WSA buffer carries the size of its allocation in its
type and keeps its length field within it, so an overlapped object with a
buffer of the wrong size cannot be built.  A call that would leave an
allocation, dereference a null or deleted pointer, or throw returns the
`Fault` instead.
-/

namespace IocpServer.Network

open IocpServer.Library

/-- The ways a call ends other than by returning. -/
inductive Fault where
  /-- `Clear` is called through the null pointer of an empty pool. -/
  | nullOverlapped
  /-- A `SOCKET*` that is null is dereferenced. -/
  | nullSocket
  /-- A `SOCKET*` is dereferenced after its `delete`. -/
  | danglingSocket
  /-- Bytes are written behind an allocation. -/
  | bufferOverrun
  /-- Bytes are read behind an allocation. -/
  | bufferOverread
  /-- The exception of a `std::string` that would be too long. -/
  | lengthError
deriving DecidableEq, Repr

/-- `Network::OperationType`. -/
inductive OperationType where
  | opDefault
  | opConnect
  | opAccept
  | opRecv
  | opSend
deriving DecidableEq, Repr

/-- `Network::SenderType`. -/
inductive SenderType where
  | default
  | controlServer
  | authServer
  | lobbyServer
  | client
deriving DecidableEq, Repr

/-- The enumerator's value, as stored into a header. -/
def SenderType.toUInt32 : SenderType → UInt32
  | .default => 0
  | .controlServer => 1
  | .authServer => 2
  | .lobbyServer => 3
  | .client => 4

/-- The address held by a `SOCKET*`, which is also its completion key. -/
abbrev SocketPointer := Nat

/-- `ULONG_PTR`: a `SOCKET*` used as a key. -/
abbrev CompletionKey := SocketPointer

/-- What has happened to the `SOCKET` behind a `SOCKET*`. -/
inductive SocketStatus where
  | opened
  /-- `closesocket` was called. -/
  | closed
  /-- `INVALID_SOCKET` was stored. -/
  | invalidated
  /-- The `SOCKET*` was deleted. -/
  | deleted
deriving DecidableEq, Repr

/-- `Network::MessageHeader`. -/
structure MessageHeader where
  senderType : UInt32
  bodySize : UInt32
  contentsType : UInt32
deriving DecidableEq, Repr

/-- `sizeof(MessageHeader)`. -/
def headerSize : Nat := 12

/-- `BUFFER_SIZE_MAX`. -/
def bufferSizeMax : Nat := 1024

/-- `htonl` on a little-endian machine. -/
abbrev htonl (word : UInt32) : UInt32 := byteSwap word

/-- `ntohl` on a little-endian machine. -/
abbrev ntohl (word : UInt32) : UInt32 := byteSwap word

/-- The memory image of a header. -/
def MessageHeader.bytes (header : MessageHeader) : List UInt8 :=
  wordBytes header.senderType ++ wordBytes header.bodySize ++
    wordBytes header.contentsType

/-- The header `reinterpret_cast` finds at the start of a buffer. -/
def MessageHeader.ofBytes (bytes : List UInt8) : MessageHeader where
  senderType := bytesWord (bytes.take 4)
  bodySize := bytesWord ((bytes.drop 4).take 4)
  contentsType := bytesWord ((bytes.drop 8).take 4)

@[simp]
theorem MessageHeader.bytes_length (header : MessageHeader) :
    header.bytes.length = headerSize :=
  rfl

/-- A `WSABUF` over an allocation of `capacity` bytes. -/
structure WsaBuffer (capacity : Nat) where
  buf : List UInt8
  len : Nat
  buf_length : buf.length = capacity
  len_le : len ≤ capacity

namespace WsaBuffer

variable {capacity : Nat}

/-- Replace the first bytes of the allocation; nothing grows it. -/
def overwrite
    (buffer : WsaBuffer capacity) (bytes : List UInt8) :
    WsaBuffer capacity :=
  { buffer with
    buf := (bytes ++ buffer.buf.drop bytes.length).take capacity
    buf_length := by
      have allocated := buffer.buf_length
      simp only [List.length_take, List.length_append, List.length_drop]
      omega }

/-- `memset(buf, 0, count)`. -/
def zero (buffer : WsaBuffer capacity) (count : Nat) :
    WsaBuffer capacity :=
  buffer.overwrite (List.replicate count 0)

/-- Assignment to `len`. -/
def withLen
    (buffer : WsaBuffer capacity) (len : Nat) (bound : len ≤ capacity) :
    WsaBuffer capacity :=
  { buffer with len := len, len_le := bound }

/-- A write that fits replaces exactly the bytes it covers. -/
theorem buf_overwrite
    (buffer : WsaBuffer capacity) (bytes : List UInt8)
    (fits : bytes.length ≤ capacity) :
    (buffer.overwrite bytes).buf =
      bytes ++ buffer.buf.drop bytes.length := by
  have allocated := buffer.buf_length
  apply List.take_of_length_le
  rw [List.length_append, List.length_drop]
  omega

/-- Zeroing the whole allocation. -/
theorem buf_zero_all (buffer : WsaBuffer capacity) :
    (buffer.zero capacity).buf = List.replicate capacity 0 := by
  have allocated := buffer.buf_length
  rw [zero, buf_overwrite _ _ (by simp), List.length_replicate,
    List.drop_of_length_le (by omega), List.append_nil]

/-- Writing into a zeroed allocation leaves zeros behind the write. -/
theorem buf_overwrite_of_zero
    (buffer : WsaBuffer capacity) (bytes : List UInt8)
    (cleared : buffer.buf = List.replicate capacity 0)
    (fits : bytes.length ≤ capacity) :
    (buffer.overwrite bytes).buf =
      bytes ++ List.replicate (capacity - bytes.length) 0 := by
  rw [buf_overwrite _ _ fits, cleared, List.drop_replicate]

end WsaBuffer

/--
`Network::CustomOverlapped`, with the address of the object: `header` and
`body` are `Wsabuf[0]` and `Wsabuf[1]`.
-/
structure CustomOverlapped where
  address : Nat
  header : WsaBuffer headerSize
  body : WsaBuffer bufferSizeMax
  operationType : OperationType
  socket : Option SocketPointer
  senderType : SenderType

/-- The uninitialised memory of the two buffers of a new object. -/
structure BufferMemory where
  header : List UInt8
  body : List UInt8
  header_length : header.length = headerSize
  body_length : body.length = bufferSizeMax

instance : Inhabited BufferMemory where
  default :=
    { header := List.replicate headerSize 0
      body := List.replicate bufferSizeMax 0
      header_length := List.length_replicate
      body_length := List.length_replicate }

namespace CustomOverlapped

/-- The constructor; `memory` is what the two allocations hold. -/
def construct (address : Nat) (memory : BufferMemory) :
    CustomOverlapped where
  address := address
  header :=
    ⟨memory.header, headerSize, memory.header_length, Nat.le_refl _⟩
  body :=
    ⟨memory.body, bufferSizeMax, memory.body_length, Nat.le_refl _⟩
  operationType := .opDefault
  socket := none
  senderType := .default

/-- `Clear`. -/
def clear (overlapped : CustomOverlapped) : CustomOverlapped :=
  { overlapped with
    header :=
      (overlapped.header.zero headerSize).withLen headerSize (Nat.le_refl _)
    body :=
      (overlapped.body.zero overlapped.body.len).withLen
        bufferSizeMax (Nat.le_refl _)
    operationType := .opDefault
    senderType := .default
    socket := none }

/-- `AcceptSetting`. -/
def acceptSetting
    (overlapped : CustomOverlapped)
    (socket : SocketPointer) (senderType : SenderType) :
    CustomOverlapped :=
  { overlapped with
    operationType := .opAccept
    socket := some socket
    senderType := senderType }

/-- `ConnectSetting`. -/
def connectSetting
    (overlapped : CustomOverlapped)
    (socket : SocketPointer) (senderType : SenderType) :
    CustomOverlapped :=
  { overlapped with
    operationType := .opConnect
    socket := some socket
    senderType := senderType }

/-- `ReceiveSetting`. -/
def receiveSetting
    (overlapped : CustomOverlapped) (socket : SocketPointer) :
    CustomOverlapped :=
  { overlapped with
    operationType := .opRecv
    socket := some socket }

/--
`SendSetting`.  `bodyBuffer` is the string behind `c_str()`, which ends in a
NUL that may be read as well; `bodyLen` is not compared with anything.
-/
def sendSetting
    (overlapped : CustomOverlapped)
    (socket : SocketPointer)
    (headerData : MessageHeader)
    (bodyBuffer : List UInt8)
    (bodyLen : UInt32) :
    Except Fault CustomOverlapped :=
  let terminated := bodyBuffer ++ [0]
  if fits : bodyLen.toNat ≤ bufferSizeMax then
    if terminated.length < bodyLen.toNat then
      .error .bufferOverread
    else
      .ok
        { overlapped with
          socket := some socket
          operationType := .opSend
          header :=
            (overlapped.header.overwrite headerData.bytes).withLen
              headerSize (Nat.le_refl _)
          body :=
            ((overlapped.body.zero bodyLen.toNat).overwrite
              (terminated.take bodyLen.toNat)).withLen
                bodyLen.toNat fits }
  else
    .error .bufferOverrun

/-- The bytes a `WSASend` of both buffers puts on the stream. -/
def sentBytes (overlapped : CustomOverlapped) : List UInt8 :=
  overlapped.header.buf.take overlapped.header.len ++
    overlapped.body.buf.take overlapped.body.len

/-- The kernel's scatter of received bytes over both buffers. -/
def kernelReceive
    (overlapped : CustomOverlapped) (bytes : List UInt8) :
    CustomOverlapped :=
  { overlapped with
    header :=
      overlapped.header.overwrite (bytes.take overlapped.header.len)
    body :=
      overlapped.body.overwrite
        ((bytes.drop overlapped.header.len).take overlapped.body.len) }

/-- What a successful `SendSetting` leaves in the object. -/
theorem sendSetting_eq_ok
    {overlapped sent : CustomOverlapped}
    {socket : SocketPointer} {headerData : MessageHeader}
    {bodyBuffer : List UInt8} {bodyLen : UInt32}
    (done :
      overlapped.sendSetting socket headerData bodyBuffer bodyLen =
        .ok sent) :
    sent.address = overlapped.address ∧
      sent.operationType = .opSend ∧ sent.socket = some socket := by
  simp only [sendSetting] at done
  split_ifs at done
  cases done
  exact ⟨rfl, rfl, rfl⟩

/--
An object as the pool holds it: constructed or cleared, so the length field
of its body buffer covers the whole allocation.
-/
def Recycled (overlapped : CustomOverlapped) : Prop :=
  overlapped.body.len = bufferSizeMax

theorem recycled_construct (address : Nat) (memory : BufferMemory) :
    (construct address memory).Recycled :=
  rfl

/-- Clearing an object taken from the pool zeroes both allocations. -/
theorem Recycled.clear_zero
    {overlapped : CustomOverlapped} (recycled : overlapped.Recycled) :
    overlapped.clear.header.buf = List.replicate headerSize 0 ∧
      overlapped.clear.body.buf = List.replicate bufferSizeMax 0 := by
  refine ⟨overlapped.header.buf_zero_all, ?_⟩
  change (overlapped.body.zero overlapped.body.len).buf = _
  rw [recycled]
  exact overlapped.body.buf_zero_all

end CustomOverlapped

/-- `Network::Packet`. -/
structure Packet where
  senderType : Int32
  completionKey : CompletionKey
  contentsType : Int32
  buffer : List UInt8
deriving DecidableEq

end IocpServer.Network
