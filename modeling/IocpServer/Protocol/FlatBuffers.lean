import IocpServer.Library.Words
import IocpServer.Protocol.ControlServerProtocol

/-!
# The fields of a received message

A table is a position in a buffer; its vtable, behind a signed distance, has
for each field a distance from the table, and zero for a field that is left
out.  `none` is a read outside the buffer, or through the null pointer of a
string that is left out.  The zero behind the last byte of a `std::string`
may be read.
-/

namespace IocpServer.Protocol

open IocpServer.Library

/-- The bytes of a scalar, as a number. -/
def readScalar (buffer : ByteString) (position : Int) (size : Nat) :
    Option UInt32 :=
  if 0 ≤ position ∧ position + size ≤ buffer.length + 1 then
    some (bytesWord (((buffer ++ [0]).drop position.toNat).take size))
  else
    none

/-- `flatbuffers::Table`. -/
structure Table where
  buffer : ByteString
  position : Int

/-- `flatbuffers::GetRoot`. -/
def getRoot (buffer : ByteString) : Option Table := do
  let offset ← readScalar buffer 0 4
  return { buffer := buffer, position := offset.toNat }

namespace Table

/-- `GetOptionalFieldOffset`. -/
def getOptionalFieldOffset (table : Table) (field : Nat) : Option Nat := do
  let distance ← readScalar table.buffer table.position 4
  let vtable := table.position - distance.toInt32.toInt
  let vtsize ← readScalar table.buffer vtable 2
  if field < vtsize.toNat then
    let offset ← readScalar table.buffer (vtable + field) 2
    return offset.toNat
  else
    return 0

/-- `GetField` of a field of some bytes, whose default is zero. -/
def getField (table : Table) (field size : Nat) : Option UInt32 := do
  let offset ← table.getOptionalFieldOffset field
  if offset = 0 then
    return 0
  else
    readScalar table.buffer (table.position + offset) size

/-- `GetPointer` to a string, and its `str()`. -/
def getString (table : Table) (field : Nat) : Option ByteString := do
  let offset ← table.getOptionalFieldOffset field
  if offset = 0 then
    none
  else
    let place := table.position + offset
    let distance ← readScalar table.buffer place 4
    let start := place + distance.toNat
    let length ← readScalar table.buffer start 4
    if start.toNat + 4 + length.toNat ≤ table.buffer.length then
      return (table.buffer.drop (start.toNat + 4)).take length.toNat
    else
      none

end Table

/-- The accessors of the generated classes. -/
def flatBuffers : MessageDecoder where
  noticeLobbyReady buffer := do
    let notice ← getRoot buffer
    let lobbyKey ← notice.getString 4
    let port ← notice.getField 6 4
    let capacity ← notice.getField 8 4
    let active ← notice.getField 10 1
    return {
      lobbyKey := lobbyKey
      port := port.toInt32
      capacity := capacity.toInt32
      active := active != 0 }
  noticeLobbyInfo buffer := do
    let notice ← getRoot buffer
    let lobbyKey ← notice.getString 4
    let current ← notice.getField 6 4
    let remain ← notice.getField 8 4
    let active ← notice.getField 10 1
    return {
      lobbyKey := lobbyKey
      current := current.toInt32
      remain := remain.toInt32
      active := active != 0 }

end IocpServer.Protocol
