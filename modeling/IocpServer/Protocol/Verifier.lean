import IocpServer.Protocol.FlatBufferAccess
import IocpServer.Protocol.FlatBufferBuilder

/-!
# The verifier of the generated classes

`flatbuffers::Verifier` checks the offsets of a buffer before the accessors
follow them, and every generated class has a `Verify` for its table.  The
servers call neither.  The verifier runs on memory in which the buffer lies,
with a record of what it reads; a `size_t` has 64 bits.
-/

namespace IocpServer.Protocol

open IocpServer.Library

/-- `VerifierTemplate::Options`. -/
structure VerifierOptions where
  maxDepth : Nat
  maxTables : Nat
  checkAlignment : Bool
  maxSize : Nat

/-- The options of a verifier that is given none. -/
def VerifierOptions.standard : VerifierOptions where
  maxDepth := 64
  maxTables := 1000000
  checkAlignment := true
  maxSize := maxBufferSize

/-- `flatbuffers::Verifier`. -/
structure Verifier where
  size : Nat
  options : VerifierOptions
  depth : Nat
  numTables : Nat

namespace Verifier

/-- A verifier of a buffer. -/
def construct (size : Nat) (options : VerifierOptions) : Verifier where
  size := size
  options := options
  depth := 0
  numTables := 0

variable (verifier : Verifier)

/-- `Verify`: a range is within the buffer. -/
def verify (elem elemLen : Nat) : Bool :=
  decide (elemLen < verifier.size) &&
    decide (elem ≤ verifier.size - elemLen)

/-- `VerifyAlignment`, for an alignment that is a power of two. -/
def verifyAlignment (elem align : Nat) : Bool :=
  decide (elem % align = 0) || !verifier.options.checkAlignment

/-- `Verify<T>`, for a scalar of some bytes. -/
def verifyScalar (elem size : Nat) : Bool :=
  verifier.verifyAlignment elem size && verifier.verify elem size

/-- `VerifyField` of the verifier. -/
def verifyFieldAt (base elemOff size align : Nat) : Bool :=
  verifier.verifyAlignment (base + elemOff) align &&
    verifier.verify (base + elemOff) size

/-- `VerifyOffset` of the verifier: the offset, or zero. -/
def verifyOffsetAt (memory : Memory) (start : Nat) : Accessed Nat := do
  if verifier.verifyScalar start 4 = false then
    return 0
  else
    let o ← memory.readWord start 4
    if o = 0 then
      return 0
    else if o.toInt32 < 0 then
      return 0
    else if verifier.verify (start + o.toNat) 1 = false then
      return 0
    else
      return o.toNat

/-- `VerifyVectorOrString`: where the elements end, if they fit. -/
def verifyVectorOrString
    (memory : Memory) (vec elemSize : Nat) : Accessed (Option Nat) := do
  if verifier.verifyScalar vec 4 = false then
    return none
  else
    let size ← memory.readWord vec 4
    if size.toNat < verifier.options.maxSize / elemSize then
      let byteSize := 4 + elemSize * size.toNat
      if verifier.verify vec byteSize then
        return some (vec + byteSize)
      else
        return none
    else
      return none

/-- `VerifyString`, of a pointer that may be null. -/
def verifyString (memory : Memory) (str : Option Nat) : Accessed Bool :=
  match str with
  | none => pure true
  | some str => do
      let found ← verifier.verifyVectorOrString memory str 1
      match found with
      | none => return false
      | some stringEnd =>
          if verifier.verify stringEnd 1 = false then
            return false
          else
            let terminator ← memory.readWord stringEnd 1
            return terminator == 0

/-- `VerifyComplexity`. -/
def verifyComplexity : Bool × Verifier :=
  let entered :=
    { verifier with
      depth := verifier.depth + 1
      numTables := verifier.numTables + 1 }
  (decide (entered.depth ≤ entered.options.maxDepth) &&
    decide (entered.numTables ≤ entered.options.maxTables), entered)

/-- `EndTable`. -/
def endTable : Verifier :=
  { verifier with depth := verifier.depth - 1 }

/-- `VerifyTableStart`; the distance to the vtable is subtracted unsigned. -/
def verifyTableStart
    (memory : Memory) (table : Nat) : Accessed (Bool × Verifier) := do
  if verifier.verifyScalar table 4 = false then
    return (false, verifier)
  else
    let distance ← memory.readWord table 4
    let vtableo :=
      (((table : Int) - distance.toInt32.toInt) % 2 ^ 64).toNat
    let (simple, entered) := verifier.verifyComplexity
    if simple = false then
      return (false, entered)
    else if entered.verifyScalar vtableo 2 = false then
      return (false, entered)
    else
      let aligned ← memory.readWord vtableo 2
      if entered.verifyAlignment aligned.toNat 2 = false then
        return (false, entered)
      else
        let vsize ← memory.readWord vtableo 2
        return (decide (vsize.toNat % 2 = 0) &&
          entered.verify vtableo vsize.toNat, entered)

end Verifier

/-- What a generated `Verify` checks of a field. -/
inductive FieldCheck where
  /-- `VerifyField`, of a scalar aligned to its size. -/
  | scalar (field size : Nat)
  /-- `VerifyOffset`, and `VerifyString` of what the accessor returns. -/
  | string (field : Nat)
deriving DecidableEq, Repr

/-- The place of the field's entry in a vtable. -/
def FieldCheck.field : FieldCheck → Nat
  | .scalar field _ => field
  | .string field => field

/-- `VerifyField` of the table. -/
def verifyField
    (verifier : Verifier) (memory : Memory) (table field size align : Nat) :
    Accessed Bool := do
  let offset ← FlatBufferAccess.getOptionalFieldOffset memory table field
  if offset = 0 then
    return true
  else
    return verifier.verifyFieldAt table offset size align

/-- `VerifyOffset` of the table. -/
def verifyOffset
    (verifier : Verifier) (memory : Memory) (table field : Nat) :
    Accessed Bool := do
  let offset ← FlatBufferAccess.getOptionalFieldOffset memory table field
  if offset = 0 then
    return true
  else
    let o ← verifier.verifyOffsetAt memory (table + offset)
    return decide (o ≠ 0)

/-- `GetPointer`, null for a field that is left out. -/
def getPointer (memory : Memory) (table field : Nat) :
    Accessed (Option Nat) := do
  let offset ← FlatBufferAccess.getOptionalFieldOffset memory table field
  if offset = 0 then
    return none
  else
    let distance ← memory.readWord (table + offset : Nat) 4
    return some (table + offset + distance.toNat)

/-- The check of a field, behind `VerifyTableStart`. -/
def FieldCheck.verify
    (verifier : Verifier) (memory : Memory) (table : Nat) :
    FieldCheck → Accessed Bool
  | .scalar field size =>
      verifyField verifier memory table field size size
  | .string field => do
      let reachable ← verifyOffset verifier memory table field
      if reachable = false then
        return false
      else
        let str ← getPointer memory table field
        verifier.verifyString memory str

/-- The checks of a table, one after the other. -/
def verifyFields
    (verifier : Verifier) (memory : Memory) (table : Nat) :
    List FieldCheck → Accessed Bool
  | [] => pure true
  | check :: checks => do
      let passed ← check.verify verifier memory table
      if passed = false then
        return false
      else
        verifyFields verifier memory table checks

/-- A generated `Verify`. -/
def verifyTable
    (checks : List FieldCheck) (verifier : Verifier)
    (memory : Memory) (table : Nat) : Accessed (Bool × Verifier) := do
  let started ← verifier.verifyTableStart memory table
  if started.1 = false then
    return started
  else
    let passed ← verifyFields started.2 memory table checks
    if passed = false then
      return (false, started.2)
    else
      return (true, started.2.endTable)

/-- `FLATBUFFERS_MIN_BUFFER_SIZE`. -/
def minBufferSize : Nat := 4 + 4 + 2 + 2

/-- `VerifyBuffer`, with no identifier. -/
def verifyBuffer
    (checks : List FieldCheck) (verifier : Verifier) (memory : Memory) :
    Accessed Bool := do
  if verifier.size < minBufferSize then
    return false
  else
    let o ← verifier.verifyOffsetAt memory 0
    if o = 0 then
      return false
    else
      let passed ← verifyTable checks verifier memory o
      return passed.1

/-- `REQUEST_LOBBYINFO::Verify`. -/
def requestLobbyInfoChecks : List FieldCheck :=
  []

/-- `RESPONSE_LOBBYINFO::Verify`. -/
def responseLobbyInfoChecks : List FieldCheck :=
  [.scalar 4 1, .string 6, .scalar 8 4]

/-- `NOTICE_LOBBYREADY::Verify`. -/
def noticeLobbyReadyChecks : List FieldCheck :=
  [.string 4, .scalar 6 4, .scalar 8 4, .scalar 10 1]

/-- `NOTICE_LOBBYINFO::Verify`. -/
def noticeLobbyInfoChecks : List FieldCheck :=
  [.string 4, .scalar 6 4, .scalar 8 4, .scalar 10 1]

/-- `NOTICE_SECRETKEY::Verify`. -/
def noticeSecretKeyChecks : List FieldCheck :=
  [.string 4]

/-- `NOTICE_RESPONSESPEED::Verify`. -/
def noticeResponseSpeedChecks : List FieldCheck :=
  [.string 4, .scalar 6 4]

/-- The `Verify` of the class of a message. -/
def checksOf : MessageType → List FieldCheck
  | .requestLobbyInfo => requestLobbyInfoChecks
  | .responseLobbyInfo => responseLobbyInfoChecks
  | .noticeLobbyReady => noticeLobbyReadyChecks
  | .noticeLobbyInfo => noticeLobbyInfoChecks
  | .noticeSecretKey => noticeSecretKeyChecks
  | .noticeResponseSpeed => noticeResponseSpeedChecks

/-- A buffer of some size passes `VerifyBuffer` for a message. -/
def Verified (memory : Memory) (messageType : MessageType) (size : Nat) :
    Prop :=
  (verifyBuffer (checksOf messageType) (.construct size .standard)
      memory).value =
    true

end IocpServer.Protocol
