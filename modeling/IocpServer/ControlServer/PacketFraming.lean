import IocpServer.Library.ListCuts
import IocpServer.Network.CallPhases
import IocpServer.ControlServer.Hub

/-!
# Messages on a byte stream

`SendRequest` writes a header of twelve bytes and the body behind it.  The
receiver takes what one `WSARecv` brings as one message: it reads the header
at the start of the cleared buffers and the body behind it, and never looks
at the number of bytes received.

A completion is characterised by its bytes padded with the zeros of the
cleared buffers.  It carries a message when the padded bytes go on, behind
the sender type, with the header and the body of that message.
-/

namespace IocpServer.ControlServer

open IocpServer.Library
open IocpServer.Network
open IocpServer.Utility

/-- A message as `SendRequest` is given it. -/
structure Message where
  contentType : UInt32
  body : List UInt8
  nonempty : 1 ≤ body.length
  fits : body.length ≤ bufferSizeMax

namespace Message

/-- `BodySize`, the length of the body. -/
def bodySize (message : Message) : Int32 :=
  Int32.ofNat message.body.length

/-- The header `SendRequest` builds. -/
def header (senderType : SenderType) (message : Message) :
    MessageHeader where
  senderType := senderType.toUInt32
  bodySize := htonl message.bodySize.toUInt32
  contentsType := htonl message.contentType

/-- The bytes of a message on the connection. -/
def wire (senderType : SenderType) (message : Message) : List UInt8 :=
  (message.header senderType).bytes ++ message.body

/-- What the receiver has to make of a message. -/
def projection (message : Message) : Int32 × List UInt8 :=
  (message.contentType.toInt32, message.body)

theorem small (message : Message) :
    message.body.length < 2 ^ 31 :=
  Nat.lt_of_le_of_lt message.fits (by decide)

end Message

/-! ## Sending -/

/-- A write at the start of a buffer is what it then starts with. -/
theorem take_overwrite
    {capacity : Nat} (buffer : WsaBuffer capacity) (bytes : List UInt8)
    (fits : bytes.length ≤ capacity) :
    (buffer.overwrite bytes).buf.take bytes.length = bytes := by
  rw [buffer.buf_overwrite bytes fits, List.take_left']
  rfl

/-- The length of a body that fits, as `SendSetting` gets it. -/
theorem toNat_bodyLen
    {body : List UInt8} (fits : body.length ≤ bufferSizeMax) :
    (Int32.ofNat body.length).toUInt32.toNat = body.length := by
  rw [Int32.toUInt32_ofNat', UInt32.toNat_ofNat']
  unfold bufferSizeMax at fits
  omega

/-- `SendSetting` prepares a header and a body that fits. -/
theorem sendSetting_sentBytes
    (overlapped : CustomOverlapped)
    (socket : SocketPointer)
    (messageHeader : MessageHeader)
    {body : List UInt8} (fits : body.length ≤ bufferSizeMax) :
    ∃ posted,
      (OverlappedSetting.send socket messageHeader body
          (Int32.ofNat body.length)).set overlapped =
        .ok posted ∧
      posted.sentBytes = messageHeader.bytes ++ body := by
  have size := toNat_bodyLen fits
  have within :
      (Int32.ofNat body.length).toUInt32.toNat ≤ bufferSizeMax := by
    rw [size]
    exact fits
  have terminated :
      ¬ (body ++ [0]).length <
        (Int32.ofNat body.length).toUInt32.toNat := by
    rw [size, List.length_append]
    exact Nat.not_lt.mpr (Nat.le_add_right _ _)
  refine
    ⟨_, by
      simp only [OverlappedSetting.send,
        CustomOverlapped.sendSetting, dif_pos within, if_neg terminated]
      rfl, ?_⟩
  have argument :
      (body ++ [0]).take (Int32.ofNat body.length).toUInt32.toNat =
        body := by
    rw [size, List.take_left']
    rfl
  change
    (overlapped.header.overwrite messageHeader.bytes).buf.take
          headerSize ++
        ((overlapped.body.zero
            (Int32.ofNat body.length).toUInt32.toNat).overwrite
          ((body ++ [0]).take
            (Int32.ofNat body.length).toUInt32.toNat)).buf.take
              (Int32.ofNat body.length).toUInt32.toNat =
      _
  rw [argument, size, take_overwrite _ body fits]
  exact
    congrArg (· ++ body)
      (take_overwrite overlapped.header messageHeader.bytes
        (Nat.le_refl headerSize))

/--
A `SendRequest` of a body that fits, to a registered key, puts the header
and the body on the connection if it returns with its operation posted.
-/
theorem sendRequest_sentBytes
    {Owner : Type} {manager after : NetworkManager Owner}
    {targetSocket : CompletionKey} {socket : SocketPointer}
    {contentType : UInt32} {body : List UInt8} {answer : PostAnswer}
    (fits : body.length ≤ bufferSizeMax)
    (registered :
      manager.connectedSocketMap.lookup targetSocket = some socket)
    (accepted : answer.failed = false)
    (done :
      manager.sendRequest targetSocket contentType body
          (Int32.ofNat body.length) answer =
        .ok after) :
    ∃ posted,
      after.outstanding = manager.outstanding ++ [posted] ∧
        posted.socket = some socket ∧
          posted.sentBytes =
            MessageHeader.bytes
                ⟨manager.senderType.toUInt32,
                  htonl (Int32.ofNat body.length).toUInt32,
                  htonl contentType⟩ ++
              body := by
  rw [NetworkManager.sendRequest, registered] at done
  rcases Fallible.map_eq_ok.mp done with
    ⟨⟨result, reached⟩, posting, rfl⟩
  rcases NetworkManager.post_cases posting with
    ⟨overlapped, popped, posted, _, prepared, outcome⟩
  rcases sendSetting_sentBytes overlapped.clear socket _ fits with
    ⟨sent, prepares, bytes⟩
  have same : posted = sent :=
    Except.ok.inj (prepared.symm.trans prepares)
  rcases outcome with ⟨failed, _⟩ | ⟨_, _, rfl⟩
  · rw [accepted] at failed
    cases failed
  · refine ⟨posted, rfl, ?_, same ▸ bytes⟩
    exact (OverlappedSetting.set_ok _ prepared).2.2

/-- `SendRequest` puts the bytes of the message on the connection. -/
theorem sendRequest_wire
    {Owner : Type} {manager after : NetworkManager Owner}
    {targetSocket : CompletionKey} {socket : SocketPointer}
    {answer : PostAnswer}
    (message : Message)
    (registered :
      manager.connectedSocketMap.lookup targetSocket = some socket)
    (accepted : answer.failed = false)
    (done :
      manager.sendRequest targetSocket message.contentType message.body
          message.bodySize answer =
        .ok after) :
    ∃ posted,
      after.outstanding = manager.outstanding ++ [posted] ∧
        posted.socket = some socket ∧
          posted.sentBytes = message.wire manager.senderType :=
  sendRequest_sentBytes message.fits registered accepted done

/-! ## Receiving -/

/-- What one `WSARecv` into an object of the pool brings. -/
structure ReceiveCompletion where
  overlapped : CustomOverlapped
  recycled : overlapped.Recycled
  bytes : List UInt8
  nonempty : bytes ≠ []
  fits : bytes.length ≤ headerSize + bufferSizeMax

namespace ReceiveCompletion

/-- The object as the completion hands it to the handler. -/
def finished
    (completion : ReceiveCompletion) (socket : SocketPointer) :
    CustomOverlapped :=
  NetworkManager.received
    (completion.overlapped.clear.receiveSetting socket) completion.bytes

/-- The received bytes with the zeros of the cleared buffers behind them. -/
def padded (completion : ReceiveCompletion) : List UInt8 :=
  completion.bytes ++
    List.replicate
      (headerSize + bufferSizeMax - completion.bytes.length) 0

theorem padded_length (completion : ReceiveCompletion) :
    completion.padded.length = headerSize + bufferSizeMax := by
  have fits := completion.fits
  rw [padded, List.length_append, List.length_replicate]
  omega

/-- The first buffer holds the first twelve bytes. -/
theorem finished_header
    (completion : ReceiveCompletion) (socket : SocketPointer) :
    (completion.finished socket).header.buf =
      completion.padded.take headerSize := by
  have cleared := completion.recycled.clear_zero.1
  have written :=
    completion.overlapped.clear.header.buf_overwrite_of_zero
      (completion.bytes.take headerSize) cleared
      (List.length_take_le headerSize _)
  have fits := completion.fits
  calc
    (completion.finished socket).header.buf =
        completion.bytes.take headerSize ++
          List.replicate
            (headerSize - (completion.bytes.take headerSize).length)
            0 := written
    _ = completion.padded.take headerSize := by
        rw [padded, List.take_append, List.take_replicate,
          List.length_take]
        congr 2
        unfold bufferSizeMax headerSize
        omega

/-- The second buffer holds the bytes behind them. -/
theorem finished_body
    (completion : ReceiveCompletion) (socket : SocketPointer) :
    (completion.finished socket).body.buf =
      completion.padded.drop headerSize := by
  have cleared := completion.recycled.clear_zero.2
  have fits := completion.fits
  have restFits :
      (completion.bytes.drop headerSize).length ≤ bufferSizeMax := by
    rw [List.length_drop]
    omega
  have argument :
      (completion.bytes.drop headerSize).take bufferSizeMax =
        completion.bytes.drop headerSize :=
    List.take_of_length_le restFits
  have written :=
    completion.overlapped.clear.body.buf_overwrite_of_zero
      (completion.bytes.drop headerSize) cleared restFits
  calc
    (completion.finished socket).body.buf =
        (completion.overlapped.clear.body.overwrite
          ((completion.bytes.drop headerSize).take
            bufferSizeMax)).buf := rfl
    _ = completion.bytes.drop headerSize ++
          List.replicate
            (bufferSizeMax - (completion.bytes.drop headerSize).length)
            0 := by
        rw [argument, written]
    _ = completion.padded.drop headerSize := by
        rw [padded, List.drop_append, List.drop_replicate,
          List.length_drop]
        congr 2
        omega

end ReceiveCompletion

/-! ## One completion -/

/--
The completion brings the message: behind the sender type, its padded bytes
start with the message's header and body.
-/
def Carries
    (senderType : SenderType)
    (completion : ReceiveCompletion) (message : Message) : Prop :=
  (message.wire senderType).drop 4 <+: completion.padded.drop 4

/-- A header word is read back as the size it was made of. -/
theorem toInt32_eq_iff
    (word : UInt32) (count : Nat) (small : count < 2 ^ 31) :
    word.toInt32.toInt = count ↔ word = UInt32.ofNat count := by
  constructor
  · intro equal
    change word.toBitVec.toInt = count at equal
    rw [BitVec.toInt_eq_toNat_cond] at equal
    have bound := word.toBitVec.isLt
    apply UInt32.toNat_inj.mp
    rw [UInt32.toNat_ofNat']
    change word.toBitVec.toNat = _
    split at equal <;> omega
  · rintro rfl
    rw [UInt32.toInt32_ofNat', Int32.toInt_ofNat_of_lt small]

theorem toInt32_injective {first second : UInt32}
    (equal : first.toInt32 = second.toInt32) : first = second :=
  congrArg Int32.toUInt32 equal

/-- A string of as many bytes as the count says, if the buffer has them. -/
theorem stringOfBuffer_eq_ok
    {buf result : List UInt8} {count : Int32} :
    stringOfBuffer buf count = .ok result ↔
      count.toInt = result.length ∧ result <+: buf := by
  unfold stringOfBuffer
  constructor
  · intro done
    split_ifs at done with negative short
    cases done
    rw [List.length_take]
    refine ⟨?_, List.take_prefix _ _⟩
    omega
  · rintro ⟨length, ⟨rest, rfl⟩⟩
    rw [length, if_neg (by omega), if_neg (by simp)]
    simp

/-- The packet made of a completion, in terms of its padded bytes. -/
theorem packetOf_finished
    (completion : ReceiveCompletion)
    (socket : SocketPointer)
    (completionKey : CompletionKey)
    (packet : Packet) :
    packetOf completionKey (completion.finished socket) = .ok packet ↔
      stringOfBuffer (completion.padded.drop 12)
          (ntohl (bytesWord ((completion.padded.drop 4).take 4))).toInt32 =
        .ok packet.buffer ∧
      packet =
        { completionKey := completionKey
          senderType :=
            (ntohl (bytesWord (completion.padded.take 4))).toInt32
          contentsType :=
            (ntohl
              (bytesWord ((completion.padded.drop 8).take 4))).toInt32
          buffer := packet.buffer } := by
  have senderBytes :
      (completion.padded.take headerSize).take 4 =
        completion.padded.take 4 := by
    rw [List.take_take]
    rfl
  have sizeBytes :
      ((completion.padded.take headerSize).drop 4).take 4 =
        (completion.padded.drop 4).take 4 := by
    rw [List.drop_take, List.take_take]
    rfl
  have contentsBytes :
      ((completion.padded.take headerSize).drop 8).take 4 =
        (completion.padded.drop 8).take 4 := by
    rw [List.drop_take, List.take_take]
    rfl
  simp only [packetOf, MessageHeader.ofBytes]
  rw [completion.finished_header, completion.finished_body,
    senderBytes, sizeBytes, contentsBytes]
  split
  · next fault refused =>
      rw [show (12 : Nat) = headerSize from rfl, refused]
      constructor
      · intro accepted
        cases accepted
      · rintro ⟨done, _⟩
        cases done
  · next buffer done =>
      rw [show (12 : Nat) = headerSize from rfl, done]
      constructor
      · rintro ⟨⟩
        exact ⟨rfl, rfl⟩
      · rintro ⟨equal, made⟩
        cases equal
        rw [← made]

/-- What carrying a message means for the fields that are read. -/
theorem carries_iff
    (senderType : SenderType)
    (completion : ReceiveCompletion)
    (message : Message) :
    Carries senderType completion message ↔
      ntohl (bytesWord ((completion.padded.drop 4).take 4)) =
          message.bodySize.toUInt32 ∧
        ntohl (bytesWord ((completion.padded.drop 8).take 4)) =
            message.contentType ∧
          message.body <+: completion.padded.drop 12 := by
  have length := completion.padded_length
  have sizeFour : ((completion.padded.drop 4).take 4).length = 4 := by
    rw [List.length_take, List.length_drop, length]
    rfl
  have contentsFour : ((completion.padded.drop 8).take 4).length = 4 := by
    rw [List.length_take, List.length_drop, length]
    rfl
  have received :
      completion.padded.drop 4 =
        (completion.padded.drop 4).take 4 ++
          ((completion.padded.drop 8).take 4 ++
            completion.padded.drop 12) := by
    have first := List.take_append_drop 4 (completion.padded.drop 4)
    have second := List.take_append_drop 4 (completion.padded.drop 8)
    rw [List.drop_drop] at first second
    rw [second, first]
  have sent :
      (message.wire senderType).drop 4 =
        (wordBytes message.bodySize.toUInt32).reverse ++
          ((wordBytes message.contentType).reverse ++ message.body) := by
    rw [← wordBytes_byteSwap, ← wordBytes_byteSwap,
      ← List.append_assoc]
    rfl
  have reversedFour (word : UInt32) :
      (wordBytes word).reverse.length = 4 := by
    rw [List.length_reverse, wordBytes_length]
  calc
    Carries senderType completion message ↔
        (wordBytes message.bodySize.toUInt32).reverse ++
            ((wordBytes message.contentType).reverse ++
              message.body) <+:
          (completion.padded.drop 4).take 4 ++
            ((completion.padded.drop 8).take 4 ++
              completion.padded.drop 12) := by
      rw [Carries, sent, ← received]
    _ ↔ (wordBytes message.bodySize.toUInt32).reverse =
            (completion.padded.drop 4).take 4 ∧
          (wordBytes message.contentType).reverse =
              (completion.padded.drop 8).take 4 ∧
            message.body <+: completion.padded.drop 12 := by
      rw [append_prefix_append_iff
          ((reversedFour _).trans sizeFour.symm),
        append_prefix_append_iff
          ((reversedFour _).trans contentsFour.symm)]
    _ ↔ _ := by
      rw [byteSwap_bytesWord_eq_iff sizeFour,
        byteSwap_bytesWord_eq_iff contentsFour]
      exact
        and_congr eq_comm (and_congr eq_comm Iff.rfl)

/--
The packet of a completion is the message if and only if the completion
carries it.
-/
theorem packetOf_projection_iff
    (senderType : SenderType)
    (completion : ReceiveCompletion)
    (socket : SocketPointer)
    (completionKey : CompletionKey)
    (message : Message) :
    (∃ packet,
        packetOf completionKey (completion.finished socket) =
            .ok packet ∧
          (packet.contentsType, packet.buffer) = message.projection) ↔
      Carries senderType completion message := by
  have bodySize :
      message.bodySize.toUInt32 = UInt32.ofNat message.body.length :=
    Int32.toUInt32_ofNat'
  rw [carries_iff]
  constructor
  · rintro ⟨packet, made, projected⟩
    rcases (packetOf_finished ..).mp made with ⟨buffer, fields⟩
    rcases stringOfBuffer_eq_ok.mp buffer with ⟨size, starts⟩
    have contents := congrArg Prod.fst projected
    have body : packet.buffer = message.body :=
      congrArg Prod.snd projected
    rw [fields] at contents
    rw [body] at size starts
    refine ⟨?_, toInt32_injective contents, starts⟩
    rw [bodySize]
    exact (toInt32_eq_iff _ _ message.small).mp size
  · rintro ⟨size, contents, starts⟩
    refine
      ⟨{ completionKey := completionKey
         senderType :=
          (ntohl (bytesWord (completion.padded.take 4))).toInt32
         contentsType := message.contentType.toInt32
         buffer := message.body }, ?_, rfl⟩
    rw [packetOf_finished]
    constructor
    · apply stringOfBuffer_eq_ok.mpr
      rw [size, bodySize]
      exact ⟨(toInt32_eq_iff _ _ message.small).mpr rfl, starts⟩
    · rw [contents]

/-- `CallReceiveReady` leaves the owner's state alone. -/
theorem callReceiveReady_owner
    {Owner : Type} {manager after : NetworkManager Owner}
    {targetSocket : SocketPointer} {errorCode : Int}
    {answer : PostAnswer} {result : Bool}
    (done :
      manager.callReceiveReady targetSocket errorCode answer =
        .ok (result, after)) :
    after.owner = manager.owner := by
  unfold NetworkManager.callReceiveReady at done
  split at done
  · cases done
  · split_ifs at done
    · cases done
      rfl
    · rcases NetworkManager.post_cases done with
        ⟨_, _, _, _, _, ⟨_, _, rfl⟩ | ⟨_, _, rfl⟩⟩ <;> rfl

/--
The handler of a receive with data hands the object to `ProcessIocp` of the
hub, once.
-/
theorem handleReceiveComplete_processIocp
    {manager after : NetworkManager Hub}
    {completionKey : CompletionKey} {overlapped : CustomOverlapped}
    {bytes : Nat} {errorCode : Int} {answer : PostAnswer}
    (data : 0 < bytes)
    (done :
      manager.handleReceiveComplete Hub.callbacks completionKey
          overlapped bytes errorCode answer =
        .ok after) :
    manager.owner.processIocp completionKey overlapped =
      .ok after.owner := by
  unfold NetworkManager.handleReceiveComplete at done
  rw [if_neg (Nat.not_le.mpr data)] at done
  split at done
  · cases done
  · unfold NetworkManager.callIocpCallback at done
    have callback :
        Hub.callbacks.iocpCallback manager.owner completionKey
            overlapped =
          manager.owner.processIocp completionKey overlapped :=
      rfl
    rw [callback] at done
    cases processed :
        manager.owner.processIocp completionKey overlapped with
    | error fault =>
        rw [processed] at done
        cases done
    | ok hub =>
        rw [processed] at done
        rcases Fallible.map_eq_ok.mp done with
          ⟨⟨result, reached⟩, called, rfl⟩
        exact congrArg Except.ok (callReceiveReady_owner called).symm

/-! ## Whole streams -/

/--
The completions of one connection, whose bytes make up `stream` however it
was cut.
-/
structure ReceivedStream (stream : List UInt8) where
  completions : List ReceiveCompletion
  flatten_eq : (completions.map ReceiveCompletion.bytes).flatten = stream

/-- The callback of `HandleReceiveComplete`, completion by completion. -/
def Hub.receiveAll
    (hub : Hub) (socket : SocketPointer) :
    List ReceiveCompletion → Except Fault Hub
  | [] => .ok hub
  | completion :: rest =>
      (hub.processIocp socket (completion.finished socket)).bind
        fun after => after.receiveAll socket rest

/-- The part of a packet the receiving threads act on. -/
def projected : SharedPointer Packet → Option (Int32 × List UInt8)
  | .null => none
  | .to packet => some (packet.contentsType, packet.buffer)

/--
The packets pushed for the completions are exactly the messages, in order.
-/
def Delivers
    (packetQueueCapacity : Nat)
    (socket : SocketPointer)
    (completions : List ReceiveCompletion)
    (messages : List Message) : Prop :=
  ∃ hub,
    (Hub.construct packetQueueCapacity).receiveAll socket completions =
        .ok hub ∧
      hub.packetQueue.contents.map projected =
        messages.map fun message => some message.projection

theorem processIocp_finished
    (hub : Hub)
    (socket : SocketPointer)
    (completion : ReceiveCompletion) :
    hub.processIocp socket (completion.finished socket) =
      (packetOf socket (completion.finished socket)).map fun packet =>
        { hub with
          packetQueue := (hub.packetQueue.push (.to packet)).2 } := by
  unfold Hub.processIocp
  have receive :
      (completion.finished socket).operationType = .opRecv :=
    NetworkManager.received_operationType _ _
  rw [receive]
  cases packetOf socket (completion.finished socket) with
  | error fault => rfl
  | ok packet => rfl

/-- With room for all of them, the packets are appended in order. -/
theorem receiveAll_of_packets
    {socket : SocketPointer}
    {completions : List ReceiveCompletion} {packets : List Packet}
    (made :
      List.Forall₂
        (fun completion packet =>
          packetOf socket (completion.finished socket) = .ok packet)
        completions packets)
    (hub : Hub)
    (room :
      hub.packetQueue.contents.length + completions.length <
        hub.packetQueue.queueMaxSize) :
    ∃ after,
      hub.receiveAll socket completions = .ok after ∧
        after.packetQueue.contents =
          hub.packetQueue.contents ++ packets.map .to := by
  induction made generalizing hub with
  | nil => exact ⟨hub, rfl, (List.append_nil _).symm⟩
  | @cons completion packet rest packets head _ induction =>
      rw [List.length_cons] at room
      have appended :=
        (hub.packetQueue.push_of_room (.to packet) (by omega)).2
      have roomAfter :
          (hub.packetQueue.push (.to packet)).2.contents.length +
              rest.length <
            (hub.packetQueue.push (.to packet)).2.queueMaxSize := by
        rw [appended, LockFreeCircleQueue.queueMaxSize_push,
          List.length_append, List.length_singleton]
        omega
      rcases
        induction
          { hub with
            packetQueue := (hub.packetQueue.push (.to packet)).2 }
          roomAfter with
        ⟨after, received, contents⟩
      refine ⟨after, ?_, ?_⟩
      · rw [Hub.receiveAll, processIocp_finished, head]
        exact received
      · rw [contents, appended, List.append_assoc]
        rfl

/-- A run of completions that returns has made a packet of each. -/
theorem packets_of_receiveAll
    {socket : SocketPointer} {hub after : Hub}
    {completions : List ReceiveCompletion}
    (done : hub.receiveAll socket completions = .ok after) :
    ∃ packets,
      List.Forall₂
        (fun completion packet =>
          packetOf socket (completion.finished socket) = .ok packet)
        completions packets := by
  induction completions generalizing hub with
  | nil => exact ⟨[], .nil⟩
  | cons completion rest induction =>
      rw [Hub.receiveAll, processIocp_finished] at done
      cases made : packetOf socket (completion.finished socket) with
      | error fault =>
          rw [made] at done
          cases done
      | ok packet =>
          rw [made] at done
          rcases induction done with ⟨packets, links⟩
          exact ⟨packet :: packets, .cons made links⟩

theorem delivers_iff_carries
    (senderType : SenderType)
    (packetQueueCapacity : Nat)
    (socket : SocketPointer)
    (completions : List ReceiveCompletion)
    (messages : List Message)
    (room : completions.length ≤ packetQueueCapacity) :
    Delivers packetQueueCapacity socket completions messages ↔
      List.Forall₂ (Carries senderType) completions messages := by
  have free :
      (Hub.construct packetQueueCapacity).packetQueue.contents.length +
          completions.length <
        (Hub.construct packetQueueCapacity).packetQueue.queueMaxSize := by
    rw [Hub.construct, LockFreeCircleQueue.contents_construct,
      LockFreeCircleQueue.queueMaxSize_construct, List.length_nil]
    omega
  have projects (packets : List Packet) :
      (packets.map SharedPointer.to).map projected =
          messages.map (fun message => some message.projection) ↔
        packets.map (fun packet => (packet.contentsType, packet.buffer)) =
          messages.map Message.projection := by
    have wrapped :
        messages.map (fun message => some message.projection) =
          (messages.map Message.projection).map some := by
      rw [List.map_map]
      rfl
    have unwrapped :
        (packets.map SharedPointer.to).map projected =
          (packets.map fun packet =>
            (packet.contentsType, packet.buffer)).map some := by
      rw [List.map_map, List.map_map]
      rfl
    rw [wrapped, unwrapped]
    exact List.map_inj_right fun _ _ => Option.some.inj
  calc
    Delivers packetQueueCapacity socket completions messages ↔
        ∃ packets,
          List.Forall₂
              (fun completion packet =>
                packetOf socket (completion.finished socket) =
                  .ok packet)
              completions packets ∧
            packets.map
                (fun packet => (packet.contentsType, packet.buffer)) =
              messages.map Message.projection := by
      constructor
      · rintro ⟨hub, received, contents⟩
        rcases packets_of_receiveAll received with ⟨packets, made⟩
        rcases receiveAll_of_packets made _ free with
          ⟨after, receives, appended⟩
        have same : hub = after :=
          Except.ok.inj (received.symm.trans receives)
        rw [same, appended] at contents
        exact ⟨packets, made, (projects packets).mp contents⟩
      · rintro ⟨packets, made, equal⟩
        rcases receiveAll_of_packets made _ free with
          ⟨after, receives, appended⟩
        refine ⟨after, receives, ?_⟩
        rw [appended]
        exact (projects packets).mpr equal
    _ ↔ List.Forall₂ (Carries senderType) completions messages := by
      rw [exists_forall₂_map_eq_iff]
      have sameRelation :
          (fun (completion : ReceiveCompletion) (message : Message) =>
            ∃ packet,
              packetOf socket (completion.finished socket) =
                  .ok packet ∧
                (packet.contentsType, packet.buffer) =
                  message.projection) =
            Carries senderType := by
        funext completion message
        exact
          propext
            (packetOf_projection_iff senderType completion socket socket
              message)
      rw [sameRelation]

/-! ## Completions that carry whole messages -/

/-- A completion whose bytes are those of a message carries it. -/
theorem carries_of_eq
    {senderType : SenderType} {completion : ReceiveCompletion}
    {message : Message}
    (whole : completion.bytes = message.wire senderType) :
    Carries senderType completion message := by
  rw [Carries, ReceiveCompletion.padded, whole]
  exact (List.prefix_append _ _).drop 4

/--
A completion that carries a message not ending in a zero byte holds at least
as many bytes: the padding cannot stand for the last one.
-/
theorem Carries.length_le
    {senderType : SenderType} {completion : ReceiveCompletion}
    {message : Message}
    (carried : Carries senderType completion message)
    (visible : message.body.getLast? ≠ some 0) :
    (message.wire senderType).length ≤ completion.bytes.length := by
  by_contra shorter
  rcases carried with ⟨rest, equal⟩
  have nonempty := message.nonempty
  have wireLength :
      (message.wire senderType).length = 12 + message.body.length :=
    List.length_append
  -- the last byte of the message lies in the padding
  have last :
      (message.wire senderType)[12 + message.body.length - 1]? =
        completion.padded[12 + message.body.length - 1]? := by
    have atLast :=
      congrArg (fun bytes => bytes[8 + message.body.length - 1]?) equal
    rw [List.getElem?_append_left (by
        rw [List.length_drop, wireLength]
        omega),
      List.getElem?_drop, List.getElem?_drop] at atLast
    rw [show 12 + message.body.length - 1 =
      4 + (8 + message.body.length - 1) by omega]
    exact atLast
  have inBody :
      (message.wire senderType)[12 + message.body.length - 1]? =
        message.body.getLast? := by
    rw [Message.wire,
      List.getElem?_append_right (by
        rw [MessageHeader.bytes_length]
        unfold headerSize
        omega),
      List.getLast?_eq_getElem?, MessageHeader.bytes_length]
    congr 1
    unfold headerSize
    omega
  have fits := message.fits
  have inPadding :
      completion.padded[12 + message.body.length - 1]? = some 0 := by
    rw [ReceiveCompletion.padded,
      List.getElem?_append_right (by omega)]
    apply List.getElem?_replicate_of_lt
    unfold headerSize
    omega
  apply visible
  rw [← inBody, last, inPadding]

theorem carried_lengths
    {senderType : SenderType} {completions : List ReceiveCompletion}
    {messages : List Message}
    (carries :
      List.Forall₂ (Carries senderType) completions messages)
    (visible :
      ∀ message ∈ messages, message.body.getLast? ≠ some 0) :
    List.Forall₂
      (fun (completion : ReceiveCompletion) (message : Message) =>
        (message.wire senderType).length ≤ completion.bytes.length)
      completions messages := by
  induction carries with
  | nil => exact .nil
  | cons head _ induction =>
      rw [List.forall_mem_cons] at visible
      exact .cons (head.length_le visible.1) (induction visible.2)

/--
The packets are the messages if and only if the completions carry them one
by one.  When no body ends in a zero byte, this is the case only if every
completion brings one whole message and nothing else.
-/
theorem messages_delivered_iff
    (senderType : SenderType)
    (packetQueueCapacity : Nat)
    (socket : SocketPointer)
    (messages : List Message)
    (received :
      ReceivedStream (messages.map (Message.wire senderType)).flatten)
    (room : received.completions.length ≤ packetQueueCapacity) :
    (Delivers packetQueueCapacity socket received.completions messages ↔
        List.Forall₂ (Carries senderType) received.completions
          messages) ∧
      ((∀ message ∈ messages, message.body.getLast? ≠ some 0) →
        (Delivers packetQueueCapacity socket received.completions
            messages ↔
          received.completions.map ReceiveCompletion.bytes =
            messages.map (Message.wire senderType))) := by
  have carried :=
    delivers_iff_carries senderType packetQueueCapacity socket
      received.completions messages room
  refine ⟨carried, fun visible => carried.trans ?_⟩
  constructor
  · intro carries
    apply cuts_eq_of_length_le _ received.flatten_eq
    rw [List.forall₂_map_left_iff, List.forall₂_map_right_iff]
    exact carried_lengths carries visible
  · intro whole
    have pieces :
        List.Forall₂ (· = ·)
          (received.completions.map ReceiveCompletion.bytes)
          (messages.map (Message.wire senderType)) := by
      rw [whole]
      exact List.forall₂_same.mpr fun _ _ => rfl
    rw [List.forall₂_map_left_iff, List.forall₂_map_right_iff] at pieces
    exact pieces.imp fun _ _ => carries_of_eq

/-- A completion into a new object. -/
def completionOf
    (bytes : List UInt8)
    (nonempty : bytes ≠ [])
    (fits : bytes.length ≤ headerSize + bufferSizeMax) :
    ReceiveCompletion where
  overlapped := .construct 0 default
  recycled := CustomOverlapped.recycled_construct 0 default
  bytes := bytes
  nonempty := nonempty
  fits := fits

/-- A request with a body of one byte. -/
def oneByteMessage : Message where
  contentType := 1
  body := [7]
  nonempty := by decide
  fits := by decide

/-- A notice with a body of two bytes. -/
def twoByteMessage : Message where
  contentType := 2
  body := [8, 9]
  nonempty := by decide
  fits := by decide

/-- Both messages, each in one completion. -/
def receivedWhole :
    ReceivedStream
      ([oneByteMessage, twoByteMessage].map
        (Message.wire .client)).flatten where
  completions :=
    [completionOf [4, 0, 0, 0, 0, 0, 0, 1, 0, 0, 0, 1, 7]
        (by decide) (by decide),
      completionOf [4, 0, 0, 0, 0, 0, 0, 2, 0, 0, 0, 2, 8, 9]
        (by decide) (by decide)]
  flatten_eq := by decide

/-- The header in one completion and the body in the next. -/
def receivedSplit :
    ReceivedStream
      ([oneByteMessage].map (Message.wire .client)).flatten where
  completions :=
    [completionOf [4, 0, 0, 0, 0, 0, 0, 1, 0, 0, 0, 1]
        (by decide) (by decide),
      completionOf [7] (by decide) (by decide)]
  flatten_eq := by decide

/-- Two messages in a completion each are delivered, in their order. -/
theorem messages_delivered_whole :
    Delivers 2 2 receivedWhole.completions [oneByteMessage, twoByteMessage] :=
  ((messages_delivered_iff .client 2 2 [oneByteMessage, twoByteMessage]
    receivedWhole (by decide)).2 (by decide)).mpr (by decide)

/--
A message whose header and body arrive in two completions makes two packets,
neither of which is the message.
-/
theorem messages_split :
    ¬ ∀ (senderType : SenderType) (packetQueueCapacity : Nat)
        (socket : SocketPointer) (messages : List Message)
        (received :
          ReceivedStream
            (messages.map (Message.wire senderType)).flatten),
      received.completions.length ≤ packetQueueCapacity →
        Delivers packetQueueCapacity socket received.completions
          messages := by
  intro delivered
  have carried :=
    (delivers_iff_carries .client 2 2 receivedSplit.completions
      [oneByteMessage] (by decide)).mp
        (delivered .client 2 2 [oneByteMessage] receivedSplit
          (by decide))
  cases carried.length_eq

end IocpServer.ControlServer
