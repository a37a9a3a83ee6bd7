import IocpServer.ControlServer.PacketFraming
import IocpServer.LobbyServer.LobbyHub

/-!
# What a hub makes of one receive

The control hub and the lobby hub read a finished receive in the same way:
three words of header, each through `ntohl`, and as many bytes of body as
the second word says.  `SendRequest` swaps two of the three words, and
nothing compares the second word with the number of bytes that arrived.
-/

namespace IocpServer.LobbyServer

open IocpServer.ControlServer
open IocpServer.Library
open IocpServer.Network
open IocpServer.Utility

/-- The packets of a hub. -/
abbrev PacketQueue := LockFreeCircleQueue (SharedPointer Packet)

/-- The packet queue of a hub behind its callback for a finished receive. -/
def receivePacket
    (packetQueue : PacketQueue) (receiver : SocketPointer)
    (completion : ReceiveCompletion) : Except Fault PacketQueue :=
  (packetOf receiver (completion.finished receiver)).map fun packet =>
    (packetQueue.push (.to packet)).2

/-- The control hub's callback. -/
theorem processIocp_receivePacket
    (hub : Hub) (receiver : SocketPointer)
    (completion : ReceiveCompletion) :
    hub.processIocp receiver (completion.finished receiver) =
      (receivePacket hub.packetQueue receiver completion).map
        fun packetQueue => { hub with packetQueue := packetQueue } := by
  rw [processIocp_finished, receivePacket]
  cases packetOf receiver (completion.finished receiver) with
  | error fault => rfl
  | ok packet => rfl

/-- The lobby hub's callback. -/
theorem LobbyHub.processIocp_receivePacket
    (hub : LobbyHub) (receiver : SocketPointer)
    (completion : ReceiveCompletion) :
    hub.processIocp receiver (completion.finished receiver) =
      (receivePacket hub.packetQueue receiver completion).map
        fun packetQueue => { hub with packetQueue := packetQueue } := by
  have receive :
      (completion.finished receiver).operationType = .opRecv :=
    NetworkManager.received_operationType _ _
  rw [LobbyHub.processIocp, receive, receivePacket]
  cases packetOf receiver (completion.finished receiver) with
  | error fault => rfl
  | ok packet => rfl

/-! ## A message that arrives whole -/

/-- What the receiving hub has to make of a message. -/
structure ReceivedUnchanged
    (senderType : SenderType) (contentType : UInt32) (body : List UInt8)
    (packet : Packet) : Prop where
  senderType : packet.senderType.toInt = senderType.toUInt32.toNat
  contentsType : packet.contentsType.toInt = contentType.toNat
  buffer : packet.buffer = body

/-- The packet both hubs push for a finished receive. -/
structure Receives
    (receiver : SocketPointer) (completion : ReceiveCompletion)
    (packet : Packet) : Prop where
  packetOf_eq :
    packetOf receiver (completion.finished receiver) = .ok packet
  control :
    ∀ hub : Hub,
      hub.processIocp receiver (completion.finished receiver) =
        .ok { hub with packetQueue := (hub.packetQueue.push (.to packet)).2 }
  lobby :
    ∀ hub : LobbyHub,
      hub.processIocp receiver (completion.finished receiver) =
        .ok { hub with packetQueue := (hub.packetQueue.push (.to packet)).2 }

theorem receives_iff
    {receiver : SocketPointer} {completion : ReceiveCompletion}
    {packet : Packet} :
    Receives receiver completion packet ↔
      packetOf receiver (completion.finished receiver) = .ok packet := by
  constructor
  · intro receives
    exact receives.packetOf_eq
  · intro made
    exact
      { packetOf_eq := made
        control := by
          intro hub
          rw [processIocp_receivePacket, receivePacket, made]
          rfl
        lobby := by
          intro hub
          rw [LobbyHub.processIocp_receivePacket, receivePacket, made]
          rfl }

/-- The packet of a completion that brings a header and its whole body. -/
theorem receives_of_bytes
    (receiver : SocketPointer) (messageHeader : MessageHeader)
    {completion : ReceiveCompletion} {body : List UInt8}
    (fits : body.length ≤ bufferSizeMax)
    (size :
      ntohl messageHeader.bodySize =
        (Int32.ofNat body.length).toUInt32)
    (arrived : completion.bytes = messageHeader.bytes ++ body) :
    Receives receiver completion
      { completionKey := receiver
        senderType := (ntohl messageHeader.senderType).toInt32
        contentsType := (ntohl messageHeader.contentsType).toInt32
        buffer := body } := by
  have small : body.length < 2 ^ 31 :=
    Nat.lt_of_le_of_lt fits (by decide)
  have padded :
      completion.padded =
        wordBytes messageHeader.senderType ++
          (wordBytes messageHeader.bodySize ++
            (wordBytes messageHeader.contentsType ++
              (body ++
                List.replicate
                  (headerSize + bufferSizeMax - completion.bytes.length)
                  0))) := by
    rw [ReceiveCompletion.padded, arrived, MessageHeader.bytes]
    simp only [List.append_assoc]
  have senderWord :
      bytesWord (completion.padded.take 4) = messageHeader.senderType := by
    rw [padded]
    exact bytesWord_wordBytes _
  have sizeWord :
      bytesWord ((completion.padded.drop 4).take 4) =
        messageHeader.bodySize := by
    rw [padded]
    exact bytesWord_wordBytes _
  have contentsWord :
      bytesWord ((completion.padded.drop 8).take 4) =
        messageHeader.contentsType := by
    rw [padded]
    exact bytesWord_wordBytes _
  have starts : body <+: completion.padded.drop 12 := by
    rw [padded]
    exact List.prefix_append _ _
  apply receives_iff.mpr
  rw [packetOf_finished, senderWord, sizeWord, contentsWord, size]
  refine ⟨?_, rfl⟩
  apply stringOfBuffer_eq_ok.mpr
  refine ⟨?_, starts⟩
  exact (toInt32_eq_iff _ _ small).mpr Int32.toUInt32_ofNat'

/-- The sender type, which is not swapped when it is sent. -/
theorem swapped_senderType_iff (senderType : SenderType) :
    (ntohl senderType.toUInt32).toInt32.toInt =
        senderType.toUInt32.toNat ↔
      senderType = .default := by
  cases senderType <;> decide

/-- The packet of a message that arrives in one completion. -/
theorem sent_message_receives
    {Owner : Type} {sender after : NetworkManager Owner}
    {targetSocket : CompletionKey} {socket : SocketPointer}
    {contentType : UInt32} {body : List UInt8} {answer : PostAnswer}
    (fits : body.length ≤ bufferSizeMax)
    (registered :
      sender.connectedSocketMap.lookup targetSocket = some socket)
    (accepted : answer.failed = false)
    (done :
      sender.sendRequest targetSocket contentType body
          (Int32.ofNat body.length) answer =
        .ok after)
    {posted : CustomOverlapped}
    (queued : after.outstanding = sender.outstanding ++ [posted])
    {completion : ReceiveCompletion}
    (arrived : completion.bytes = posted.sentBytes)
    (receiver : SocketPointer) :
    Receives receiver completion
      { completionKey := receiver
        senderType := (ntohl sender.senderType.toUInt32).toInt32
        contentsType := contentType.toInt32
        buffer := body } := by
  rcases sendRequest_sentBytes fits registered accepted done with
    ⟨sent, appended, -, bytes⟩
  have same : posted = sent := by
    rw [queued, List.append_cancel_left_eq] at appended
    exact List.head_eq_of_cons_eq appended
  rw [same, bytes] at arrived
  have receives :=
    receives_of_bytes receiver
      ⟨sender.senderType.toUInt32,
        htonl (Int32.ofNat body.length).toUInt32, htonl contentType⟩
      fits (byteSwap_byteSwap _) arrived
  rw [show ntohl (htonl contentType) = contentType from
    byteSwap_byteSwap _] at receives
  exact receives

/--
A message sent with `SendRequest` whose bytes arrive in one completion makes
a packet with its content type and its body.  The packet names the sender if
and only if the sender's type is zero, since this word alone is swapped by
the receiver only.
-/
theorem sent_message_unchanged_iff
    {Owner : Type} {sender after : NetworkManager Owner}
    {targetSocket : CompletionKey} {socket : SocketPointer}
    {contentType : UInt32} {body : List UInt8} {answer : PostAnswer}
    (small : contentType.toNat < 2 ^ 31)
    (fits : body.length ≤ bufferSizeMax)
    (registered :
      sender.connectedSocketMap.lookup targetSocket = some socket)
    (accepted : answer.failed = false)
    (done :
      sender.sendRequest targetSocket contentType body
          (Int32.ofNat body.length) answer =
        .ok after)
    {posted : CustomOverlapped}
    (queued : after.outstanding = sender.outstanding ++ [posted])
    {completion : ReceiveCompletion}
    (arrived : completion.bytes = posted.sentBytes)
    (receiver : SocketPointer) :
    ((∃ packet,
        Receives receiver completion packet ∧
          ReceivedUnchanged sender.senderType contentType body packet) ↔
        sender.senderType = .default) ∧
      ∃ packet,
        Receives receiver completion packet ∧
          packet.contentsType.toInt = contentType.toNat ∧
            packet.buffer = body := by
  have receives :=
    sent_message_receives fits registered accepted done queued arrived
      receiver
  have contents : contentType.toInt32.toInt = contentType.toNat := by
    rw [toInt32_eq_iff _ _ small, UInt32.ofNat_toNat]
  refine ⟨?_, ⟨_, receives, contents, rfl⟩⟩
  rw [← swapped_senderType_iff]
  constructor
  · rintro ⟨packet, made, unchanged⟩
    have same :=
      Except.ok.inj (made.packetOf_eq.symm.trans receives.packetOf_eq)
    rw [← unchanged.senderType, same]
  · intro named
    exact ⟨_, receives, named, contents, rfl⟩

/-- A lobby with one registered connection. -/
def connectedLobby : NetworkManager Unit :=
  { (NetworkManager.setupAt (fun _ => 5) .lobbyServer 1 0 (fun _ => default)
      ()).newSocket with
    connectedSocketMap := Finmap.singleton 5 5 }

/-- The lobby behind a `SendRequest` of one byte. -/
def oneByteSent : Except Fault (NetworkManager Unit) :=
  connectedLobby.sendRequest 5 3 [7] 1 .success

/-- The operation posted by it. -/
def oneByteOperation : CustomOverlapped :=
  (oneByteSent.toOption.bind fun after => after.outstanding.head?).getD
    (.construct 0 default)

/-- Its bytes in one completion. -/
def oneByteArrived : ReceiveCompletion :=
  completionOf oneByteOperation.sentBytes (by decide) (by decide)

theorem oneByteSent_eq :
    ∃ after,
      oneByteSent = .ok after ∧
        after.outstanding =
          connectedLobby.outstanding ++ [oneByteOperation] :=
  ⟨_, rfl, rfl⟩

/-- The content type and the body of the lobby's message survive. -/
theorem sent_message_lobby :
    ∃ packet,
      Receives 9 oneByteArrived packet ∧
        packet.contentsType.toInt = 3 ∧ packet.buffer = [7] := by
  rcases oneByteSent_eq with ⟨after, done, queued⟩
  exact
    (sent_message_unchanged_iff (by decide) (by decide)
      (Finmap.lookup_singleton_eq : connectedLobby.connectedSocketMap.lookup
        5 = some 5) (by decide) done queued rfl 9).2

/-- The packet of the lobby's message names another sender. -/
theorem sent_message_sender_swapped :
    ¬ ∀ (sender after : NetworkManager Unit)
        (targetSocket : CompletionKey) (socket : SocketPointer)
        (contentType : UInt32) (body : List UInt8) (answer : PostAnswer),
      contentType.toNat < 2 ^ 31 →
        body.length ≤ bufferSizeMax →
          sender.connectedSocketMap.lookup targetSocket = some socket →
            answer.failed = false →
              sender.sendRequest targetSocket contentType body
                  (Int32.ofNat body.length) answer =
                .ok after →
                ∀ (posted : CustomOverlapped)
                  (completion : ReceiveCompletion)
                  (receiver : SocketPointer),
                  after.outstanding = sender.outstanding ++ [posted] →
                    completion.bytes = posted.sentBytes →
                      ∃ packet,
                        Receives receiver completion packet ∧
                          ReceivedUnchanged sender.senderType contentType
                            body packet := by
  intro survives
  rcases oneByteSent_eq with ⟨after, done, queued⟩
  have registered : connectedLobby.connectedSocketMap.lookup 5 = some 5 :=
    Finmap.lookup_singleton_eq
  rcases
    survives connectedLobby after 5 5 3 [7] .success (by decide)
      (by decide) registered (by decide) done oneByteOperation
      oneByteArrived 9 queued rfl with
    ⟨packet, made, unchanged⟩
  have receives :=
    sent_message_receives (by decide) registered (by decide) done queued
      (rfl : oneByteArrived.bytes = _) 9
  have same :=
    Except.ok.inj (made.packetOf_eq.symm.trans receives.packetOf_eq)
  have named := unchanged.senderType
  rw [same] at named
  exact absurd named (by decide)

/-! ## The length a header claims -/

/-- `BodySize`, with the zeros of the cleared buffer where it is cut short. -/
def claimedSize (completion : ReceiveCompletion) : Nat :=
  (ntohl (bytesWord ((completion.padded.drop 4).take 4))).toNat

/-- With a whole header, the claim is the header's. -/
theorem claimedSize_of_header
    {completion : ReceiveCompletion}
    (whole : headerSize ≤ completion.bytes.length) :
    claimedSize completion =
      (ntohl (MessageHeader.ofBytes completion.bytes).bodySize).toNat := by
  unfold headerSize at whole
  rw [claimedSize, ReceiveCompletion.padded,
    List.drop_append_of_le_length (by omega),
    List.take_append_of_le_length (by rw [List.length_drop]; omega)]
  rfl

/-- The queue has no room for another packet. -/
def Full (packetQueue : PacketQueue) : Prop :=
  packetQueue.contents.length + 1 = packetQueue.queueMaxSize

instance (packetQueue : PacketQueue) : Decidable (Full packetQueue) :=
  inferInstanceAs (Decidable (_ = _))

/--
The callback returns; the queue is unchanged or has got a packet whose
buffer consists of bytes that arrived behind the header.
-/
def OnlyArrived
    (packetQueue : PacketQueue) (completion : ReceiveCompletion)
    (result : Except Fault PacketQueue) : Prop :=
  ∃ after,
    result = .ok after ∧
      (after = packetQueue ∨
        ∃ packet,
          after = (packetQueue.push (.to packet)).2 ∧
            packet.buffer.length + headerSize ≤ completion.bytes.length ∧
              packet.buffer =
                (completion.bytes.drop headerSize).take
                  packet.buffer.length)

/-- A packet is made if and only if the claimed body fits the buffer. -/
theorem packetOf_eq_ok_iff
    {receiver : SocketPointer} {completion : ReceiveCompletion}
    {packet : Packet} :
    packetOf receiver (completion.finished receiver) = .ok packet ↔
      claimedSize completion ≤ bufferSizeMax ∧
        packet =
          { completionKey := receiver
            senderType :=
              (ntohl (bytesWord (completion.padded.take 4))).toInt32
            contentsType :=
              (ntohl
                (bytesWord ((completion.padded.drop 8).take 4))).toInt32
            buffer :=
              (completion.padded.drop headerSize).take
                (claimedSize completion) } := by
  have room :
      (completion.padded.drop headerSize).length = bufferSizeMax := by
    rw [List.length_drop, completion.padded_length, Nat.add_sub_cancel_left]
  have small {count : Nat} (bound : count ≤ bufferSizeMax) :
      count < 2 ^ 31 :=
    Nat.lt_of_le_of_lt bound (by decide)
  rw [packetOf_finished, stringOfBuffer_eq_ok]
  constructor
  · rintro ⟨⟨length, starts⟩, made⟩
    have bound := starts.length_le
    rw [show (12 : Nat) = headerSize from rfl, room] at bound
    have word := (toInt32_eq_iff _ _ (small bound)).mp length
    have claimed : claimedSize completion = packet.buffer.length := by
      rw [claimedSize, word, UInt32.toNat_ofNat']
      have below := small bound
      omega
    have body :
        packet.buffer =
          (completion.padded.drop headerSize).take packet.buffer.length :=
      List.prefix_iff_eq_take.mp starts
    refine ⟨claimed ▸ bound, ?_⟩
    rw [claimed, ← body]
    exact made
  · rintro ⟨bound, rfl⟩
    have length :
        ((completion.padded.drop headerSize).take
          (claimedSize completion)).length = claimedSize completion := by
      rw [List.length_take, room]
      exact Nat.min_eq_left bound
    refine ⟨⟨?_, List.take_prefix _ _⟩, rfl⟩
    rw [length, toInt32_eq_iff _ _ (small bound), claimedSize,
      UInt32.ofNat_toNat]

/-- The bytes of a body that has arrived are not the padding. -/
theorem take_padded
    (completion : ReceiveCompletion) {count : Nat}
    (arrived : headerSize + count ≤ completion.bytes.length) :
    (completion.padded.drop headerSize).take count =
      (completion.bytes.drop headerSize).take count := by
  rw [ReceiveCompletion.padded,
    List.drop_append_of_le_length (by omega),
    List.take_append_of_le_length (by rw [List.length_drop]; omega)]

/-- Pushes into a queue with room tell the packets apart. -/
theorem packet_of_push
    {packetQueue : PacketQueue} (room : ¬ Full packetQueue)
    {first second : SharedPointer Packet}
    (same : (packetQueue.push first).2 = (packetQueue.push second).2) :
    first = second := by
  have bound := packetQueue.size_lt
  rw [← LockFreeCircleQueue.contents_length] at bound
  have free : packetQueue.contents.length + 1 < packetQueue.queueMaxSize := by
    rw [Full] at room
    omega
  have contents := congrArg LockFreeCircleQueue.contents same
  rw [(packetQueue.push_of_room first free).2,
    (packetQueue.push_of_room second free).2,
    List.append_cancel_left_eq] at contents
  exact List.head_eq_of_cons_eq contents

/-- A push into a queue with room changes it. -/
theorem push_ne_self
    {packetQueue : PacketQueue} (room : ¬ Full packetQueue)
    (pointer : SharedPointer Packet) :
    (packetQueue.push pointer).2 ≠ packetQueue := by
  have bound := packetQueue.size_lt
  rw [← LockFreeCircleQueue.contents_length] at bound
  have free : packetQueue.contents.length + 1 < packetQueue.queueMaxSize := by
    rw [Full] at room
    omega
  intro same
  have contents := congrArg LockFreeCircleQueue.contents same
  rw [(packetQueue.push_of_room pointer free).2] at contents
  exact absurd (congrArg List.length contents) (by simp)

/--
What a receive makes of the packet queue: the claimed length decides, unless
the packet is lost anyway.
-/
theorem receivePacket_onlyArrived_iff
    (packetQueue : PacketQueue) (receiver : SocketPointer)
    (completion : ReceiveCompletion) :
    OnlyArrived packetQueue completion
        (receivePacket packetQueue receiver completion) ↔
      headerSize + claimedSize completion ≤ completion.bytes.length ∨
        Full packetQueue ∧ claimedSize completion ≤ bufferSizeMax := by
  have fits := completion.fits
  constructor
  · rintro ⟨after, done, outcome⟩
    rcases Fallible.map_eq_ok.mp done with ⟨made, packet, rfl⟩
    rcases packetOf_eq_ok_iff.mp packet with ⟨bound, rfl⟩
    by_cases full : Full packetQueue
    · exact .inr ⟨full, bound⟩
    · left
      rcases outcome with unchanged | ⟨arrived, pushed, length, -⟩
      · exact absurd unchanged (push_ne_self full _)
      · have same := packet_of_push full pushed
        cases same
        rw [List.length_take, List.length_drop,
          completion.padded_length] at length
        omega
  · intro condition
    have bound : claimedSize completion ≤ bufferSizeMax := by
      rcases condition with arrived | ⟨-, bound⟩
      · omega
      · exact bound
    have made :
        packetOf receiver (completion.finished receiver) = .ok _ :=
      packetOf_eq_ok_iff.mpr ⟨bound, rfl⟩
    have length :
        ((completion.padded.drop headerSize).take
          (claimedSize completion)).length = claimedSize completion := by
      rw [List.length_take, List.length_drop, completion.padded_length]
      omega
    refine ⟨_, by rw [receivePacket, made]; rfl, ?_⟩
    rcases condition with arrived | ⟨full, -⟩
    · right
      refine ⟨_, rfl, ?_, ?_⟩
      · rw [length, Nat.add_comm]
        exact arrived
      · rw [length]
        exact take_padded completion arrived
    · left
      exact congrArg Prod.snd (packetQueue.push_of_full _ full)

/-- What became of the packet queue of the control hub. -/
theorem packetQueue_processIocp
    (hub : Hub) (receiver : SocketPointer)
    (completion : ReceiveCompletion) :
    (hub.processIocp receiver (completion.finished receiver)).map
        Hub.packetQueue =
      receivePacket hub.packetQueue receiver completion := by
  rw [processIocp_receivePacket]
  cases receivePacket hub.packetQueue receiver completion with
  | error fault => rfl
  | ok packetQueue => rfl

/-- What became of the packet queue of a lobby. -/
theorem LobbyHub.packetQueue_processIocp
    (hub : LobbyHub) (receiver : SocketPointer)
    (completion : ReceiveCompletion) :
    (hub.processIocp receiver (completion.finished receiver)).map
        LobbyHub.packetQueue =
      receivePacket hub.packetQueue receiver completion := by
  rw [LobbyHub.processIocp_receivePacket]
  cases receivePacket hub.packetQueue receiver completion with
  | error fault => rfl
  | ok packetQueue => rfl

/--
Both hubs push only bytes that arrived, or leave their packet queue as it
is, if and only if the header claims no more than arrived behind it, or the
queue is full and the claim fits the buffer.
-/
theorem received_body_arrived_iff
    (receiver : SocketPointer) (completion : ReceiveCompletion) :
    (∀ hub : Hub,
      OnlyArrived hub.packetQueue completion
          ((hub.processIocp receiver (completion.finished receiver)).map
            Hub.packetQueue) ↔
        headerSize + claimedSize completion ≤ completion.bytes.length ∨
          Full hub.packetQueue ∧ claimedSize completion ≤ bufferSizeMax) ∧
      ∀ hub : LobbyHub,
        OnlyArrived hub.packetQueue completion
            ((hub.processIocp receiver (completion.finished receiver)).map
              LobbyHub.packetQueue) ↔
          headerSize + claimedSize completion ≤ completion.bytes.length ∨
            Full hub.packetQueue ∧
              claimedSize completion ≤ bufferSizeMax := by
  constructor
  · intro hub
    rw [packetQueue_processIocp]
    exact receivePacket_onlyArrived_iff hub.packetQueue receiver completion
  · intro hub
    rw [LobbyHub.packetQueue_processIocp]
    exact receivePacket_onlyArrived_iff hub.packetQueue receiver completion

/-- A bare header that claims one byte of body. -/
def claimsOneByte : ReceiveCompletion :=
  completionOf [0, 0, 0, 4, 0, 0, 0, 1, 0, 0, 0, 1] (by decide) (by decide)

/-- The hub pushes a byte that did not arrive. -/
theorem received_body_not_arrived :
    ¬ ∀ (hub : Hub) (receiver : SocketPointer)
        (completion : ReceiveCompletion),
      OnlyArrived hub.packetQueue completion
        ((hub.processIocp receiver (completion.finished receiver)).map
          Hub.packetQueue) := by
  intro arrives
  have arrived := arrives (.construct 1) 2 claimsOneByte
  rw [packetQueue_processIocp, receivePacket_onlyArrived_iff] at arrived
  have size : claimedSize claimsOneByte = 1 :=
    claimedSize_of_header (by decide)
  rw [size] at arrived
  rcases arrived with whole | ⟨full, -⟩
  · exact absurd whole (by decide)
  · exact absurd full (by decide)

end IocpServer.LobbyServer
