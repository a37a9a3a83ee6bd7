import IocpServer.ControlServer.ReceivedOrder
import IocpServer.LobbyServer.SentReports

/-!
# A lobby and its control server

The threads of a lobby, the messages on its connections to the control server,
and the threads of the control server, which other connections use as well.
Every call of a thread of the lobby, and every step of the control server, is a
step of the whole.  A message arrives in one receive, whole and by itself, later
than any other one of its connection that was sent before, or never.
-/

namespace IocpServer.LobbyServer

open IocpServer.ControlServer
open IocpServer.Library
open IocpServer.Network
open IocpServer.Protocol
open IocpServer.Utility

/-- The two ends of the lobby's connections. -/
structure Peering where
  /-- The control server's key of a connection of the lobby. -/
  peer : CompletionKey → CompletionKey
  /-- The lobby's key of a connection, if it is one of the lobby. -/
  origin : CompletionKey → Option CompletionKey
  origin_eq_some :
    ∀ {completionKey own},
      origin completionKey = some own ↔ completionKey = peer own

theorem Peering.peer_injective (peering : Peering) :
    Function.Injective peering.peer := by
  intro first second same
  have origin := peering.origin_eq_some.mpr same
  rw [peering.origin_eq_some.mpr rfl] at origin
  exact Option.some.inj origin

/-- Both servers, with the messages of the lobby that have not arrived. -/
structure ConnectedServers (Thread Manager : Type) where
  lobby : ReportingLobby
  onWire : List WireMessage
  hub : HubState Thread Manager

inductive ServersEvent (Thread : Type) where
  | lobby (event : LobbyEvent)
  /-- The control server receives the oldest message of a connection. -/
  | deliver (connection : CompletionKey) (completion : ReceiveCompletion)
  | hub (event : HubEvent Thread)

namespace ConnectedServers

variable {Thread Manager : Type} [DecidableEq Thread]

/-- One step of one of the servers, or the arrival of a message. -/
def step (peering : Peering) (decoder : MessageDecoder)
    (callbacks : JobCallbacks Manager) (builder : ResponseBuilder)
    (state : ConnectedServers Thread Manager) :
    ServersEvent Thread → Option (ConnectedServers Thread Manager)
  | .lobby event =>
      (state.lobby.step event).map fun lobby =>
        { state with
          lobby := lobby
          onWire := state.onWire ++ state.lobby.sent lobby event }
  | .deliver connection completion =>
      match
        state.onWire.find? fun message => message.connection = connection,
        packetOf (peering.peer connection)
          (completion.finished (peering.peer connection))
      with
      | some message, .ok packet =>
          if connection ∈ state.lobby.controlConnections ∧
              completion.bytes = message.bytes then
            (state.hub.step decoder callbacks builder (.receive packet)).map
              fun hub =>
                { state with onWire := state.onWire.erase message, hub := hub }
          else
            none
      | _, _ => none
  | .hub event =>
      (state.hub.step decoder callbacks builder event).map fun hub =>
        { state with hub := hub }

/-- Both servers right behind their `Construct`. -/
def start (lobby : LobbyNetwork) (hub : HubState Thread Manager) :
    ConnectedServers Thread Manager where
  lobby := ⟨lobby, []⟩
  onWire := []
  hub := hub

end ConnectedServers

/-- Both servers as a transition system. -/
def serversSystem {Thread Manager : Type} [DecidableEq Thread]
    (peering : Peering) (decoder : MessageDecoder)
    (callbacks : JobCallbacks Manager) (builder : ResponseBuilder) :
    TransitionSystem (ConnectedServers Thread Manager)
      (ServersEvent Thread) where
  step := ConnectedServers.step peering decoder callbacks builder

/-- What the hub receives otherwise is not from the lobby. -/
def FromOthers {Thread Manager : Type} (peering : Peering)
    (_ : ConnectedServers Thread Manager) : ServersEvent Thread → Prop
  | .hub (.receive packet) => peering.origin packet.completionKey = none
  | _ => True

instance {Thread Manager : Type} (peering : Peering)
    (state : ConnectedServers Thread Manager) (event : ServersEvent Thread) :
    Decidable (FromOthers peering state event) := by
  unfold FromOthers
  split <;> infer_instance

/-! ## How many messages a connection has had -/

/-- The messages of a connection that were received or are on their way. -/
def ConnectedServers.tally {Thread Manager : Type} (peering : Peering)
    (state : ConnectedServers Thread Manager) (own : CompletionKey) : Nat :=
  (state.hub.received.map Packet.completionKey).count (peering.peer own) +
    (state.onWire.map WireMessage.connection).count own

/-- The reports for a connection that were executed. -/
def ReportingLobby.executedFor (lobby : ReportingLobby)
    (own : CompletionKey) : Nat :=
  (lobby.executed.map LobbyJob.socketPtr).count own

/-- Every report that is executed in the step is sent. -/
def ReportingLobby.Sends (lobby : ReportingLobby) (event : LobbyEvent) :
    Prop :=
  match lobby.step event with
  | none => True
  | some after =>
      after.executed.length =
        lobby.executed.length + (lobby.sent after event).length

instance (lobby : ReportingLobby) (event : LobbyEvent) :
    Decidable (lobby.Sends event) := by
  unfold ReportingLobby.Sends
  split <;> infer_instance

theorem foreign_packets {Thread Manager : Type} {peering : Peering}
    {state : ConnectedServers Thread Manager} {event : HubEvent Thread}
    (others : FromOthers peering state (.hub event)) :
    ∀ packet ∈ event.packets,
      peering.origin packet.completionKey = none := by
  cases event with
  | receive packet =>
      intro other member
      rw [List.mem_singleton.mp member]
      exact others
  | arrive => exact nofun
  | read => exact nofun
  | turnOff => exact nofun
  | work thread => exact nofun

theorem completionKey_packetOf {completionKey : CompletionKey}
    {overlapped : CustomOverlapped} {packet : Packet}
    (made : packetOf completionKey overlapped = .ok packet) :
    packet.completionKey = completionKey := by
  unfold packetOf at made
  dsimp only at made
  split at made
  · cases made
  · cases made
    rfl

section Tally

variable {Thread Manager : Type} [DecidableEq Thread]
variable {peering : Peering} {decoder : MessageDecoder}
variable {callbacks : JobCallbacks Manager} {builder : ResponseBuilder}
variable {state after : ConnectedServers Thread Manager}

/-- What the arrival of a message is to both servers. -/
theorem step_deliver {connection : CompletionKey}
    {completion : ReceiveCompletion}
    (taken :
      state.step peering decoder callbacks builder
          (.deliver connection completion) =
        some after) :
    ∃ message packet hub,
      message ∈ state.onWire ∧ message.connection = connection ∧
        message.connection ∈ state.lobby.controlConnections ∧
        completion.bytes = message.bytes ∧
        packetOf (peering.peer message.connection)
            (completion.finished (peering.peer message.connection)) =
          .ok packet ∧
        state.hub.step decoder callbacks builder (.receive packet) =
          some hub ∧
        after =
          { state with onWire := state.onWire.erase message, hub := hub } := by
  simp only [ConnectedServers.step] at taken
  split at taken
  · next message packet found made =>
      split_ifs at taken with arrives
      rcases Option.map_eq_some_iff.mp taken with ⟨hub, moved, rfl⟩
      have same : message.connection = connection := by
        have matched := List.find?_some found
        exact of_decide_eq_true matched
      subst same
      exact
        ⟨message, packet, hub, List.mem_of_find?_eq_some found, rfl,
          arrives.1, arrives.2, made, moved, rfl⟩
  · cases taken

/-- A message that is sent belongs to a report that was executed. -/
theorem tally_lobby {event : LobbyEvent}
    (taken :
      state.step peering decoder callbacks builder (.lobby event) =
        some after)
    (own : CompletionKey) :
    after.tally peering own + state.lobby.executedFor own ≤
        state.tally peering own + after.lobby.executedFor own ∧
      (state.lobby.Sends event →
        after.tally peering own + state.lobby.executedFor own =
          state.tally peering own + after.lobby.executedFor own) := by
  rcases Option.map_eq_some_iff.mp taken with ⟨lobby, moved, rfl⟩
  have one (job : LobbyJob) :
      lobby.executed = state.lobby.executed ++ [job] →
        lobby.executedFor own =
          state.lobby.executedFor own + [job.socketPtr].count own := by
    intro executed
    rw [ReportingLobby.executedFor, executed, List.map_append,
      List.count_append]
    rfl
  cases sending_step moved with
  | nothing executed sent =>
      have same : lobby.executedFor own = state.lobby.executedFor own :=
        congrArg (fun jobs => (jobs.map LobbyJob.socketPtr).count own) executed
      rw [sent, List.append_nil]
      exact ⟨(congrArg _ same.symm).le, fun _ => congrArg _ same.symm⟩
  | @refused job _ executed sent =>
      rw [sent, List.append_nil]
      change
        state.tally peering own + _ ≤ _ + lobby.executedFor own ∧
          (_ → state.tally peering own + _ = _ + lobby.executedFor own)
      rw [one job executed]
      refine ⟨by omega, ?_⟩
      intro sends
      rw [ReportingLobby.Sends, moved] at sends
      dsimp only at sends
      rw [executed, sent, List.length_append] at sends
      exact absurd sends (Nat.succ_ne_self _)
  | @message job bytes _ executed sent _ =>
      have onWire :
          ((state.onWire ++ [WireMessage.mk job.socketPtr bytes]).map
              WireMessage.connection).count own =
            (state.onWire.map WireMessage.connection).count own +
              [job.socketPtr].count own := by
        rw [List.map_append, List.count_append]
        rfl
      rw [sent]
      simp only [ConnectedServers.tally, onWire, one job executed]
      omega

/-- A message that arrives is received instead of on its way. -/
theorem tally_deliver {connection : CompletionKey}
    {completion : ReceiveCompletion}
    (taken :
      state.step peering decoder callbacks builder
          (.deliver connection completion) =
        some after)
    (own : CompletionKey) :
    after.tally peering own = state.tally peering own := by
  rcases step_deliver taken with
    ⟨message, packet, hub, onWire, -, -, -, made, moved, rfl⟩
  have arrived :
      List.count (peering.peer own) [packet.completionKey] =
        List.count own [message.connection] := by
    rw [completionKey_packetOf made]
    exact
      List.count_map_of_injective [message.connection] _
        peering.peer_injective own
  have sent :=
    ((List.perm_cons_erase onWire).map WireMessage.connection).count_eq own
  rw [List.map_cons, ← List.singleton_append, List.count_append] at sent
  have received := HubState.received_step moved
  simp only [ConnectedServers.tally, received, List.map_append,
    List.count_append, sent]
  change _ + List.count (peering.peer own) [packet.completionKey] + _ = _
  omega

/-- What comes over other connections does not count. -/
theorem tally_hub {event : HubEvent Thread}
    (others : FromOthers peering state (.hub event))
    (taken :
      state.step peering decoder callbacks builder (.hub event) =
        some after)
    (own : CompletionKey) :
    after.tally peering own = state.tally peering own := by
  rcases Option.map_eq_some_iff.mp taken with ⟨hub, moved, rfl⟩
  have none :
      (event.packets.map Packet.completionKey).count (peering.peer own) =
        0 := by
    apply List.count_eq_zero.mpr
    intro member
    rcases List.mem_map.mp member with ⟨packet, present, same⟩
    have origin := peering.origin_eq_some.mpr same
    rw [foreign_packets others packet present] at origin
    cases origin
  simp only [ConnectedServers.tally]
  rw [HubState.received_step moved, List.map_append, List.count_append, none,
    Nat.add_zero]

end Tally

/-! ## The registration on its way -/

/-- The key of the lobby leaves its message within every limit. -/
def ShortKey (settings : LobbySettings) : Prop :=
  settings.lobbyKey.length ≤
    longestNoticeKey settings.lobbyPort settings.lobbyCapacity true

/-- The job the control server makes of the report of a connection. -/
def registrationOf (peering : Peering) (settings : LobbySettings)
    (own : CompletionKey) : Job :=
  .noticeLobbyReady (peering.peer own) settings.lobbyKey settings.lobbyPort
    settings.lobbyCapacity true

/--
What the lobby has sent over its connections to the control server and what
the control server has received of it are reports of these connections, and
no more than the lobby has executed.
-/
structure Together {Thread Manager : Type} (peering : Peering)
    (settings : LobbySettings) (state : ConnectedServers Thread Manager) :
    Prop where
  announced : Announced settings state.lobby
  wire :
    ∀ message ∈ state.onWire,
      message.connection ∈ state.lobby.controlConnections →
        ∃ senderType,
          message.bytes =
            reportBytes senderType (readyOf settings message.connection)
  received :
    ∀ packet ∈ state.hub.received,
      ∀ own, peering.origin packet.completionKey = some own →
        own ∈ state.lobby.controlConnections ∧
          ∃ senderType,
            packet =
              reportPacket (peering.peer own) senderType
                (readyOf settings own)
  counts :
    ∀ own,
      (state.hub.received.map Packet.completionKey).count (peering.peer own) +
          (state.onWire.map WireMessage.connection).count own ≤
        (state.lobby.executed.map LobbyJob.socketPtr).count own

/-- The packet of a report that arrives. -/
theorem packetOf_report {senderType : SenderType} {job : LobbyJob}
    (short : job.key.length ≤ job.longestKey)
    {completion : ReceiveCompletion}
    (arrived : completion.bytes = reportBytes senderType job)
    (receiver : CompletionKey) :
    packetOf receiver (completion.finished receiver) =
      .ok
        (reportPacket receiver (ntohl senderType.toUInt32).toInt32 job) := by
  have receives :=
    receives_of_bytes receiver
      ⟨senderType.toUInt32,
        htonl (Int32.ofNat job.finished.length).toUInt32,
        htonl job.messageType.code⟩
      (finished_short short).1 (byteSwap_byteSwap _) arrived
  rw [show ntohl (htonl job.messageType.code) = job.messageType.code from
    byteSwap_byteSwap _] at receives
  exact receives.packetOf_eq

section Steps

variable {Thread Manager : Type} [DecidableEq Thread]
variable {peering : Peering} {settings : LobbySettings}
variable {decoder : MessageDecoder}
variable {callbacks : JobCallbacks Manager} {builder : ResponseBuilder}
variable {state after : ConnectedServers Thread Manager}

/-- The report of a connection is the only one that is sent over it. -/
theorem Announced.eq_readyOf {lobby : ReportingLobby} {job : LobbyJob}
    (announced : Announced settings lobby) (reported : job ∈ lobby.reports)
    (control : job.socketPtr ∈ lobby.controlConnections) :
    job = readyOf settings job.socketPtr := by
  have own : job ∈ lobby.reportsTo job.socketPtr :=
    List.mem_filter.mpr ⟨reported, decide_eq_true rfl⟩
  exact
    List.mem_singleton.mp ((announced.once _ control).subset own)

omit [DecidableEq Thread] in
/-- What was sent over a connection was reported for it. -/
theorem Together.connected {message : WireMessage}
    (together : Together peering settings state)
    (onWire : message ∈ state.onWire) :
    message.connection ∈ state.lobby.network.connected := by
  have sent :
      0 < (state.onWire.map WireMessage.connection).count
        message.connection :=
    List.count_pos_iff.mpr (List.mem_map_of_mem onWire)
  have executed :
      0 < (state.lobby.executed.map LobbyJob.socketPtr).count
        message.connection :=
    sent.trans_le
      ((Nat.le_add_left _ _).trans (together.counts message.connection))
  rcases List.mem_map.mp (List.count_pos_iff.mp executed) with
    ⟨job, member, same⟩
  rw [← same]
  exact together.announced.targets job (List.mem_append_left _ member)

/-- A step of the lobby. -/
theorem Together.lobby {event : LobbyEvent}
    (together : Together peering settings state) (short : ShortKey settings)
    (taken :
      state.step peering decoder callbacks builder (.lobby event) =
        some after) :
    Together peering settings after := by
  have tallied := fun own => (tally_lobby taken own).1
  rcases Option.map_eq_some_iff.mp taken with ⟨lobby, moved, rfl⟩
  have counts :
      ∀ own,
        ConnectedServers.tally peering
            { state with
              lobby := lobby
              onWire := state.onWire ++ state.lobby.sent lobby event } own ≤
          lobby.executedFor own := by
    intro own
    have before : state.tally peering own ≤ state.lobby.executedFor own :=
      together.counts own
    have now := tallied own
    dsimp only at now
    omega
  have grow := together.announced.connectionsGrow moved
  -- what goes to a connection belongs to one that was there before
  have earlier :
      ∀ own ∈ lobby.controlConnections,
        own ∈ state.lobby.network.connected →
          own ∈ state.lobby.controlConnections := by
    intro own control connected
    exact (grow.fresh own control).resolve_right fun new => new connected
  have oldWire :
      ∀ message ∈ state.onWire,
        message.connection ∈ lobby.controlConnections →
          ∃ senderType,
            message.bytes =
              reportBytes senderType (readyOf settings message.connection) := by
    intro message onWire control
    exact
      together.wire message onWire
        (earlier _ control (together.connected onWire))
  have oldReceived :
      ∀ packet ∈ state.hub.received,
        ∀ own, peering.origin packet.completionKey = some own →
          own ∈ lobby.controlConnections ∧
            ∃ senderType,
              packet =
                reportPacket (peering.peer own) senderType
                  (readyOf settings own) := by
    intro packet member own origin
    have own := together.received packet member own origin
    exact ⟨grow.stay _ own.1, own.2⟩
  refine
    { announced := together.announced.step moved
      wire := ?_
      received := oldReceived
      counts := counts }
  cases sending_step moved with
  | nothing executed sent =>
      rw [sent, List.append_nil]
      exact oldWire
  | refused _ executed sent =>
      rw [sent, List.append_nil]
      exact oldWire
  | @message job bytes reported executed sent whole =>
      rw [sent]
      intro message member control
      rcases List.mem_append.mp member with old | new
      · exact oldWire message old control
      · rw [List.mem_singleton.mp new] at control ⊢
        have ready :=
          together.announced.eq_readyOf reported
            (earlier _ control (together.announced.targets job reported))
        refine
          ⟨state.lobby.network.senderType, (whole ?_).trans ?_⟩
        · rw [ready]
          exact short
        · exact congrArg (reportBytes _) ready

/-- A message arrives. -/
theorem Together.deliver {connection : CompletionKey}
    {completion : ReceiveCompletion}
    (together : Together peering settings state) (short : ShortKey settings)
    (taken :
      state.step peering decoder callbacks builder
          (.deliver connection completion) =
        some after) :
    Together peering settings after := by
  have tallied := tally_deliver taken
  rcases step_deliver taken with
    ⟨message, packet, hub, onWire, -, control, arrived, made, moved, rfl⟩
  rcases together.wire message onWire control with ⟨senderType, bytes⟩
  have shortReport :
      (readyOf settings message.connection).key.length ≤
        (readyOf settings message.connection).longestKey :=
    short
  rw [packetOf_report shortReport (arrived.trans bytes)] at made
  cases made
  have received := HubState.received_step moved
  refine
    { announced := together.announced
      wire := ?_
      received := ?_
      counts := ?_ }
  · intro other member
    exact together.wire other (List.mem_of_mem_erase member)
  · rw [received]
    intro packet member own origin
    rcases List.mem_append.mp member with old | new
    · exact together.received packet old own origin
    · rw [List.mem_singleton.mp new] at origin ⊢
      have key := peering.origin_eq_some.mp origin
      have equal := peering.peer_injective key
      subst equal
      exact ⟨control, _, rfl⟩
  · intro own
    exact (tallied own).le.trans (together.counts own)

/-- A step of the control server, with a packet of another connection. -/
theorem Together.hub {event : HubEvent Thread}
    (together : Together peering settings state)
    (others : FromOthers peering state (.hub event))
    (taken :
      state.step peering decoder callbacks builder (.hub event) =
        some after) :
    Together peering settings after := by
  have tallied := tally_hub others taken
  rcases Option.map_eq_some_iff.mp taken with ⟨hub, moved, rfl⟩
  have received := HubState.received_step moved
  refine
    { announced := together.announced
      wire := together.wire
      received := ?_
      counts := ?_ }
  · rw [received]
    intro packet member own origin
    rcases List.mem_append.mp member with old | new
    · exact together.received packet old own origin
    · rw [foreign_packets others packet new] at origin
      cases origin
  · intro own
    exact (tallied own).le.trans (together.counts own)

/-- Every step keeps the reports together. -/
theorem Together.step {event : ServersEvent Thread}
    (together : Together peering settings state) (short : ShortKey settings)
    (others : FromOthers peering state event)
    (taken :
      state.step peering decoder callbacks builder event = some after) :
    Together peering settings after := by
  cases event with
  | lobby event => exact together.lobby short taken
  | deliver connection completion => exact together.deliver short taken
  | hub event => exact together.hub others taken

end Steps

section Runs

variable {Thread Manager : Type} [DecidableEq Thread]
variable {peering : Peering} {settings : LobbySettings}
variable {decoder : MessageDecoder}
variable {callbacks : JobCallbacks Manager} {builder : ResponseBuilder}
variable {packetQueueCapacity overlappedQueueMax : Nat} {manager : Manager}
variable {outputs : Thread → JobOutput}
variable {lobby : LobbyNetwork} {state later : ConnectedServers Thread Manager}

omit [DecidableEq Thread] in
theorem together_start
    (constructed : settings.construction.manager = .ok lobby) :
    Together peering settings
      (ConnectedServers.start lobby
        (HubState.start packetQueueCapacity overlappedQueueMax manager
          outputs)) where
  announced := .construct constructed
  wire := nofun
  received := nofun
  counts := fun _ => le_refl _

/-- The control server's part of a run is a run of the control server. -/
theorem hub_reachable_of_servers
    {allowed : ConnectedServers Thread Manager → ServersEvent Thread → Prop}
    (reached :
      (serversSystem peering decoder callbacks builder).Reaches allowed state
        later) :
    (hubSystem decoder callbacks builder).Reachable state.hub later.hub := by
  have one :
      ∀ {before hub : HubState Thread Manager} {event : HubEvent Thread},
        before.step decoder callbacks builder event = some hub →
          (hubSystem decoder callbacks builder).Reachable before hub :=
    fun moved => .step .refl trivial moved
  refine reached.project ConnectedServers.hub ?_
  intro before event after _ taken
  cases event with
  | lobby event =>
      rcases Option.map_eq_some_iff.mp taken with ⟨_, _, rfl⟩
      exact .refl
  | deliver connection completion =>
      rcases step_deliver taken with
        ⟨_, _, _, -, -, -, -, -, moved, rfl⟩
      exact one moved
  | hub event =>
      rcases Option.map_eq_some_iff.mp taken with ⟨hub, moved, rfl⟩
      exact one moved

theorem together_of_reaches
    (constructed : settings.construction.manager = .ok lobby)
    (short : ShortKey settings)
    (reached :
      (serversSystem peering decoder callbacks builder).Reaches
        (FromOthers peering)
        (.start lobby
          (HubState.start packetQueueCapacity overlappedQueueMax manager
            outputs))
        state) :
    Together peering settings state :=
  reached.invariant (together_start constructed)
    fun _ _ _ together others taken => together.step short others taken

end Runs

/-! ## What the control server executes of it -/

/-- The number of the elements with a key. -/
theorem count_map {α : Type} (key : α → CompletionKey) (elements : List α)
    (wanted : CompletionKey) :
    (elements.map key).count wanted =
      (elements.filter fun element => key element = wanted).length := by
  rw [List.count, List.countP_map, List.countP_eq_length_filter]
  rfl

section Executed

variable {Thread Manager : Type}
variable {peering : Peering} {settings : LobbySettings}
variable {state : ConnectedServers Thread Manager}

/-- At most one packet comes from a connection of the lobby. -/
theorem Together.packets_length
    (together : Together peering settings state) {own : CompletionKey}
    (control : own ∈ state.lobby.controlConnections) :
    (state.hub.received.filter fun packet =>
      packet.completionKey = peering.peer own).length ≤ 1 := by
  have executed :
      (state.lobby.executed.map LobbyJob.socketPtr).count own ≤
        (state.lobby.reports.map LobbyJob.socketPtr).count own := by
    rw [ReportingLobby.reports, List.map_append, List.count_append]
    exact Nat.le_add_right _ _
  have once : (state.lobby.reportsTo own).length ≤ 1 :=
    (together.announced.once own control).length_le
  rw [count_map LobbyJob.socketPtr state.lobby.reports] at executed
  rw [← count_map]
  exact
    (Nat.le_of_add_right_le (together.counts own)).trans (executed.trans once)

/-- The packet of a connection asks for the registration of the lobby. -/
theorem Together.jobOf_packet
    (together : Together peering settings state) (short : ShortKey settings)
    {packet : Packet} (received : packet ∈ state.hub.received)
    {own : CompletionKey}
    (origin : packet.completionKey = peering.peer own) :
    jobOf flatBuffers packet = some (registrationOf peering settings own) := by
  rcases
    together.received packet received own
      (peering.origin_eq_some.mpr origin) with
    ⟨-, senderType, rfl⟩
  have shortReport :
      (readyOf settings own).key.length ≤ (readyOf settings own).longestKey :=
    short
  rw [jobOf, dispatch_reportPacket shortReport]
  rfl

/-- A connection's packets ask for its registration, once. -/
theorem Together.jobs_sublist
    (together : Together peering settings state) (short : ShortKey settings)
    (own : CompletionKey) :
    ((state.hub.received.filter fun packet =>
        packet.completionKey = peering.peer own).filterMap
          (jobOf flatBuffers)).Sublist
      (if own ∈ state.lobby.controlConnections then
        [registrationOf peering settings own]
      else
        []) := by
  have asked :
      ∀ packet ∈
          state.hub.received.filter fun packet =>
            packet.completionKey = peering.peer own,
        jobOf flatBuffers packet =
            some (registrationOf peering settings own) ∧
          own ∈ state.lobby.controlConnections := by
    intro packet member
    rcases List.mem_filter.mp member with ⟨received, origin⟩
    have origin := of_decide_eq_true origin
    have control :=
      together.received packet received own
        (peering.origin_eq_some.mpr origin)
    exact ⟨together.jobOf_packet short received origin, control.1⟩
  split_ifs with control
  · have length := together.packets_length control
    cases packets :
        state.hub.received.filter fun packet =>
          packet.completionKey = peering.peer own with
    | nil => exact List.nil_sublist _
    | cons packet rest =>
        rw [packets] at asked length
        have last : rest = [] :=
          List.length_eq_zero_iff.mp
            (Nat.le_zero.mp (Nat.le_of_succ_le_succ length))
        rw [last, List.filterMap_cons_some (asked packet List.mem_cons_self).1]
        exact .refl _
  · have nothing :
        (state.hub.received.filter fun packet =>
          packet.completionKey = peering.peer own) = [] :=
      List.eq_nil_iff_forall_not_mem.mpr
        fun packet member => control (asked packet member).2
    rw [nothing]
    exact .refl _

end Executed

section Once

variable {Thread Manager : Type} [DecidableEq Thread]
variable {peering : Peering} {settings : LobbySettings}
variable {callbacks : JobCallbacks Manager} {builder : ResponseBuilder}
variable {packetQueueCapacity overlappedQueueMax : Nat} {manager : Manager}
variable {outputs : Thread → JobOutput}
variable {lobby : LobbyNetwork} {state : ConnectedServers Thread Manager}

/-- The jobs executed for a connection of the lobby. -/
theorem Together.executed_sublist
    (together : Together peering settings state) (short : ShortKey settings)
    (reached :
      (hubSystem flatBuffers callbacks builder).Reachable
        (HubState.start packetQueueCapacity overlappedQueueMax manager
          outputs) state.hub)
    (own : CompletionKey) :
    ((state.hub.jobs.hub.executed.map Executed.job).filter
        fun job => job.socketPtr = peering.peer own).Sublist
      (if own ∈ state.lobby.controlConnections then
        [registrationOf peering settings own]
      else
        []) := by
  have asked :=
    (ControlServer.executed_sublist reached).filter fun job : Job =>
      decide (job.socketPtr = peering.peer own)
  rw [filter_jobs] at asked
  exact asked.trans (together.jobs_sublist short own)

/--
Wherever the calls of a lobby, one behind the other, and its control server
have come, with any other connections and any messages lost whole, the control
server has executed at most one job for each connection of the lobby: its
registration, with the figures it was started with.  It has sent nothing back.
-/
theorem lobby_registers_once
    (constructed : settings.construction.manager = .ok lobby)
    (short : ShortKey settings)
    (reached :
      (serversSystem peering flatBuffers callbacks builder).Reaches
        (FromOthers peering)
        (.start lobby
          (HubState.start packetQueueCapacity overlappedQueueMax manager
            outputs))
        state)
    (own : CompletionKey) :
    ((state.hub.jobs.hub.executed.map Executed.job).filter
        fun job => job.socketPtr = peering.peer own).Sublist
      (if own ∈ state.lobby.controlConnections then
        [registrationOf peering settings own]
      else
        []) ∧
      ∀ call ∈ state.hub.jobs.hub.sends,
        call.targetSocket ≠ peering.peer own := by
  have together := together_of_reaches constructed short reached
  have hubReached := hub_reachable_of_servers reached
  have once := together.executed_sublist short hubReached own
  refine ⟨once, ?_⟩
  intro call sent target
  have serial : Serial callbacks builder state.hub.jobs :=
    serial_of_reachable (jobs_reachable hubReached)
  have answered :
      call ∈
        state.hub.jobs.hub.executed.filterMap
          (Executed.answer callbacks builder) := by
    rw [← serial.consistent.sends]
    exact List.mem_append_left _ sent
  rcases List.mem_filterMap.mp answered with ⟨done, executed, answer⟩
  have request := request_of_answer answer
  have own :
      done.job ∈
        (state.hub.jobs.hub.executed.map Executed.job).filter
          fun job => job.socketPtr = peering.peer own := by
    refine List.mem_filter.mpr ⟨List.mem_map_of_mem executed, ?_⟩
    rw [request]
    exact decide_eq_true target
  have registration := once.subset own
  rw [request] at registration
  split_ifs at registration
  · cases List.mem_singleton.mp registration
  · cases registration

end Once

/-- The control server's keys of the lobby's connections are above the rest. -/
def highKeys : Peering where
  peer own := own + 100
  origin completionKey :=
    if 100 ≤ completionKey then some (completionKey - 100) else none
  origin_eq_some := by
    intro completionKey own
    split_ifs with high
    · exact Option.some_inj.trans (Nat.sub_eq_iff_eq_add high)
    · refine ⟨nofun, ?_⟩
      rintro rfl
      exact (high (Nat.le_add_left _ _)).elim

theorem oneSocket_short : ShortKey (oneSocket 30) := by
  unfold ShortKey
  decide +kernel

/-- What the lobby sends over its connection to the control server. -/
def registrationBytes : ByteString :=
  reportBytes .lobbyServer (readyOf (oneSocket 30) 3)

/-- A lobby without users, and a control server with one job thread. -/
def bothServers : ConnectedServers (Fin 1) Unit :=
  .start emptyLobby (.start 2 2 () fun _ => staleOutput)

/-- The lobby registers behind the request of a client. -/
def requestThenRegistration : List (ServersEvent (Fin 1)) :=
  (reportingSchedule.take 3).map .lobby ++
    .hub (.receive (lobbyRequest 5)) :: List.replicate 3 (.hub .arrive) ++
      .deliver 3
          (completionOf registrationBytes (by decide +kernel)
            (by decide +kernel)) ::
        List.replicate 3 (.hub .arrive) ++
          (drained ++ drained).map .hub

theorem requestThenRegistration_complete :
    ((serversSystem highKeys flatBuffers noLobbies noLobbyBuilder).runAllowed
      (FromOthers highKeys) bothServers requestThenRegistration).isSome =
        true := by
  decide +kernel

/-- The servers behind the request and the registration. -/
def behindRegistration : ConnectedServers (Fin 1) Unit :=
  ((serversSystem highKeys flatBuffers noLobbies noLobbyBuilder).runAllowed
    (FromOthers highKeys) bothServers requestThenRegistration).get
      requestThenRegistration_complete

/-- The client is answered, the lobby is registered and told nothing. -/
theorem lobby_registers_once_behind_request :
    behindRegistration.hub.jobs.hub.executed.map Executed.job =
        [.requestLobbyInfo 5,
          registrationOf highKeys (oneSocket 30) 3] ∧
      behindRegistration.hub.jobs.hub.sends.map SendCall.targetSocket =
        [5] ∧
        ((behindRegistration.hub.jobs.hub.executed.map Executed.job).filter
          fun job => job.socketPtr = highKeys.peer 3).Sublist
            (if 3 ∈ behindRegistration.lobby.controlConnections then
              [registrationOf highKeys (oneSocket 30) 3]
            else
              []) := by
  refine ⟨by decide +kernel, by decide +kernel, ?_⟩
  have reached :
      (serversSystem highKeys flatBuffers noLobbies noLobbyBuilder).Reaches
        (FromOthers highKeys) bothServers behindRegistration :=
    TransitionSystem.reaches_get requestThenRegistration_complete
  exact
    (lobby_registers_once emptyLobby_constructed oneSocket_short reached 3).1

end IocpServer.LobbyServer
