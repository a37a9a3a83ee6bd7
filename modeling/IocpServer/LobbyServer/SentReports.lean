import IocpServer.LobbyServer.LobbyReports
import IocpServer.LobbyServer.ReportDelivery

/-!
# What a lobby sends to the control server

In every run, also one whose job queue is full at times, a lobby makes at most
one report for a connection to the control server, and what it sends over that
connection is the message of that report.
-/

namespace IocpServer.LobbyServer

open IocpServer.ControlServer
open IocpServer.Library
open IocpServer.Network
open IocpServer.Protocol
open IocpServer.Utility

/-- The connections to the control server that were completed. -/
abbrev ReportingLobby.controlConnections (lobby : ReportingLobby) :
    List CompletionKey :=
  lobby.network.owner.controlConnections

/-- The reports for a connection, in the order in which they were made. -/
def ReportingLobby.reportsTo
    (lobby : ReportingLobby) (completionKey : CompletionKey) :
    List LobbyJob :=
  lobby.reports.filter fun job => job.socketPtr = completionKey

/--
What a lobby reports in any run: a connection to the control server has at
most its own report.
-/
structure Announced (settings : LobbySettings) (lobby : ReportingLobby) :
    Prop where
  counted : Counted settings lobby.network
  lobbyKey : lobby.network.owner.lobbyKey = settings.lobbyKey
  lobbyPort : lobby.network.owner.lobbyPort = settings.lobbyPort
  isOn : lobby.network.owner.isOn = true
  connections :
    ∀ completionKey ∈ lobby.controlConnections,
      completionKey ∈ lobby.network.connected
  targets : ∀ job ∈ lobby.reports, job.socketPtr ∈ lobby.network.connected
  once :
    ∀ completionKey ∈ lobby.controlConnections,
      (lobby.reportsTo completionKey).Sublist [readyOf settings completionKey]

/-- A push appends the job, or finds the queue full. -/
theorem LobbyHub.pushJob_cases (hub : LobbyHub) (job : LobbyJob) :
    (hub.pushJob job).jobQueue.contents = hub.jobQueue.contents ++ [.to job] ∨
      (hub.pushJob job).jobQueue.contents = hub.jobQueue.contents := by
  have held := hub.jobQueue.size_lt
  rw [← LockFreeCircleQueue.contents_length] at held
  rcases Nat.lt_or_eq_of_le (Nat.succ_le_of_lt held) with room | full
  · exact .inl (LobbyHub.pushJob_contents room)
  · right
    rw [LobbyHub.pushJob, hub.jobQueue.push_of_full (.to job) full]

section Steps

variable {settings : LobbySettings} {lobby after : ReportingLobby}

/-- A job that is pushed is at most one more report. -/
theorem reports_of_pushJob {hub : LobbyHub} {job : LobbyJob}
    (executed : after.executed = lobby.executed)
    (pushed : after.network.owner.jobQueue = (hub.pushJob job).jobQueue)
    (before : hub.jobQueue = lobby.network.owner.jobQueue) :
    after.reports = lobby.reports ++ [job] ∨ after.reports = lobby.reports := by
  rcases hub.pushJob_cases job with appended | full
  · left
    apply reports_of_push executed
    rw [pushed, appended, before]
  · right
    rw [ReportingLobby.reports, executed, pushed, full, before]
    rfl

/-- What makes no report and no connection to the control server. -/
theorem Announced.sameReports
    {packetQueue : LockFreeCircleQueue (SharedPointer Packet)}
    {jobQueue : LockFreeCircleQueue (SharedPointer LobbyJob)}
    (announced : Announced settings lobby)
    (counted : Counted settings after.network)
    (owner :
      after.network.owner =
        { lobby.network.owner with
          packetQueue := packetQueue
          jobQueue := jobQueue })
    (connected : lobby.network.connected.Sublist after.network.connected)
    (reports : after.reports = lobby.reports) :
    Announced settings after where
  counted := counted
  lobbyKey := by
    rw [owner]
    exact announced.lobbyKey
  lobbyPort := by
    rw [owner]
    exact announced.lobbyPort
  isOn := by
    rw [owner]
    exact announced.isOn
  connections := by
    intro completionKey member
    rw [ReportingLobby.controlConnections, owner] at member
    exact connected.subset (announced.connections completionKey member)
  targets := by
    rw [reports]
    intro job member
    exact connected.subset (announced.targets job member)
  once := by
    intro completionKey member
    rw [ReportingLobby.controlConnections, owner] at member
    rw [ReportingLobby.reportsTo, reports]
    exact announced.once completionKey member

/-- A connection nobody has reported on has no reports. -/
theorem Announced.reportsTo_fresh {socket : SocketPointer}
    (announced : Announced settings lobby)
    (fresh : socket ∉ lobby.network.connected) :
    lobby.reportsTo socket = [] := by
  apply List.filter_eq_nil_iff.mpr
  intro job member same
  rw [decide_eq_true_iff] at same
  exact fresh (same ▸ announced.targets job member)

/-- The reports of a connection, with one more for another one. -/
theorem reportsTo_append {socket : SocketPointer} {job : LobbyJob}
    (target : job.socketPtr = socket)
    (made :
      after.reports = lobby.reports ++ [job] ∨ after.reports = lobby.reports) :
    (∀ completionKey,
      completionKey ≠ socket →
        after.reportsTo completionKey = lobby.reportsTo completionKey) ∧
      (after.reportsTo socket).Sublist (lobby.reportsTo socket ++ [job]) := by
  simp only [ReportingLobby.reportsTo]
  rcases made with appended | same
  · rw [appended]
    constructor
    · intro completionKey other
      rw [List.filter_append, List.filter_singleton, target, decide_eq_false (Ne.symm other)]
      exact List.append_nil _
    · rw [List.filter_append]
      exact List.filter_sublist.append_left _
  · rw [same]
    exact ⟨fun _ _ => rfl, List.sublist_append_left _ _⟩

/-- A new connection is made, and at most reported. -/
theorem Announced.connect {socket : SocketPointer} {job : LobbyJob}
    (announced : Announced settings lobby)
    (counted : Counted settings after.network)
    (connected :
      after.network.connected = lobby.network.connected ++ [socket])
    (unchanged :
      after.network.owner.lobbyKey = lobby.network.owner.lobbyKey ∧
        after.network.owner.lobbyPort = lobby.network.owner.lobbyPort ∧
          after.network.owner.isOn = lobby.network.owner.isOn)
    (target : job.socketPtr = socket)
    (made :
      after.reports = lobby.reports ++ [job] ∨ after.reports = lobby.reports)
    (controls :
      after.controlConnections = lobby.controlConnections ∨
        after.controlConnections = lobby.controlConnections ++ [socket] ∧
          job = readyOf settings socket) :
    Announced settings after := by
  have new := counted.fresh connected
  have located :
      ∀ completionKey ∈ after.controlConnections,
        completionKey ∈ lobby.controlConnections ∨
          completionKey = socket ∧ job = readyOf settings socket := by
    intro completionKey member
    rcases controls with same | ⟨appended, isReady⟩
    · exact .inl (same ▸ member)
    · rw [appended, List.mem_append, List.mem_singleton] at member
      exact member.imp_right fun last => ⟨last, isReady⟩
  exact
    { counted := counted
      lobbyKey := unchanged.1.trans announced.lobbyKey
      lobbyPort := unchanged.2.1.trans announced.lobbyPort
      isOn := unchanged.2.2.trans announced.isOn
      connections := by
        rw [connected]
        intro completionKey member
        rcases located completionKey member with earlier | ⟨rfl, -⟩
        · exact
            List.mem_append_left _
              (announced.connections completionKey earlier)
        · exact List.mem_append_right _ List.mem_cons_self
      targets := by
        rw [connected]
        intro other member
        rcases made with appended | same
        · rw [appended, List.mem_append, List.mem_singleton] at member
          rcases member with earlier | rfl
          · exact List.mem_append_left _ (announced.targets other earlier)
          · rw [target]
            exact List.mem_append_right _ List.mem_cons_self
        · rw [same] at member
          exact List.mem_append_left _ (announced.targets other member)
      once := by
        have reported := reportsTo_append target made
        intro completionKey member
        rcases located completionKey member with earlier | ⟨rfl, isReady⟩
        · have other : completionKey ≠ socket := by
            rintro rfl
            exact new (announced.connections completionKey earlier)
          rw [reported.1 completionKey other]
          exact announced.once completionKey earlier
        · have own := reported.2
          rw [announced.reportsTo_fresh new, isReady] at own
          exact own }

/-- Every call into the network manager keeps what the lobby reports. -/
theorem Announced.call {event : NetworkManager.NetworkEvent}
    (announced : Announced settings lobby)
    (done : lobby.call event = .ok after)
    (runs : lobby.network.AfterConstruct event) :
    Announced settings after := by
  rcases Fallible.map_eq_ok.mp done with ⟨network, called, rfl⟩
  have counted := announced.counted.call runs called
  cases lobby_effect called with
  | quiet connected owner =>
      refine announced.sameReports counted owner connected ?_
      rw [ReportingLobby.reports, owner]
      rfl
  | @accepted _ socket _ _ same owner =>
      have made :
          ReportingLobby.reports ⟨network, lobby.executed⟩ =
              lobby.reports ++
                [infoOf settings
                  ⟨socket,
                    lobby.network.owner.lobbyMonitor.registerLobbyUser⟩] ∨
            ReportingLobby.reports ⟨network, lobby.executed⟩ =
              lobby.reports := by
        rw [infoOf, ← announced.lobbyKey, ← announced.isOn]
        exact reports_of_pushJob rfl (congrArg LobbyHub.jobQueue owner) rfl
      refine announced.connect counted same.connected ?_ rfl made (.inl ?_)
      · rw [owner]
        exact ⟨rfl, rfl, rfl⟩
      · rw [ReportingLobby.controlConnections, owner]
        rfl
  | @ready _ socket _ _ _ same owner =>
      have capacity :
          lobby.network.owner.lobbyMonitor.capacity =
            settings.lobbyCapacity := by
        rw [announced.counted.monitor]
        rfl
      have made :
          ReportingLobby.reports ⟨network, lobby.executed⟩ =
              lobby.reports ++ [readyOf settings socket] ∨
            ReportingLobby.reports ⟨network, lobby.executed⟩ =
              lobby.reports := by
        rw [readyOf, ← announced.lobbyKey, ← announced.lobbyPort, ← capacity,
          ← announced.isOn]
        exact reports_of_pushJob rfl (congrArg LobbyHub.jobQueue owner) rfl
      refine
        announced.connect counted same.connected ?_ rfl made
          (.inr ⟨?_, rfl⟩)
      · rw [owner]
        exact ⟨rfl, rfl, rfl⟩
      · rw [ReportingLobby.controlConnections, owner]
        rfl

/-- A job that is taken out and executed stays a report. -/
theorem Announced.popJob {job : LobbyJob}
    {jobQueue : LockFreeCircleQueue (SharedPointer LobbyJob)}
    (announced : Announced settings lobby)
    (held :
      lobby.network.owner.jobQueue.contents =
        .to job :: jobQueue.contents) :
    Announced settings
      { lobby.withJobQueue jobQueue with
        executed := lobby.executed ++ [job] } := by
  have apart : (lobby.withJobQueue jobQueue).network.Apart :=
    ⟨announced.counted.apart.numbered, announced.counted.apart.distinct,
      announced.counted.apart.allocated⟩
  refine announced.sameReports ?_ rfl (.refl _) ?_
  · exact
      announced.counted.sameClients apart rfl rfl (.refl _) (.refl _)
  · rw [ReportingLobby.reports, ReportingLobby.reports, held,
      List.append_assoc]
    rfl

/-! ## The messages of a step -/

/-- A message on a connection. -/
structure WireMessage where
  connection : CompletionKey
  bytes : ByteString
deriving DecidableEq

/-- The bytes of a report's message. -/
def reportBytes (senderType : SenderType) (job : LobbyJob) : ByteString :=
  MessageHeader.bytes
      ⟨senderType.toUInt32,
        htonl (Int32.ofNat job.finished.length).toUInt32,
        htonl job.messageType.code⟩ ++
    job.finished

/-- What a step of a lobby puts on its connections. -/
def ReportingLobby.sent (lobby after : ReportingLobby) :
    LobbyEvent → List WireMessage
  | .connectControlServer _ _ _ => []
  | .completion _ _ _ _ => []
  | .executeJob _ =>
      match lobby.popJob with
      | (.null, _) => []
      | (.to job, _) =>
          (after.network.outstanding.drop
            lobby.network.outstanding.length).map fun posted =>
              ⟨job.sendCall.targetSocket, posted.sentBytes⟩

/-- What `SendRequest` posts for a report. -/
theorem requestSendMessage_outstanding {job : LobbyJob} {answer : PostAnswer}
    (done : lobby.requestSendMessage job answer = .ok after) :
    after.network.outstanding = lobby.network.outstanding ∨
      ∃ posted,
        after.network.outstanding =
            lobby.network.outstanding ++ [posted] ∧
          (job.key.length ≤ job.longestKey →
            posted.sentBytes =
              reportBytes lobby.network.senderType job) := by
  rcases Fallible.map_eq_ok.mp done with ⟨network, called, rfl⟩
  change
    lobby.network.sendRequest job.sendCall.targetSocket
        job.sendCall.contentType job.sendCall.stringBuffer
        job.sendCall.bodySize answer =
      .ok network at called
  rw [sendCall_eq] at called
  cases registered : lobby.network.connectedSocketMap.lookup job.socketPtr with
  | none =>
      rw [NetworkManager.sendRequest, registered] at called
      cases called
      exact .inl rfl
  | some socket =>
      have sending := called
      rw [NetworkManager.sendRequest, registered] at called
      rcases Fallible.map_eq_ok.mp called with ⟨⟨result, reached⟩, posting, rfl⟩
      rcases NetworkManager.post_cases posting with
        ⟨overlapped, popped, posted, -, -, ⟨-, -, rfl⟩ | ⟨accepted, -, rfl⟩⟩
      · exact .inl rfl
      · refine .inr ⟨posted, rfl, fun short => ?_⟩
        rcases sendRequest_sentBytes (finished_short short).1 registered
            accepted sending with
          ⟨sent, appended, -, bytes⟩
        have same : posted = sent :=
          List.head_eq_of_cons_eq (List.append_cancel_left appended)
        rw [same, bytes]
        rfl

/-- The steps in which a job is executed. -/
theorem executeJob_cases {answer : PostAnswer}
    (taken : lobby.step (.executeJob answer) = some after) :
    ∃ job jobQueue,
      lobby.network.owner.jobQueue.contents = .to job :: jobQueue.contents ∧
        lobby.popJob = (.to job, lobby.withJobQueue jobQueue) ∧
          ({ lobby.withJobQueue jobQueue with
              executed := lobby.executed ++ [job] } :
            ReportingLobby).requestSendMessage job answer = .ok after := by
  simp only [ReportingLobby.step] at taken
  split at taken
  · cases taken
  · next job popped front =>
      rcases popJob_cases front with ⟨jobQueue, rfl, -, held⟩
      exact ⟨job, jobQueue, held, front, Fallible.toOption_eq_some.mp taken⟩

/-- Every step keeps what the lobby reports. -/
theorem Announced.step {event : LobbyEvent}
    (announced : Announced settings lobby)
    (taken : lobby.step event = some after) :
    Announced settings after := by
  cases event with
  | connectControlServer bindFails ioctlFails answer =>
      exact announced.call (Fallible.toOption_eq_some.mp taken) trivial
  | completion index status errorCode answer =>
      exact announced.call (Fallible.toOption_eq_some.mp taken) trivial
  | executeJob answer =>
      rcases executeJob_cases taken with ⟨job, jobQueue, held, -, sending⟩
      exact (announced.popJob held).call sending trivial

/-- A call executes no job. -/
theorem executed_call {event : NetworkManager.NetworkEvent}
    (done : lobby.call event = .ok after) :
    after.executed = lobby.executed := by
  rcases Fallible.map_eq_ok.mp done with ⟨network, -, rfl⟩
  rfl

/-- What a step executes, and what it sends. -/
inductive Sending (lobby after : ReportingLobby) (event : LobbyEvent) :
    Prop where
  | nothing
      (executed : after.executed = lobby.executed)
      (sent : lobby.sent after event = [])
  | refused {job : LobbyJob}
      (reported : job ∈ lobby.reports)
      (executed : after.executed = lobby.executed ++ [job])
      (sent : lobby.sent after event = [])
  | message {job : LobbyJob} {bytes : ByteString}
      (reported : job ∈ lobby.reports)
      (executed : after.executed = lobby.executed ++ [job])
      (sent : lobby.sent after event = [⟨job.socketPtr, bytes⟩])
      (whole :
        job.key.length ≤ job.longestKey →
          bytes = reportBytes lobby.network.senderType job)

theorem sending_step {event : LobbyEvent}
    (taken : lobby.step event = some after) : Sending lobby after event := by
  cases event with
  | connectControlServer bindFails ioctlFails answer =>
      exact .nothing (executed_call (Fallible.toOption_eq_some.mp taken)) rfl
  | completion index status errorCode answer =>
      exact .nothing (executed_call (Fallible.toOption_eq_some.mp taken)) rfl
  | executeJob answer =>
      rcases executeJob_cases taken with ⟨job, jobQueue, held, front, done⟩
      have reported : job ∈ lobby.reports := by
        rw [ReportingLobby.reports, held]
        exact List.mem_append_right _ List.mem_cons_self
      have executed : after.executed = lobby.executed ++ [job] :=
        executed_call done
      rcases requestSendMessage_outstanding done with
        same | ⟨posted, appended, whole⟩
      · refine .refused reported executed ?_
        rw [ReportingLobby.sent, front]
        dsimp only
        rw [same]
        change (lobby.network.outstanding.drop _).map _ = _
        rw [List.drop_length]
        rfl
      · refine .message reported executed ?_ whole
        rw [ReportingLobby.sent, front]
        dsimp only
        rw [appended, sendCall_eq]
        change
          ((lobby.network.outstanding ++ [posted]).drop _).map _ = _
        rw [List.drop_left]
        rfl

/-- The connections to the control server stay, and new ones are new. -/
structure ConnectionsGrow (before after : LobbyNetwork) : Prop where
  stay :
    ∀ completionKey ∈ before.owner.controlConnections,
      completionKey ∈ after.owner.controlConnections
  fresh :
    ∀ completionKey ∈ after.owner.controlConnections,
      completionKey ∈ before.owner.controlConnections ∨
        completionKey ∉ before.connected

theorem connectionsGrow_call {event : NetworkManager.NetworkEvent}
    (counted : Counted settings lobby.network)
    (done : lobby.call event = .ok after)
    (runs : lobby.network.AfterConstruct event) :
    ConnectionsGrow lobby.network after.network := by
  rcases Fallible.map_eq_ok.mp done with ⟨network, called, rfl⟩
  have counted := counted.call runs called
  cases lobby_effect called with
  | quiet _ owner =>
      constructor
      · rw [owner]
        exact fun _ member => member
      · rw [owner]
        exact fun _ member => .inl member
  | accepted _ _ _ owner =>
      constructor
      · rw [owner]
        exact fun _ member => member
      · rw [owner]
        exact fun _ member => .inl member
  | @ready _ socket _ _ _ same owner =>
      constructor
      · rw [owner]
        exact fun _ member => List.mem_append_left _ member
      · rw [owner]
        intro completionKey member
        rcases List.mem_append.mp member with earlier | last
        · exact .inl earlier
        · rw [List.mem_singleton.mp last]
          exact .inr (counted.fresh same.connected)

theorem Announced.connectionsGrow {event : LobbyEvent}
    (announced : Announced settings lobby)
    (taken : lobby.step event = some after) :
    ConnectionsGrow lobby.network after.network := by
  cases event with
  | connectControlServer bindFails ioctlFails answer =>
      exact
        connectionsGrow_call announced.counted
          (Fallible.toOption_eq_some.mp taken) trivial
  | completion index status errorCode answer =>
      exact
        connectionsGrow_call announced.counted
          (Fallible.toOption_eq_some.mp taken) trivial
  | executeJob answer =>
      rcases executeJob_cases taken with ⟨job, jobQueue, held, -, sending⟩
      have grown :=
        connectionsGrow_call (announced.popJob held).counted sending trivial
      exact ⟨grown.stay, grown.fresh⟩

end Steps

/-- A lobby right behind its `Construct` has reported nothing. -/
theorem Announced.construct
    {settings : LobbySettings} {start : LobbyNetwork}
    (constructed : settings.construction.manager = .ok start) :
    Announced settings ⟨start, []⟩ := by
  have reporting := Reporting.construct constructed
  rcases NetworkManager.Construction.idle constructed with ⟨_, owner, _⟩
  have nothing : ReportingLobby.reports ⟨start, []⟩ = [] := by
    rw [ReportingLobby.reports, owner]
    rfl
  exact
    { counted := reporting.counted
      lobbyKey := reporting.lobbyKey
      lobbyPort := reporting.lobbyPort
      isOn := reporting.isOn
      connections := fun completionKey member =>
        (reporting.connections completionKey member).1
      targets := by
        rw [nothing]
        exact fun _ member => absurd member List.not_mem_nil
      once := by
        intro completionKey _
        rw [ReportingLobby.reportsTo, nothing]
        exact List.nil_sublist _ }

end IocpServer.LobbyServer
