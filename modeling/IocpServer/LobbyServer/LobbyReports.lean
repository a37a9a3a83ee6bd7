import IocpServer.ControlServer.JobThread
import IocpServer.LobbyServer.LobbyOccupancy

/-!
# The reports of a lobby

The network thread of a lobby makes a report for every client it accepts and
for every connection to the control server it completes.  The job threads,
one at a time, take the reports out of their queue and send them.  Each report
carries its destination from the moment it is made.

The threads' calls follow one another here, each as a whole.  Calls that
overlap share their overlapped objects, which `Network.OverlappedOwnership` is
about.
-/

namespace IocpServer.LobbyServer

open IocpServer.ControlServer
open IocpServer.Library
open IocpServer.Network
open IocpServer.Protocol
open IocpServer.Utility

/-- A lobby with the reports its job threads have executed, oldest first. -/
structure ReportingLobby where
  network : LobbyNetwork
  executed : List LobbyJob

/-- What a lobby does, with the answers of the system. -/
inductive LobbyEvent where
  /-- `ConnectControlServer`. -/
  | connectControlServer (bindFails ioctlFails : Bool) (answer : PostAnswer)
  /-- A round of the network thread. -/
  | completion
      (index : Nat) (status : CompletionStatus)
      (errorCode : Int) (answer : PostAnswer)
  /-- A round of the inner loop of a job thread. -/
  | executeJob (answer : PostAnswer)

namespace ReportingLobby

/-- A call into the network manager. -/
def call
    (lobby : ReportingLobby) (event : NetworkManager.NetworkEvent) :
    Except Fault ReportingLobby :=
  (lobby.network.call LobbyHub.callbacks event).map
    fun network => { lobby with network := network }

/-- The lobby with another job queue. -/
def withJobQueue
    (lobby : ReportingLobby)
    (jobQueue : LockFreeCircleQueue (SharedPointer LobbyJob)) :
    ReportingLobby :=
  { lobby with
    network :=
      { lobby.network with
        owner := { lobby.network.owner with jobQueue := jobQueue } } }

/-- The lobby with the job at the front of its queue taken out. -/
def popJob (lobby : ReportingLobby) :
    SharedPointer LobbyJob × ReportingLobby :=
  let (job, jobQueue) := lobby.network.owner.jobQueue.pop
  (job, lobby.withJobQueue jobQueue)

/-- `RequestSendMessage` with the output of the job. -/
def requestSendMessage
    (lobby : ReportingLobby) (job : LobbyJob) (answer : PostAnswer) :
    Except Fault ReportingLobby :=
  let sending := job.sendCall
  lobby.call
    (.sendRequest sending.targetSocket sending.contentType
      sending.stringBuffer sending.bodySize answer)

/--
One call of a thread from its beginning to its end; a job thread only gets here
with a queue that is not empty.
-/
def step (lobby : ReportingLobby) : LobbyEvent → Option ReportingLobby
  | .connectControlServer bindFails ioctlFails answer =>
      (lobby.call
        (.setupConnectSocket .controlServer bindFails ioctlFails
          answer)).toOption
  | .completion index status errorCode answer =>
      (lobby.call (.completion index status errorCode answer)).toOption
  | .executeJob answer =>
      match lobby.popJob with
      | (.null, _) => none
      | (.to job, popped) =>
          let executing :=
            { popped with executed := popped.executed ++ [job] }
          (executing.requestSendMessage job answer).toOption

/-- A lobby that sends its reports. -/
def system : TransitionSystem ReportingLobby LobbyEvent where
  step := step

/-- The job queue can take another job. -/
def HasRoom (lobby : ReportingLobby) (_ : LobbyEvent) : Prop :=
  lobby.network.owner.jobQueue.contents.length + 1 <
    lobby.network.owner.jobQueue.queueMaxSize

instance (lobby : ReportingLobby) (event : LobbyEvent) :
    Decidable (lobby.HasRoom event) :=
  inferInstanceAs (Decidable (_ < _))

/-- The reports made so far: those executed, and those in the queue. -/
def reports (lobby : ReportingLobby) : List LobbyJob :=
  lobby.executed ++ lobby.network.owner.jobQueue.contents.flatMap pointees

end ReportingLobby

/-! ## What the reports say -/

/-- The report of an accepted client. -/
def infoOf (settings : LobbySettings) (client : AcceptedClient) : LobbyJob :=
  .noticeLobbyInfo client.completionKey settings.lobbyKey
    client.monitor.currentUser client.monitor.remainCapacity true

/-- The report of a connection to the control server. -/
def readyOf (settings : LobbySettings) (completionKey : CompletionKey) :
    LobbyJob :=
  .noticeLobbyReady completionKey settings.lobbyKey settings.lobbyPort
    settings.lobbyCapacity true

/-- The job sends a `NOTICE_LOBBYINFO`. -/
def isInfo (job : LobbyJob) : Bool :=
  job.messageType == .noticeLobbyInfo

/--
Every accepted client has been reported, in the order of the accepts and with
the figures behind its registration, and so has every connection to the
control server.
-/
structure Reported (settings : LobbySettings) (lobby : ReportingLobby) :
    Prop where
  infos :
    lobby.reports.filter isInfo =
      lobby.network.owner.accepted.map (infoOf settings)
  readies :
    lobby.reports.filter (fun job => !isInfo job) =
      lobby.network.owner.controlConnections.map (readyOf settings)
  figures :
    ∀ index client,
      lobby.network.owner.accepted[index]? = some client →
        client.monitor = monitorOf settings.lobbyCapacity (index + 1)

/-- The reports, with what they are made of. -/
structure Reporting (settings : LobbySettings) (lobby : ReportingLobby) :
    Prop extends Reported settings lobby where
  counted : Counted settings lobby.network
  lobbyKey : lobby.network.owner.lobbyKey = settings.lobbyKey
  lobbyPort : lobby.network.owner.lobbyPort = settings.lobbyPort
  isOn : lobby.network.owner.isOn = true
  control :
    lobby.network.owner.controlServerCompletionKey =
      lobby.network.owner.controlConnections.getLastD 0
  connections :
    ∀ key ∈ lobby.network.owner.controlConnections,
      key ∈ lobby.network.connected ∧ key ∉ clientKeys lobby.network

/-- A push with room appends the job. -/
theorem LobbyHub.pushJob_contents
    {hub : LobbyHub} {job : LobbyJob}
    (room :
      hub.jobQueue.contents.length + 1 < hub.jobQueue.queueMaxSize) :
    (hub.pushJob job).jobQueue.contents =
      hub.jobQueue.contents ++ [.to job] :=
  (hub.jobQueue.push_of_room (.to job) room).2

section Steps

variable {settings : LobbySettings} {lobby after : ReportingLobby}

/-- A job that is pushed is one more report. -/
theorem reports_of_push {job : LobbyJob}
    (executed : after.executed = lobby.executed)
    (queued :
      after.network.owner.jobQueue.contents =
        lobby.network.owner.jobQueue.contents ++ [.to job]) :
    after.reports = lobby.reports ++ [job] := by
  rw [ReportingLobby.reports, executed, queued, List.flatMap_append,
    ← List.append_assoc]
  rfl

/-- What makes no report, and moves none but to the job threads. -/
theorem Reporting.sameReports
    {packetQueue : LockFreeCircleQueue (SharedPointer Packet)}
    {jobQueue : LockFreeCircleQueue (SharedPointer LobbyJob)}
    (reporting : Reporting settings lobby)
    (counted : Counted settings after.network)
    (owner :
      after.network.owner =
        { lobby.network.owner with
          packetQueue := packetQueue
          jobQueue := jobQueue })
    (connected : lobby.network.connected.Sublist after.network.connected)
    (reports : after.reports = lobby.reports) :
    Reporting settings after where
  infos := by
    rw [reports, owner]
    exact reporting.infos
  readies := by
    rw [reports, owner]
    exact reporting.readies
  figures := by
    rw [owner]
    exact reporting.figures
  counted := counted
  lobbyKey := by
    rw [owner]
    exact reporting.lobbyKey
  lobbyPort := by
    rw [owner]
    exact reporting.lobbyPort
  isOn := by
    rw [owner]
    exact reporting.isOn
  control := by
    rw [owner]
    exact reporting.control
  connections := by
    rw [clientKeys, owner]
    intro key member
    have apart := reporting.connections key member
    exact ⟨connected.subset apart.1, apart.2⟩

/-- A client is accepted, and reported. -/
theorem Reporting.accept {socket : SocketPointer}
    (reporting : Reporting settings lobby)
    (counted : Counted settings after.network)
    (room :
      lobby.network.owner.jobQueue.contents.length + 1 <
        lobby.network.owner.jobQueue.queueMaxSize)
    (executed : after.executed = lobby.executed)
    (connected :
      after.network.connected = lobby.network.connected ++ [socket])
    (owner :
      after.network.owner = lobby.network.owner.acceptClient socket) :
    Reporting settings after := by
  have accepted :
      after.network.owner.accepted =
        lobby.network.owner.accepted ++
          [⟨socket, lobby.network.owner.lobbyMonitor.registerLobbyUser⟩] := by
    rw [owner]
    rfl
  have made :
      after.reports =
        lobby.reports ++
          [infoOf settings
            ⟨socket, lobby.network.owner.lobbyMonitor.registerLobbyUser⟩] := by
    apply reports_of_push executed
    rw [owner, infoOf, ← reporting.lobbyKey, ← reporting.isOn]
    exact LobbyHub.pushJob_contents room
  exact
    { infos := by
        rw [made, accepted, List.filter_append, reporting.infos,
          List.map_append]
        rfl
      readies := by
        rw [made, owner, List.filter_append, reporting.readies]
        exact List.append_nil _
      figures := by
        intro index client found
        rw [accepted, List.getElem?_append] at found
        split_ifs at found with earlier
        · exact reporting.figures index client found
        · have last : index = lobby.network.owner.accepted.length := by
            have bound := (List.getElem?_eq_some_iff.mp found).1
            rw [List.length_singleton] at bound
            omega
          rw [last, Nat.sub_self] at found
          cases found
          rw [last, reporting.counted.monitor, registerLobbyUser_monitorOf]
      counted := counted
      lobbyKey := by
        rw [owner]
        exact reporting.lobbyKey
      lobbyPort := by
        rw [owner]
        exact reporting.lobbyPort
      isOn := by
        rw [owner]
        exact reporting.isOn
      control := by
        rw [owner]
        exact reporting.control
      connections := by
        have new := counted.fresh connected
        have keys :
            clientKeys after.network = clientKeys lobby.network ++ [socket] := by
          rw [clientKeys, accepted]
          exact List.map_append
        rw [keys, connected, owner]
        intro key member
        have apart := reporting.connections key member
        refine ⟨List.mem_append_left _ apart.1, ?_⟩
        rw [List.mem_append, List.mem_singleton]
        rintro (client | rfl)
        · exact apart.2 client
        · exact new apart.1 }

/-- The connection to the control server is completed, and reported. -/
theorem Reporting.connectControl {socket : SocketPointer}
    (reporting : Reporting settings lobby)
    (counted : Counted settings after.network)
    (room :
      lobby.network.owner.jobQueue.contents.length + 1 <
        lobby.network.owner.jobQueue.queueMaxSize)
    (executed : after.executed = lobby.executed)
    (connected :
      after.network.connected = lobby.network.connected ++ [socket])
    (owner :
      after.network.owner =
        lobby.network.owner.connectControlServer socket) :
    Reporting settings after := by
  have controls :
      after.network.owner.controlConnections =
        lobby.network.owner.controlConnections ++ [socket] := by
    rw [owner]
    rfl
  have capacity :
      lobby.network.owner.lobbyMonitor.capacity = settings.lobbyCapacity := by
    rw [reporting.counted.monitor]
    rfl
  have made :
      after.reports = lobby.reports ++ [readyOf settings socket] := by
    apply reports_of_push executed
    rw [owner, readyOf, ← reporting.lobbyKey, ← reporting.lobbyPort,
      ← capacity, ← reporting.isOn]
    exact LobbyHub.pushJob_contents room
  exact
    { infos := by
        rw [made, owner, List.filter_append, reporting.infos]
        exact List.append_nil _
      readies := by
        rw [made, controls, List.filter_append, reporting.readies,
          List.map_append]
        rfl
      figures := by
        rw [owner]
        exact reporting.figures
      counted := counted
      lobbyKey := by
        rw [owner]
        exact reporting.lobbyKey
      lobbyPort := by
        rw [owner]
        exact reporting.lobbyPort
      isOn := by
        rw [owner]
        exact reporting.isOn
      control := by
        rw [controls, owner, List.getLastD_concat]
        rfl
      connections := by
        have new := counted.fresh connected
        have keys :
            clientKeys after.network = clientKeys lobby.network := by
          rw [clientKeys, owner]
          rfl
        rw [keys, connected, controls]
        intro key member
        rcases List.mem_append.mp member with earlier | last
        · have apart := reporting.connections key earlier
          exact ⟨List.mem_append_left _ apart.1, apart.2⟩
        · rw [List.mem_singleton.mp last]
          refine ⟨List.mem_append_right _ List.mem_cons_self, ?_⟩
          intro client
          exact new (reporting.counted.clients.subset client) }

/-- A call into the network manager, with room for a report. -/
theorem Reporting.call {event : NetworkManager.NetworkEvent}
    (reporting : Reporting settings lobby)
    (room :
      lobby.network.owner.jobQueue.contents.length + 1 <
        lobby.network.owner.jobQueue.queueMaxSize)
    (done : lobby.call event = .ok after)
    (runs : lobby.network.AfterConstruct event) :
    Reporting settings after := by
  rcases Fallible.map_eq_ok.mp done with ⟨network, called, rfl⟩
  have counted := reporting.counted.call runs called
  cases lobby_effect called with
  | quiet connected owner =>
      refine reporting.sameReports counted owner connected ?_
      rw [ReportingLobby.reports, owner]
      rfl
  | accepted _ _ same owner =>
      exact reporting.accept counted room rfl same.connected owner
  | ready _ _ _ same owner =>
      exact reporting.connectControl counted room rfl same.connected owner

/-- What a job thread takes out was at the front of the queue. -/
theorem popJob_cases {job : LobbyJob} {popped : ReportingLobby}
    (taken : lobby.popJob = (.to job, popped)) :
    ∃ jobQueue,
      popped = lobby.withJobQueue jobQueue ∧
        jobQueue.queueMaxSize =
            lobby.network.owner.jobQueue.queueMaxSize ∧
          lobby.network.owner.jobQueue.contents =
            .to job :: jobQueue.contents := by
  have front : lobby.network.owner.jobQueue.pop.1 = .to job :=
    congrArg Prod.fst taken
  have rest : lobby.withJobQueue lobby.network.owner.jobQueue.pop.2 = popped :=
    congrArg Prod.snd taken
  refine
    ⟨lobby.network.owner.jobQueue.pop.2, rest.symm,
      lobby.network.owner.jobQueue.queueMaxSize_pop, ?_⟩
  cases held : lobby.network.owner.jobQueue.contents with
  | nil =>
      rw [lobby.network.owner.jobQueue.pop_of_nil held] at front
      cases front
  | cons first rest =>
      rcases lobby.network.owner.jobQueue.pop_of_cons held with
        ⟨head, remaining⟩
      rw [← front, head]
      exact congrArg (List.cons first) remaining.symm

/-- A job that is taken out and executed stays a report. -/
theorem Reporting.popJob {job : LobbyJob}
    {jobQueue : LockFreeCircleQueue (SharedPointer LobbyJob)}
    (reporting : Reporting settings lobby)
    (held :
      lobby.network.owner.jobQueue.contents =
        .to job :: jobQueue.contents) :
    Reporting settings
      { lobby.withJobQueue jobQueue with
        executed := lobby.executed ++ [job] } := by
  have apart : (lobby.withJobQueue jobQueue).network.Apart :=
    ⟨reporting.counted.apart.numbered, reporting.counted.apart.distinct,
      reporting.counted.apart.allocated⟩
  refine reporting.sameReports ?_ rfl (.refl _) ?_
  · exact
      reporting.counted.sameClients apart rfl rfl (.refl _) (.refl _)
  · rw [ReportingLobby.reports, ReportingLobby.reports, held,
      List.append_assoc]
    rfl

/-- Every step with room keeps the reports right. -/
theorem Reporting.step {event : LobbyEvent}
    (reporting : Reporting settings lobby)
    (room : lobby.HasRoom event)
    (taken : ReportingLobby.system.step lobby event = some after) :
    Reporting settings after := by
  cases event with
  | connectControlServer bindFails ioctlFails answer =>
      exact
        reporting.call room (Fallible.toOption_eq_some.mp taken) trivial
  | completion index status errorCode answer =>
      exact
        reporting.call room (Fallible.toOption_eq_some.mp taken) trivial
  | executeJob answer =>
      change ReportingLobby.step lobby (.executeJob answer) = _ at taken
      simp only [ReportingLobby.step] at taken
      split at taken
      · cases taken
      · next job popped front =>
          rcases popJob_cases front with ⟨jobQueue, rfl, size, held⟩
          have executed := reporting.popJob held
          refine
            executed.call ?_ (Fallible.toOption_eq_some.mp taken) trivial
          have fits : _ + 1 < _ := room
          rw [held, List.length_cons, ← size] at fits
          exact Nat.lt_of_succ_lt fits

end Steps

/-- A lobby right behind its `Construct` has reported nothing. -/
theorem Reporting.construct
    {settings : LobbySettings} {start : LobbyNetwork}
    (constructed : settings.construction.manager = .ok start) :
    Reporting settings ⟨start, []⟩ := by
  rcases NetworkManager.Construction.idle constructed with ⟨_, owner, _⟩
  have nothing : ReportingLobby.reports ⟨start, []⟩ = [] := by
    rw [ReportingLobby.reports, owner]
    rfl
  exact
    { infos := by
        rw [nothing, owner]
        rfl
      readies := by
        rw [nothing, owner]
        rfl
      figures := by
        rw [owner]
        exact nofun
      counted := .construct constructed
      lobbyKey := congrArg LobbyHub.lobbyKey owner
      lobbyPort := congrArg LobbyHub.lobbyPort owner
      isOn := congrArg LobbyHub.isOn owner
      control := by
        rw [owner]
        rfl
      connections := by
        rw [owner]
        exact nofun }

/-- The reports are right in every state of a run with room. -/
theorem reporting_of_reaches
    {settings : LobbySettings} {start : LobbyNetwork}
    {lobby : ReportingLobby}
    (constructed : settings.construction.manager = .ok start)
    (reached :
      ReportingLobby.system.Reaches ReportingLobby.HasRoom ⟨start, []⟩
        lobby) :
    Reporting settings lobby :=
  reached.invariant (.construct constructed)
    fun _ _ _ reporting room taken => reporting.step room taken

/-! ## Where the reports go -/

/-- Every report is sent to the connection to the control server. -/
def ToControlServer (lobby : ReportingLobby) : Prop :=
  ∀ job ∈ lobby.reports,
    job.sendCall.targetSocket =
      lobby.network.owner.controlServerCompletionKey

instance (lobby : ReportingLobby) : Decidable (ToControlServer lobby) :=
  inferInstanceAs (Decidable (∀ job ∈ lobby.reports, _))

/-- With one connection to the control server, only clients mislead. -/
theorem Reporting.toControlServer_iff
    {settings : LobbySettings} {lobby : ReportingLobby}
    {completionKey : CompletionKey}
    (reporting : Reporting settings lobby)
    (once :
      lobby.network.owner.controlConnections = [completionKey]) :
    ToControlServer lobby ↔ lobby.network.owner.accepted = [] := by
  have control :
      lobby.network.owner.controlServerCompletionKey = completionKey := by
    rw [reporting.control, once]
    rfl
  rw [ToControlServer, control]
  constructor
  · intro toControl
    by_contra accepted
    rcases List.exists_mem_of_ne_nil _ accepted with ⟨client, member⟩
    have reported : infoOf settings client ∈ lobby.reports := by
      have info :
          infoOf settings client ∈
            lobby.network.owner.accepted.map (infoOf settings) :=
        List.mem_map_of_mem member
      rw [← reporting.infos] at info
      exact (List.mem_filter.mp info).1
    have misled : client.completionKey = completionKey :=
      toControl _ reported
    apply (reporting.connections completionKey (by rw [once]; simp)).2
    rw [← misled]
    exact List.mem_map_of_mem member
  · intro accepted job member
    have kind : isInfo job = false := by
      by_contra info
      have listed : job ∈ lobby.reports.filter isInfo :=
        List.mem_filter.mpr ⟨member, by simpa using info⟩
      rw [reporting.infos, accepted] at listed
      cases listed
    have ready :
        job ∈ lobby.reports.filter fun job => !isInfo job :=
      List.mem_filter.mpr ⟨member, by rw [kind]; rfl⟩
    rw [reporting.readies, once, List.map_singleton,
      List.mem_singleton] at ready
    rw [ready]
    rfl

/--
In every run with room in the job queue, every accepted client is reported in
turn, with the lobby's key and the figures behind its registration; and once
the connection to the control server is completed, the reports all go there if
and only if no client has been accepted.
-/
theorem reports_reach_control_server_iff
    {settings : LobbySettings} {start : LobbyNetwork}
    {lobby : ReportingLobby} {completionKey : CompletionKey}
    (constructed : settings.construction.manager = .ok start)
    (reached :
      ReportingLobby.system.Reaches ReportingLobby.HasRoom ⟨start, []⟩
        lobby)
    (once :
      lobby.network.owner.controlConnections = [completionKey]) :
    Reported settings lobby ∧
      (∀ client ∈ lobby.network.owner.accepted,
        client.monitor.currentUser + client.monitor.remainCapacity =
          settings.lobbyCapacity) ∧
        (ToControlServer lobby ↔ lobby.network.owner.accepted = []) := by
  have reporting := reporting_of_reaches constructed reached
  refine
    ⟨reporting.toReported, ?_, reporting.toControlServer_iff once⟩
  intro client member
  rcases List.getElem?_of_mem member with ⟨index, found⟩
  rw [reporting.figures index client found]
  exact monitorOf_balance settings.lobbyCapacity (index + 1)

/-- The lobby connects to the control server and accepts a client. -/
def reportingSchedule : List LobbyEvent :=
  [.connectControlServer false false .success,
    .completion 1 (.succeeded []) 0 .success,
    .executeJob .success,
    .completion 0 (.succeeded []) 0 .success,
    .executeJob .success]

theorem connects_complete :
    (ReportingLobby.system.runAllowed ReportingLobby.HasRoom
      ⟨emptyLobby, []⟩ (reportingSchedule.take 3)).isSome = true := by
  decide +kernel

theorem reporting_complete :
    (ReportingLobby.system.runAllowed ReportingLobby.HasRoom
      ⟨emptyLobby, []⟩ reportingSchedule).isSome = true := by
  decide +kernel

/-- The lobby that has connected to the control server. -/
def readyLobby : ReportingLobby :=
  (ReportingLobby.system.runAllowed ReportingLobby.HasRoom
    ⟨emptyLobby, []⟩ (reportingSchedule.take 3)).get connects_complete

/-- The lobby that has then accepted a client. -/
def joinedLobby : ReportingLobby :=
  (ReportingLobby.system.runAllowed ReportingLobby.HasRoom
    ⟨emptyLobby, []⟩ reportingSchedule).get reporting_complete

theorem readyLobby_control :
    readyLobby.network.owner.controlConnections = [3] := by
  decide +kernel

/-- Before a client joins, what is reported goes to the control server. -/
theorem reports_before_clients : ToControlServer readyLobby :=
  (reports_reach_control_server_iff emptyLobby_constructed
    (TransitionSystem.reaches_get connects_complete)
    readyLobby_control).2.2.mpr (by decide +kernel)

/-- The report of a client is sent to the client. -/
theorem report_sent_to_client :
    ¬ ∀ (settings : LobbySettings) (start : LobbyNetwork)
        (lobby : ReportingLobby) (completionKey : CompletionKey),
      settings.construction.manager = .ok start →
        ReportingLobby.system.Reaches ReportingLobby.HasRoom ⟨start, []⟩
            lobby →
          lobby.network.owner.controlConnections = [completionKey] →
            completionKey ∈ lobby.network.connectedSocketMap →
              ∀ job ∈ lobby.executed,
                job.sendCall.targetSocket = completionKey := by
  intro reach
  have misled :=
    reach (oneSocket 30) emptyLobby joinedLobby 3 emptyLobby_constructed
      (TransitionSystem.reaches_get reporting_complete) (by decide +kernel)
      (by decide +kernel)
  revert misled
  decide +kernel

end IocpServer.LobbyServer
