import IocpServer.ControlServer.ExpiringRecords
import IocpServer.ControlServer.ReceivedOrder

/-!
# Runs of the control server

The threads of the control server with its lobby manager, under every
interleaving and every timing, on a database that earlier processes of the
server may have used.  A request is answered, with no lobby, exactly if no
lobby was registered within the expire time; otherwise it ends the process, and
so does a registration whose key is not UTF-8.  The receive thread ends it only
at a notice that cannot be read.
-/

namespace IocpServer.ControlServer

open IocpServer.Library
open IocpServer.Library.Fallible
open IocpServer.Database
open IocpServer.Json
open IocpServer.Network
open IocpServer.Protocol

variable {Number : Type} [FloatArithmetic Number] {floats : FloatText Number}

/-! ## How the process ends -/

section Ending

variable {Manager Thread : Type}
variable {callbacks : JobCallbacks Manager} {builder : ResponseBuilder}

/-- A step under the lock ends the process at a job that throws. -/
theorem JobHub.lockedStep_terminated {hub : JobHub Manager}
    {output : JobOutput} {point : LockedPoint} {termination : Termination}
    (running : hub.terminated = none)
    (ended :
      (hub.lockedStep callbacks builder output point).1.terminated =
        some termination) :
    point = .executing .null ∨
      ∃ job exception,
        point = .executing (.to job) ∧
          job.execute callbacks builder hub.manager output =
            .error exception ∧
          termination = .exception exception ∧
          (hub.lockedStep callbacks builder output point).1.manager =
            hub.manager ∧
          (hub.lockedStep callbacks builder output point).2 =
            .stays point output := by
  have still : hub.terminated ≠ some termination := by
    rw [running]
    nofun
  cases point with
  | executing pointer =>
      rcases pointer with _ | job
      · exact .inl rfl
      · right
        refine ⟨job, ?_⟩
        simp only [lockedStep, execute] at ended ⊢
        cases returned : job.execute callbacks builder hub.manager output with
        | error exception =>
            rw [returned] at ended
            cases ended
            exact ⟨exception, trivial, rfl, rfl, rfl, rfl⟩
        | ok result =>
            rw [returned] at ended
            exact absurd ended still
  | predicateOutput inputIndex =>
      simp only [lockedStep] at ended
      split_ifs at ended
      · exact absurd ended still
      · exact absurd ended still
  | checkOn =>
      simp only [lockedStep] at ended
      split_ifs at ended
      · exact absurd ended still
      · exact absurd ended still
  | drainOutput inputIndex =>
      simp only [lockedStep] at ended
      split_ifs at ended
      · exact absurd ended still
      · exact absurd ended still
  | popping point =>
      simp only [lockedStep] at ended
      split at ended
      · exact absurd ended still
      · exact absurd ended still
  | predicateInput => exact absurd ended still
  | predicateOn => exact absurd ended still
  | wait => exact absurd ended still
  | drainInput => exact absurd ended still
  | beginPop => exact absurd ended still
  | checkSend => exact absurd ended still
  | sending => exact absurd ended still

/-- The process has ended at the job in hand, with its exception. -/
def EndedByJob (callbacks : JobCallbacks Manager) (builder : ResponseBuilder)
    (state : JobState Thread Manager) : Prop :=
  ∀ termination,
    state.hub.terminated = some termination →
      ∃ job output exception,
        state.inside = some (.executing (.to job), output) ∧
          job.execute callbacks builder state.hub.manager output =
            .error exception ∧
          termination = .exception exception

variable [DecidableEq Thread]

/-- Only a running process takes a step. -/
theorem JobState.running_of_step {before after : JobState Thread Manager}
    {event : JobEvent Thread}
    (taken : before.step callbacks builder event = some after) :
    before.hub.terminated = none := by
  unfold JobState.step at taken
  split_ifs at taken with ended
  exact Option.not_isSome_iff_eq_none.mp ended

theorem JobState.inside_finishLocked {state : JobState Thread Manager}
    {thread : Thread} {result : JobHub Manager × Outcome}
    {point : LockedPoint} {output : JobOutput}
    (holds : state.lockJobThread = some thread)
    (stays : result.2 = .stays point output) :
    (state.finishLocked thread result).inside = some (point, output) := by
  rcases result with ⟨hub, outcome⟩
  cases stays
  rw [JobState.finishLocked, JobState.inside_setWorker_self]
  exact holds

/-- Where the process ends is where it stays. -/
theorem EndedByJob.step {before after : JobState Thread Manager}
    {event : JobEvent Thread}
    (serial : Serial callbacks builder before)
    (taken : before.step callbacks builder event = some after) :
    EndedByJob callbacks builder after := by
  intro termination ended
  have running := JobState.running_of_step taken
  have still : ∀ {hub : JobHub Manager}, hub.terminated = before.hub.terminated →
      hub.terminated ≠ some termination := by
    intro hub same now
    rw [same, running] at now
    cases now
  cases event with
  | beginPush job =>
      rcases JobState.step_beginPush taken with ⟨-, rfl⟩
      exact absurd ended (still rfl)
  | stepPush =>
      rcases JobState.step_stepPush taken with ⟨point, -, rfl⟩
      refine absurd ended (still ?_)
      simp only [JobHub.stepPush]
      split <;> rfl
  | turnOff =>
      rw [JobState.step_turnOff taken] at ended
      exact absurd ended (still rfl)
  | work thread =>
      rcases JobState.step_work taken with
        ⟨_, _, -, rfl⟩ | ⟨-, rfl⟩ | ⟨point, located, rfl⟩
      · exact absurd ended (still rfl)
      · exact absurd ended (still rfl)
      · rw [JobState.finishLocked_hub] at ended
        have holds := serial.exclusive thread point located
        have sound := serial.consistent.sound
        rw [JobState.inside_of_locked holds located] at sound
        rcases JobHub.lockedStep_terminated running ended with
          rfl | ⟨job, exception, rfl, raised, rfl, sameManager, stays⟩
        · exact absurd rfl sound
        · refine ⟨job, (before.workers thread).output, exception, ?_, ?_, rfl⟩
          · exact JobState.inside_finishLocked holds stays
          · rw [JobState.finishLocked_hub, sameManager]
            exact raised

variable {decoder : MessageDecoder}

end Ending

/-! ## What a job meets -/

section Jobs

variable {clock : Nat → Nat} {manager : TimedManager Number}
variable {history : List TimedRegistration} {builder : ResponseBuilder}

end Jobs

/-! ## Every run -/

section Runs

variable {Thread : Type} [DecidableEq Thread]
variable {clock : Nat → Nat} {decoder : MessageDecoder}
variable {builder : ResponseBuilder}
variable {packetQueueCapacity overlappedQueueMax : Nat}
variable {outputs : Thread → JobOutput}
variable {state : HubState Thread (TimedManager Number)}

/-- The threads of the control server, behind earlier processes of it. -/
def ServerReaches (floats : FloatText Number) {clock : Nat → Nat}
    (earlier : EarlierRuns clock)
    (decoder : MessageDecoder) (builder : ResponseBuilder)
    (packetQueueCapacity overlappedQueueMax : Nat)
    (outputs : Thread → JobOutput)
    (state : HubState Thread (TimedManager Number)) : Prop :=
  (hubSystem decoder (serverCallbacks floats clock) builder).Reachable
    (HubState.start packetQueueCapacity overlappedQueueMax
      (TimedManager.restarted floats earlier) outputs) state

/-- The registrations that were executed, and when. -/
def HubState.history (earlier : EarlierRuns clock)
    (state : HubState Thread (TimedManager Number)) :
    List TimedRegistration :=
  earlier.behind state.jobs.hub.executed

/-- The moment of the next call of a callback. -/
def HubState.moment (clock : Nat → Nat)
    (state : HubState Thread (TimedManager Number)) : Nat :=
  clock state.jobs.hub.executed.length

variable {earlier : EarlierRuns clock}

theorem holdsRecords_of_reaches
    (kept : floats.Keeps (FloatArithmetic.ofInt 0)) (monotone : Monotone clock)
    (reached :
      ServerReaches floats earlier decoder builder packetQueueCapacity
        overlappedQueueMax outputs state) :
    state.jobs.hub.manager.calls = state.jobs.hub.executed.length ∧
      HoldsRecords floats clock state.jobs.hub.manager
        (state.history earlier) := by
  have logged := logged_of_reachable (jobs_reachable reached)
  rcases
    holdsRecords_replays (holdsRecords_restarted earlier) kept monotone
      logged with
    ⟨calls, holds⟩
  exact ⟨calls.trans (Nat.zero_add _), holds⟩

/--
In every run, with every timing and behind every earlier one: at every moment
the database shows the record of the latest registration of each lobby, as long
as that has not expired, and nothing else; the record's text is that
registration, and the lobby manager refuses to read it.
-/
theorem records_of_runs (kept : floats.Keeps (FloatArithmetic.ofInt 0))
    (monotone : Monotone clock)
    (reached :
      ServerReaches floats earlier decoder builder packetQueueCapacity
        overlappedQueueMax outputs state)
    (now : Nat) (place text : ByteString) :
    (place, text) ∈
        (state.jobs.hub.manager.seen now).redisWorker.scanMultipleResult
          lobbyTable ↔
      ∃ entry,
        latestAt (state.history earlier) place = some entry ∧
          now < entry.deadline ∧
          (writtenRecord entry.registration.lobby).dump floats none 0 =
            .ok text ∧
          Parser.parse floats true text =
            .ok (writtenRecord entry.registration.lobby).reread ∧
          LobbyInfo.ofText (nlohmannLibrary floats) text =
            .error recordException := by
  have holds := (holdsRecords_of_reaches kept monotone reached).2
  rw [holds.mem_scan_iff kept]
  constructor
  · rintro ⟨entry, found, fresh, dumped⟩
    exact
      ⟨entry, found, fresh, dumped, (parse_writtenRecord kept dumped).2,
        ofText_writtenRecord kept dumped⟩
  · rintro ⟨entry, found, fresh, dumped, -, -⟩
    exact ⟨entry, found, fresh, dumped⟩

end Runs

/-! ### A request a minute behind a registration -/

/-- A minute between one call and the next. -/
def everyMinute (call : Nat) : Nat :=
  60000 * call

theorem monotone_everyMinute : Monotone everyMinute :=
  fun _ _ before => Nat.mul_le_mul_left 60000 before

/-- The server with whole numbers. -/
def wholeSystem :
    TransitionSystem (HubState (Fin 1) (TimedManager Int))
      (HubEvent (Fin 1)) :=
  letI := wholeArithmetic
  hubSystem flatBuffers (serverCallbacks wholeText everyMinute) noLobbyBuilder

/-- A process before this one has stored the record of a lobby at the start. -/
def earlierProcess : EarlierRuns everyMinute where
  registrations := [⟨⟨literal "earlier", 7001, 20, true⟩, 0⟩]
  valid := by
    intro entry present
    rw [List.mem_singleton.mp present]
    exact ⟨"earlier".toList, rfl⟩
  ordered := List.pairwise_singleton _ _
  past := by
    intro entry present
    rw [List.mem_singleton.mp present]
    exact Nat.zero_le _

/-- The server behind the earlier process. -/
def restartedServer : HubState (Fin 1) (TimedManager Int) :=
  letI := wholeArithmetic
  HubState.start 4 4 (.restarted wholeText earlierProcess) fun _ => staleOutput

/-- A registration and a request, executed in this order. -/
def registrationThenRequest : List (HubEvent (Fin 1)) :=
  .receive lobbyReady :: List.replicate 3 .arrive ++
    List.replicate 12 .read ++
    .receive (lobbyRequest 7) :: List.replicate 3 .arrive ++
    List.replicate 12 .read ++ List.replicate 28 (.work ⟨0, Nat.one_pos⟩)

theorem registrationThenRequest_complete :
    (wholeSystem.run restartedServer registrationThenRequest).isSome =
      true := by
  decide +kernel

/-- The state behind both. -/
def behindLateRequest : HubState (Fin 1) (TimedManager Int) :=
  (wholeSystem.run restartedServer registrationThenRequest).get
    registrationThenRequest_complete

theorem behindLateRequest_reached :
    letI := wholeArithmetic
    ServerReaches wholeText earlierProcess flatBuffers noLobbyBuilder 4 4
      (fun _ => staleOutput) behindLateRequest :=
  TransitionSystem.reachable_of_run
    (Option.some_get registrationThenRequest_complete).symm

/-- The text of the record. -/
def registeredText : ByteString :=
  literal "\x7b\"active\":1,\"current\":0,\"key\":\"lobby\"," ++
    literal "\"port\":7000,\"remain\":10,\"response_speed\":0.0\x7d"

/-- The text of the earlier process's record. -/
def earlierText : ByteString :=
  literal "\x7b\"active\":1,\"current\":0,\"key\":\"earlier\"," ++
    literal "\"port\":7001,\"remain\":20,\"response_speed\":0.0\x7d"

/-- The records that are there to the end of the minute. -/
theorem lateRequest_records :
    (behindLateRequest.jobs.hub.manager.seen
        59999).redisWorker.scanMultipleResult lobbyTable =
      [(literal "table:LobbyInfo:earlier", earlierText),
        (literal "table:LobbyInfo:lobby", registeredText)] := by
  decide +kernel

/-- The records of both processes are there, and refused. -/
theorem records_of_runs_late :
    letI := wholeArithmetic
    (behindLateRequest.jobs.hub.manager.seen
          59999).redisWorker.scanMultipleResult lobbyTable =
        [(literal "table:LobbyInfo:earlier", earlierText),
          (literal "table:LobbyInfo:lobby", registeredText)] ∧
      LobbyInfo.ofText (nlohmannLibrary wholeText) earlierText =
          .error recordException ∧
        LobbyInfo.ofText (nlohmannLibrary wholeText) registeredText =
          .error recordException := by
  let whole := wholeArithmetic
  have record :=
    records_of_runs (keeps_whole 0) monotone_everyMinute
      behindLateRequest_reached 59999
  have earlier := record (literal "table:LobbyInfo:earlier") earlierText
  have registered := record (literal "table:LobbyInfo:lobby") registeredText
  rw [lateRequest_records] at earlier registered
  rcases earlier.mp List.mem_cons_self with ⟨_, -, -, -, -, refused⟩
  rcases registered.mp (List.mem_cons_of_mem _ List.mem_cons_self) with
    ⟨_, -, -, -, -, alsoRefused⟩
  exact ⟨lateRequest_records, refused, alsoRefused⟩

end IocpServer.ControlServer
