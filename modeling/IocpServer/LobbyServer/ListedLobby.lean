import IocpServer.ControlServer.ServerRuns
import IocpServer.LobbyServer.ConnectedServers

/-!
# How long a lobby is listed

A lobby registers once, and the record of a registration expires.  Nothing
that the lobby sends afterwards renews it: behind the expire time the control
server no longer knows of the lobby, although it runs and is connected.
-/

namespace IocpServer.LobbyServer

open IocpServer.ControlServer
open IocpServer.Database
open IocpServer.Json
open IocpServer.Library
open IocpServer.Network
open IocpServer.Protocol

/-- The place of the lobby's record in the database. -/
def LobbySettings.place (settings : LobbySettings) : ByteString :=
  cString (RedisWorker.cacheKey lobbyTable settings.lobbyKey)

/-- The registration of the lobby. -/
def LobbySettings.registration (settings : LobbySettings) : Registration where
  key := settings.lobbyKey
  port := settings.lobbyPort
  capacity := settings.lobbyCapacity
  active := true

/-- A job writes the record of the lobby, or overwrites it. -/
def WritesRecord (settings : LobbySettings) (job : Job) : Prop :=
  ∃ registration,
    registrationOfJob job = some registration ∧
      cString (RedisWorker.cacheKey lobbyTable registration.key) =
        settings.place

section Listed

variable {Number : Type} [FloatArithmetic Number] {floats : FloatText Number}
variable {Thread : Type} [DecidableEq Thread]
variable {peering : Peering} {settings : LobbySettings}
variable {clock : Nat → Nat} {earlier : EarlierRuns clock}
variable {builder : ResponseBuilder}
variable {packetQueueCapacity overlappedQueueMax : Nat}
variable {outputs : Thread → JobOutput}
variable {lobby : LobbyNetwork}
variable {state : ConnectedServers Thread (TimedManager Number)}
variable {before after : List (Executed (TimedManager Number))}
variable {done : Executed (TimedManager Number)} {own : CompletionKey}

omit [FloatArithmetic Number] [DecidableEq Thread] in
/-- Behind its registration nothing more is executed for a connection. -/
theorem registration_last
    (once :
      (((before ++ done :: after).map Executed.job).filter
        fun job => job.socketPtr = peering.peer own).Sublist
          (if own ∈ state.lobby.controlConnections then
            [registrationOf peering settings own]
          else
            []))
    (asked : done.job.socketPtr = peering.peer own) :
    done.job = registrationOf peering settings own ∧
      ∀ other ∈ after, other.job.socketPtr ≠ peering.peer own := by
  have present :
      done.job ∈
        ((before ++ done :: after).map Executed.job).filter
          fun job => job.socketPtr = peering.peer own := by
    apply List.mem_filter.mpr
    constructor
    · exact
        List.mem_map_of_mem
          (List.mem_append_right _ List.mem_cons_self)
    · exact decide_eq_true asked
  split_ifs at once with control
  · constructor
    · exact List.mem_singleton.mp (once.subset present)
    · intro other member later
      have ordered : [done, other].Sublist (before ++ done :: after) :=
        ((List.singleton_sublist.mpr member).cons_cons done).trans
          (List.sublist_append_right _ _)
      have both :
          ([done, other].map Executed.job).filter
              (fun job => job.socketPtr = peering.peer own) =
            [done.job, other.job] := by
        apply List.filter_eq_self.mpr
        intro job present
        rcases List.mem_pair.mp present with rfl | rfl
        · exact decide_eq_true asked
        · exact decide_eq_true later
      have two :=
        ((ordered.map Executed.job).filter fun job =>
          decide (job.socketPtr = peering.peer own)).trans once
      rw [both] at two
      exact absurd two.length_le (Nat.not_succ_le_self 1)
  · cases once.subset present

/--
The one registration of a lobby whose calls follow one another is all that the
control server executes for a connection of the lobby.  As long as no other
connection registers at the same place, the database shows its record to the
end of the expire time, and no record of the lobby ever after, whatever earlier
runs have left there.
-/
theorem lobby_listed_until_expired
    (kept : floats.Keeps (FloatArithmetic.ofInt 0)) (monotone : Monotone clock)
    (constructed : settings.construction.manager = .ok lobby)
    (short : ShortKey settings)
    (reached :
      (serversSystem peering flatBuffers (serverCallbacks floats clock)
        builder).Reaches (FromOthers peering)
          (.start lobby
            (HubState.start packetQueueCapacity overlappedQueueMax
              (TimedManager.restarted floats earlier) outputs))
          state)
    (executed : state.hub.jobs.hub.executed = before ++ done :: after)
    (asked : done.job.socketPtr = peering.peer own)
    (alone :
      ∀ other ∈ after,
        WritesRecord settings other.job →
          other.job.socketPtr = peering.peer own) :
    done.job = registrationOf peering settings own ∧
      ∀ now text,
        (settings.place, text) ∈
            (state.hub.jobs.hub.manager.seen
              now).redisWorker.scanMultipleResult lobbyTable ↔
          now < clock before.length + 60000 ∧
            (writtenRecord settings.registration.lobby).dump floats none 0 =
              .ok text := by
  have together := together_of_reaches constructed short reached
  have hubReached := hub_reachable_of_servers reached
  have once := together.executed_sublist short hubReached own
  rw [executed] at once
  rcases registration_last once asked with ⟨registered, last⟩
  refine ⟨registered, ?_⟩
  have holds := (holdsRecords_of_reaches kept monotone hubReached).2
  have history :
      state.hub.history earlier =
        earlier.behind before ++
          ⟨settings.registration, clock before.length⟩ ::
            timedRegistrations clock (before.length + 1) after := by
    rw [HubState.history, EarlierRuns.behind, EarlierRuns.behind, executed,
      timedRegistrations_append, Nat.zero_add, timedRegistrations, registered,
      List.append_assoc]
    rfl
  have latest :
      latestAt (state.hub.history earlier) settings.place =
        some ⟨settings.registration, clock before.length⟩ := by
    rw [history]
    apply latestAt_of_last
    intro entry member same
    rcases job_of_timedRegistration member with ⟨other, later, written⟩
    exact last other later (alone other later ⟨_, written, same⟩)
  intro now text
  rw [holds.mem_scan_iff kept, latest]
  constructor
  · rintro ⟨entry, same, fresh, dumped⟩
    cases same
    exact ⟨fresh, dumped⟩
  · rintro ⟨fresh, dumped⟩
    exact ⟨_, rfl, fresh, dumped⟩

end Listed

/-- A lobby and the control server with whole numbers. -/
def wholeServers :
    TransitionSystem (ConnectedServers (Fin 1) (TimedManager Int))
      (ServersEvent (Fin 1)) :=
  letI := wholeArithmetic
  serversSystem highKeys flatBuffers (serverCallbacks wholeText everyMinute)
    noLobbyBuilder

theorem listed_complete :
    (wholeServers.runAllowed (FromOthers highKeys)
      (.start emptyLobby (.start 2 2 .construct fun _ => staleOutput))
      requestThenRegistration).isSome = true := by
  decide +kernel

/-- The servers behind a request and, a minute later, the registration. -/
def behindListed : ConnectedServers (Fin 1) (TimedManager Int) :=
  (wholeServers.runAllowed (FromOthers highKeys)
    (.start emptyLobby (.start 2 2 .construct fun _ => staleOutput))
    requestThenRegistration).get listed_complete

/-- The text of the lobby's record. -/
def listedText : ByteString :=
  literal "\x7b\"active\":1,\"current\":0,\"key\":\"L\"," ++
    literal "\"port\":9000,\"remain\":30,\"response_speed\":0.0\x7d"

/-- The lobby is listed for the second minute, and not for the third. -/
theorem lobby_listed_second_minute :
    letI := wholeArithmetic
    let manager := behindListed.hub.jobs.hub.manager
    ((oneSocket 30).place, listedText) ∈
        (manager.seen 119999).redisWorker.scanMultipleResult lobbyTable ∧
      ∀ text,
        ((oneSocket 30).place, text) ∉
          (manager.seen 120000).redisWorker.scanMultipleResult
            lobbyTable := by
  let whole := wholeArithmetic
  intro manager
  have reached :
      wholeServers.Reaches (FromOthers highKeys)
        (.start emptyLobby
          (.start 2 2
            (.restarted wholeText (.none : EarlierRuns everyMinute))
            fun _ => staleOutput))
        behindListed :=
    TransitionSystem.reaches_get listed_complete
  have jobs :
      behindListed.hub.jobs.hub.executed.map Executed.job =
        [.requestLobbyInfo 5, registrationOf highKeys (oneSocket 30) 3] := by
    decide +kernel
  have dumped :
      (writtenRecord ((oneSocket 30).registration.lobby : LobbyInfo Int)).dump
          wholeText none 0 =
        .ok listedText := by
    decide +kernel
  rcases List.map_eq_cons_iff.mp jobs with
    ⟨request, rest, executed, -, registered⟩
  rcases List.map_eq_singleton_iff.mp registered with ⟨done, rfl, asked⟩
  have second :
      behindListed.hub.jobs.hub.executed = [request] ++ done :: [] :=
    executed
  have listed :=
    (lobby_listed_until_expired (keeps_whole 0) monotone_everyMinute
      emptyLobby_constructed oneSocket_short reached second
      (congrArg Job.socketPtr asked)
      fun _ member => absurd member List.not_mem_nil).2
  constructor
  · have fresh : 119999 < everyMinute 1 + 60000 := by decide
    exact (listed 119999 listedText).mpr ⟨fresh, dumped⟩
  · intro text stored
    have expired : ¬120000 < everyMinute 1 + 60000 := by decide
    exact expired ((listed 120000 text).mp stored).1

end IocpServer.LobbyServer
