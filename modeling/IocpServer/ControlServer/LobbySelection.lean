import IocpServer.ControlServer.JobReplay
import IocpServer.ControlServer.LobbyTable
import IocpServer.ControlServer.RequestDelivery

/-!
# The lobby a request is answered with

Registrations are executed as jobs and stored; load notices are decoded and
left behind.  The lobby a request is answered with is therefore the one the
rule chooses on the registrations received before it, whatever loads were
reported in between.
-/

namespace IocpServer.ControlServer

open IocpServer.Library
open IocpServer.Library.Fallible
open IocpServer.Json
open IocpServer.Network
open IocpServer.Protocol

variable {Number : Type}

/-- The callbacks the receive thread makes the jobs with. -/
def LobbyManager.callbacks [FloatArithmetic Number]
    (library : JsonLibrary Number) (reader : RecordReader Number) :
    JobCallbacks (LobbyManager Number) where
  requestLobbyInfo manager lobbyKey lobbyPort _ :=
    (manager.responseLobbyInfo reader lobbyKey lobbyPort).map fun found =>
      (manager, found)
  saveLobbyInfo manager lobbyKey port capacity active :=
    manager.saveLobbyInfo library lobbyKey port capacity active

/-- The registration a job carries out. -/
def registrationOfJob : Job → Option Registration
  | .requestLobbyInfo _ => none
  | .noticeLobbyReady _ lobbyKey port capacity active =>
      some
        { key := lobbyKey, port := port, capacity := capacity
          active := active }

section Tables

variable [FloatArithmetic Number]

/-- The table after an executed job. -/
def registerJob (table : LobbyTable Number) (job : Job) :
    LobbyTable Number :=
  match registrationOfJob job with
  | none => table
  | some registration =>
      table.insert (cString registration.key) registration.lobby

/-- The table of the registrations of executed jobs. -/
def registeredTable (jobs : List Job) : LobbyTable Number :=
  jobs.foldl registerJob ∅

/--
One received notice in the reference table: a registration sets the lobby's
entry, a load notice replaces the figures of an entry that is there.
-/
def followNotice
    (decoder : MessageDecoder) (table : LobbyTable Number)
    (packet : Packet) : LobbyTable Number :=
  match dispatch decoder packet with
  | .job job =>
      match registrationOfJob job with
      | none => table
      | some registration =>
          table.insert registration.key registration.lobby
  | .leftBehind notice =>
      match table[notice.lobbyKey]? with
      | none => table
      | some lobby =>
          table.insert notice.lobbyKey
            { lobby with
              current := notice.current
              remain := notice.remain
              active := notice.active }
  | .nothing => table
  | .malformed => table

/-- The reference table of the received packets. -/
def referenceTable
    (decoder : MessageDecoder) (packets : List Packet) :
    LobbyTable Number :=
  packets.foldl (followNotice decoder) ∅

end Tables

/-! ## What the executed jobs have stored -/

section Stored

variable [FloatArithmetic Number]
variable {library : JsonLibrary Number} {reader : RecordReader Number}

/-- One job's effect, on the database and on the table it stands for. -/
theorem represents_effect
    {before after : LobbyManager Number} {table : LobbyTable Number}
    {job : Job}
    (represents : Represents library reader before.redisWorker table)
    (decodes :
      ∀ registration,
        registrationOfJob job = some registration →
          Decodes library reader registration)
    (effect :
      job.effect (LobbyManager.callbacks library reader) before =
        .ok after) :
    Represents library reader after.redisWorker (registerJob table job) := by
  cases job with
  | requestLobbyInfo socketPtr =>
      rcases map_eq_ok.mp effect with ⟨result, response, sameManager⟩
      rcases map_eq_ok.mp response with ⟨found, -, sameResult⟩
      rw [← sameManager, ← sameResult]
      exact represents
  | noticeLobbyReady socketPtr lobbyKey port capacity active =>
      rcases decodes _ rfl with ⟨text, dumped, noZero, reads⟩
      have saved := LobbyManager.saveLobbyInfo_eq dumped before
      have same := Except.ok.inj (effect.symm.trans saved)
      rw [same]
      exact represents.updateData dumped noZero reads

/-- The effects of a run of jobs. -/
theorem represents_replays
    {executed : List (Executed (LobbyManager Number))}
    {start finish : LobbyManager Number} {table : LobbyTable Number}
    (represents : Represents library reader start.redisWorker table)
    (decodes :
      ∀ job ∈ executed.map Executed.job,
        ∀ registration,
          registrationOfJob job = some registration →
            Decodes library reader registration)
    (replays :
      Replays (LobbyManager.callbacks library reader) start executed
        finish) :
    Represents library reader finish.redisWorker
      ((executed.map Executed.job).foldl registerJob table) := by
  induction executed generalizing start table with
  | nil =>
      have same : start = finish := replays
      rw [← same]
      exact represents
  | cons done rest recursive =>
      rcases replays with ⟨-, next, effect, remaining⟩
      refine recursive ?_ ?_ remaining
      · exact
          represents_effect represents
            (decodes done.job (List.mem_cons_self ..)) effect
      · intro job present
        exact decodes job (List.mem_cons_of_mem done.job present)

/-- The database a job met stands for the registrations before the job. -/
theorem Logged.represents {Thread : Type}
    {state : JobState Thread (LobbyManager Number)}
    {earlier later : List (Executed (LobbyManager Number))}
    {done : Executed (LobbyManager Number)}
    (logged :
      Logged (LobbyManager.callbacks library reader) .construct state)
    (split : state.hub.executed = earlier ++ done :: later)
    (decodes :
      ∀ job ∈ earlier.map Executed.job,
        ∀ registration,
          registrationOfJob job = some registration →
            Decodes library reader registration) :
    Represents library reader done.manager.redisWorker
      (registeredTable (earlier.map Executed.job)) := by
  unfold Logged at logged
  rw [split] at logged
  rcases replays_append.mp logged with ⟨middle, toMiddle, met, -⟩
  rw [met]
  exact represents_replays represents_empty decodes toMiddle

end Stored

/-! ## Loads that repeat what is known -/

section Repeats

variable [FloatArithmetic Number]

/--
A notice after which the registrations alone still give the table: a load
notice repeats the figures of its entry, and a registered key holds no zero.
-/
def RepeatsNotice
    (decoder : MessageDecoder) (table : LobbyTable Number)
    (packet : Packet) : Prop :=
  match dispatch decoder packet with
  | .job job =>
      match registrationOfJob job with
      | none => True
      | some registration => 0 ∉ registration.key
  | .leftBehind notice =>
      match table[notice.lobbyKey]? with
      | none => True
      | some lobby =>
          notice.current = lobby.current ∧
            notice.remain = lobby.remain ∧ notice.active = lobby.active
  | .nothing => True
  | .malformed => True

/-- Every packet repeats what the reference table holds when it comes. -/
def Repeats (decoder : MessageDecoder) :
    LobbyTable Number → List Packet → Prop
  | _, [] => True
  | table, packet :: packets =>
      RepeatsNotice decoder table packet ∧
        Repeats decoder (followNotice decoder table packet) packets

instance
    (decoder : MessageDecoder) (table : LobbyTable Number)
    (packet : Packet) :
    Decidable (RepeatsNotice decoder table packet) := by
  unfold RepeatsNotice
  split
  · split <;> infer_instance
  · split <;> infer_instance
  · infer_instance
  · infer_instance

instance decidableRepeats (decoder : MessageDecoder) :
    (table : LobbyTable Number) → (packets : List Packet) →
      Decidable (Repeats decoder table packets)
  | _, [] => isTrue trivial
  | table, packet :: packets =>
      have := decidableRepeats decoder (followNotice decoder table packet)
        packets
      inferInstanceAs (Decidable (_ ∧ _))

/-- A notice that repeats what is known leaves what its job leaves. -/
theorem followNotice_of_repeats
    {decoder : MessageDecoder} {table : LobbyTable Number} {packet : Packet}
    (repeats : RepeatsNotice decoder table packet) :
    followNotice decoder table packet =
      match jobOf decoder packet with
      | none => table
      | some job => registerJob table job := by
  unfold RepeatsNotice at repeats
  unfold followNotice jobOf
  cases dispatched : dispatch decoder packet with
  | job job =>
      rw [dispatched] at repeats
      dsimp only at repeats ⊢
      unfold registerJob
      cases carries : registrationOfJob job with
      | none => rfl
      | some registration =>
          rw [carries] at repeats
          dsimp only at repeats ⊢
          rw [cString_of_zero_not_mem repeats]
  | leftBehind notice =>
      rw [dispatched] at repeats
      dsimp only at repeats ⊢
      cases known : table[notice.lobbyKey]? with
      | none => rfl
      | some lobby =>
          rw [known] at repeats
          rcases repeats with ⟨sameCurrent, sameRemain, sameActive⟩
          dsimp only
          rw [sameCurrent, sameRemain, sameActive]
          apply Std.ExtTreeMap.ext_getElem?
          intro key
          rw [Std.ExtTreeMap.getElem?_insert]
          split_ifs with same
          · rw [← Std.LawfulEqCmp.compare_eq_iff_eq.mp same, known]
          · rfl
  | nothing => rfl
  | malformed => rfl

/-- Where every notice repeats what is known, the jobs give the table. -/
theorem foldl_followNotice_of_repeats
    {decoder : MessageDecoder} {table : LobbyTable Number}
    {packets : List Packet}
    (repeats : Repeats decoder table packets) :
    packets.foldl (followNotice decoder) table =
      (packets.filterMap (jobOf decoder)).foldl registerJob table := by
  induction packets generalizing table with
  | nil => rfl
  | cons packet packets recursive =>
      rcases repeats with ⟨first, rest⟩
      rw [List.foldl_cons, recursive rest, List.filterMap_cons,
        followNotice_of_repeats first]
      cases jobOf decoder packet with
      | none => rfl
      | some job => rfl

end Repeats

/-! ## The answer to a request -/

section Answers

variable {Thread Manager : Type}
variable {decoder : MessageDecoder}
variable {callbacks : JobCallbacks Manager} {builder : ResponseBuilder}

/--
A request was received behind these packets, and this is its execution: the
one after those of the jobs that the packets before it asked for.
-/
def Answers
    (decoder : MessageDecoder) (state : HubState Thread Manager)
    (before : List Packet) (done : Executed Manager) : Prop :=
  ∃ request later socketPtr,
    state.received = before ++ request :: later ∧
      jobOf decoder request = some (.requestLobbyInfo socketPtr) ∧
        state.jobs.hub.executed[
          (before.filterMap (jobOf decoder)).length]? = some done

/-- The executed jobs are the first ones that were asked for. -/
theorem executed_first
    {state : HubState Thread Manager}
    (flowing : Flowing decoder state)
    (consistent :
      Consistent callbacks builder state.jobs.hub state.jobs.inside) :
    state.jobs.hub.executed.map Executed.job <+:
      state.received.filterMap (jobOf decoder) := by
  rcases consistent.queued with ⟨_, -, ordered⟩
  rcases flowing.flow with ⟨_, -, received⟩
  rw [received, ordered]
  simp only [List.append_assoc]
  exact List.prefix_append _ _

/-- The jobs executed before an answer are those asked for before it. -/
theorem Answers.executed
    {state : HubState Thread Manager} {before : List Packet}
    {done : Executed Manager}
    (answers : Answers decoder state before done)
    (executed :
      state.jobs.hub.executed.map Executed.job <+:
        state.received.filterMap (jobOf decoder)) :
    ∃ earlier later,
      state.jobs.hub.executed = earlier ++ done :: later ∧
        earlier.map Executed.job = before.filterMap (jobOf decoder) := by
  rcases answers with ⟨request, rest, socketPtr, split, -, located⟩
  rcases List.getElem?_eq_some_iff.mp located with ⟨bound, atIndex⟩
  refine
    ⟨state.jobs.hub.executed.take (before.filterMap (jobOf decoder)).length,
      state.jobs.hub.executed.drop
        ((before.filterMap (jobOf decoder)).length + 1), ?_, ?_⟩
  · rw [← atIndex, ← List.drop_eq_getElem_cons, List.take_append_drop]
  · rcases executed with ⟨remaining, whole⟩
    rw [split, List.filterMap_append] at whole
    have taken :=
      congrArg (List.take (before.filterMap (jobOf decoder)).length) whole
    rw [List.take_left, List.take_append_of_le_length] at taken
    · rw [List.map_take, taken]
    · rw [List.length_map]
      exact Nat.le_of_lt bound

end Answers

/--
The lobby a request is answered with is the one the rule chooses on the
reference table of the packets received before the request.
-/
def Follows [FloatArithmetic Number]
    (reader : RecordReader Number) (decoder : MessageDecoder)
    (before : List Packet) (done : Executed (LobbyManager Number)) : Prop :=
  (done.manager.searchBestLobby reader).map BestLobby.lobby =
    .ok (choose (referenceTable decoder before) : BestLobby Number).lobby

/--
In every run in which no push finds its queue full and every registered
record reads back: the lobby a request is answered with follows the reported
loads exactly when they do not change the choice, that is when the rule
chooses the same lobby on the registrations alone.  This is so in particular
where every load notice repeats what is known.
-/
theorem selection_follows_notices {Thread : Type} [DecidableEq Thread]
    [FloatArithmetic Number]
    {library : JsonLibrary Number} {reader : RecordReader Number}
    {decoder : MessageDecoder} {builder : ResponseBuilder}
    {packetQueueCapacity overlappedQueueMax : Nat}
    {outputs : Thread → JobOutput}
    {state : HubState Thread (LobbyManager Number)}
    (reached :
      (hubSystem decoder (LobbyManager.callbacks library reader)
        builder).Reaches PushHasRoom
          (HubState.start packetQueueCapacity overlappedQueueMax
            LobbyManager.construct outputs) state)
    (decodes :
      ∀ job ∈ state.received.filterMap (jobOf decoder),
        ∀ registration,
          registrationOfJob job = some registration →
            Decodes library reader registration)
    {before : List Packet} {done : Executed (LobbyManager Number)}
    (answers : Answers decoder state before done) :
    (Follows reader decoder before done ↔
      (choose (registeredTable (before.filterMap (jobOf decoder))) :
          BestLobby Number).lobby =
        (choose (referenceTable decoder before) : BestLobby Number).lobby) ∧
      (Repeats decoder (∅ : LobbyTable Number) before →
        Follows reader decoder before done) := by
  have flowing : Flowing decoder state :=
    reached.invariant (start_flowing _ _ _ _)
      fun _ _ _ before room taken => before.step room taken
  have jobsReached := jobs_reachable reached
  have serial := serial_of_reachable jobsReached
  have logged := logged_of_reachable jobsReached
  rcases answers.executed (executed_first flowing serial.consistent) with
    ⟨earlier, later, split, earlierJobs⟩
  have represents :
      Represents library reader done.manager.redisWorker
        (registeredTable (before.filterMap (jobOf decoder))) := by
    rw [← earlierJobs]
    apply logged.represents split
    intro job present
    apply decodes job
    rcases answers with ⟨request, rest, socketPtr, received, -, -⟩
    rw [earlierJobs] at present
    rw [received, List.filterMap_append]
    exact List.mem_append_left _ present
  have chosen :
      Follows reader decoder before done ↔
        (choose (registeredTable (before.filterMap (jobOf decoder))) :
            BestLobby Number).lobby =
          (choose (referenceTable decoder before) :
            BestLobby Number).lobby := by
    unfold Follows
    rw [represents.search]
    exact ⟨Except.ok.inj, congrArg Except.ok⟩
  refine ⟨chosen, ?_⟩
  intro repeats
  apply chosen.mpr
  unfold referenceTable registeredTable
  rw [foldl_followNotice_of_repeats repeats]

/-! ## One lobby -/

/-- The lobby `lobby` is ready on port 7000, with ten places. -/
def lobbyReady : Packet where
  senderType := 3
  completionKey := 6
  contentsType := 3
  buffer :=
    [16, 0, 0, 0, 12, 0, 20, 0, 8, 0, 12, 0, 16, 0, 7, 0, 12, 0, 0, 0, 0, 0,
     0, 1, 12, 0, 0, 0, 88, 27, 0, 0, 10, 0, 0, 0, 5, 0, 0, 0, 108, 111, 98,
     98, 121, 0, 0, 0]

/-- The lobby is full and closed. -/
def lobbyFull : Packet where
  senderType := 3
  completionKey := 6
  contentsType := 4
  buffer :=
    [12, 0, 0, 0, 8, 0, 12, 0, 4, 0, 8, 0, 8, 0, 0, 0, 8, 0, 0, 0, 10, 0, 0,
     0, 5, 0, 0, 0, 108, 111, 98, 98, 121, 0, 0, 0]

/-- The lobby is still empty. -/
def lobbyEmpty : Packet where
  senderType := 3
  completionKey := 6
  contentsType := 4
  buffer :=
    [16, 0, 0, 0, 12, 0, 16, 0, 8, 0, 0, 0, 12, 0, 7, 0, 12, 0, 0, 0, 0, 0,
     0, 1, 8, 0, 0, 0, 10, 0, 0, 0, 5, 0, 0, 0, 108, 111, 98, 98, 121, 0, 0, 0]

/-- A reader of the sample lobby's record. -/
def sampleReader : RecordReader ℚ := fun text =>
  if text = plainText (writtenRecord sampleLobby) then
    .ok sampleLobby
  else
    .error (.parseError 101 "syntax error")

/-- The responses without a lobby and with the sample lobby. -/
def sampleBuilder : ResponseBuilder where
  finish _ lobbyKey _ :=
    if lobbyKey = [] then
      noLobbyBuilder.finish false [] 0
    else
      [16, 0, 0, 0, 0, 0, 10, 0, 12, 0, 0, 0, 4, 0, 8, 0, 10, 0, 0, 0, 8, 0,
       0, 0, 88, 27, 0, 0, 21, 0, 0, 0, 116, 97, 98, 108, 101, 58, 76, 111,
       98, 98, 121, 73, 110, 102, 111, 58, 108, 111, 98, 98, 121, 0, 0, 0]
  bounded _ lobbyKey _ := by
    split
    · decide
    · decide

/-- The hub's system with exact numbers and the sample texts. -/
def sampleSystem :
    TransitionSystem (HubState (Fin 1) (LobbyManager ℚ)) (HubEvent (Fin 1)) :=
  hubSystem flatBuffers
    (@LobbyManager.callbacks ℚ exactArithmetic sampleLibrary sampleReader)
    sampleBuilder

/-- A hub with one job thread and queues of four. -/
def sampleHub : HubState (Fin 1) (LobbyManager ℚ) :=
  HubState.start 4 4 LobbyManager.construct fun _ => staleOutput

/-- A registration, a load notice and a request, executed in this order. -/
def registerLoadRequest (load : Packet) : List (HubEvent (Fin 1)) :=
  .receive lobbyReady :: List.replicate 3 .arrive ++
    List.replicate 12 .read ++
    .receive load :: List.replicate 3 .arrive ++
    List.replicate 9 .read ++
    .receive (lobbyRequest 7) :: List.replicate 3 .arrive ++
    List.replicate 12 .read ++ List.replicate 20 (.work ⟨0, Nat.one_pos⟩)

theorem sampleReader_decodes :
    @Decodes ℚ exactArithmetic sampleLibrary sampleReader
      ⟨literal "lobby", 7000, 10, true⟩ := by
  refine ⟨plainText (writtenRecord sampleLobby), rfl, by decide, ?_⟩
  unfold sampleReader
  exact if_pos rfl

/-- The registration is the only one among the jobs asked for. -/
theorem registerLoadRequest_decodes :
    ∀ job ∈ [Job.noticeLobbyReady 6 (literal "lobby") 7000 10 true,
        .requestLobbyInfo 7],
      ∀ registration,
        registrationOfJob job = some registration →
          @Decodes ℚ exactArithmetic sampleLibrary sampleReader
            registration := by
  intro job present registration carries
  simp only [List.mem_cons, List.not_mem_nil, or_false] at present
  rcases present with rfl | rfl
  · cases carries
    exact sampleReader_decodes
  · cases carries

theorem repeatedLoad_complete :
    (sampleSystem.runAllowed PushHasRoom sampleHub
      (registerLoadRequest lobbyEmpty)).isSome = true := by
  decide

/-- The state behind the request, the load notice having said nothing new. -/
def behindRepeatedLoad : HubState (Fin 1) (LobbyManager ℚ) :=
  (sampleSystem.runAllowed PushHasRoom sampleHub
    (registerLoadRequest lobbyEmpty)).get repeatedLoad_complete

theorem repeatedLoad_executed :
    (behindRepeatedLoad.jobs.hub.executed[
      ([lobbyReady, lobbyEmpty].filterMap
        (jobOf flatBuffers)).length]?).isSome = true := by
  decide +kernel

/-- The answer follows the load notice. -/
theorem selection_follows_repeatedLoad :
    @Follows ℚ exactArithmetic sampleReader flatBuffers
      [lobbyReady, lobbyEmpty] (Option.get _ repeatedLoad_executed) := by
  have asked :
      behindRepeatedLoad.received.filterMap (jobOf flatBuffers) =
        [.noticeLobbyReady 6 (literal "lobby") 7000 10 true,
          .requestLobbyInfo 7] := by
    decide
  have answers :
      Answers flatBuffers behindRepeatedLoad [lobbyReady, lobbyEmpty]
        (Option.get _ repeatedLoad_executed) :=
    ⟨lobbyRequest 7, [], 7, by decide, by decide,
      (Option.some_get repeatedLoad_executed).symm⟩
  have decodes :
      ∀ job ∈ behindRepeatedLoad.received.filterMap (jobOf flatBuffers),
        ∀ registration,
          registrationOfJob job = some registration →
            @Decodes ℚ exactArithmetic sampleLibrary sampleReader
              registration := by
    rw [asked]
    exact registerLoadRequest_decodes
  exact
    (@selection_follows_notices ℚ (Fin 1) _ exactArithmetic _ _ _ _ _ _ _ _
      (TransitionSystem.reaches_get repeatedLoad_complete) decodes _ _
      answers).2 (by decide)

theorem ignoredLoad_complete :
    (sampleSystem.runAllowed PushHasRoom sampleHub
      (registerLoadRequest lobbyFull)).isSome = true := by
  decide

/-- The state behind the request, the lobby having reported that it is full. -/
def behindIgnoredLoad : HubState (Fin 1) (LobbyManager ℚ) :=
  (sampleSystem.runAllowed PushHasRoom sampleHub
    (registerLoadRequest lobbyFull)).get ignoredLoad_complete

theorem ignoredLoad_executed :
    (behindIgnoredLoad.jobs.hub.executed[
      ([lobbyReady, lobbyFull].filterMap
        (jobOf flatBuffers)).length]?).isSome = true := by
  decide +kernel

/--
With room in both queues and a record that reads back, the request is
answered with the lobby that has reported to be full and closed.
-/
theorem load_ignored :
    sampleSystem.Reaches PushHasRoom sampleHub behindIgnoredLoad ∧
      @Decodes ℚ exactArithmetic sampleLibrary sampleReader
        ⟨literal "lobby", 7000, 10, true⟩ ∧
      Answers flatBuffers behindIgnoredLoad [lobbyReady, lobbyFull]
        (Option.get _ ignoredLoad_executed) ∧
      ¬ @Follows ℚ exactArithmetic sampleReader flatBuffers
        [lobbyReady, lobbyFull] (Option.get _ ignoredLoad_executed) := by
  refine
    ⟨TransitionSystem.reaches_get ignoredLoad_complete,
      sampleReader_decodes, ?_, ?_⟩
  · exact
      ⟨lobbyRequest 7, [], 7, by decide, by decide,
        (Option.some_get ignoredLoad_executed).symm⟩
  · intro follows
    have sameLobby := congrArg Except.toOption follows
    exact absurd sameLobby (by decide +kernel)

end IocpServer.ControlServer
