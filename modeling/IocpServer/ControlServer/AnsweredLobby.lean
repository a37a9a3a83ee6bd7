import IocpServer.ControlServer.EnterableLobby

/-!
# The key of the answered lobby

A registration is stored under its key behind the name of the table, and the
search answers with the key a record is stored under.  That key is one a
lobby was registered with only if a second lobby is registered under the
first one's key in the database.
-/

namespace IocpServer.ControlServer

open IocpServer.Library
open IocpServer.Database
open IocpServer.Json

/-- The latest registration of the lobby with exactly this key. -/
def latest (registrations : List Registration) (key : ByteString) :
    Option Registration :=
  registrations.reverse.find? fun registration => registration.key = key

/-- The registration whose record is stored for a C string. -/
def latestStored (registrations : List Registration) (key : ByteString) :
    Option Registration :=
  registrations.reverse.find? fun registration =>
    cString registration.key = key

/-- A registration the search does not skip. -/
def Registration.Open (registration : Registration) : Prop :=
  registration.active = true ∧ registration.capacity ≠ 0

instance (registration : Registration) : Decidable registration.Open :=
  inferInstanceAs (Decidable (_ ∧ _))

/-- The open registration that is stored under the least key. -/
def FirstOpen
    (registrations : List Registration) (key : ByteString)
    (registration : Registration) : Prop :=
  latestStored registrations key = some registration ∧
    registration.Open ∧
      ∀ otherKey other,
        latestStored registrations otherKey = some other → other.Open →
          compare otherKey key ≠ .lt

/-- `ResponseLobbyInfo` writes this key and this port. -/
def Yields {Number : Type} [FloatArithmetic Number]
    (reader : RecordReader Number) (manager : LobbyManager Number)
    (key : ByteString) (port : Int32) : Prop :=
  ∃ best,
    manager.searchBestLobby reader = .ok best ∧
      best.bestLobbyKey ≠ literal "" ∧
        manager.responseLobbyInfo reader (literal "") 0 = .ok (key, port)

/-- What is answered is the key of a registered lobby, with its port. -/
def AnswersRegistered {Number : Type} [FloatArithmetic Number]
    (reader : RecordReader Number) (registrations : List Registration)
    (manager : LobbyManager Number) : Prop :=
  ∀ key port,
    Yields reader manager key port →
      ∃ registration,
        latest registrations key = some registration ∧
          registration.port = port

/--
The key in the database of the lobby that is registered first is itself the
key of a registered lobby, on the same port.
-/
def HasNamesake (registrations : List Registration) : Prop :=
  ∀ key registration,
    FirstOpen registrations key registration →
      ∃ namesake,
        latest registrations (RedisWorker.cacheKey lobbyTable key) =
            some namesake ∧
          namesake.port = registration.port

/-- What is stored for a key was registered. -/
theorem mem_of_latestStored
    {registrations : List Registration} {key : ByteString}
    {registration : Registration}
    (stored : latestStored registrations key = some registration) :
    registration ∈ registrations ∧ cString registration.key = key := by
  unfold latestStored at stored
  have sameKey := List.find?_some stored
  exact
    ⟨List.mem_reverse.mp (List.mem_of_find?_eq_some stored),
      of_decide_eq_true sameKey⟩

section Registered

variable {Number : Type} [FloatArithmetic Number]
variable {library : JsonLibrary Number} {reader : RecordReader Number}

/-- The table of a sequence of registrations. -/
def savedTable (registrations : List Registration) : LobbyTable Number :=
  registrations.foldl
    (fun table registration =>
      table.insert (cString registration.key) registration.lobby) ∅

theorem savedTable_append
    (registrations : List Registration) (registration : Registration) :
    (savedTable (registrations ++ [registration]) : LobbyTable Number) =
      (savedTable registrations).insert (cString registration.key)
        registration.lobby :=
  List.foldl_append

/-- The table has the lobbies of the latest registrations. -/
theorem savedTable_getElem?
    (registrations : List Registration) (key : ByteString) :
    (savedTable registrations : LobbyTable Number)[key]? =
      (latestStored registrations key).map Registration.lobby := by
  induction registrations using List.reverseRecOn with
  | nil => simp [savedTable, latestStored]
  | append_singleton registrations registration recursive =>
      rw [savedTable_append, Std.ExtTreeMap.getElem?_insert, latestStored,
        List.reverse_append, List.reverse_singleton, List.singleton_append,
        List.find?_cons]
      by_cases same : cString registration.key = key
      · simp [same]
      · simp only [Std.LawfulEqCmp.compare_eq_iff_eq, same, if_false,
          decide_false]
        exact recursive

/-- Registrations that read back are all stored. -/
theorem represents_saveAll
    {registrations : List Registration}
    (decodes :
      ∀ registration ∈ registrations,
        Decodes library reader registration)
    {manager : LobbyManager Number} {table : LobbyTable Number}
    (represents : Represents library reader manager.redisWorker table) :
    ∃ saved,
      manager.saveAll library registrations = .ok saved ∧
        Represents library reader saved.redisWorker
          (registrations.foldl
            (fun table registration =>
              table.insert (cString registration.key) registration.lobby)
            table) := by
  induction registrations generalizing manager table with
  | nil => exact ⟨manager, rfl, represents⟩
  | cons registration registrations recursive =>
      rcases decodes registration List.mem_cons_self with
        ⟨text, dumped, noZero, reads⟩
      let stored : LobbyManager Number :=
        { manager with
          redisWorker :=
            manager.redisWorker.updateData lobbyTable registration.key
              text }
      have storedTable :
          Represents library reader stored.redisWorker
            (table.insert (cString registration.key) registration.lobby) :=
        represents.updateData dumped noZero reads
      rcases recursive
          (fun later present =>
            decodes later (List.mem_cons_of_mem registration present))
          storedTable with
        ⟨saved, rest, after⟩
      refine ⟨saved, ?_, after⟩
      rw [LobbyManager.saveAll,
        LobbyManager.saveLobbyInfo_eq dumped manager]
      exact rest

/-- The records of a table, in key order. -/
def tableRecords (table : LobbyTable Number) :
    List (ByteString × LobbyInfo Number) :=
  table.toList.map fun entry =>
    (RedisWorker.cacheKey lobbyTable entry.1, entry.2)

theorem choose_eq_considerAll (table : LobbyTable Number) :
    choose table = considerAll .initial (tableRecords table) := by
  rw [choose, considerAll, tableRecords, List.foldl_map]

omit [FloatArithmetic Number] in
theorem tableRecords_ordered (table : LobbyTable Number) :
    (tableRecords table).Pairwise fun first second =>
      compare first.1 second.1 = .lt := by
  rw [tableRecords, List.pairwise_map]
  refine table.ordered_keys_toList.imp ?_
  intro first second before
  rw [compare_cacheKey]
  exact before

/-- The records of the registered lobbies. -/
theorem mem_tableRecords_savedTable
    {registrations : List Registration}
    {record : ByteString × LobbyInfo Number} :
    record ∈ tableRecords (savedTable registrations) ↔
      ∃ key registration,
        latestStored registrations key = some registration ∧
          record =
            (RedisWorker.cacheKey lobbyTable key, registration.lobby) := by
  rw [tableRecords, List.mem_map]
  constructor
  · rintro ⟨⟨key, lobby⟩, present, rfl⟩
    rw [Std.ExtTreeMap.mem_toList_iff_getElem?_eq_some,
      savedTable_getElem?] at present
    rcases Option.map_eq_some_iff.mp present with ⟨registration, stored, rfl⟩
    exact ⟨key, registration, stored, rfl⟩
  · rintro ⟨key, registration, stored, rfl⟩
    refine ⟨(key, registration.lobby), ?_, rfl⟩
    rw [Std.ExtTreeMap.mem_toList_iff_getElem?_eq_some,
      savedTable_getElem?, stored]
    rfl

theorem eligible_lobby_iff (registration : Registration) :
    (registration.lobby : LobbyInfo Number).Eligible ↔
      registration.Open := by
  rw [LobbyInfo.Eligible, LobbyInfo.total, Registration.Open]
  dsimp only [Registration.lobby]
  rw [Int32.zero_add]

end Registered

section First

variable {Number : Type} [FloatArithmetic Number] [FloatValues Number]
variable {registrations : List Registration}

/-- The ratio of a lobby that was just registered is zero. -/
theorem value_ratio_lobby {registration : Registration}
    (opened : registration.Open) :
    FloatValues.value (registration.lobby : LobbyInfo Number).ratio =
      ((0 : ℚ) : WithTop ℚ) :=
  FloatValues.quotient_of_zero ((eligible_lobby_iff registration).mpr opened).2

/-- All registered lobbies have the same rank. -/
theorem rank_lobby {first second : Registration}
    (firstOpen : first.Open) (secondOpen : second.Open) :
    rank (first.lobby : LobbyInfo Number) =
      rank (second.lobby : LobbyInfo Number) := by
  rw [rank, rank, value_ratio_lobby firstOpen, value_ratio_lobby secondOpen]
  rfl

theorem speedNumber_lobby (registration : Registration) :
    SpeedNumber (registration.lobby : LobbyInfo Number) :=
  FloatValues.zero_number

/-- Two registrations that are first are stored under the same key. -/
theorem FirstOpen.unique
    {firstKey secondKey : ByteString} {first second : Registration}
    (isFirst : FirstOpen registrations firstKey first)
    (isSecond : FirstOpen registrations secondKey second) :
    firstKey = secondKey ∧ first = second := by
  have notLess := isSecond.2.2 firstKey first isFirst.1 isFirst.2.1
  have notMore := isFirst.2.2 secondKey second isSecond.1 isSecond.2.1
  have same : firstKey = secondKey := by
    cases order : compare firstKey secondKey with
    | lt => exact absurd order notLess
    | eq => exact Std.LawfulEqCmp.compare_eq_iff_eq.mp order
    | gt => exact absurd (Std.OrientedCmp.lt_of_gt order) notMore
  subst same
  exact ⟨rfl, Option.some.inj (isFirst.1.symm.trans isSecond.1)⟩

/-- What the search finds is the first open registration. -/
theorem firstOpen_of_firstLeast
    {found : ByteString × LobbyInfo Number}
    (least :
      firstLeast (tableRecords (savedTable registrations)) = some found) :
    ∃ key registration,
      FirstOpen registrations key registration ∧
        found =
          (RedisWorker.cacheKey lobbyTable key, registration.lobby) := by
  rcases precedes_of_firstLeast (tableRecords_ordered _) least with
    ⟨present, eligible, precedes⟩
  rcases mem_tableRecords_savedTable.mp present with
    ⟨key, registration, stored, rfl⟩
  have opened := (eligible_lobby_iff registration).mp eligible
  refine ⟨key, registration, ⟨stored, opened, ?_⟩, rfl⟩
  intro otherKey other otherStored otherOpen smaller
  have otherPresent :
      (RedisWorker.cacheKey lobbyTable otherKey, other.lobby) ∈
        tableRecords (savedTable registrations : LobbyTable Number) :=
    mem_tableRecords_savedTable.mpr ⟨otherKey, other, otherStored, rfl⟩
  rcases precedes _ otherPresent
      ((eligible_lobby_iff other).mpr otherOpen) with
    same | less | ⟨-, before⟩
  · have keys :
        RedisWorker.cacheKey lobbyTable otherKey =
          RedisWorker.cacheKey lobbyTable key :=
      congrArg Prod.fst same
    rw [← compare_cacheKey lobbyTable, keys,
      Std.ReflOrd.compare_self] at smaller
    cases smaller
  · exact absurd (rank_lobby opened otherOpen) less.ne
  · dsimp only at before
    rw [compare_cacheKey] at before
    have swapped := Std.OrientedCmp.gt_of_lt before
    rw [swapped] at smaller
    cases smaller

/-- The search finds the first open registration. -/
theorem firstLeast_savedTable_iff
    {record : ByteString × LobbyInfo Number} :
    firstLeast (tableRecords (savedTable registrations)) = some record ↔
      ∃ key registration,
        FirstOpen registrations key registration ∧
          record =
            (RedisWorker.cacheKey lobbyTable key, registration.lobby) := by
  constructor
  · exact firstOpen_of_firstLeast
  · rintro ⟨key, registration, isFirst, rfl⟩
    cases found :
        firstLeast
          (tableRecords (savedTable registrations : LobbyTable Number)) with
    | none =>
        have none := firstLeast_eq_none_iff.mp found
        exact
          absurd ((eligible_lobby_iff registration).mpr isFirst.2.1)
            (none _
              (mem_tableRecords_savedTable.mpr
                ⟨key, registration, isFirst.1, rfl⟩))
    | some other =>
        rcases firstOpen_of_firstLeast found with
          ⟨otherKey, otherReg, otherFirst, rfl⟩
        rcases isFirst.unique otherFirst with ⟨rfl, rfl⟩
        rfl

end First

/-- The key of a record is not empty. -/
theorem cacheKey_ne_empty (key : ByteString) :
    RedisWorker.cacheKey lobbyTable key ≠ literal "" := by
  intro empty
  have length := cacheKey_length key
  rw [empty] at length
  cases length

section Answered

variable {Number : Type} [FloatArithmetic Number] [FloatValues Number]
variable {library : JsonLibrary Number} {reader : RecordReader Number}
variable {registrations : List Registration} {manager : LobbyManager Number}

/-- The search over registrations, by the first record of the least rank. -/
theorem searchBestLobby_savedTable
    (represents :
      Represents library reader manager.redisWorker
        (savedTable registrations)) :
    manager.searchBestLobby reader =
      .ok
        (match
          firstLeast
            (tableRecords (savedTable registrations : LobbyTable Number))
        with
        | none => .initial
        | some record => .ofRecord record) := by
  have speeds :
      ∀ record ∈
          tableRecords (savedTable registrations : LobbyTable Number),
        SpeedNumber record.2 := by
    intro record present
    rcases mem_tableRecords_savedTable.mp present with
      ⟨storedKey, registration, -, rfl⟩
    exact speedNumber_lobby registration
  have fresh : (BestLobby.initial : BestLobby Number).Fresh := ⟨rfl, rfl⟩
  have searched := represents.search
  rw [choose_eq_considerAll, considerAll_eq_firstLeast fresh speeds]
    at searched
  exact searched

omit [FloatValues Number] in
/-- The first open registration is answered under the key of its record. -/
theorem responseLobbyInfo_of_search
    {storedKey : ByteString} {registration : Registration}
    (searched :
      manager.searchBestLobby reader =
        .ok
          (.ofRecord
            (RedisWorker.cacheKey lobbyTable storedKey,
              registration.lobby))) :
    manager.responseLobbyInfo reader (literal "") 0 =
      .ok
        (RedisWorker.cacheKey lobbyTable storedKey, registration.port) := by
  rw [LobbyManager.responseLobbyInfo, searched]
  change
    (if RedisWorker.cacheKey lobbyTable storedKey = literal "" then
      Except.ok (literal "", 0)
    else
      .ok (RedisWorker.cacheKey lobbyTable storedKey, _)) = _
  exact if_neg (cacheKey_ne_empty storedKey)

/-- What is answered behind a sequence of registrations. -/
theorem yields_iff
    (represents :
      Represents library reader manager.redisWorker
        (savedTable registrations))
    {key : ByteString} {port : Int32} :
    Yields reader manager key port ↔
      ∃ storedKey registration,
        FirstOpen registrations storedKey registration ∧
          key = RedisWorker.cacheKey lobbyTable storedKey ∧
            port = registration.port := by
  have searched := searchBestLobby_savedTable represents
  constructor
  · rintro ⟨best, alsoSearched, named, alsoAnswered⟩
    cases found :
        firstLeast
          (tableRecords (savedTable registrations : LobbyTable Number)) with
    | none =>
        rw [found] at searched
        cases searched.symm.trans alsoSearched
        exact absurd rfl named
    | some record =>
        rw [found] at searched
        rcases firstOpen_of_firstLeast found with
          ⟨storedKey, registration, isFirst, rfl⟩
        cases
          (responseLobbyInfo_of_search searched).symm.trans alsoAnswered
        exact ⟨storedKey, registration, isFirst, rfl, rfl⟩
  · rintro ⟨storedKey, registration, isFirst, rfl, rfl⟩
    rw [firstLeast_savedTable_iff.mpr
      ⟨storedKey, registration, isFirst, rfl⟩] at searched
    exact
      ⟨_, searched, cacheKey_ne_empty storedKey,
        responseLobbyInfo_of_search searched⟩

end Answered

/--
What is answered behind a sequence of registrations is the key of a
registered lobby if and only if the first open lobby has a namesake.
-/
theorem answers_registered_iff
    {Number : Type} [FloatArithmetic Number] [FloatValues Number]
    (library : JsonLibrary Number) (reader : RecordReader Number)
    (registrations : List Registration)
    (decodes :
      ∀ registration ∈ registrations,
        Decodes library reader registration) :
    (∃ manager,
      LobbyManager.construct.saveAll library registrations = .ok manager ∧
        AnswersRegistered reader registrations manager) ↔
      HasNamesake registrations := by
  have started :
      Represents library reader
        (LobbyManager.construct : LobbyManager Number).redisWorker ∅ :=
    represents_empty
  rcases represents_saveAll decodes started with
    ⟨manager, saved, represents⟩
  constructor
  · rintro ⟨alsoManager, alsoSaved, answers⟩ key registration isFirst
    cases saved.symm.trans alsoSaved
    apply answers
    exact
      (yields_iff represents).mpr ⟨key, registration, isFirst, rfl, rfl⟩
  · intro namesakes
    refine ⟨manager, saved, ?_⟩
    intro key port yields
    rcases (yields_iff represents).mp yields with
      ⟨storedKey, registration, isFirst, rfl, rfl⟩
    exact namesakes storedKey registration isFirst

/-! ## A lobby and its namesake -/

/-- The sample lobby's registration. -/
def sampleRegistration : Registration where
  key := literal "lobby"
  port := 7000
  capacity := 10
  active := true

/-- A closed lobby, under the key of the sample lobby's record. -/
def namesakeRegistration : Registration where
  key := literal "table:LobbyInfo:lobby"
  port := 7000
  capacity := 10
  active := false

/-- A reader of the records of some registrations. -/
def registrationReader (registrations : List Registration) :
    RecordReader ℚ := fun text =>
  let lobbies :=
    registrations.map (@Registration.lobby ℚ exactArithmetic)
  match lobbies.find? fun lobby => plainText (writtenRecord lobby) = text with
  | some lobby => .ok lobby
  | none => .error (.parseError 101 "syntax error")

/-- The sample lobby is the first where it is the only open one. -/
theorem sampleRegistration_first
    {registrations : List Registration}
    (stored :
      latestStored registrations (literal "lobby") =
        some sampleRegistration)
    (only :
      ∀ other ∈ registrations, other.Open → other = sampleRegistration) :
    FirstOpen registrations (literal "lobby") sampleRegistration := by
  refine ⟨stored, by decide, ?_⟩
  intro otherKey other otherStored otherOpen
  rcases mem_of_latestStored otherStored with ⟨present, sameKey⟩
  rw [only other present otherOpen] at sameKey
  rw [← sameKey]
  decide

/-- The sample lobby is answered with the key of its namesake. -/
theorem answers_registered_namesake :
    ∃ manager,
      @LobbyManager.saveAll ℚ exactArithmetic sampleLibrary .construct
          [sampleRegistration, namesakeRegistration] = .ok manager ∧
        @AnswersRegistered ℚ exactArithmetic
          (registrationReader [sampleRegistration, namesakeRegistration])
          [sampleRegistration, namesakeRegistration] manager := by
  refine
    (@answers_registered_iff ℚ exactArithmetic exactValues sampleLibrary
      (registrationReader [sampleRegistration, namesakeRegistration])
      [sampleRegistration, namesakeRegistration] ?_).mpr ?_
  · intro registration present
    simp only [List.mem_cons, List.not_mem_nil, or_false] at present
    rcases present with rfl | rfl
    · exact ⟨_, rfl, by decide, rfl⟩
    · exact ⟨_, rfl, by decide, rfl⟩
  · intro key registration isFirst
    have sampleFirst :
        FirstOpen [sampleRegistration, namesakeRegistration]
          (literal "lobby") sampleRegistration := by
      apply sampleRegistration_first
      · rfl
      · intro other present opened
        simp only [List.mem_cons, List.not_mem_nil, or_false] at present
        rcases present with rfl | rfl
        · rfl
        · exact absurd opened.1 (by decide)
    rcases isFirst.unique sampleFirst with ⟨rfl, rfl⟩
    exact ⟨namesakeRegistration, rfl, rfl⟩

/-- The sample lobby alone is answered with a key that is not its own. -/
theorem answered_key_unregistered :
    (∀ registration ∈ [sampleRegistration],
      @Decodes ℚ exactArithmetic sampleLibrary
        (registrationReader [sampleRegistration]) registration) ∧
      ¬ ∃ manager,
        @LobbyManager.saveAll ℚ exactArithmetic sampleLibrary .construct
            [sampleRegistration] = .ok manager ∧
          @AnswersRegistered ℚ exactArithmetic
            (registrationReader [sampleRegistration]) [sampleRegistration]
            manager := by
  have decodes :
      ∀ registration ∈ [sampleRegistration],
        @Decodes ℚ exactArithmetic sampleLibrary
          (registrationReader [sampleRegistration]) registration := by
    intro registration present
    rcases List.mem_singleton.mp present with rfl
    exact ⟨_, rfl, by decide, rfl⟩
  refine ⟨decodes, ?_⟩
  rintro ⟨manager, saved, answers⟩
  rcases @represents_saveAll ℚ exactArithmetic _ _ _ decodes
      LobbyManager.construct ∅ (@represents_empty ℚ exactArithmetic _ _) with
    ⟨alsoManager, alsoSaved, represents⟩
  cases saved.symm.trans alsoSaved
  have isFirst :
      FirstOpen [sampleRegistration] (literal "lobby")
        sampleRegistration := by
    apply sampleRegistration_first
    · rfl
    · intro other present _
      exact List.mem_singleton.mp present
  have yields :=
    (@yields_iff ℚ exactArithmetic exactValues _ _ _ _ represents _ _).mpr
      ⟨literal "lobby", sampleRegistration, isFirst, rfl, rfl⟩
  rcases answers _ _ yields with ⟨registration, found, -⟩
  cases found

end IocpServer.ControlServer
