import IocpServer.ControlServer.LobbyRanking
import IocpServer.ControlServer.LobbyTable
import IocpServer.Database.ScanPages

/-!
# The least lobby

With exact numbers the search ends with the least record of those that can be
chosen: least ratio, then least response speed, then least key.  The pages of
the scan only matter through the keys in them.
-/

namespace IocpServer.ControlServer

open IocpServer.Library
open IocpServer.Database
open IocpServer.Json

/-- `SearchBestLobby` behind its scan, with the values it may overwrite. -/
def LobbyManager.searchResult {Number : Type} [FloatArithmetic Number]
    (reader : RecordReader Number)
    (result : Std.ExtTreeMap ByteString ByteString)
    (bestLobbyKey : ByteString) (bestLobbyPort : Int32) :
    Except JsonException (BestLobby Number) :=
  searchRecords reader result.toList
    { bestRatio := FloatArithmetic.largest
      bestResponseSpeed := FloatArithmetic.largest
      bestLobbyKey := bestLobbyKey
      bestLobbyPort := bestLobbyPort }

/-- The sum of the figures is an `int`. -/
def SumFits (lobby : LobbyInfo ℚ) : Prop :=
  -2 ^ 31 ≤ lobby.current.toInt + lobby.remain.toInt ∧
    lobby.current.toInt + lobby.remain.toInt < 2 ^ 31

instance (lobby : LobbyInfo ℚ) : Decidable (SumFits lobby) :=
  inferInstanceAs (Decidable (_ ∧ _))

/-- The lobby is active and its figures do not add up to zero. -/
def CanBeChosen (lobby : LobbyInfo ℚ) : Prop :=
  lobby.active = true ∧ lobby.current.toInt + lobby.remain.toInt ≠ 0

/-- The share of the places that are taken. -/
def exactRatio (lobby : LobbyInfo ℚ) : ℚ :=
  (lobby.current.toInt : ℚ) /
    ((lobby.current.toInt + lobby.remain.toInt : Int) : ℚ)

/-- Less in the lexicographic order of ratio, response speed and key. -/
def ComesBefore (first second : ByteString × LobbyInfo ℚ) : Prop :=
  exactRatio first.2 < exactRatio second.2 ∨
    exactRatio first.2 = exactRatio second.2 ∧
      (first.2.responseSpeed < second.2.responseSpeed ∨
        first.2.responseSpeed = second.2.responseSpeed ∧
          compare first.1 second.1 = .lt)

/--
The lobby is that of the least record that can be chosen; if none can, it is
the lobby from before.
-/
def IsLeast
    (records : List (ByteString × LobbyInfo ℚ))
    (before found : ByteString × Int32) : Prop :=
  (∃ record ∈ records,
    CanBeChosen record.2 ∧
      (∀ other ∈ records,
        CanBeChosen other.2 → other = record ∨ ComesBefore record other) ∧
      found = (record.1, record.2.port)) ∨
    (∀ record ∈ records, ¬ CanBeChosen record.2) ∧ found = before

/-! ## The scan -/

/-- The map of a scan of a table lists the table. -/
theorem toList_collectPages
    {redis : RedisWorker} {tableName : ByteString}
    {pages : List (List ByteString)}
    (scans : redis.Scans tableName pages) (plain : redis.Plain) :
    (redis.collectPages pages).toList =
      redis.scanMultipleResult tableName := by
  apply List.Pairwise.eq_of_mem_iff (r := RecordBefore)
  · exact (redis.collectPages pages).ordered_keys_toList
  · exact scanMultipleResult_ordered redis tableName
  · rintro ⟨key, value⟩
    rw [RedisWorker.mem_scanMultipleResult,
      Std.ExtTreeMap.mem_toList_iff_getElem?_eq_some,
      RedisWorker.collectPages_getElem?]
    have whole {place : ByteString} (returned : place ∈ pages.flatten) :
        cString place = place := by
      rcases Option.isSome_iff_exists.mp ((scans place).mp returned).1 with
        ⟨stored, present⟩
      exact cString_of_zero_not_mem (plain place stored present).1
    have keys : key ∈ pages.flatten.map cString ↔ key ∈ pages.flatten := by
      rw [List.mem_map]
      constructor
      · rintro ⟨place, returned, same⟩
        rw [← same, whole returned]
        exact returned
      · intro returned
        exact ⟨key, returned, whole returned⟩
    have values :
        redis.store[key]?.map cString = some value ↔
          redis.store[key]? = some value := by
      cases present : redis.store[key]? with
      | none => simp
      | some stored =>
          rw [Option.map_some,
            cString_of_zero_not_mem (plain key stored present).2]
    simp only [keys, scans key]
    split_ifs with returned
    · rw [values]
      exact (and_iff_left returned.2).symm
    · constructor
      · nofun
      · rintro ⟨present, front⟩
        exact absurd ⟨by rw [present]; rfl, front⟩ returned

/-- The search of a request, over the pages of its scan. -/
theorem searchBestLobby_eq_searchResult
    {Number : Type} [FloatArithmetic Number]
    (reader : RecordReader Number) {manager : LobbyManager Number}
    {pages : List (List ByteString)}
    (scans : manager.redisWorker.Scans lobbyTable pages)
    (plain : manager.redisWorker.Plain) :
    manager.searchBestLobby reader =
      LobbyManager.searchResult reader
        (manager.redisWorker.collectPages pages) (literal "") 0 := by
  rw [LobbyManager.searchResult, toList_collectPages scans plain]
  rfl

/-! ## Exact figures -/

section Exact

variable {lobby : LobbyInfo ℚ}

theorem toInt_total (fits : SumFits lobby) :
    lobby.total.toInt = lobby.current.toInt + lobby.remain.toInt := by
  rcases fits with ⟨least, bound⟩
  rw [LobbyInfo.total, Int32.toInt_add, Int.bmod_def]
  split_ifs <;> omega

theorem eligible_iff (fits : SumFits lobby) :
    lobby.Eligible ↔ CanBeChosen lobby := by
  rw [LobbyInfo.Eligible, CanBeChosen, ← toInt_total fits, ne_eq, ne_eq,
    ← Int32.toInt_inj]
  rfl

theorem ratio_eq (fits : SumFits lobby) :
    @LobbyInfo.ratio ℚ exactArithmetic lobby = exactRatio lobby := by
  rw [exactRatio, ← toInt_total fits]
  rfl

theorem precedes_iff {first second : ByteString × LobbyInfo ℚ}
    (firstFits : SumFits first.2) (secondFits : SumFits second.2) :
    @Precedes ℚ exactArithmetic exactValues first second ↔
      ComesBefore first second := by
  let value := @FloatValues.value ℚ exactArithmetic exactValues
  have less (left right : ℚ) : value left < value right ↔ left < right :=
    WithBot.coe_lt_coe.trans WithTop.coe_lt_coe
  have same (left right : ℚ) : value left = value right ↔ left = right :=
    WithBot.coe_inj.trans WithTop.coe_inj
  unfold Precedes rank ComesBefore
  rw [Prod.Lex.toLex_lt_toLex, toLex_inj, Prod.mk.injEq,
    ratio_eq firstFits, ratio_eq secondFits, less, same, less, same]
  tauto

end Exact

/--
On records that can be read the search ends with the least of those that can
be chosen, or leaves its references as they are; and it depends on the keys
the scan has returned, not on their order and repetition.
-/
theorem search_picks_the_least
    (reader : RecordReader ℚ)
    (result : Std.ExtTreeMap ByteString ByteString)
    (bestLobbyKey : ByteString) (bestLobbyPort : Int32)
    (decodable : Decodable reader result.toList)
    (fits : ∀ record ∈ readRecords reader result.toList, SumFits record.2) :
    (∃ best,
      @LobbyManager.searchResult ℚ exactArithmetic reader result
          bestLobbyKey bestLobbyPort = .ok best ∧
        IsLeast (readRecords reader result.toList)
          (bestLobbyKey, bestLobbyPort) best.lobby) ∧
      ∀ (redis : RedisWorker) (pages : List (List ByteString)),
        redis.collectPages pages = result →
          ∀ otherPages : List (List ByteString),
            (∀ key, key ∈ otherPages.flatten ↔ key ∈ pages.flatten) →
              @LobbyManager.searchResult ℚ exactArithmetic reader
                  (redis.collectPages otherPages) bestLobbyKey
                  bestLobbyPort =
                @LobbyManager.searchResult ℚ exactArithmetic reader result
                  bestLobbyKey bestLobbyPort := by
  let arithmetic := exactArithmetic
  let values := exactValues
  constructor
  · let records := readRecords reader result.toList
    let start : BestLobby ℚ :=
      { bestRatio := FloatArithmetic.largest
        bestResponseSpeed := FloatArithmetic.largest
        bestLobbyKey := bestLobbyKey
        bestLobbyPort := bestLobbyPort }
    have fresh : start.Fresh := ⟨rfl, rfl⟩
    have speeds : ∀ record ∈ records, SpeedNumber record.2 :=
      fun _ _ => trivial
    refine ⟨_, searchRecords_of_decodable decodable start, ?_⟩
    rw [considerAll_eq_firstLeast fresh speeds]
    cases found : firstLeast records with
    | none =>
        right
        refine ⟨?_, rfl⟩
        intro record present chosen
        exact
          firstLeast_eq_none_iff.mp found record present
            ((eligible_iff (fits record present)).mpr chosen)
    | some record =>
        left
        have ordered :
            records.Pairwise fun first second =>
              compare first.1 second.1 = .lt :=
          readRecords_ordered result.ordered_keys_toList
        rcases precedes_of_firstLeast ordered found with
          ⟨present, eligible, least⟩
        refine
          ⟨record, present,
            (eligible_iff (fits record present)).mp eligible, ?_, rfl⟩
        intro other otherPresent chosen
        have otherEligible :=
          (eligible_iff (fits other otherPresent)).mpr chosen
        exact
          (least other otherPresent otherEligible).imp_right
            (precedes_iff (fits record present)
              (fits other otherPresent)).mp
  · rintro redis pages rfl otherPages sameKeys
    rw [RedisWorker.collectPages_congr sameKeys]

/-! ## Three lobbies -/

/-- A reader of three texts. -/
def threeReader : RecordReader ℚ := fun text =>
  if text = literal "quarter" then
    .ok { sampleLobby with current := 5, remain := 15, responseSpeed := 2 }
  else if text = literal "faster" then
    .ok { sampleLobby with current := 2, remain := 6, responseSpeed := 1 }
  else
    .ok { sampleLobby with active := false }

/-- The records of three lobbies. -/
def threeRecords : Std.ExtTreeMap ByteString ByteString :=
  ((∅ : Std.ExtTreeMap ByteString ByteString).insert
    (literal "table:LobbyInfo:a") (literal "quarter")).insert
    (literal "table:LobbyInfo:b") (literal "faster") |>.insert
    (literal "table:LobbyInfo:c") (literal "closed")

theorem threeRecords_toList :
    threeRecords.toList =
      [(literal "table:LobbyInfo:a", literal "quarter"),
        (literal "table:LobbyInfo:b", literal "faster"),
        (literal "table:LobbyInfo:c", literal "closed")] := by
  decide

/-- The search returns a least lobby of the three. -/
theorem search_picks_the_least_of_three :
    ∃ best,
      @LobbyManager.searchResult ℚ exactArithmetic threeReader threeRecords
          (literal "") 0 = .ok best ∧
        IsLeast (readRecords threeReader threeRecords.toList)
          (literal "", 0) best.lobby := by
  refine
    (search_picks_the_least threeReader threeRecords (literal "") 0
      ?_ ?_).1
  · intro record _
    unfold threeReader
    split_ifs <;> exact ⟨_, rfl⟩
  · rw [threeRecords_toList]
    decide

end IocpServer.ControlServer
