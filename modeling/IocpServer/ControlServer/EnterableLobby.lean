import IocpServer.ControlServer.LobbyRanking
import IocpServer.ControlServer.LobbyTable
import IocpServer.ControlServer.ResponseFlag

/-!
# Choosing a lobby with a free place

The search does not look at the free places of a lobby but at the sum of its
figures.  The lobby it chooses has a free place exactly if every lobby it can
choose that has none is beaten by one that has.
-/

namespace IocpServer.ControlServer

open IocpServer.Library
open IocpServer.Database
open IocpServer.Json

section Searching

variable {Number : Type} [FloatArithmetic Number]

/-- The records of the lobby table, as lobbies. -/
def storedLobbies
    (reader : RecordReader Number) (manager : LobbyManager Number) :
    List (ByteString × LobbyInfo Number) :=
  readRecords reader (manager.redisWorker.scanMultipleResult lobbyTable)

/-- The lobby is active and has a free place. -/
def Enterable (lobby : LobbyInfo Number) : Prop :=
  lobby.active = true ∧ 1 ≤ lobby.remain

/--
A lobby that is selected is enterable, and none is selected if no lobby is
enterable.
-/
def SelectsEnterable
    (reader : RecordReader Number) (manager : LobbyManager Number) : Prop :=
  ∃ best,
    manager.searchBestLobby reader = .ok best ∧
      (best.bestLobbyKey ≠ literal "" →
        ∃ lobby,
          (best.bestLobbyKey, lobby) ∈ storedLobbies reader manager ∧
            lobby.port = best.bestLobbyPort ∧ Enterable lobby) ∧
      ((∀ record ∈ storedLobbies reader manager, ¬ Enterable record.2) →
        best.bestLobbyKey = literal "")

/--
One record beats another: it improves on it, or it is not worse and has the
smaller key.
-/
def Beats (first second : ByteString × LobbyInfo Number) : Prop :=
  first.2.Improves second.2.ratio second.2.responseSpeed ∨
    ¬ second.2.Improves first.2.ratio first.2.responseSpeed ∧
      compare first.1 second.1 = .lt

instance (first second : ByteString × LobbyInfo Number) :
    Decidable (Beats first second) :=
  inferInstanceAs (Decidable (_ ∨ _ ∧ _))

/--
Every lobby without a free place that can be chosen is beaten by one that can
be chosen and has a free place.
-/
def FullAreBeaten (records : List (ByteString × LobbyInfo Number)) : Prop :=
  ∀ full ∈ records,
    full.2.Eligible → full.2.remain < 1 →
      ∃ free ∈ records,
        free.2.Eligible ∧ 1 ≤ free.2.remain ∧ Beats free full

end Searching

section Values

variable {Number : Type} [FloatArithmetic Number] [FloatValues Number]

/-- Beating is coming first, for lobbies that can be chosen. -/
theorem beats_iff_precedes
    {first second : ByteString × LobbyInfo Number}
    (firstEligible : first.2.Eligible) (secondEligible : second.2.Eligible)
    (firstSpeed : SpeedNumber first.2) (secondSpeed : SpeedNumber second.2) :
    Beats first second ↔ Precedes first second := by
  rw [Beats, Precedes,
    improves_iff_rank firstEligible secondEligible firstSpeed secondSpeed,
    improves_iff_rank secondEligible firstEligible secondSpeed firstSpeed,
    not_lt]
  constructor
  · rintro (less | ⟨notMore, smaller⟩)
    · exact .inl less
    · exact (lt_or_eq_of_le notMore).imp_right fun same => ⟨same, smaller⟩
  · rintro (less | ⟨same, smaller⟩)
    · exact .inl less
    · exact .inr ⟨same.le, smaller⟩

theorem precedes_asymm {first second : ByteString × LobbyInfo Number}
    (before : Precedes first second) : ¬ Precedes second first := by
  rintro (less | ⟨same, smaller⟩)
  · rcases before with more | ⟨equal, -⟩
    · exact lt_asymm less more
    · exact absurd equal less.ne'
  · rcases before with more | ⟨-, larger⟩
    · exact absurd same more.ne'
    · have swapped := Std.OrientedCmp.gt_of_lt larger
      rw [swapped] at smaller
      cases smaller

/-- The records of a scan, and what the search finds in them. -/
theorem search_of_decodable
    {reader : RecordReader Number} {manager : LobbyManager Number}
    (decodable :
      Decodable reader
        (manager.redisWorker.scanMultipleResult lobbyTable))
    (speeds :
      ∀ record ∈ storedLobbies reader manager, SpeedNumber record.2) :
    manager.searchBestLobby reader =
      .ok
        (match firstLeast (storedLobbies reader manager) with
        | none => .initial
        | some record => .ofRecord record) := by
  have fresh : (BestLobby.initial : BestLobby Number).Fresh := ⟨rfl, rfl⟩
  rw [LobbyManager.searchBestLobby, searchRecords_of_decodable decodable]
  exact congrArg Except.ok (considerAll_eq_firstLeast fresh speeds)

end Values

section Stored

variable {Number : Type}
variable {reader : RecordReader Number} {manager : LobbyManager Number}

theorem storedLobbies_ordered :
    (storedLobbies reader manager).Pairwise fun first second =>
      compare first.1 second.1 = .lt :=
  readRecords_ordered (scanMultipleResult_ordered manager.redisWorker _)

theorem storedLobbies_key_ne_nil
    {record : ByteString × LobbyInfo Number}
    (present : record ∈ storedLobbies reader manager) :
    record.1 ≠ [] := by
  rcases mem_readRecords.mp present with ⟨text, stored, -⟩
  exact scan_key_ne_nil stored

/-- A key stands for one lobby. -/
theorem storedLobbies_unique
    {key : ByteString} {first second : LobbyInfo Number}
    (firstIn : (key, first) ∈ storedLobbies reader manager)
    (secondIn : (key, second) ∈ storedLobbies reader manager) :
    first = second := by
  rcases mem_readRecords.mp firstIn with ⟨firstText, firstStored, firstRead⟩
  rcases mem_readRecords.mp secondIn with
    ⟨secondText, secondStored, secondRead⟩
  have firstAt := (RedisWorker.mem_scanMultipleResult.mp firstStored).1
  have secondAt := (RedisWorker.mem_scanMultipleResult.mp secondStored).1
  cases firstAt.symm.trans secondAt
  cases firstRead.symm.trans secondRead
  rfl

end Stored

/--
The search selects a lobby with a free place, or none if there is none, if
and only if every lobby without one that can be chosen is beaten by one with.
-/
theorem selects_enterable_iff
    {Number : Type} [FloatArithmetic Number] [FloatValues Number]
    (reader : RecordReader Number)
    (noNaN :
      ∀ text lobby, reader text = .ok lobby →
        FloatValues.IsNumber lobby.responseSpeed)
    (manager : LobbyManager Number)
    (decodable :
      Decodable reader
        (manager.redisWorker.scanMultipleResult lobbyTable)) :
    SelectsEnterable reader manager ↔
      FullAreBeaten (storedLobbies reader manager) := by
  have speeds :
      ∀ record ∈ storedLobbies reader manager, SpeedNumber record.2 := by
    rintro ⟨key, lobby⟩ present
    rcases mem_readRecords.mp present with ⟨text, -, read⟩
    exact noNaN text lobby read
  rw [SelectsEnterable, search_of_decodable decodable speeds]
  cases found : firstLeast (storedLobbies reader manager) with
  | none =>
      have noneEligible := firstLeast_eq_none_iff.mp found
      refine iff_of_true ⟨.initial, rfl, ?_, fun _ => rfl⟩ ?_
      · intro named
        exact absurd rfl named
      · intro full present eligible
        exact absurd eligible (noneEligible full present)
  | some record =>
      rcases precedes_of_firstLeast storedLobbies_ordered found with
        ⟨present, eligible, least⟩
      have named := storedLobbies_key_ne_nil present
      constructor
      · rintro ⟨best, same, selected, -⟩
        cases same
        rcases selected named with ⟨lobby, stored, -, -, free⟩
        rw [storedLobbies_unique stored present] at free
        intro full fullPresent fullEligible fullUp
        refine ⟨record, present, eligible, free, ?_⟩
        rw [beats_iff_precedes eligible fullEligible
          (speeds record present) (speeds full fullPresent)]
        rcases least full fullPresent fullEligible with rfl | before
        · exact absurd free (Int32.not_le.mpr fullUp)
        · exact before
      · intro beaten
        have free : 1 ≤ record.2.remain := by
          by_contra full
          rcases beaten record present eligible (Int32.not_le.mp full) with
            ⟨other, otherPresent, otherEligible, otherFree, beats⟩
          rw [beats_iff_precedes otherEligible eligible
            (speeds other otherPresent) (speeds record present)] at beats
          rcases least other otherPresent otherEligible with rfl | before
          · exact full otherFree
          · exact precedes_asymm before beats
        refine ⟨.ofRecord record, rfl, fun _ => ?_, fun none => ?_⟩
        · exact ⟨record.2, present, rfl, eligible.1, free⟩
        · exact absurd ⟨eligible.1, free⟩ (none record present)

/-! ## Two lobbies -/

/-- The sample lobby with all its places taken. -/
def fullLobby : LobbyInfo ℚ :=
  { sampleLobby with current := 10, remain := 0 }

/-- Another one, with free places. -/
def secondLobby : LobbyInfo ℚ :=
  { sampleLobby with key := literal "second" }

/-- A reader of the texts of both. -/
def twoReader : RecordReader ℚ := fun text =>
  .ok (if text = literal "full" then fullLobby else secondLobby)

/-- A manager behind both lobbies. -/
def twoManager : LobbyManager ℚ where
  redisWorker :=
    (RedisWorker.empty.updateData lobbyTable (literal "lobby")
      (literal "full")).updateData lobbyTable (literal "second")
        (literal "free")
  lobbyMap := ∅

theorem storedLobbies_two :
    storedLobbies twoReader twoManager =
      [(literal "table:LobbyInfo:lobby", fullLobby),
        (literal "table:LobbyInfo:second", secondLobby)] := by
  have scanned :
      twoManager.redisWorker.scanMultipleResult lobbyTable =
        [(literal "table:LobbyInfo:lobby", literal "full"),
          (literal "table:LobbyInfo:second", literal "free")] := by
    decide
  rw [storedLobbies, scanned]
  rfl

/-- The full lobby is beaten by the second one, which is selected. -/
theorem selects_enterable_sample :
    @SelectsEnterable ℚ exactArithmetic twoReader twoManager := by
  refine
    (@selects_enterable_iff ℚ exactArithmetic exactValues twoReader ?_
      twoManager ?_).mpr ?_
  · intro text lobby read
    trivial
  · intro record present
    exact ⟨_, rfl⟩
  · rw [storedLobbies_two]
    intro full present eligible none
    refine
      ⟨(literal "table:LobbyInfo:second", secondLobby),
        List.mem_cons_of_mem _ List.mem_cons_self, by decide, by decide, ?_⟩
    rcases List.mem_pair.mp present with rfl | rfl
    · decide +kernel
    · exact absurd none (by decide)

/-! ## One lobby -/

/-- A manager behind one lobby has no other. -/
theorem eq_of_storedLobbies {lobby : LobbyInfo ℚ}
    (noZero : 0 ∉ plainText (writtenRecord lobby))
    {record : ByteString × LobbyInfo ℚ}
    (present :
      record ∈ storedLobbies (soleReader lobby) (managerOf lobby)) :
    record.2 = lobby := by
  rcases mem_readRecords.mp present with ⟨text, stored, read⟩
  exact Except.ok.inj (read.symm.trans (read_of_scan noZero stored))

/-- A full lobby is selected where there is no other. -/
theorem full_lobby_selected :
    Decodable (soleReader fullLobby)
        ((managerOf fullLobby).redisWorker.scanMultipleResult lobbyTable) ∧
      ¬ @SelectsEnterable ℚ exactArithmetic (soleReader fullLobby)
        (managerOf fullLobby) := by
  have noZero : 0 ∉ plainText (writtenRecord fullLobby) := by decide
  have decodable :
      Decodable (soleReader fullLobby)
        ((managerOf fullLobby).redisWorker.scanMultipleResult
          lobbyTable) :=
    fun record present => ⟨fullLobby, read_of_scan noZero present⟩
  refine ⟨decodable, ?_⟩
  rintro ⟨best, found, -, none⟩
  rcases @searchBestLobby_of_decodable ℚ exactArithmetic _ _ decodable with
    ⟨alsoBest, alsoFound, unnamed⟩
  cases found.symm.trans alsoFound
  have stored :
      (literal "table:LobbyInfo:lobby",
          plainText (writtenRecord fullLobby)) ∈
        (managerOf fullLobby).redisWorker.scanMultipleResult
          lobbyTable := by
    decide
  refine
    unnamed.mp (none ?_) _ stored fullLobby (read_of_scan noZero stored)
      (by decide +kernel)
  intro record present enterable
  rw [eq_of_storedLobbies noZero present] at enterable
  exact absurd enterable.2 (by decide)

end IocpServer.ControlServer
