import IocpServer.Library.DecimalText
import Mathlib.Algebra.Group.Nat.Defs
import Mathlib.Data.List.Perm.Basic

/-!
# Starting the lobby servers

`LobbyServerStart` runs its index from the number of lobbies it has counted
up to its argument, and then adds the argument to that number.  Both bounds
agree as long as nothing was counted before, and only then.
-/

namespace IocpServer.ControlServer

open IocpServer.Library

/-- What `LobbySeverInfoSetting` and `Construct` tell about the servers. -/
structure LobbyServerInfo where
  controlServerIp : ByteString
  controlServerPort : Int32
  lobbyKeys : List ByteString
  lobbyPorts : List Int32
  lobbyThreadCount : Int32
  lobbyPreCreateSocketCount : Int32
  lobbyAcceptSocketMax : Int32
  lobbyOverlappedQueueSizemax : Int32
  /-- A `std::vector` holds no more. -/
  lobbyKeys_lt : lobbyKeys.length < 2 ^ 63

/-- The command line of a lobby server. -/
def LobbyServerInfo.commandLine
    (info : LobbyServerInfo) (lobbyKey : ByteString) (port : Int32) :
    ByteString :=
  let lobbyExecutable := literal "Server_Lobby.exe"
  lobbyExecutable ++ literal " "
    ++ lobbyKey ++ literal " "
    ++ integerText port.toInt ++ literal " "
    ++ integerText info.lobbyThreadCount.toInt ++ literal " "
    ++ integerText info.lobbyPreCreateSocketCount.toInt ++ literal " "
    ++ integerText info.lobbyAcceptSocketMax.toInt ++ literal " "
    ++ integerText info.lobbyOverlappedQueueSizemax.toInt ++ literal " "
    ++ info.controlServerIp ++ literal " "
    ++ integerText info.controlServerPort.toInt ++ literal " "
    ++ integerText 100

/-- A call of `CreateProcessA`, with what it returned. -/
structure LobbyStart where
  index : Int
  lobbyKey : ByteString
  port : Int32
  commandLine : ByteString
  result : Bool

/-- What `LobbyServerStart` uses of the hub, and the calls it has made. -/
structure LobbyLauncher where
  info : LobbyServerInfo
  currentLobbyCount : Int32
  starts : List LobbyStart

/-- A call of `LobbyServerStart`, with the answers of `CreateProcessA`. -/
structure StartCall where
  count : Int32
  createProcess : Int → Bool

/-- An `int` as a `size_t`. -/
def asSize (number : Int32) : Nat :=
  (number.toInt % 2 ^ 64).toNat

/-- An element of a `std::vector`; `none` is an access outside of it. -/
def elementAt {α : Type} (elements : List α) (index : Int) : Option α :=
  if index < 0 then none else elements[index.toNat]?

/-- The values of `i` in `for (int i = first; i < bound; ++i)`. -/
def loopIndices (first bound : Int32) : List Int :=
  (List.range (bound.toInt - first.toInt).toNat).map
    fun offset : Nat => first.toInt + offset

/-- The body of the loop. -/
def startLobby
    (info : LobbyServerInfo) (createProcess : Int → Bool) (index : Int) :
    Option LobbyStart :=
  match elementAt info.lobbyKeys index, elementAt info.lobbyPorts index with
  | some lobbyKey, some port =>
      some
        { index := index
          lobbyKey := lobbyKey
          port := port
          commandLine := info.commandLine lobbyKey port
          result := createProcess index }
  | _, _ => none

/-- The loop. -/
def startLobbies
    (info : LobbyServerInfo) (createProcess : Int → Bool) :
    List Int → Option (List LobbyStart)
  | [] => some []
  | index :: indices => do
      let start ← startLobby info createProcess index
      let starts ← startLobbies info createProcess indices
      return start :: starts

namespace LobbyLauncher

/-- The hub after `Construct` and `LobbySeverInfoSetting`. -/
def construct (info : LobbyServerInfo) : LobbyLauncher where
  info := info
  currentLobbyCount := 0
  starts := []

/--
`LobbyServerStart`; the sum of two counts wraps, and `none` is an access
outside one of the lists.
-/
def lobbyServerStart (launcher : LobbyLauncher) (call : StartCall) :
    Option LobbyLauncher :=
  let info := launcher.info
  if info.lobbyKeys.length <
      asSize (launcher.currentLobbyCount + call.count) then
    some launcher
  else if info.lobbyKeys.length ≠ info.lobbyPorts.length then
    some launcher
  else do
    let starts ←
      startLobbies info call.createProcess
        (loopIndices launcher.currentLobbyCount call.count)
    return { launcher with
      currentLobbyCount := launcher.currentLobbyCount + call.count
      starts := launcher.starts ++ starts }

/-- A sequence of calls. -/
def startAll (launcher : LobbyLauncher) :
    List StartCall → Option LobbyLauncher
  | [] => some launcher
  | call :: calls => do (← launcher.lobbyServerStart call).startAll calls

end LobbyLauncher

/-- One of the guards returns. -/
def Rejected
    (info : LobbyServerInfo) (currentLobbyCount count : Int32) : Prop :=
  info.lobbyKeys.length < asSize (currentLobbyCount + count) ∨
    info.lobbyKeys.length ≠ info.lobbyPorts.length

instance
    (info : LobbyServerInfo) (currentLobbyCount count : Int32) :
    Decidable (Rejected info currentLobbyCount count) :=
  inferInstanceAs (Decidable (_ ∨ _))

/-- The counts of the calls that no guard rejects. -/
def acceptedCounts
    (info : LobbyServerInfo) : Int32 → List Int32 → List Int32
  | _, [] => []
  | currentLobbyCount, count :: counts =>
      if Rejected info currentLobbyCount count then
        acceptedCounts info currentLobbyCount counts
      else
        count :: acceptedCounts info (currentLobbyCount + count) counts

/-- The start is the one of the lobby at its index. -/
def LobbyStart.Own (info : LobbyServerInfo) (start : LobbyStart) : Prop :=
  elementAt info.lobbyKeys start.index = some start.lobbyKey ∧
    elementAt info.lobbyPorts start.index = some start.port

/--
Every lobby counted was started exactly once, with its own key and port, and
the number of lobbies is the sum of the accepted counts.
-/
structure StartedOnce
    (launcher : LobbyLauncher) (accepted : List Int32) : Prop where
  eachOnce :
    (launcher.starts.map LobbyStart.index).Perm
      ((List.range launcher.currentLobbyCount.toInt.toNat).map Int.ofNat)
  own : ∀ start ∈ launcher.starts, start.Own launcher.info
  count :
    launcher.currentLobbyCount.toInt = (accepted.map Int32.toInt).sum

/-! ## One call -/

/-- A count that is not negative is its own size. -/
theorem asSize_of_nonneg {number : Int32} (nonneg : 0 ≤ number.toInt) :
    asSize number = number.toInt.toNat := by
  have bound := number.toInt_lt
  rw [asSize, Int.emod_eq_of_lt nonneg (by omega)]

/-- A negative count is larger than every vector. -/
theorem asSize_of_neg {number : Int32} (negative : number.toInt < 0) :
    2 ^ 63 ≤ asSize number := by
  have bound := number.le_toInt
  unfold asSize
  omega

/-- Two counts whose sum a vector has room for do not wrap. -/
theorem toInt_add_of_room {first second : Int32} {room : Nat}
    (firstNonneg : 0 ≤ first.toInt) (secondNonneg : 0 ≤ second.toInt)
    (vector : room < 2 ^ 63) (fits : asSize (first + second) ≤ room) :
    (first + second).toInt = first.toInt + second.toInt ∧
      first.toInt + second.toInt ≤ room := by
  have firstBound := first.toInt_lt
  have secondBound := second.toInt_lt
  have notNegative : 0 ≤ (first + second).toInt := by
    by_contra negative
    have large := asSize_of_neg (Int.not_le.mp negative)
    omega
  have sum : (first + second).toInt = first.toInt + second.toInt := by
    rw [Int32.toInt_add, Int.bmod_def] at notNegative ⊢
    split_ifs at notNegative ⊢ <;> omega
  rw [asSize_of_nonneg notNegative, sum] at fits
  exact ⟨sum, by omega⟩

theorem elementAt_of_inside {α : Type} {elements : List α} {index : Int}
    (nonneg : 0 ≤ index) (bound : index < elements.length) :
    ∃ element, elementAt elements index = some element := by
  rw [elementAt, if_neg (Int.not_lt.mpr nonneg)]
  exact ⟨_, List.getElem?_eq_getElem (by omega)⟩

/-- Inside both lists the body of the loop starts the lobby. -/
theorem startLobby_of_inside
    {info : LobbyServerInfo} (createProcess : Int → Bool) {index : Int}
    (nonneg : 0 ≤ index) (keyBound : index < info.lobbyKeys.length)
    (portBound : index < info.lobbyPorts.length) :
    ∃ start,
      startLobby info createProcess index = some start ∧
        start.index = index ∧ start.Own info := by
  rcases elementAt_of_inside nonneg keyBound with ⟨lobbyKey, atKey⟩
  rcases elementAt_of_inside nonneg portBound with ⟨port, atPort⟩
  simp only [startLobby, atKey, atPort]
  exact ⟨_, rfl, rfl, atKey, atPort⟩

/-- Inside both lists the loop starts every lobby it comes to. -/
theorem startLobbies_of_inside
    {info : LobbyServerInfo} (createProcess : Int → Bool)
    {indices : List Int}
    (inside :
      ∀ index ∈ indices,
        0 ≤ index ∧ index < info.lobbyKeys.length ∧
          index < info.lobbyPorts.length) :
    ∃ starts,
      startLobbies info createProcess indices = some starts ∧
        starts.map LobbyStart.index = indices ∧
          ∀ start ∈ starts, start.Own info := by
  induction indices with
  | nil => exact ⟨[], rfl, rfl, nofun⟩
  | cons index indices recursive =>
      rcases recursive fun later present =>
          inside later (List.mem_cons_of_mem index present) with
        ⟨starts, started, same, own⟩
      rcases inside index List.mem_cons_self with
        ⟨nonneg, keyBound, portBound⟩
      rcases startLobby_of_inside createProcess nonneg keyBound portBound with
        ⟨start, first, atIndex, ownStart⟩
      refine ⟨start :: starts, ?_, ?_, ?_⟩
      · rw [startLobbies, first, started]
        rfl
      · rw [List.map_cons, atIndex, same]
      · intro other present
        rcases List.mem_cons.mp present with rfl | later
        · exact ownStart
        · exact own other later

/-- The indices from `first` on, as many as there are below `bound`. -/
theorem mem_loopIndices {first bound : Int32} {index : Int}
    (present : index ∈ loopIndices first bound) :
    first.toInt ≤ index ∧ index < bound.toInt := by
  rcases List.mem_map.mp present with ⟨offset, isIn, rfl⟩
  have below := List.mem_range.mp isIn
  omega

theorem loopIndices_length (first bound : Int32) :
    (loopIndices first bound).length =
      (bound.toInt - first.toInt).toNat := by
  simp [loopIndices]

/-- From nothing counted the loop runs over all lobbies of its argument. -/
theorem loopIndices_of_zero {first bound : Int32} (zero : first.toInt = 0) :
    loopIndices first bound =
      (List.range bound.toInt.toNat).map Int.ofNat := by
  rw [loopIndices, zero, Int.sub_zero]
  apply List.map_congr_left
  intro offset _
  exact Int.zero_add _

namespace LobbyLauncher

/-- As many lobbies were started as are counted. -/
def Complete (launcher : LobbyLauncher) : Prop :=
  (launcher.starts.length : Int) = launcher.currentLobbyCount.toInt

/-- What holds of the hub behind every sequence of calls. -/
structure Launched (launcher : LobbyLauncher) : Prop where
  nonneg : 0 ≤ launcher.currentLobbyCount.toInt
  own : ∀ start ∈ launcher.starts, start.Own launcher.info
  few :
    (launcher.starts.length : Int) ≤ launcher.currentLobbyCount.toInt
  exact :
    launcher.Complete →
      launcher.starts.map LobbyStart.index =
        (List.range launcher.currentLobbyCount.toInt.toNat).map Int.ofNat

section Steps

variable {launcher : LobbyLauncher} {call : StartCall}

theorem construct_launched (info : LobbyServerInfo) :
    (construct info).Launched where
  nonneg := Int.le_refl 0
  own := nofun
  few := Int.le_refl 0
  exact := fun _ => rfl

/-- A call a guard rejects changes nothing. -/
theorem lobbyServerStart_of_rejected
    (rejected :
      Rejected launcher.info launcher.currentLobbyCount call.count) :
    launcher.lobbyServerStart call = some launcher := by
  unfold lobbyServerStart
  dsimp only
  rcases rejected with large | unequal
  · rw [if_pos large]
  · rw [if_pos unequal]
    split_ifs <;> rfl

/--
A call no guard rejects adds its count, and starts the lobbies from the
current number up to the count.
-/
theorem lobbyServerStart_of_accepted
    (launched : launcher.Launched) (nonneg : 0 ≤ call.count.toInt)
    (accepted :
      ¬ Rejected launcher.info launcher.currentLobbyCount call.count) :
    ∃ starts,
      launcher.lobbyServerStart call =
          some
            { launcher with
              currentLobbyCount := launcher.currentLobbyCount + call.count
              starts := launcher.starts ++ starts } ∧
        (launcher.currentLobbyCount + call.count).toInt =
          launcher.currentLobbyCount.toInt + call.count.toInt ∧
        starts.map LobbyStart.index =
          loopIndices launcher.currentLobbyCount call.count ∧
        ∀ start ∈ starts, start.Own launcher.info := by
  rcases not_or.mp accepted with ⟨fits, equal⟩
  have currentNonneg := launched.nonneg
  have sizes := not_ne_iff.mp equal
  rcases toInt_add_of_room launched.nonneg nonneg launcher.info.lobbyKeys_lt
      (Nat.not_lt.mp fits) with
    ⟨sum, room⟩
  have inside :
      ∀ index ∈ loopIndices launcher.currentLobbyCount call.count,
        0 ≤ index ∧ index < launcher.info.lobbyKeys.length ∧
          index < launcher.info.lobbyPorts.length := by
    intro index present
    have bounds := mem_loopIndices present
    omega
  rcases startLobbies_of_inside call.createProcess inside with
    ⟨starts, started, same, own⟩
  refine ⟨starts, ?_, sum, same, own⟩
  unfold lobbyServerStart
  dsimp only
  rw [if_neg fits, if_neg equal, started]
  rfl

/--
An accepted call keeps the number complete exactly if it counts nothing or
nothing was counted before.
-/
theorem Launched.accept {starts : List LobbyStart}
    (launched : launcher.Launched) (nonneg : 0 ≤ call.count.toInt)
    (counted :
      (launcher.currentLobbyCount + call.count).toInt =
        launcher.currentLobbyCount.toInt + call.count.toInt)
    (indices :
      starts.map LobbyStart.index =
        loopIndices launcher.currentLobbyCount call.count)
    (own : ∀ start ∈ starts, start.Own launcher.info) :
    let after :=
      { launcher with
        currentLobbyCount := launcher.currentLobbyCount + call.count
        starts := launcher.starts ++ starts }
    after.Launched ∧
      (after.Complete ↔
        launcher.Complete ∧
          (call.count.toInt = 0 ∨ launcher.currentLobbyCount.toInt = 0)) := by
  intro after
  have few := launched.few
  have currentNonneg := launched.nonneg
  have added :
      starts.length =
        (call.count.toInt - launcher.currentLobbyCount.toInt).toNat := by
    rw [← loopIndices_length, ← indices, List.length_map]
  have length :
      after.starts.length = launcher.starts.length + starts.length :=
    List.length_append
  have count :
      after.currentLobbyCount.toInt =
        launcher.currentLobbyCount.toInt + call.count.toInt :=
    counted
  have complete :
      after.Complete ↔
        launcher.Complete ∧
          (call.count.toInt = 0 ∨ launcher.currentLobbyCount.toInt = 0) := by
    unfold Complete
    rw [length, count]
    omega
  refine
    ⟨{ nonneg := by omega
       own := ?_
       few := by omega
       exact := ?_ }, complete⟩
  · intro start present
    rcases List.mem_append.mp present with before | new
    · exact launched.own start before
    · exact own start new
  · intro all
    change (launcher.starts ++ starts).map LobbyStart.index = _
    rw [count]
    rcases complete.mp all with ⟨before, none | first⟩
    · have nothing : starts = [] := by
        apply List.length_eq_zero_iff.mp
        omega
      rw [nothing, List.append_nil, none, Int.add_zero]
      exact launched.exact before
    · have nothing : launcher.starts = [] := by
        apply List.length_eq_zero_iff.mp
        omega
      rw [nothing, List.nil_append, indices, loopIndices_of_zero first,
        first, Int.zero_add]

end Steps

/-! ## A sequence of calls -/

/--
Every sequence of calls returns.  It leaves the number complete exactly if it
was complete and at most one accepted call counts a lobby, none if lobbies
were counted before.
-/
theorem startAll_of_launched
    {launcher : LobbyLauncher} {calls : List StartCall}
    (launched : launcher.Launched)
    (nonneg : ∀ call ∈ calls, 0 ≤ call.count.toInt) :
    let accepted :=
      acceptedCounts launcher.info launcher.currentLobbyCount
        (calls.map StartCall.count)
    ∃ finish,
      launcher.startAll calls = some finish ∧ finish.Launched ∧
        finish.currentLobbyCount.toInt =
          launcher.currentLobbyCount.toInt +
            (accepted.map Int32.toInt).sum ∧
        (finish.Complete ↔
          launcher.Complete ∧
            (accepted.filter fun count => 0 < count).length +
              (if 0 < launcher.currentLobbyCount then 1 else 0) ≤ 1) := by
  have positive (number : Int32) : 0 < number ↔ 0 < number.toInt :=
    Int32.lt_iff_toInt_lt
  induction calls generalizing launcher with
  | nil =>
      refine ⟨launcher, rfl, launched, (Int.add_zero _).symm, ?_⟩
      change _ ↔ _ ∧ 0 + _ ≤ 1
      split_ifs <;> simp
  | cons call calls recursive =>
      have callNonneg := nonneg call List.mem_cons_self
      have restNonneg :
          ∀ later ∈ calls, 0 ≤ later.count.toInt :=
        fun later present => nonneg later (List.mem_cons_of_mem call present)
      rw [List.map_cons, acceptedCounts, startAll]
      by_cases rejected :
          Rejected launcher.info launcher.currentLobbyCount call.count
      · rw [if_pos rejected, lobbyServerStart_of_rejected rejected]
        exact recursive launched restNonneg
      · rw [if_neg rejected]
        rcases lobbyServerStart_of_accepted launched callNonneg rejected with
          ⟨starts, started, counted, indices, own⟩
        rcases launched.accept callNonneg counted indices own with
          ⟨launchedAfter, complete⟩
        rcases recursive launchedAfter restNonneg with
          ⟨finish, returned, launchedFinish, count, completeFinish⟩
        have currentNonneg := launched.nonneg
        refine ⟨finish, ?_, launchedFinish, ?_, ?_⟩
        · rw [started]
          exact returned
        · rw [count, List.map_cons, List.sum_cons]
          dsimp only
          rw [counted, Int.add_assoc]
        · have before := positive launcher.currentLobbyCount
          have counts := positive call.count
          have after :=
            positive (launcher.currentLobbyCount + call.count)
          rw [counted] at after
          dsimp only at completeFinish
          rw [completeFinish, complete, List.filter_cons,
            apply_ite List.length, List.length_cons, and_assoc]
          refine and_congr_right fun _ => ?_
          simp only [before, counts, after, decide_eq_true_eq]
          split_ifs <;> omega

end LobbyLauncher

/--
Every configured lobby is started exactly once if and only if at most one of
the calls that no guard rejects counts a lobby.
-/
theorem lobbies_started_once_iff
    (info : LobbyServerInfo) (calls : List StartCall)
    (nonneg : ∀ call ∈ calls, 0 ≤ call.count) :
    let accepted := acceptedCounts info 0 (calls.map StartCall.count)
    (∃ launcher,
      (LobbyLauncher.construct info).startAll calls = some launcher ∧
        StartedOnce launcher accepted) ↔
      (accepted.filter fun count => 0 < count).length ≤ 1 := by
  intro accepted
  have started := LobbyLauncher.construct_launched info
  have countsNonneg : ∀ call ∈ calls, 0 ≤ call.count.toInt :=
    fun call present => Int32.le_iff_toInt_le.mp (nonneg call present)
  rcases LobbyLauncher.startAll_of_launched started countsNonneg with
    ⟨finish, returned, launched, count, complete⟩
  have exactly :
      finish.Complete ↔ (accepted.filter fun count => 0 < count).length ≤ 1 :=
    complete.trans (and_iff_right rfl)
  rw [← exactly]
  constructor
  · rintro ⟨launcher, alsoReturned, once⟩
    rw [returned] at alsoReturned
    cases alsoReturned
    have length := once.eachOnce.length_eq
    rw [List.length_map, List.length_map, List.length_range] at length
    rw [LobbyLauncher.Complete, length]
    exact Int.toNat_of_nonneg launched.nonneg
  · intro all
    refine ⟨finish, returned, ?_⟩
    exact
      { eachOnce := by rw [launched.exact all]
        own := launched.own
        count := count.trans (Int.zero_add _) }

/-! ## Three lobbies -/

/-- Three configured lobbies. -/
def threeLobbies : LobbyServerInfo where
  controlServerIp := literal "127.0.0.1"
  controlServerPort := 9090
  lobbyKeys := [literal "Lobby1", literal "Lobby2", literal "Lobby3"]
  lobbyPorts := [9091, 9092, 9093]
  lobbyThreadCount := 10
  lobbyPreCreateSocketCount := 10
  lobbyAcceptSocketMax := 30
  lobbyOverlappedQueueSizemax := 100
  lobbyKeys_lt := by decide

/-- A call whose processes are all created. -/
def startLobbyServers (count : Int32) : StartCall where
  count := count
  createProcess _ := true

/-- A first call for two lobbies, behind one for none. -/
theorem lobbies_started_once_two :
    ∃ launcher,
      (LobbyLauncher.construct threeLobbies).startAll
          [startLobbyServers 0, startLobbyServers 2] = some launcher ∧
        StartedOnce launcher
          (acceptedCounts threeLobbies 0
            ([startLobbyServers 0, startLobbyServers 2].map
              StartCall.count)) :=
  (lobbies_started_once_iff threeLobbies
    [startLobbyServers 0, startLobbyServers 2] (by decide)).mpr (by decide)

/-- A second call starts no lobby, and counts one. -/
theorem second_call_starts_none :
    ¬ ∀ (info : LobbyServerInfo) (calls : List StartCall),
      (∀ call ∈ calls, 0 ≤ call.count) →
        ∃ launcher,
          (LobbyLauncher.construct info).startAll calls = some launcher ∧
            StartedOnce launcher
              (acceptedCounts info 0 (calls.map StartCall.count)) := by
  intro always
  rcases always threeLobbies [startLobbyServers 2, startLobbyServers 1]
      (by decide) with
    ⟨launcher, returned, once⟩
  have indices : launcher.starts.map LobbyStart.index = [0, 1] := by
    cases returned
    decide
  have count : launcher.currentLobbyCount = 3 := by
    cases returned
    decide
  have eachOnce := once.eachOnce
  rw [indices, count] at eachOnce
  exact absurd eachOnce.length_eq (by decide)

end IocpServer.ControlServer
