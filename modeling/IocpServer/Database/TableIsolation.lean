import IocpServer.Database.Tables

/-!
# Tables apart from each other

Whether the tables stay apart depends on their names: on the colons between
the names and the keys, on what the table's pattern matches, and on what a C
string can hold.  `Separate` is the condition on the calls and on the queried
table, and `tables_isolated_iff` says that it is the exact one.
-/

namespace IocpServer.Database

open IocpServer.Library

namespace RedisWorker

/-! ## Isolation -/

/--
Behind the calls no pair has overwritten another, `ScanMultipleResult` returns
the latest values of the table, and `DeleteTable` leaves the latest values of
the other tables.
-/
structure Isolated
    (calls : List UpdateCall) (table : ByteString) (scanCount : Int32)
    (scan deletion : ScanSession) : Prop where
  apart : Apart calls
  returns :
    ((after calls).runScanMultipleResult table scan.replies).outcome = .ok ()
  scanned :
    ∀ entry value,
      ((after calls).runScanMultipleResult table scan.replies).state[entry]? =
          some value ↔
        ∃ key,
          entry = cacheKey table key ∧
            Tables.after calls table key = some value
  deleted :
    ∀ entry value,
      ((after calls).runDeleteTable table scanCount
            (countedReplies scanCount deletion)).state.store[entry]? =
          some value ↔
        ∃ other key,
          other ≠ table ∧ entry = cacheKey other key ∧
            Tables.after calls other key = some value

/--
The names and values are what a C string can hold, no table is another one's
name, a colon and the front of a key that goes on with a colon, the patterns
match the keys of the table alone, and the scans are answered.
-/
structure Separate
    (calls : List UpdateCall) (table : ByteString) (scanCount : Int32)
    (scan : ScanSession) : Prop where
  plain :
    ∀ other key value,
      Tables.after calls other key = some value →
        0 ∉ other ∧ 0 ∉ key ∧ 0 ∉ value
  colons :
    ∀ other middle key,
      (Tables.after calls other
          (middle ++ literal ":" ++ key)).isSome = true →
        Tables.after calls (other ++ literal ":" ++ middle) key = none
  scanMatch :
    ∀ other key,
      (Tables.after calls other key).isSome = true →
        (stringMatch (scanPattern table) (cacheKey other key) = true ↔
          other = table)
  deleteMatch :
    ∀ other key,
      (Tables.after calls other key).isSome = true →
        (1 ≤ scanCount ∧
            stringMatch (deletePattern table) (cacheKey other key) = true ↔
          other = table)
  small : SmallCursors scan

section Isolation

variable {calls : List UpdateCall} {table : ByteString}
variable {scanCount : Int32} {scan deletion : ScanSession}

/-- Names that keep their colons apart have entries of their own. -/
theorem Separate.apart
    (separate : Separate calls table scanCount scan) : Apart calls := by
  intro first isFirst second isSecond acceptedFirst acceptedSecond same
  have firstPresent :
      (Tables.after calls first.table first.key).isSome = true :=
    Tables.isSome_after_iff.mpr ⟨first, isFirst, acceptedFirst, rfl, rfl⟩
  have secondPresent :
      (Tables.after calls second.table second.key).isSome = true :=
    Tables.isSome_after_iff.mpr
      ⟨second, isSecond, acceptedSecond, rfl, rfl⟩
  rcases Option.isSome_iff_exists.mp firstPresent with ⟨value, stored⟩
  rcases Option.isSome_iff_exists.mp secondPresent with
    ⟨other, alsoStored⟩
  rcases separate.plain _ _ _ stored with ⟨firstTable, firstKey, -⟩
  rcases separate.plain _ _ _ alsoStored with ⟨secondTable, secondKey, -⟩
  rw [UpdateCall.entry, UpdateCall.entry,
    cString_cacheKey_of_plain firstTable firstKey,
    cString_cacheKey_of_plain secondTable secondKey,
    cacheKey_eq_iff] at same
  rcases same with equal | ⟨middle, longer, key⟩ | ⟨middle, longer, key⟩
  · exact equal
  · rw [key] at firstPresent
    rw [longer, separate.colons _ _ _ firstPresent] at secondPresent
    cases secondPresent
  · rw [key] at secondPresent
    rw [longer, separate.colons _ _ _ secondPresent] at firstPresent
    cases firstPresent

/-- With plain names and values the store holds the tables as they are. -/
theorem after_getElem?_of_plain
    (apart : Apart calls)
    (plain :
      ∀ other key value,
        Tables.after calls other key = some value →
          0 ∉ other ∧ 0 ∉ key ∧ 0 ∉ value)
    {entry value : ByteString} :
    (after calls).store[entry]? = some value ↔
      ∃ other key,
        entry = cacheKey other key ∧
          Tables.after calls other key = some value := by
  rw [after_getElem? apart]
  constructor
  · rintro ⟨other, key, json, stored, rfl, rfl⟩
    rcases plain other key json stored with
      ⟨plainTable, plainKey, plainValue⟩
    refine ⟨other, key, cString_cacheKey_of_plain plainTable plainKey, ?_⟩
    rw [cString_of_zero_not_mem plainValue]
    exact stored
  · rintro ⟨other, key, rfl, stored⟩
    rcases plain other key value stored with
      ⟨plainTable, plainKey, plainValue⟩
    exact
      ⟨other, key, value, stored,
        (cString_cacheKey_of_plain plainTable plainKey).symm,
        (cString_of_zero_not_mem plainValue).symm⟩

/-- Separate tables are isolated. -/
theorem Separate.isolated
    (separate : Separate calls table scanCount scan)
    (scans : (after calls).FullScan (scanPattern table) scan)
    (deletes : (after calls).FullScan (deletePattern table) deletion) :
    Isolated calls table scanCount scan deletion where
  apart := separate.apart
  returns := (runScanMultipleResult_visits separate.small).2.1
  scanned := by
    intro entry value
    rw [scanned_getElem? (after_plain calls) scans separate.small,
      after_getElem?_of_plain separate.apart separate.plain]
    constructor
    · rintro ⟨⟨other, key, rfl, stored⟩, matched⟩
      have present : (Tables.after calls other key).isSome = true :=
        Option.isSome_of_eq_some stored
      rw [(separate.scanMatch other key present).mp matched] at stored ⊢
      exact ⟨key, rfl, stored⟩
    · rintro ⟨key, rfl, stored⟩
      have present : (Tables.after calls table key).isSome = true :=
        Option.isSome_of_eq_some stored
      exact
        ⟨⟨table, key, rfl, stored⟩,
          (separate.scanMatch table key present).mpr rfl⟩
  deleted := by
    intro entry value
    rw [deleted_getElem? (after_plain calls) deletes,
      after_getElem?_of_plain separate.apart separate.plain]
    constructor
    · rintro ⟨⟨other, key, rfl, stored⟩, kept⟩
      have present : (Tables.after calls other key).isSome = true :=
        Option.isSome_of_eq_some stored
      rw [separate.deleteMatch other key present] at kept
      exact ⟨other, key, kept, rfl, stored⟩
    · rintro ⟨other, key, different, rfl, stored⟩
      have present : (Tables.after calls other key).isSome = true :=
        Option.isSome_of_eq_some stored
      rw [separate.deleteMatch other key present]
      exact ⟨⟨other, key, rfl, stored⟩, different⟩

/-- Pairs that have values and one entry are one pair. -/
theorem Apart.pair_eq
    (apart : Apart calls) {first second key otherKey : ByteString}
    (firstPresent : (Tables.after calls first key).isSome = true)
    (secondPresent : (Tables.after calls second otherKey).isSome = true)
    (same : cacheKey first key = cacheKey second otherKey) :
    first = second ∧ key = otherKey := by
  rcases Tables.isSome_after_iff.mp firstPresent with
    ⟨writer, member, accepted, rfl, rfl⟩
  rcases Tables.isSome_after_iff.mp secondPresent with
    ⟨otherWriter, otherMember, otherAccepted, rfl, rfl⟩
  exact
    apart writer member otherWriter otherMember accepted otherAccepted
      (congrArg cString same)

/-- No pair's key lends its front to another table with a value. -/
theorem Apart.colons
    (apart : Apart calls) {other middle key : ByteString}
    (present :
      (Tables.after calls other
        (middle ++ literal ":" ++ key)).isSome = true) :
    Tables.after calls (other ++ literal ":" ++ middle) key = none := by
  cases stored : Tables.after calls (other ++ literal ":" ++ middle) key with
  | none => rfl
  | some value =>
      have same :=
        apart.pair_eq present (Option.isSome_iff_exists.mpr ⟨_, stored⟩)
          (cacheKey_eq_iff.mpr (.inr (.inl ⟨middle, rfl, rfl⟩)))
      have length := congrArg List.length same.1
      simp [literal] at length

/-- A scan that returns did not meet a large cursor. -/
theorem Isolated.small
    (isolated : Isolated calls table scanCount scan deletion) :
    SmallCursors scan := by
  by_contra large
  have ended := isolated.returns
  rw [runScanMultipleResult_throws large] at ended
  cases ended

/-- The store of isolated tables has every value under its whole key. -/
theorem Isolated.held
    (isolated : Isolated calls table scanCount scan deletion)
    (scans : (after calls).FullScan (scanPattern table) scan)
    (deletes : (after calls).FullScan (deletePattern table) deletion)
    {other key value : ByteString}
    (stored : Tables.after calls other key = some value) :
    (after calls).store[cacheKey other key]? = some value := by
  by_cases same : other = table
  · subst same
    have returned :=
      (isolated.scanned (cacheKey other key) value).mpr ⟨key, rfl, stored⟩
    exact
      ((scanned_getElem? (after_plain calls) scans isolated.small).mp
        returned).1
  · have left :=
      (isolated.deleted (cacheKey other key) value).mpr
        ⟨other, key, same, rfl, stored⟩
    exact ((deleted_getElem? (after_plain calls) deletes).mp left).1

/-- The pattern of an isolated table matches its own keys. -/
theorem Isolated.scanMatch
    (isolated : Isolated calls table scanCount scan deletion)
    (scans : (after calls).FullScan (scanPattern table) scan)
    (deletes : (after calls).FullScan (deletePattern table) deletion)
    {other key : ByteString}
    (present : (Tables.after calls other key).isSome = true) :
    stringMatch (scanPattern table) (cacheKey other key) = true ↔
      other = table := by
  rcases Option.isSome_iff_exists.mp present with ⟨value, stored⟩
  constructor
  · intro matched
    have returned :=
      (scanned_getElem? (after_plain calls) scans isolated.small).mpr
        ⟨isolated.held scans deletes stored, matched⟩
    rcases (isolated.scanned _ _).mp returned with
      ⟨returnedKey, same, also⟩
    have alsoPresent := Option.isSome_iff_exists.mpr ⟨_, also⟩
    exact (isolated.apart.pair_eq present alsoPresent same).1
  · rintro rfl
    have returned := (isolated.scanned _ _).mpr ⟨key, rfl, stored⟩
    exact
      ((scanned_getElem? (after_plain calls) scans isolated.small).mp
        returned).2

/-- A `DeleteTable` of an isolated table deletes its own keys. -/
theorem Isolated.deleteMatch
    (isolated : Isolated calls table scanCount scan deletion)
    (scans : (after calls).FullScan (scanPattern table) scan)
    (deletes : (after calls).FullScan (deletePattern table) deletion)
    {other key : ByteString}
    (present : (Tables.after calls other key).isSome = true) :
    1 ≤ scanCount ∧
        stringMatch (deletePattern table) (cacheKey other key) = true ↔
      other = table := by
  rcases Option.isSome_iff_exists.mp present with ⟨value, stored⟩
  constructor
  · intro matched
    by_contra different
    have left :=
      (isolated.deleted _ _).mpr ⟨other, key, different, rfl, stored⟩
    exact
      ((deleted_getElem? (after_plain calls) deletes).mp left).2 matched
  · rintro rfl
    by_contra kept
    have left :=
      (deleted_getElem? (after_plain calls) deletes).mpr
        ⟨isolated.held scans deletes stored, kept⟩
    rcases (isolated.deleted _ _).mp left with
      ⟨another, anotherKey, different, same, also⟩
    have alsoPresent := Option.isSome_iff_exists.mpr ⟨_, also⟩
    exact
      different (isolated.apart.pair_eq present alsoPresent same).1.symm

/-- Isolated tables are separate. -/
theorem Isolated.separate
    (isolated : Isolated calls table scanCount scan deletion)
    (scans : (after calls).FullScan (scanPattern table) scan)
    (deletes : (after calls).FullScan (deletePattern table) deletion) :
    Separate calls table scanCount scan where
  plain := by
    intro other key value stored
    rcases
      after_plain calls _ _ (isolated.held scans deletes stored) with
      ⟨plainEntry, plainValue⟩
    rcases zero_not_mem_of_cacheKey plainEntry with ⟨plainTable, plainKey⟩
    exact ⟨plainTable, plainKey, plainValue⟩
  colons _ _ _ present := isolated.apart.colons present
  scanMatch _ _ present := isolated.scanMatch scans deletes present
  deleteMatch _ _ present := isolated.deleteMatch scans deletes present
  small := isolated.small

end Isolation

/-! ## Plain names -/

/-- A name without a colon, a metacharacter or a zero byte. -/
def PlainName (name : ByteString) : Prop :=
  ∀ byte ∈ name, isLiteral byte = true ∧ byte ≠ 58 ∧ byte ≠ 0

instance (name : ByteString) : Decidable (PlainName name) :=
  List.decidableBAll _ name

theorem PlainName.zero_not_mem
    {name : ByteString} (plain : PlainName name) : 0 ∉ name :=
  fun member => (plain 0 member).2.2 rfl

/-- A plain name is no other name with a colon behind it. -/
theorem PlainName.ne_colon
    {name front back : ByteString} (plain : PlainName name) :
    name ≠ front ++ literal ":" ++ back := by
  rintro rfl
  have colon : (58 : UInt8) ∈ front ++ literal ":" ++ back := by
    simp [literal]
  exact (plain 58 colon).2.1 rfl

/-- The pattern of a name without metacharacters asks for its front. -/
theorem stringMatch_scanPattern_iff
    {table : ByteString}
    (plain : ∀ byte ∈ cString table, isLiteral byte = true)
    (entry : ByteString) :
    stringMatch (scanPattern table) entry = true ↔
      cacheKey (cString table) [] <+: entry := by
  have front : ∀ byte ∈ literal "table:", isLiteral byte = true :=
    List.all_eq_true.mp (by decide)
  have colon : ∀ byte ∈ literal ":", isLiteral byte = true :=
    List.all_eq_true.mp (by decide)
  have split : literal ":*" = literal ":" ++ literal "*" := by
    decide
  have shape :
      scanPattern table = cacheKey (cString table) [] ++ literal "*" := by
    simp only [scanPattern, cacheKey, split, List.append_assoc,
      List.nil_append]
  rw [shape]
  apply stringMatch_star_iff
  intro byte member
  simp only [cacheKey, List.mem_append, List.not_mem_nil,
    or_false] at member
  rcases member with (inFront | inTable) | inColon
  · exact front byte inFront
  · exact plain byte inTable
  · exact colon byte inColon

/-- A `ScanMultipleResult` of such a table finds it by the front alone. -/
theorem scanned_eq_scanMultipleResult
    {redis : RedisWorker} {table : ByteString} {session : ScanSession}
    (literals : ∀ byte ∈ cString table, isLiteral byte = true)
    (plain : redis.Plain)
    (full : redis.FullScan (scanPattern table) session)
    (small : SmallCursors session)
    (entry value : ByteString) :
    (redis.runScanMultipleResult table session.replies).state[entry]? =
        some value ↔
      (entry, value) ∈ redis.scanMultipleResult table := by
  rw [scanned_getElem? plain full small,
    stringMatch_scanPattern_iff literals, mem_scanMultipleResult]

/-- A plain name matches the keys of its own table. -/
theorem PlainName.match_iff
    {table other : ByteString} (plain : PlainName table)
    (otherPlain : PlainName other) (key : ByteString) :
    stringMatch (scanPattern table) (cacheKey other key) = true ↔
      other = table := by
  have whole : cString table = table :=
    cString_of_zero_not_mem plain.zero_not_mem
  rw [stringMatch_scanPattern_iff, whole]
  · constructor
    · rintro ⟨rest, same⟩
      have longer : cacheKey table rest = cacheKey other key := by
        rw [← same]
        simp [cacheKey]
      rcases cacheKey_eq_iff.mp longer with
        ⟨equal, -⟩ | ⟨middle, longer, -⟩ | ⟨middle, longer, -⟩
      · exact equal.symm
      · exact absurd longer otherPlain.ne_colon
      · exact absurd longer plain.ne_colon
    · rintro rfl
      exact cacheKey_front other key
  · rw [whole]
    exact fun byte member => (plain byte member).1

/-- The two patterns of a plain name are one. -/
theorem PlainName.deletePattern_eq
    {table : ByteString} (plain : PlainName table) :
    deletePattern table = scanPattern table := by
  have front : 0 ∉ literal "table:" := by decide
  have behind : 0 ∉ literal ":*" := by decide
  rw [deletePattern, scanPattern,
    cString_of_zero_not_mem plain.zero_not_mem]
  apply cString_of_zero_not_mem
  simp only [List.mem_append, not_or]
  exact ⟨⟨front, plain.zero_not_mem⟩, behind⟩

/-- Tables with plain names are separate. -/
theorem separate_of_plainNames
    {calls : List UpdateCall} {table : ByteString} {scanCount : Int32}
    {scan : ScanSession}
    (names :
      ∀ call ∈ calls,
        PlainName call.table ∧ 0 ∉ call.key ∧ 0 ∉ call.jsonString)
    (name : PlainName table)
    (counted : 1 ≤ scanCount)
    (small : SmallCursors scan) :
    Separate calls table scanCount scan := by
  have named {other key : ByteString}
      (present : (Tables.after calls other key).isSome = true) :
      PlainName other := by
    rcases Tables.isSome_after_iff.mp present with
      ⟨call, member, -, rfl, -⟩
    exact (names call member).1
  exact
    { plain := by
        intro other key value stored
        rcases Tables.exists_call stored with
          ⟨call, member, -, rfl, rfl, rfl⟩
        rcases names call member with ⟨plain, plainKey, plainValue⟩
        exact ⟨plain.zero_not_mem, plainKey, plainValue⟩
      colons := by
        intro other middle key _
        cases stored :
            Tables.after calls (other ++ literal ":" ++ middle) key with
        | none => rfl
        | some value =>
            have plain := named (Option.isSome_iff_exists.mpr ⟨_, stored⟩)
            exact absurd rfl plain.ne_colon
      scanMatch := fun other key present =>
        name.match_iff (named present) key
      deleteMatch := by
        intro other key present
        rw [name.deletePattern_eq, name.match_iff (named present)]
        exact and_iff_right counted
      small := small }

/-! ## Every sequence of calls -/

/--
Behind every sequence of `UpdateData` calls, and for full scans of the table's
patterns, the tables are isolated if and only if they are separate.
-/
theorem tables_isolated_iff
    {calls : List UpdateCall} {table : ByteString} {scanCount : Int32}
    {scan deletion : ScanSession}
    (scans : (after calls).FullScan (scanPattern table) scan)
    (deletes : (after calls).FullScan (deletePattern table) deletion) :
    Isolated calls table scanCount scan deletion ↔
      Separate calls table scanCount scan :=
  ⟨fun isolated => isolated.separate scans deletes,
    fun separate => separate.isolated scans deletes⟩

/-- `LobbyInfo` and another table, a key of both and a second value. -/
def twoTables : List UpdateCall :=
  [⟨literal "LobbyInfo", literal "a", literal "1", 60⟩,
    ⟨literal "Session", literal "a", literal "2", 60⟩,
    ⟨literal "LobbyInfo", literal "a", literal "3", 60⟩]

theorem tables_isolated_two :
    Isolated twoTables (literal "LobbyInfo") 100
      ((after twoTables).onePage (scanPattern (literal "LobbyInfo")))
      ((after twoTables).onePage (deletePattern (literal "LobbyInfo"))) :=
  (tables_isolated_iff (onePage_fullScan _ _) (onePage_fullScan _ _)).mpr
    (separate_of_plainNames (by decide) (by decide) (by decide)
      (onePage_small _ _))

/-- A colon in the key, and the same colon in the table's name. -/
def collidingCalls : List UpdateCall :=
  [⟨literal "a", literal "b:c", literal "1", 60⟩,
    ⟨literal "a:b", literal "c", literal "2", 60⟩]

/-- The second call overwrites the first one's entry. -/
theorem colon_overwrites :
    ¬ ∀ (calls : List UpdateCall) (table : ByteString)
        (scanCount : Int32) (scan deletion : ScanSession),
      1 ≤ scanCount →
        SmallCursors scan →
          (after calls).FullScan (scanPattern table) scan →
            (after calls).FullScan (deletePattern table) deletion →
              Isolated calls table scanCount scan deletion := by
  intro isolated
  have apart :=
    (isolated collidingCalls (literal "a") 100
      ((after collidingCalls).onePage _) ((after collidingCalls).onePage _)
      (by decide) (onePage_small _ _) (onePage_fullScan _ _)
      (onePage_fullScan _ _)).apart
  have onePair :=
    apart _ List.mem_cons_self _
      (List.mem_cons_of_mem _ List.mem_cons_self) (by decide) (by decide)
      (by decide)
  exact absurd onePair.1 (by decide)

-- the patterns of other tables: with a colon, a class, a star
example :
    stringMatch (deletePattern (literal "a"))
        (cacheKey (literal "a:b") (literal "c")) = true ∧
      stringMatch (scanPattern (literal "[ab]"))
          (cacheKey (literal "[ab]") (literal "c")) = false ∧
        stringMatch (scanPattern (literal "*"))
          (cacheKey (literal "a") (literal "c")) = true := by
  decide

end RedisWorker

end IocpServer.Database
