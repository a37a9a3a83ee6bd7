import IocpServer.Database.ScanCursor
import IocpServer.Library.GlobPattern
import IocpServer.Library.ListCuts

/-!
# Tables

The database is for tables: a value for each key of each table.  `UpdateData`
composes the key of an entry from the two names with colons, and the scans
find the entries of a table through a glob pattern with the table's name.
This file says what the calls store, and what the scans return and delete.

No entry expires.  The server refuses a `SET` whose `EX` is not positive and
a `SCAN` whose `COUNT` is not.
-/

namespace IocpServer.Database

open IocpServer.Library

/-- The arguments of an `UpdateData`. -/
structure UpdateCall where
  table : ByteString
  key : ByteString
  jsonString : ByteString
  ttl : Int32
deriving DecidableEq, Repr

namespace UpdateCall

/-- The server stores the value. -/
def Accepted (call : UpdateCall) : Prop :=
  0 < call.ttl

instance (call : UpdateCall) : Decidable call.Accepted :=
  inferInstanceAs (Decidable (0 < call.ttl))

/-- The entry the call writes. -/
def entry (call : UpdateCall) : ByteString :=
  cString (RedisWorker.cacheKey call.table call.key)

end UpdateCall

/-- A value for each key of each table, as far as there is one. -/
abbrev Tables :=
  ByteString → ByteString → Option ByteString

namespace Tables

/-- What an `UpdateData` is for. -/
def update (tables : Tables) (call : UpdateCall) : Tables :=
  fun table key =>
    if call.Accepted ∧ call.table = table ∧ call.key = key then
      some call.jsonString
    else
      tables table key

/-- The latest values behind the calls. -/
def after (calls : List UpdateCall) : Tables :=
  calls.foldl update fun _ _ => none

theorem after_append (calls : List UpdateCall) (call : UpdateCall) :
    after (calls ++ [call]) = (after calls).update call :=
  List.foldl_append

/-- A value was stored by an accepted call. -/
theorem exists_call
    {calls : List UpdateCall} {table key json : ByteString}
    (stored : after calls table key = some json) :
    ∃ call ∈ calls,
      call.Accepted ∧ call.table = table ∧ call.key = key ∧
        call.jsonString = json := by
  induction calls using List.reverseRecOn with
  | nil => cases stored
  | append_singleton calls call induction =>
      rw [after_append, update] at stored
      split_ifs at stored with latest
      · rcases latest with ⟨accepted, sameTable, sameKey⟩
        exact
          ⟨call, List.mem_append_right _ List.mem_cons_self, accepted,
            sameTable, sameKey, Option.some.inj stored⟩
      · rcases induction stored with ⟨earlier, member, stores⟩
        exact ⟨earlier, List.mem_append_left _ member, stores⟩

/-- A pair has a value if a call for it was accepted. -/
theorem isSome_after_iff
    {calls : List UpdateCall} {table key : ByteString} :
    (after calls table key).isSome = true ↔
      ∃ call ∈ calls,
        call.Accepted ∧ call.table = table ∧ call.key = key := by
  constructor
  · intro present
    rcases Option.isSome_iff_exists.mp present with ⟨json, stored⟩
    rcases exists_call stored with
      ⟨call, member, accepted, sameTable, sameKey, -⟩
    exact ⟨call, member, accepted, sameTable, sameKey⟩
  · rintro ⟨call, member, named⟩
    induction calls using List.reverseRecOn with
    | nil => cases member
    | append_singleton calls last induction =>
        rw [after_append, update]
        split_ifs with latest
        · rfl
        · rcases List.mem_append.mp member with before | here
          · exact induction before
          · rw [← List.mem_singleton.mp here] at latest
            exact absurd named latest

end Tables

namespace RedisWorker

/-- `UpdateData`, with its time to live. -/
def update (redis : RedisWorker) (call : UpdateCall) : RedisWorker :=
  if call.Accepted then
    redis.updateData call.table call.key call.jsonString
  else
    redis

/-- The database behind the calls. -/
def after (calls : List UpdateCall) : RedisWorker :=
  calls.foldl update empty

theorem after_append (calls : List UpdateCall) (call : UpdateCall) :
    after (calls ++ [call]) = (after calls).update call :=
  List.foldl_append

/-- An accepted call writes its entry and no other. -/
theorem update_getElem?
    (redis : RedisWorker) (call : UpdateCall) (entry : ByteString) :
    (redis.update call).store[entry]? =
      if call.Accepted ∧ call.entry = entry then
        some (cString call.jsonString)
      else
        redis.store[entry]? := by
  rw [update]
  by_cases accepted : call.Accepted
  · rw [if_pos accepted, updateData, Std.ExtTreeMap.getElem?_insert]
    simp only [accepted, true_and, Std.LawfulEqCmp.compare_eq_iff_eq,
      UpdateCall.entry]
  · rw [if_neg accepted, if_neg fun both => accepted both.1]

/-- What is stored went through `c_str()`. -/
theorem after_plain (calls : List UpdateCall) : (after calls).Plain := by
  induction calls using List.reverseRecOn with
  | nil =>
      intro key value stored
      simp [after, empty] at stored
  | append_singleton calls call induction =>
      intro key value stored
      rw [after_append, update_getElem?] at stored
      split_ifs at stored with writes
      · rw [← writes.2, ← Option.some.inj stored]
        exact ⟨zero_not_mem_cString _, zero_not_mem_cString _⟩
      · exact induction key value stored

/-- Two accepted calls that write one entry are for one key of one table. -/
def Apart (calls : List UpdateCall) : Prop :=
  ∀ first ∈ calls, ∀ second ∈ calls,
    first.Accepted → second.Accepted → first.entry = second.entry →
      first.table = second.table ∧ first.key = second.key

/-- While no call overwrites another key's entry, the entries are these. -/
theorem after_getElem?
    {calls : List UpdateCall} (apart : Apart calls)
    {entry value : ByteString} :
    (after calls).store[entry]? = some value ↔
      ∃ table key json,
        Tables.after calls table key = some json ∧
          entry = cString (cacheKey table key) ∧ value = cString json := by
  induction calls using List.reverseRecOn with
  | nil => simp [after, empty, Tables.after]
  | append_singleton calls call induction =>
      have earlierApart : Apart calls := by
        intro first isFirst second isSecond
        exact
          apart first (List.mem_append_left _ isFirst) second
            (List.mem_append_left _ isSecond)
      rw [after_append, update_getElem?, Tables.after_append]
      simp only [Tables.update]
      by_cases writes : call.Accepted ∧ call.entry = entry
      · rw [if_pos writes]
        constructor
        · intro stored
          refine
            ⟨call.table, call.key, call.jsonString,
              if_pos ⟨writes.1, rfl, rfl⟩, writes.2.symm,
              (Option.some.inj stored).symm⟩
        · rintro ⟨table, key, json, latest, rfl, rfl⟩
          split_ifs at latest with same
          · rw [Option.some.inj latest]
          · -- an earlier call for another pair would share the entry
            have present :
                (Tables.after calls table key).isSome = true :=
              Option.isSome_of_eq_some latest
            rcases Tables.isSome_after_iff.mp present with
              ⟨earlier, member, accepted, rfl, rfl⟩
            rcases
              apart call (List.mem_append_right _ List.mem_cons_self)
                earlier (List.mem_append_left _ member) writes.1 accepted
                writes.2 with
              ⟨sameTable, sameKey⟩
            exact absurd ⟨writes.1, sameTable, sameKey⟩ same
      · rw [if_neg writes, induction earlierApart]
        constructor
        · rintro ⟨table, key, json, stored, rfl, rfl⟩
          refine ⟨table, key, json, ?_, rfl, rfl⟩
          rw [if_neg, stored]
          rintro ⟨accepted, rfl, rfl⟩
          exact writes ⟨accepted, rfl⟩
        · rintro ⟨table, key, json, stored, rfl, rfl⟩
          refine ⟨table, key, json, ?_, rfl, rfl⟩
          rw [if_neg] at stored
          · exact stored
          · rintro ⟨accepted, rfl, rfl⟩
            exact writes ⟨accepted, rfl⟩

/-! ## Keys of entries -/

/-- Two pairs with one entry: a colon of the one belongs to the other. -/
theorem cacheKey_eq_iff {table key otherTable otherKey : ByteString} :
    cacheKey table key = cacheKey otherTable otherKey ↔
      (table = otherTable ∧ key = otherKey) ∨
        (∃ middle,
          otherTable = table ++ literal ":" ++ middle ∧
            key = middle ++ literal ":" ++ otherKey) ∨
          ∃ middle,
            table = otherTable ++ literal ":" ++ middle ∧
              otherKey = middle ++ literal ":" ++ key := by
  have colon : literal ":" = [58] := by decide
  simp only [cacheKey, colon, List.append_assoc, List.append_cancel_left_eq,
    List.singleton_append]
  exact separated_eq_iff

/-- A pair whose parts hold no zero has its whole key in the store. -/
theorem cString_cacheKey_of_plain
    {other key : ByteString} (plainTable : 0 ∉ other)
    (plainKey : 0 ∉ key) :
    cString (cacheKey other key) = cacheKey other key := by
  rw [cString_cacheKey plainTable, cString_of_zero_not_mem plainKey]

theorem zero_not_mem_of_cacheKey
    {other key : ByteString} (plain : 0 ∉ cacheKey other key) :
    0 ∉ other ∧ 0 ∉ key := by
  simp only [cacheKey, List.mem_append, not_or] at plain
  exact ⟨plain.1.1.2, plain.2⟩

/-! ## Scans -/

/--
The session returns the keys that match the pattern, and each of them.  What
a loop deletes on the way is no exception: it deletes returned keys.
-/
def FullScan
    (redis : RedisWorker) (pattern : ByteString)
    (session : ScanSession) : Prop :=
  ∀ key,
    key ∈ session.keys ↔
      (redis.store[key]?).isSome = true ∧ stringMatch pattern key = true

/-- A scan that finds room for all keys on one page. -/
def onePage (redis : RedisWorker) (pattern : ByteString) :
    ScanSession where
  pages := []
  lastKeys := redis.store.keys.filter (stringMatch pattern)
  nextCursor_ne := nofun

theorem onePage_fullScan (redis : RedisWorker) (pattern : ByteString) :
    redis.FullScan pattern (redis.onePage pattern) := by
  intro key
  simp only [onePage, ScanSession.keys, List.flatMap_nil, List.nil_append,
    List.mem_filter, Std.ExtTreeMap.mem_keys,
    Std.ExtTreeMap.mem_iff_isSome_getElem?]

theorem onePage_small (redis : RedisWorker) (pattern : ByteString) :
    SmallCursors (redis.onePage pattern) :=
  nofun

/-- The replies to a `SCAN` with a `COUNT`. -/
def countedReplies (scanCount : Int32) (session : ScanSession) :
    List (Option ScanReply) :=
  if scanCount < 1 then [none] else session.replies

section Scans

variable {redis : RedisWorker} {table : ByteString}
variable {session : ScanSession}

/-- The keys a scan returns are seen as they are. -/
theorem mem_map_cString_iff
    {pattern : ByteString} (plain : redis.Plain)
    (full : redis.FullScan pattern session) {entry : ByteString} :
    entry ∈ session.keys.map cString ↔ entry ∈ session.keys := by
  have same : ∀ key ∈ session.keys, cString key = key := by
    intro key member
    rcases Option.isSome_iff_exists.mp ((full key).mp member).1 with
      ⟨value, stored⟩
    exact cString_of_zero_not_mem (plain key value stored).1
  rw [List.map_congr_left same, List.map_id']

/-- What `ScanMultipleResult` returns. -/
theorem scanned_getElem?
    (plain : redis.Plain)
    (full : redis.FullScan (scanPattern table) session)
    (small : SmallCursors session)
    {entry value : ByteString} :
    (redis.runScanMultipleResult table session.replies).state[entry]? =
        some value ↔
      redis.store[entry]? = some value ∧
        stringMatch (scanPattern table) entry = true := by
  rw [(runScanMultipleResult_visits small).2.2, foldl_collectKey_getElem?]
  simp only [mem_map_cString_iff plain full, full entry]
  cases stored : redis.store[entry]? with
  | none => simp
  | some found =>
      have whole : cString found = found :=
        cString_of_zero_not_mem (plain entry found stored).2
      by_cases matched : stringMatch (scanPattern table) entry = true
      · simp [matched, whole]
      · simp [matched]

theorem foldl_deleteKey_getElem?
    (elements : List ByteString) (redis : RedisWorker)
    (entry : ByteString) :
    (elements.foldl deleteKey redis).store[entry]? =
      if entry ∈ elements.map cString then
        none
      else
        redis.store[entry]? := by
  induction elements generalizing redis with
  | nil => rfl
  | cons element elements induction =>
      rw [List.foldl_cons, induction, deleteKey,
        Std.ExtTreeMap.getElem?_erase, List.map_cons]
      simp only [Std.LawfulEqCmp.compare_eq_iff_eq, List.mem_cons]
      by_cases later : entry ∈ elements.map cString
      · rw [if_pos later, if_pos (Or.inr later)]
      · rw [if_neg later]
        by_cases here : cString element = entry
        · rw [if_pos here, if_pos (Or.inl here.symm)]
        · rw [if_neg here, if_neg]
          rintro (same | member)
          · exact here same.symm
          · exact later member

/-- What `DeleteTable` leaves. -/
theorem deleted_getElem?
    {scanCount : Int32}
    (plain : redis.Plain)
    (full : redis.FullScan (deletePattern table) session)
    {entry value : ByteString} :
    (redis.runDeleteTable table scanCount
          (countedReplies scanCount session)).state.store[entry]? =
        some value ↔
      redis.store[entry]? = some value ∧
        ¬ (1 ≤ scanCount ∧
          stringMatch (deletePattern table) entry = true) := by
  rw [countedReplies]
  by_cases refused : scanCount < 1
  · have small : ¬ 1 ≤ scanCount := Int32.not_le.mpr refused
    rw [if_pos refused]
    simp only [small, false_and, not_false_iff, and_true]
    rfl
  · have counted : 1 ≤ scanCount := Int32.not_lt.mp refused
    rw [if_neg refused, runDeleteTable_visits.2,
      foldl_deleteKey_getElem?]
    simp only [mem_map_cString_iff plain full, full entry, counted,
      true_and]
    cases stored : redis.store[entry]? with
    | none => simp
    | some found =>
        by_cases matched : stringMatch (deletePattern table) entry = true
        · simp [matched]
        · simp [matched]

end Scans

end RedisWorker

end IocpServer.Database
