import IocpServer.Library.ByteStrings
import Mathlib.Data.List.Sort

/-!
# The Redis client

Redis is a map from keys to values, listed in key order because
`ScanMultipleResult` collects into a `std::map`.  No entry expires.  The
client passes its strings through `c_str()`, so that what is stored holds no
zero byte.
-/

namespace IocpServer.Database

open IocpServer.Library

/-- The connection, as the map behind it. -/
structure RedisWorker where
  store : Std.ExtTreeMap ByteString ByteString

namespace RedisWorker

/-- `"table:" + table + ":" + key`. -/
def cacheKey (table key : ByteString) : ByteString :=
  literal "table:" ++ table ++ literal ":" ++ key

/-- A database without entries. -/
def empty : RedisWorker where
  store := ∅

/-- `UpdateData`; the command has the C strings of its arguments. -/
def updateData
    (redis : RedisWorker) (table key jsonString : ByteString) :
    RedisWorker where
  store :=
    redis.store.insert (cString (cacheKey table key)) (cString jsonString)

/-- `ScanMultipleResult`, for a name without glob metacharacters. -/
def scanMultipleResult (redis : RedisWorker) (tableName : ByteString) :
    List (ByteString × ByteString) :=
  redis.store.toList.filter fun entry =>
    (cacheKey (cString tableName) []).isPrefixOf entry.1

theorem mem_scanMultipleResult
    {redis : RedisWorker} {tableName : ByteString}
    {entry : ByteString × ByteString} :
    entry ∈ redis.scanMultipleResult tableName ↔
      redis.store[entry.1]? = some entry.2 ∧
        cacheKey (cString tableName) [] <+: entry.1 := by
  unfold scanMultipleResult
  rw [List.mem_filter, List.isPrefixOf_iff_prefix,
    Std.ExtTreeMap.mem_toList_iff_getElem?_eq_some]

/-- An update is seen under its own key; every other entry stays. -/
theorem mem_scanMultipleResult_updateData
    {redis : RedisWorker} {table key jsonString tableName : ByteString}
    {entry : ByteString × ByteString} :
    entry ∈
        (redis.updateData table key jsonString).scanMultipleResult
          tableName ↔
      if entry.1 = cString (cacheKey table key) then
        entry.2 = cString jsonString ∧
          cacheKey (cString tableName) [] <+: entry.1
      else
        entry ∈ redis.scanMultipleResult tableName := by
  rw [mem_scanMultipleResult, mem_scanMultipleResult]
  unfold updateData
  rw [Std.ExtTreeMap.getElem?_insert]
  by_cases same : entry.1 = cString (cacheKey table key)
  · rw [if_pos same, if_pos (by simp [same])]
    simp only [Option.some.injEq]
    constructor
    · rintro ⟨value, matched⟩
      exact ⟨value.symm, matched⟩
    · rintro ⟨value, matched⟩
      exact ⟨value.symm, matched⟩
  · rw [if_neg same, if_neg]
    intro equal
    exact same (Std.LawfulEqCmp.compare_eq_iff_eq.mp equal).symm

/-- The key of an entry, cut at its first zero byte. -/
theorem cString_cacheKey
    {table : ByteString} (noZero : 0 ∉ table) (key : ByteString) :
    cString (cacheKey table key) = cacheKey table (cString key) := by
  unfold cacheKey
  apply cString_append_of_zero_not_mem
  intro present
  simp only [List.mem_append] at present
  rcases present with (inFront | inTable) | inColon
  · exact absurd inFront (by decide)
  · exact noZero inTable
  · exact absurd inColon (by decide)

theorem cacheKey_front (table key : ByteString) :
    cacheKey table [] <+: cacheKey table key := by
  unfold cacheKey
  simp

end RedisWorker

end IocpServer.Database
