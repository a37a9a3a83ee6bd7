import IocpServer.Database.RedisWorker

/-!
# The pages of a scan

Redis answers a scan in pages of keys, in any order and some keys more than
once; the client asks for the value of each and puts both into a map.  The
map depends on the keys alone, and for the keys of a table it is the table.
-/

namespace IocpServer.Database

open IocpServer.Library

namespace RedisWorker

/-- The body of the loop over a page; a reply is read as a C string. -/
def collectKey
    (redis : RedisWorker) (result : Std.ExtTreeMap ByteString ByteString)
    (element : ByteString) : Std.ExtTreeMap ByteString ByteString :=
  let key := cString element
  match redis.store[key]? with
  | none => result
  | some replyData => result.insert key (cString replyData)

/-- The loop over the pages of a scan. -/
def collectPages
    (redis : RedisWorker) (pages : List (List ByteString)) :
    Std.ExtTreeMap ByteString ByteString :=
  pages.foldl
    (fun result keyList => keyList.foldl redis.collectKey result) ∅

/-- The scan returns the keys of the table, and each of them. -/
def Scans
    (redis : RedisWorker) (tableName : ByteString)
    (pages : List (List ByteString)) : Prop :=
  ∀ key : ByteString,
    key ∈ pages.flatten ↔
      (redis.store[key]?).isSome = true ∧
        cacheKey (cString tableName) [] <+: key

/-- No key and no value holds a zero byte. -/
def Plain (redis : RedisWorker) : Prop :=
  ∀ key value : ByteString,
    redis.store[key]? = some value → 0 ∉ key ∧ 0 ∉ value

section Collect

variable {redis : RedisWorker} {pages : List (List ByteString)}

theorem collectKey_getElem?
    (result : Std.ExtTreeMap ByteString ByteString)
    (element key : ByteString) :
    (redis.collectKey result element)[key]? =
      if cString element = key then
        (redis.store[key]?.map cString).or result[key]?
      else
        result[key]? := by
  unfold collectKey
  dsimp only
  by_cases same : cString element = key
  · rw [if_pos same, same]
    split
    · next absent =>
        rw [absent]
        rfl
    · next replyData present =>
        rw [present, Std.ExtTreeMap.getElem?_insert_self]
        rfl
  · rw [if_neg same]
    split
    · rfl
    · rw [Std.ExtTreeMap.getElem?_insert, if_neg]
      intro equal
      exact same (Std.LawfulEqCmp.compare_eq_iff_eq.mp equal)

/-- What a page adds to the map. -/
theorem foldl_collectKey_getElem?
    (elements : List ByteString)
    (result : Std.ExtTreeMap ByteString ByteString) (key : ByteString) :
    (elements.foldl redis.collectKey result)[key]? =
      if key ∈ elements.map cString then
        (redis.store[key]?.map cString).or result[key]?
      else
        result[key]? := by
  induction elements generalizing result with
  | nil => rfl
  | cons element elements recursive =>
      rw [List.foldl_cons, recursive, collectKey_getElem?]
      by_cases here : cString element = key
      · have found : key ∈ (element :: elements).map cString := by
          rw [List.map_cons, here]
          exact List.mem_cons_self
        rw [if_pos here, if_pos found]
        split_ifs
        · cases redis.store[key]? <;> rfl
        · rfl
      · have elsewhere :
            key ∈ (element :: elements).map cString ↔
              key ∈ elements.map cString := by
          rw [List.map_cons, List.mem_cons]
          exact or_iff_right fun same => here same.symm
        rw [if_neg here]
        simp only [elsewhere]

/-- The map has the values of the keys that were returned. -/
theorem collectPages_getElem? (key : ByteString) :
    (redis.collectPages pages)[key]? =
      if key ∈ pages.flatten.map cString then
        redis.store[key]?.map cString
      else
        none := by
  rw [collectPages, ← List.foldl_flatten, foldl_collectKey_getElem?]
  simp

/-- Order and repetition of the keys do not change the map. -/
theorem collectPages_congr {otherPages : List (List ByteString)}
    (sameKeys : ∀ key, key ∈ otherPages.flatten ↔ key ∈ pages.flatten) :
    redis.collectPages otherPages = redis.collectPages pages := by
  apply Std.ExtTreeMap.ext_getElem?
  intro key
  rw [collectPages_getElem?, collectPages_getElem?]
  simp only [List.mem_map, sameKeys]

end Collect

end RedisWorker

end IocpServer.Database
