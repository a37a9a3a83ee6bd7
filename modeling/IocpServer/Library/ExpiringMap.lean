import IocpServer.Library.ByteStrings
import Std.Data.ExtTreeMap.Lemmas
import Mathlib.Data.List.Induction

/-!
# Maps whose entries expire

An entry is there until its deadline.  What is seen of the map at a moment is
a map without deadlines: writing an entry is writing it there, and the passing
of time only takes entries away.  Behind a sequence of writes a key has the
value of its latest one, as long as that has not expired.
-/

namespace IocpServer.Library

/-- A value for each key, and the moment from which it is gone. -/
structure ExpiringMap (Key Value : Type) [Ord Key] where
  entries : Std.ExtTreeMap Key (Value × Nat)

/-- An entry that is written. -/
structure Put (Key Value : Type) where
  key : Key
  value : Value
  deadline : Nat

namespace ExpiringMap

variable {Key Value : Type} [Ord Key]

/-- The map without entries. -/
def empty : ExpiringMap Key Value where
  entries := ∅

variable [Std.TransOrd Key]

/-- Write an entry; one that is there is replaced. -/
def put (map : ExpiringMap Key Value) (entry : Put Key Value) :
    ExpiringMap Key Value where
  entries := map.entries.insert entry.key (entry.value, entry.deadline)

/-- What is there at a moment. -/
def visible (map : ExpiringMap Key Value) (now : Nat) :
    Std.ExtTreeMap Key Value :=
  map.entries.filterMap fun _ entry =>
    if now < entry.2 then some entry.1 else none

/-- The map behind a sequence of writes. -/
def after (puts : List (Put Key Value)) : ExpiringMap Key Value :=
  puts.foldl put empty

theorem after_append (puts : List (Put Key Value)) (entry : Put Key Value) :
    after (puts ++ [entry]) = (after puts).put entry :=
  List.foldl_append

variable [Std.LawfulEqOrd Key]

theorem visible_getElem? {map : ExpiringMap Key Value} {now : Nat} {key : Key}
    {value : Value} :
    (map.visible now)[key]? = some value ↔
      ∃ deadline,
        map.entries[key]? = some (value, deadline) ∧ now < deadline := by
  rw [visible, Std.ExtTreeMap.getElem?_filterMap', Option.bind_eq_some_iff]
  constructor
  · rintro ⟨⟨stored, deadline⟩, found, seen⟩
    split_ifs at seen with fresh
    cases seen
    exact ⟨deadline, found, fresh⟩
  · rintro ⟨deadline, found, fresh⟩
    exact ⟨(value, deadline), found, if_pos fresh⟩

/-- A write that has not expired is a write to what is seen. -/
theorem visible_put (map : ExpiringMap Key Value) (entry : Put Key Value)
    {now : Nat} (fresh : now < entry.deadline) :
    (map.put entry).visible now =
      (map.visible now).insert entry.key entry.value := by
  apply Std.ExtTreeMap.ext_getElem?
  intro key
  rw [visible, put, Std.ExtTreeMap.getElem?_filterMap',
    Std.ExtTreeMap.getElem?_insert, Std.ExtTreeMap.getElem?_insert]
  split_ifs
  · rw [Option.bind_some, if_pos fresh]
  · rw [visible, Std.ExtTreeMap.getElem?_filterMap']

variable [DecidableEq Key]

/-- The latest write of a key. -/
def latest (puts : List (Put Key Value)) (key : Key) :
    Option (Put Key Value) :=
  puts.reverse.find? fun entry => decide (entry.key = key)

omit [Std.TransOrd Key] [Std.LawfulEqOrd Key] [Ord Key] in
theorem latest_append (puts : List (Put Key Value)) (entry : Put Key Value)
    (key : Key) :
    latest (puts ++ [entry]) key =
      if entry.key = key then some entry else latest puts key := by
  rw [latest, List.reverse_append, List.reverse_singleton,
    List.singleton_append]
  split_ifs with same
  · exact List.find?_cons_of_pos (decide_eq_true same)
  · exact List.find?_cons_of_neg (by rw [decide_eq_true_iff]; exact same)

/-- The entries are those of the latest writes. -/
theorem after_getElem? (puts : List (Put Key Value)) (key : Key) :
    (after puts).entries[key]? =
      (latest puts key).map fun entry => (entry.value, entry.deadline) := by
  induction puts using List.reverseRecOn with
  | nil => exact Std.ExtTreeMap.getElem?_empty
  | append_singleton puts entry recursive =>
      rw [after_append, latest_append, put, Std.ExtTreeMap.getElem?_insert]
      by_cases same : entry.key = key
      · rw [if_pos (Std.LawfulEqCmp.compare_eq_iff_eq.mpr same), if_pos same]
        rfl
      · rw [if_neg, if_neg same, recursive]
        exact fun equal => same (Std.LawfulEqCmp.compare_eq_iff_eq.mp equal)

/-- What is seen behind a sequence of writes. -/
theorem visible_after {puts : List (Put Key Value)} {now : Nat} {key : Key}
    {value : Value} :
    ((after puts).visible now)[key]? = some value ↔
      ∃ entry,
        latest puts key = some entry ∧ entry.value = value ∧
          now < entry.deadline := by
  rw [visible_getElem?, after_getElem?]
  constructor
  · rintro ⟨deadline, found, fresh⟩
    rcases Option.map_eq_some_iff.mp found with ⟨entry, isLatest, same⟩
    cases same
    exact ⟨entry, isLatest, rfl, fresh⟩
  · rintro ⟨entry, isLatest, rfl, fresh⟩
    exact ⟨entry.deadline, by rw [isLatest]; rfl, fresh⟩

omit [Ord Key] [Std.TransOrd Key] [Std.LawfulEqOrd Key] in
/-- If deadlines do not decrease, the latest write of a key is the freshest. -/
theorem le_deadline_of_latest {puts : List (Put Key Value)}
    (ordered :
      puts.Pairwise fun first second => first.deadline ≤ second.deadline)
    {entry : Put Key Value} (present : entry ∈ puts) :
    ∃ last,
      latest puts entry.key = some last ∧ entry.deadline ≤ last.deadline := by
  induction puts using List.reverseRecOn with
  | nil => cases present
  | append_singleton puts last recursive =>
      rcases List.pairwise_append.mp ordered with ⟨before, -, bounded⟩
      rw [latest_append]
      split_ifs with same
      · refine ⟨last, rfl, ?_⟩
        rcases List.mem_append.mp present with earlier | isLast
        · exact bounded entry earlier last List.mem_cons_self
        · rw [List.mem_singleton.mp isLast]
      · rcases List.mem_append.mp present with earlier | isLast
        · exact recursive before earlier
        · exact absurd (congrArg Put.key (List.mem_singleton.mp isLast)).symm same

end ExpiringMap

end IocpServer.Library
