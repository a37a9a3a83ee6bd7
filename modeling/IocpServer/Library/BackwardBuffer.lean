import IocpServer.Library.ByteStrings
import Mathlib.Tactic.Common

/-!
# Buffers filled from their end

A writer that puts every new byte in front of those already written addresses
what it has written by the distance from the end of the buffer, which later
writes do not change.  `StoredAt` says what is found at such a distance;
`overwrite` replaces bytes that are there.
-/

namespace IocpServer.Library

/-- `bytes` start at a distance from the end of the buffer. -/
def StoredAt (buffer : ByteString) (offset : Nat) (bytes : ByteString) :
    Prop :=
  ∃ front back,
    buffer = front ++ (bytes ++ back) ∧ offset = bytes.length + back.length

namespace StoredAt

variable {buffer bytes : ByteString} {offset : Nat}

theorem front (bytes rest : ByteString) :
    StoredAt (bytes ++ rest) (bytes.length + rest.length) bytes :=
  ⟨[], rest, rfl, rfl⟩

/-- What is written in front keeps every distance from the end. -/
theorem push (stored : StoredAt buffer offset bytes) (more : ByteString) :
    StoredAt (more ++ buffer) offset bytes := by
  rcases stored with ⟨front, back, rfl, rfl⟩
  exact ⟨more ++ front, back, by rw [List.append_assoc], rfl⟩

theorem le_length (stored : StoredAt buffer offset bytes) :
    offset ≤ buffer.length := by
  rcases stored with ⟨front, back, rfl, rfl⟩
  simp

theorem length_le (stored : StoredAt buffer offset bytes) :
    bytes.length ≤ offset := by
  rcases stored with ⟨front, back, rfl, rfl⟩
  exact Nat.le_add_right _ _

/-- What is written behind adds to every distance. -/
theorem append (stored : StoredAt buffer offset bytes) (rest : ByteString) :
    StoredAt (buffer ++ rest) (offset + rest.length) bytes := by
  rcases stored with ⟨front, back, rfl, rfl⟩
  refine ⟨front, back ++ rest, by simp only [List.append_assoc], ?_⟩
  rw [List.length_append]
  omega

/-- Bytes found one by one at a position of the buffer. -/
theorem of_getElem? {position : Nat}
    (inside : position + bytes.length ≤ buffer.length)
    (found :
      ∀ index < bytes.length, buffer[position + index]? = bytes[index]?) :
    StoredAt buffer (buffer.length - position) bytes := by
  have middle : (buffer.drop position).take bytes.length = bytes := by
    apply List.ext_getElem?
    intro index
    by_cases within : index < bytes.length
    · rw [List.getElem?_take_of_lt within, List.getElem?_drop]
      exact found index within
    · rw [List.getElem?_eq_none (Nat.not_lt.mp within),
        List.getElem?_eq_none]
      rw [List.length_take]
      omega
  refine
    ⟨buffer.take position, buffer.drop (position + bytes.length), ?_, ?_⟩
  · rw [← List.drop_drop]
    calc
      buffer = buffer.take position ++ buffer.drop position :=
        (List.take_append_drop position buffer).symm
      _ =
          buffer.take position ++
            ((buffer.drop position).take bytes.length ++
              (buffer.drop position).drop bytes.length) :=
        congrArg (buffer.take position ++ ·)
          (List.take_append_drop bytes.length _).symm
      _ = _ := by
        rw [middle]
  · rw [List.length_drop]
    omega

/-- The bytes found at the distance. -/
theorem take_drop (stored : StoredAt buffer offset bytes) :
    (buffer.drop (buffer.length - offset)).take bytes.length = bytes := by
  rcases stored with ⟨front, back, rfl, rfl⟩
  rw [show (front ++ (bytes ++ back)).length - (bytes.length + back.length) =
      front.length by simp, List.drop_left, List.take_left]

/-- The first bytes of what is stored. -/
theorem left {more : ByteString}
    (stored : StoredAt buffer offset (bytes ++ more)) :
    StoredAt buffer offset bytes := by
  rcases stored with ⟨front, back, rfl, rfl⟩
  refine ⟨front, more ++ back, by rw [List.append_assoc], ?_⟩
  simp only [List.length_append]
  omega

/-- The bytes behind the first ones. -/
theorem right {more : ByteString}
    (stored : StoredAt buffer offset (bytes ++ more)) :
    StoredAt buffer (offset - bytes.length) more := by
  rcases stored with ⟨front, back, rfl, rfl⟩
  refine ⟨front ++ bytes, back, by simp only [List.append_assoc], ?_⟩
  simp only [List.length_append]
  omega

end StoredAt

/-- Replace the bytes at a position. -/
def overwrite (buffer : ByteString) (position : Nat) (bytes : ByteString) :
    ByteString :=
  buffer.take position ++ bytes ++ buffer.drop (position + bytes.length)

theorem overwrite_length
    {buffer bytes : ByteString} {position : Nat}
    (inside : position + bytes.length ≤ buffer.length) :
    (overwrite buffer position bytes).length = buffer.length := by
  simp only [overwrite, List.length_append, List.length_take,
    List.length_drop]
  omega

/-- A replaced byte is the new one, any other the old one. -/
theorem overwrite_getElem?
    {buffer bytes : ByteString} {position : Nat}
    (inside : position + bytes.length ≤ buffer.length) (index : Nat) :
    (overwrite buffer position bytes)[index]? =
      if position ≤ index ∧ index < position + bytes.length then
        bytes[index - position]?
      else
        buffer[index]? := by
  have front : (buffer.take position).length = position := by
    rw [List.length_take]
    omega
  rw [overwrite, List.append_assoc]
  by_cases before : index < position
  · rw [if_neg (by omega), List.getElem?_append_left (by omega),
      List.getElem?_take_of_lt before]
  · rw [List.getElem?_append_right (by omega), front]
    by_cases within : index < position + bytes.length
    · rw [if_pos (by omega), List.getElem?_append_left (by omega)]
    · rw [if_neg (by omega), List.getElem?_append_right (by omega),
        List.getElem?_drop]
      congr 1
      omega

/-- Bytes replaced in front of others leave these alone. -/
theorem overwrite_append
    {buffer bytes : ByteString} {position : Nat}
    (inside : position + bytes.length ≤ buffer.length)
    (rest : ByteString) :
    overwrite (buffer ++ rest) position bytes =
      overwrite buffer position bytes ++ rest := by
  simp only [overwrite]
  rw [List.take_append_of_le_length (by omega),
    List.drop_append_of_le_length inside]
  simp only [List.append_assoc]

/-- Replacing the bytes between a front and a rest. -/
theorem overwrite_between
    {old new : ByteString} (same : old.length = new.length)
    (front rest : ByteString) :
    overwrite (front ++ (old ++ rest)) front.length new =
      front ++ (new ++ rest) := by
  rw [overwrite, List.take_left, ← same, ← List.drop_drop, List.drop_left,
    List.drop_left, List.append_assoc]

/-- Replace bytes at several positions, one after the other. -/
def overwriteAll (buffer : ByteString) :
    List (Nat × ByteString) → ByteString
  | [] => buffer
  | (position, bytes) :: rest =>
      overwriteAll (overwrite buffer position bytes) rest

/-- Two places that share no byte. -/
def PlacesApart (first second : Nat × ByteString) : Prop :=
  first.1 + first.2.length ≤ second.1 ∨
    second.1 + second.2.length ≤ first.1

/-- The places are in the buffer. -/
def PlacesInside (places : List (Nat × ByteString)) (length : Nat) : Prop :=
  ∀ place ∈ places, place.1 + place.2.length ≤ length

theorem overwriteAll_length
    {buffer : ByteString} {places : List (Nat × ByteString)}
    (inside : PlacesInside places buffer.length) :
    (overwriteAll buffer places).length = buffer.length := by
  induction places generalizing buffer with
  | nil => rfl
  | cons place places induction =>
      have here := overwrite_length (inside place List.mem_cons_self)
      rw [overwriteAll, induction, here]
      intro later member
      rw [here]
      exact inside later (List.mem_cons_of_mem _ member)

theorem overwriteAll_append
    {buffer : ByteString} {places : List (Nat × ByteString)}
    (inside : PlacesInside places buffer.length) (rest : ByteString) :
    overwriteAll (buffer ++ rest) places =
      overwriteAll buffer places ++ rest := by
  induction places generalizing buffer with
  | nil => rfl
  | cons place places induction =>
      have placed := inside place List.mem_cons_self
      rw [overwriteAll, overwrite_append placed, induction, overwriteAll]
      intro later member
      rw [overwrite_length placed]
      exact inside later (List.mem_cons_of_mem _ member)

/-- A byte at none of the places stays. -/
theorem overwriteAll_getElem?_of_outside
    {buffer : ByteString} {places : List (Nat × ByteString)}
    (inside : PlacesInside places buffer.length) {index : Nat}
    (outside :
      ∀ place ∈ places,
        ¬ (place.1 ≤ index ∧ index < place.1 + place.2.length)) :
    (overwriteAll buffer places)[index]? = buffer[index]? := by
  induction places generalizing buffer with
  | nil => rfl
  | cons place places induction =>
      have placed := inside place List.mem_cons_self
      rw [overwriteAll, induction, overwrite_getElem? placed,
        if_neg (outside place List.mem_cons_self)]
      · intro later member
        rw [overwrite_length placed]
        exact inside later (List.mem_cons_of_mem _ member)
      · intro later member
        exact outside later (List.mem_cons_of_mem _ member)

/-- At each of several disjoint places the bytes written there are found. -/
theorem overwriteAll_getElem?_of_mem
    {buffer : ByteString} {places : List (Nat × ByteString)}
    (inside : PlacesInside places buffer.length)
    (apart : places.Pairwise PlacesApart)
    {place : Nat × ByteString} (member : place ∈ places)
    {index : Nat} (within : index < place.2.length) :
    (overwriteAll buffer places)[place.1 + index]? = place.2[index]? := by
  induction places generalizing buffer with
  | nil => cases member
  | cons first places induction =>
      rw [List.pairwise_cons] at apart
      have placed := inside first List.mem_cons_self
      have insideRest :
          PlacesInside places
            (overwrite buffer first.1 first.2).length := by
        intro later present
        rw [overwrite_length placed]
        exact inside later (List.mem_cons_of_mem _ present)
      rw [overwriteAll]
      rcases List.mem_cons.mp member with rfl | later
      · rw [overwriteAll_getElem?_of_outside insideRest,
          overwrite_getElem? placed, if_pos (by omega)]
        · congr 1
          omega
        · intro other present
          have disjoint := apart.1 other present
          simp only [PlacesApart] at disjoint
          omega
      · exact induction insideRest apart.2 later

end IocpServer.Library
