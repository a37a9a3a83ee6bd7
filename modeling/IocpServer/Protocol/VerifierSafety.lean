import IocpServer.Protocol.Verifier

/-!
# What the verifier is good for

The verifier reads nothing outside its buffer, whatever the bytes are.  Behind
a `Verify` that returns true the accessors of the table read nothing outside
either: all that is left to go wrong is a string that was left out.
-/

namespace IocpServer.Protocol

open IocpServer.Library
open IocpServer.Library.Accessed

namespace Verifier

variable {verifier : Verifier} {memory : Memory}

/-- A verified range ends within the buffer. -/
theorem le_of_verify {elem elemLen : Nat}
    (verified : verifier.verify elem elemLen = true) :
    elem + elemLen ≤ verifier.size := by
  simp only [verify, Bool.and_eq_true, decide_eq_true_eq] at verified
  omega

theorem le_of_verifyScalar {elem size : Nat}
    (verified : ¬ verifier.verifyScalar elem size = false) :
    elem + size ≤ verifier.size := by
  rw [Bool.not_eq_false, verifyScalar, Bool.and_eq_true] at verified
  exact le_of_verify verified.2

/-- A number at a verified place is read within the buffer. -/
theorem inside_readWord {place size : Nat}
    (room : place + size ≤ verifier.size) :
    (memory.readWord place size).Inside verifier.size := by
  rw [Memory.inside_readWord]
  omega

theorem inside_verifyOffsetAt (start : Nat) :
    (verifier.verifyOffsetAt memory start).Inside verifier.size := by
  rw [verifyOffsetAt]
  split_ifs with outside
  · exact inside_pure _
  · rw [inside_bind]
    refine ⟨inside_readWord (le_of_verifyScalar outside), ?_⟩
    split_ifs <;> exact inside_pure _

/-- An offset that is not zero was read, and leads into the buffer. -/
theorem value_verifyOffsetAt {start : Nat}
    (found : (verifier.verifyOffsetAt memory start).value ≠ 0) :
    start + 4 ≤ verifier.size ∧
      (verifier.verifyOffsetAt memory start).value =
        (memory.readWord start 4).value.toNat ∧
      start + (memory.readWord start 4).value.toNat + 1 ≤ verifier.size := by
  rw [verifyOffsetAt] at found ⊢
  split_ifs at found ⊢ with outside
  · exact absurd rfl found
  · rw [value_bind] at found ⊢
    split_ifs at found ⊢ with zero negative beyond
    · exact absurd rfl found
    · exact absurd rfl found
    · exact absurd rfl found
    · rw [Bool.not_eq_false] at beyond
      exact ⟨le_of_verifyScalar outside, rfl, le_of_verify beyond⟩

theorem inside_verifyVectorOrString (vec elemSize : Nat) :
    (verifier.verifyVectorOrString memory vec elemSize).Inside
      verifier.size := by
  rw [verifyVectorOrString]
  split_ifs with outside
  · exact inside_pure _
  · rw [inside_bind]
    refine ⟨inside_readWord (le_of_verifyScalar outside), ?_⟩
    dsimp only
    split_ifs <;> exact inside_pure _

/-- Elements that fit end within the buffer. -/
theorem value_verifyVectorOrString {vec elemSize elementsEnd : Nat}
    (found :
      (verifier.verifyVectorOrString memory vec elemSize).value =
        some elementsEnd) :
    elementsEnd =
        vec + (4 + elemSize * (memory.readWord vec 4).value.toNat) ∧
      elementsEnd ≤ verifier.size := by
  rw [verifyVectorOrString] at found
  by_cases outside : verifier.verifyScalar vec 4 = false
  · rw [if_pos outside] at found
    cases found
  · rw [if_neg outside, value_bind] at found
    dsimp only at found
    split_ifs at found with bounded fits
    · have same := Option.some.inj found
      rw [← same]
      exact ⟨rfl, le_of_verify fits⟩

theorem inside_verifyString (str : Option Nat) :
    (verifier.verifyString memory str).Inside verifier.size := by
  cases str with
  | none => exact inside_pure _
  | some str =>
      rw [verifyString, inside_bind]
      refine ⟨inside_verifyVectorOrString str 1, ?_⟩
      cases found :
          (verifier.verifyVectorOrString memory str 1).value with
      | none => exact inside_pure _
      | some stringEnd =>
          dsimp only
          split_ifs with outside
          · exact inside_pure _
          · rw [inside_bind]
            rw [Bool.not_eq_false] at outside
            exact
              ⟨inside_readWord (le_of_verify outside), inside_pure _⟩

/-- A verified string is within the buffer. -/
theorem value_verifyString {str : Nat}
    (verified : (verifier.verifyString memory (some str)).value = true) :
    str + 4 + (memory.readWord str 4).value.toNat ≤ verifier.size := by
  rw [verifyString, value_bind] at verified
  cases found : (verifier.verifyVectorOrString memory str 1).value with
  | none =>
      rw [found] at verified
      cases verified
  | some stringEnd =>
      have fits := value_verifyVectorOrString found
      omega

end Verifier

/-! ## The start of a table -/

/-- The vtable of a table is within the buffer. -/
structure StartedTable (memory : Memory) (size table : Nat) : Prop where
  distance : table + 4 ≤ size
  vtable :
    ∃ vtable : Nat,
      (FlatBufferAccess.getVTable memory table).value = vtable ∧
        vtable + 2 ≤ size ∧
          2 ∣ (memory.readWord vtable 2).value.toNat ∧
            vtable + (memory.readWord vtable 2).value.toNat ≤ size

namespace Verifier

variable {verifier : Verifier} {memory : Memory} {table : Nat}

theorem verifyComplexity_size :
    verifier.verifyComplexity.2.size = verifier.size :=
  rfl

theorem inside_verifyTableStart :
    (verifier.verifyTableStart memory table).Inside verifier.size := by
  rw [verifyTableStart]
  split_ifs with outside
  · exact inside_pure _
  · rw [inside_bind]
    refine ⟨inside_readWord (le_of_verifyScalar outside), ?_⟩
    dsimp only
    split_ifs with complex noHead
    · exact inside_pure _
    · exact inside_pure _
    · have head := le_of_verifyScalar noHead
      rw [verifyComplexity_size] at head
      rw [inside_bind]
      refine ⟨inside_readWord head, ?_⟩
      split_ifs
      · exact inside_pure _
      · rw [inside_bind]
        exact ⟨inside_readWord head, inside_pure _⟩

/-- A table whose start is verified has its vtable within the buffer. -/
theorem value_verifyTableStart
    (small : verifier.size < 2 ^ 63)
    (verified :
      (verifier.verifyTableStart memory table).value.1 = true) :
    StartedTable memory verifier.size table ∧
      (verifier.verifyTableStart memory table).value.2.size =
        verifier.size := by
  rw [verifyTableStart] at verified ⊢
  by_cases outside : verifier.verifyScalar table 4 = false
  · rw [if_pos outside] at verified
    cases verified
  · rw [if_neg outside, value_bind] at verified ⊢
    dsimp only at verified ⊢
    split_ifs at verified ⊢ with complex noHead
    rw [value_bind] at verified ⊢
    split_ifs at verified ⊢ with odd
    rw [value_bind] at verified ⊢
    have checked := verified
    change (decide _ && _) = true at checked
    rw [Bool.and_eq_true, decide_eq_true_eq] at checked
    have distance := le_of_verifyScalar outside
    have head := le_of_verifyScalar noHead
    have fits := le_of_verify checked.2
    rw [verifyComplexity_size] at head fits
    have atVtable :
        (FlatBufferAccess.getVTable memory table).value =
          (((table : Int) -
              (memory.readWord table 4).value.toInt32.toInt) %
            2 ^ 64).toNat := by
      have low := (memory.readWord table 4).value.toInt32.le_toInt
      have high := (memory.readWord table 4).value.toInt32.toInt_lt
      rw [FlatBufferAccess.getVTable, value_bind]
      change (table : Int) - _ = _
      omega
    exact
      ⟨⟨distance, _, atVtable, head, Nat.dvd_of_mod_eq_zero checked.1, fits⟩,
        rfl⟩

end Verifier

/-! ## The fields of a table -/

section Fields

variable {verifier : Verifier} {memory : Memory} {size table : Nat}

/-- The entry of a field is looked up within the buffer. -/
theorem StartedTable.inside_entry
    (started : StartedTable memory size table) {field : Nat}
    (even : 2 ∣ field) :
    (FlatBufferAccess.getOptionalFieldOffset memory table field).Inside
      size := by
  rcases started.vtable with ⟨vtable, atVtable, head, evenSize, fits⟩
  have distance := started.distance
  rw [FlatBufferAccess.getOptionalFieldOffset, inside_bind]
  constructor
  · rw [FlatBufferAccess.getVTable, inside_bind, Memory.inside_readWord]
    exact ⟨by omega, inside_pure _⟩
  · rw [atVtable, inside_bind, Memory.inside_readWord]
    refine ⟨by omega, ?_⟩
    split_ifs with listed
    · rw [inside_bind, Memory.inside_readWord]
      exact ⟨by omega, inside_pure _⟩
    · exact inside_pure _

theorem StartedTable.inside_verifyField
    (started : StartedTable memory verifier.size table) {field : Nat}
    (even : 2 ∣ field) (size align : Nat) :
    (verifyField verifier memory table field size align).Inside
      verifier.size := by
  rw [verifyField, inside_bind]
  refine ⟨started.inside_entry even, ?_⟩
  split_ifs <;> exact inside_pure _

theorem StartedTable.inside_verifyOffset
    (started : StartedTable memory verifier.size table) {field : Nat}
    (even : 2 ∣ field) :
    (verifyOffset verifier memory table field).Inside verifier.size := by
  rw [verifyOffset, inside_bind]
  refine ⟨started.inside_entry even, ?_⟩
  split_ifs
  · exact inside_pure _
  · rw [inside_bind]
    exact ⟨Verifier.inside_verifyOffsetAt _, inside_pure _⟩

/-- An offset that passed is read within the buffer once more. -/
theorem StartedTable.inside_getPointer
    (started : StartedTable memory verifier.size table) {field : Nat}
    (even : 2 ∣ field)
    (passed : (verifyOffset verifier memory table field).value = true) :
    (getPointer memory table field).Inside verifier.size := by
  rw [getPointer, inside_bind]
  refine ⟨started.inside_entry even, ?_⟩
  rw [verifyOffset, value_bind] at passed
  split_ifs at passed ⊢ with missing
  · exact inside_pure _
  · rw [value_bind] at passed
    have found := of_decide_eq_true passed
    rw [inside_bind]
    exact
      ⟨Verifier.inside_readWord (Verifier.value_verifyOffsetAt found).1,
        inside_pure _⟩

theorem StartedTable.inside_check
    (started : StartedTable memory verifier.size table)
    {check : FieldCheck} (even : 2 ∣ check.field) :
    (check.verify verifier memory table).Inside verifier.size := by
  cases check with
  | scalar field size => exact started.inside_verifyField even size size
  | string field =>
      rw [FieldCheck.verify, inside_bind]
      refine ⟨started.inside_verifyOffset even, ?_⟩
      split_ifs with unreachable
      · exact inside_pure _
      · rw [Bool.not_eq_false] at unreachable
        rw [inside_bind]
        exact
          ⟨started.inside_getPointer even unreachable,
            Verifier.inside_verifyString _⟩

theorem StartedTable.inside_verifyFields
    (started : StartedTable memory verifier.size table)
    {checks : List FieldCheck} (even : ∀ check ∈ checks, 2 ∣ check.field) :
    (verifyFields verifier memory table checks).Inside verifier.size := by
  induction checks with
  | nil => exact inside_pure _
  | cons check checks induction =>
      rw [verifyFields, inside_bind]
      refine ⟨started.inside_check (even check List.mem_cons_self), ?_⟩
      split_ifs
      · exact inside_pure _
      · exact
          induction fun later member =>
            even later (List.mem_cons_of_mem _ member)

/-- Every check of a table that passed has passed. -/
theorem value_verifyFields
    {checks : List FieldCheck}
    (passed : (verifyFields verifier memory table checks).value = true)
    {check : FieldCheck} (member : check ∈ checks) :
    (check.verify verifier memory table).value = true := by
  induction checks with
  | nil => cases member
  | cons first checks induction =>
      rw [verifyFields, value_bind] at passed
      split_ifs at passed with failed
      rw [Bool.not_eq_false] at failed
      rcases List.mem_cons.mp member with rfl | later
      · exact failed
      · exact induction passed later

/-- A field that passed is read within the buffer. -/
theorem StartedTable.inside_getField
    (started : StartedTable memory verifier.size table)
    {field size align : Nat} (even : 2 ∣ field)
    (passed :
      (verifyField verifier memory table field size align).value = true) :
    (FlatBufferAccess.getField memory table field size).Inside
      verifier.size := by
  rw [FlatBufferAccess.getField, inside_bind]
  refine ⟨started.inside_entry even, ?_⟩
  rw [verifyField, value_bind] at passed
  split_ifs at passed ⊢ with missing
  · exact inside_pure _
  · have checked := passed
    change (_ && _) = true at checked
    rw [Bool.and_eq_true] at checked
    have fits := Verifier.le_of_verify checked.2
    rw [Memory.inside_readWord]
    omega

/-- A string that passed is left out, or read within the buffer. -/
theorem StartedTable.inside_getString
    (started : StartedTable memory verifier.size table)
    {field : Nat} (even : 2 ∣ field)
    (passed :
      ((FieldCheck.string field).verify verifier memory table).value = true)
    (present :
      (FlatBufferAccess.getOptionalFieldOffset memory table field).value ≠
        0) :
    (FlatBufferAccess.getString memory table field).Inside
      verifier.size := by
  rw [FieldCheck.verify, value_bind] at passed
  split_ifs at passed with unreachable
  rw [Bool.not_eq_false, verifyOffset, value_bind, if_neg present,
    value_bind] at unreachable
  have offset :=
    Verifier.value_verifyOffsetAt (of_decide_eq_true unreachable)
  rw [value_bind, getPointer, value_bind, if_neg present,
    value_bind] at passed
  have text := Verifier.value_verifyString passed
  rw [FlatBufferAccess.getString, inside_bind]
  refine ⟨started.inside_entry even, ?_⟩
  rw [if_neg present]
  have place (offset : Nat) :
      (table : Int) + offset = (table + offset : Nat) :=
    (Nat.cast_add table offset).symm
  dsimp only
  rw [place, inside_bind]
  refine ⟨Verifier.inside_readWord offset.1, ?_⟩
  have start (first second : Nat) :
      (first : Int) + second = (first + second : Nat) :=
    (Nat.cast_add first second).symm
  rw [start, inside_bind]
  refine ⟨Verifier.inside_readWord (by omega), ?_⟩
  rw [Memory.inside_readBytes]
  omega

end Fields

/-! ## A whole buffer -/

section Buffer

variable {memory : Memory} {size : Nat} {options : VerifierOptions}
variable {checks : List FieldCheck}

/-- The verifier of a buffer reads nothing outside it. -/
theorem inside_verifyBuffer
    (small : size < 2 ^ 63) (even : ∀ check ∈ checks, 2 ∣ check.field) :
    (verifyBuffer checks (.construct size options) memory).Inside size := by
  rw [verifyBuffer]
  split_ifs
  · exact inside_pure _
  · rw [inside_bind]
    refine ⟨Verifier.inside_verifyOffsetAt 0, ?_⟩
    split_ifs
    · exact inside_pure _
    · generalize
        (Verifier.verifyOffsetAt (.construct size options) memory 0).value =
          table
      rw [inside_bind, verifyTable, inside_bind]
      refine ⟨⟨Verifier.inside_verifyTableStart, ?_⟩, inside_pure _⟩
      split_ifs with failed
      · exact inside_pure _
      · rw [Bool.not_eq_false] at failed
        rcases Verifier.value_verifyTableStart small failed with
          ⟨started, sameSize⟩
        rw [inside_bind]
        constructor
        · rw [← sameSize] at started
          have fields := started.inside_verifyFields even
          rw [sameSize] at fields
          exact fields
        · split_ifs <;> exact inside_pure _

/-- Where the root table of a buffer starts. -/
def rootTable (memory : Memory) : Nat :=
  (memory.readWord 0 4).value.toNat

/-- What a verified buffer has passed. -/
theorem value_verifyBuffer
    (small : size < 2 ^ 63)
    (verified :
      (verifyBuffer checks (.construct size options) memory).value = true) :
    4 ≤ size ∧
      ∃ verifier : Verifier,
        verifier.size = size ∧
          StartedTable memory size (rootTable memory) ∧
            ∀ check ∈ checks,
              (check.verify verifier memory (rootTable memory)).value =
                true := by
  rw [verifyBuffer] at verified
  split_ifs at verified
  rw [value_bind] at verified
  split_ifs at verified with null
  have root := Verifier.value_verifyOffsetAt null
  have atRoot :
      (Verifier.verifyOffsetAt (.construct size options) memory 0).value =
        rootTable memory :=
    root.2.1
  rw [atRoot, value_bind, value_pure, verifyTable, value_bind] at verified
  split_ifs at verified with failed
  · rw [value_pure, failed] at verified
    cases verified
  rw [Bool.not_eq_false] at failed
  rcases Verifier.value_verifyTableStart small failed with
    ⟨started, sameSize⟩
  rw [value_bind] at verified
  split_ifs at verified with wrong
  rw [Bool.not_eq_false] at wrong
  have four : 0 + 4 ≤ size := root.1
  exact
    ⟨by omega, _, sameSize, started,
      fun check member => value_verifyFields wrong member⟩

end Buffer

end IocpServer.Protocol
