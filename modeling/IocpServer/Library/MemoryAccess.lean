import IocpServer.Library.Words

/-!
# Reads at positions from outside

A program that follows positions it has read from somewhere else may leave the
bytes it was given.  `Accessed` is a value with the reads it took to get it;
the reads are `Inside` as long as each stays within the first `length` bytes.

The rules split a sequence of reads into its steps.  In each step the values
of the steps before are those of the bytes that were given, whatever the
memory behind them holds.
-/

namespace IocpServer.Library

universe u v

/-- One read: some bytes at a position, or through the null pointer. -/
inductive Access where
  | bytes (position : Int) (size : Nat)
  | null
deriving DecidableEq, Repr

/-- The read stays within the first `length` bytes. -/
def Access.Inside (length : Nat) : Access → Prop
  | .bytes position size => 0 ≤ position ∧ position + size ≤ length
  | .null => False

/-- A value, and the reads behind it. -/
structure Accessed (Value : Type u) where
  value : Value
  accesses : List Access

instance : Monad Accessed where
  pure value := ⟨value, []⟩
  bind first next :=
    ⟨(next first.value).value, first.accesses ++ (next first.value).accesses⟩

/-- Memory around an address. -/
structure Memory where
  byte : Int → UInt8

namespace Accessed

variable {Value Next : Type u} {length : Nat}

/-- All reads stay within the first `length` bytes. -/
def Inside (length : Nat) (accessed : Accessed Value) : Prop :=
  ∀ access ∈ accessed.accesses, access.Inside length

@[simp]
theorem value_bind {first : Accessed Value} {next : Value → Accessed Next} :
    (first >>= next).value = (next first.value).value :=
  rfl

@[simp]
theorem value_pure (value : Value) : (pure value : Accessed Value).value = value :=
  rfl

@[simp]
theorem inside_pure (value : Value) :
    (pure value : Accessed Value).Inside length :=
  nofun

theorem inside_bind {first : Accessed Value} {next : Value → Accessed Next} :
    (first >>= next).Inside length ↔
      first.Inside length ∧ (next first.value).Inside length :=
  List.forall_mem_append

/-- A sequence of reads is inside if each step is, given those before. -/
theorem inside_bind_iff
    {first : Accessed Value} {next : Value → Accessed Next}
    {condition rest : Prop}
    (firstInside : first.Inside length ↔ condition)
    (nextInside :
      condition → ((next first.value).Inside length ↔ rest)) :
    (first >>= next).Inside length ↔ condition ∧ rest := by
  rw [inside_bind, firstInside]
  exact and_congr_right nextInside

/-- A step that only computes is no step of its own. -/
theorem bind_pure_bind {Middle : Type u}
    {first : Accessed Value} {compute : Value → Middle}
    {next : Middle → Accessed Next} :
    ((do
        let value ← first
        return compute value) >>= next) =
      first >>= fun value => next (compute value) := by
  change
    Accessed.mk (next (compute first.value)).value
        ((first.accesses ++ []) ++ (next (compute first.value)).accesses) =
      _
  rw [List.append_nil]
  rfl

/--
A partial reader agrees with the reads: where these stay inside, it has a view
of their value.
-/
def Agrees {Other : Type v}
    (length : Nat) (partialValue : Option Other)
    (view : Value → Other) (accessed : Accessed Value) : Prop :=
  accessed.Inside length → partialValue = some (view accessed.value)

namespace Agrees

variable {Other Another : Type v}
variable {view : Value → Other} {nextView : Next → Another}

protected theorem bind
    {partialValue : Option Other} {partialNext : Other → Option Another}
    {first : Accessed Value} {next : Value → Accessed Next}
    (firstAgrees : Agrees length partialValue view first)
    (nextAgrees :
      first.Inside length →
        Agrees length (partialNext (view first.value)) nextView
          (next first.value)) :
    Agrees length (partialValue >>= partialNext) nextView
      (first >>= next) := by
  intro inside
  rw [inside_bind] at inside
  rw [firstAgrees inside.1]
  exact nextAgrees inside.1 inside.2

protected theorem ite {condition : Prop} [Decidable condition]
    {yes no : Option Other} {whenYes whenNo : Accessed Value}
    (yesAgrees : condition → Agrees length yes view whenYes)
    (noAgrees : ¬ condition → Agrees length no view whenNo) :
    Agrees length (if condition then yes else no) view
      (if condition then whenYes else whenNo) := by
  split_ifs with holds
  · exact yesAgrees holds
  · exact noAgrees holds

end Agrees

end Accessed

namespace Memory

/-- The bytes read at a position. -/
def readBytes (memory : Memory) (position : Int) (size : Nat) :
    Accessed (List UInt8) where
  value :=
    (List.range size).map fun index : Nat => memory.byte (position + index)
  accesses := [.bytes position size]

/-- The number read at a position, with its low byte in front. -/
def readWord (memory : Memory) (position : Int) (size : Nat) :
    Accessed UInt32 where
  value := bytesWord (memory.readBytes position size).value
  accesses := [.bytes position size]

/-- A read through the null pointer, whatever it yields. -/
def readNull {Value : Type u} (value : Value) : Accessed Value where
  value := value
  accesses := [.null]

/-- The buffer lies at the address. -/
def Holds (memory : Memory) (buffer : List UInt8) : Prop :=
  ∀ (index : Nat) (byte : UInt8),
    buffer[index]? = some byte → memory.byte index = byte

/-- The bytes of a buffer at a position. -/
def slice (buffer : List UInt8) (position : Int) (size : Nat) :
    List UInt8 :=
  (buffer.drop position.toNat).take size

variable {memory : Memory} {buffer : List UInt8}
variable {position : Int} {size length : Nat}

theorem inside_readBytes :
    (memory.readBytes position size).Inside length ↔
      0 ≤ position ∧ position + size ≤ length := by
  simp [Accessed.Inside, readBytes, Access.Inside]

theorem inside_readWord :
    (memory.readWord position size).Inside length ↔
      0 ≤ position ∧ position + size ≤ length := by
  simp [Accessed.Inside, readWord, Access.Inside]

theorem not_inside_readNull {Value : Type u} (value : Value) :
    ¬ (readNull value).Inside length := by
  simp [Accessed.Inside, readNull, Access.Inside]

/-- Inside the buffer its bytes are read. -/
theorem readBytes_value
    (holds : memory.Holds buffer)
    (inside : 0 ≤ position ∧ position + size ≤ buffer.length) :
    (memory.readBytes position size).value = slice buffer position size := by
  apply List.ext_getElem
  · rw [readBytes, List.length_map, List.length_range, slice,
      List.length_take, List.length_drop]
    omega
  · intro index before after
    rw [readBytes, List.length_map, List.length_range] at before
    have place : position + index = ((position.toNat + index : Nat) : Int) := by
      omega
    have held : position.toNat + index < buffer.length := by
      omega
    simp only [readBytes, slice, List.getElem_map, List.getElem_range,
      List.getElem_take, List.getElem_drop]
    rw [place]
    exact holds _ _ (List.getElem?_eq_getElem held)

theorem readWord_value
    (holds : memory.Holds buffer)
    (inside : 0 ≤ position ∧ position + size ≤ buffer.length) :
    (memory.readWord position size).value =
      bytesWord (slice buffer position size) :=
  congrArg bytesWord (readBytes_value holds inside)

end Memory

end IocpServer.Library
