import IocpServer.Network.OverlappedPool

/-!
# Exhaustion of the overlapped pool

None of the four posting functions tests the pointer it pops, so a call
faults when it acquires an object and the pool is empty.  As long as no
posting fails, the pool is empty exactly when all objects are attached to
outstanding operations.  A completion that is being handled counts as one of
them, since its object is returned only behind the handler.
-/

namespace IocpServer.Network.NetworkManager

open IocpServer.Library
open IocpServer.Utility

variable {Owner : Type}
variable {callbacks : Callbacks Owner}
variable {manager : NetworkManager Owner}

/-- With all objects accounted for, the pool is empty when all are out. -/
theorem Partitioned.empty_iff
    {overlappedQueueMax : Nat}
    (partitioned : manager.Partitioned overlappedQueueMax) :
    manager.overlappedQueue.contents = [] ↔
      ¬ manager.outstanding.length < overlappedQueueMax := by
  have counted := partitioned.held_length
  simp only [held, pooled, addresses, List.length_append,
    List.length_map] at counted
  rw [← List.length_eq_zero_iff]
  omega

/-- All objects are accounted for, in a pool with room for all of them. -/
structure Conserved
    (manager : NetworkManager Owner) (overlappedQueueMax : Nat) :
    Prop where
  partitioned : manager.Partitioned overlappedQueueMax
  capacity :
    manager.overlappedQueue.queueMaxSize = overlappedQueueMax + 1

/-- A call whose posting does not fail keeps all objects accounted for. -/
theorem Conserved.call
    {after : NetworkManager Owner} {event : NetworkEvent}
    {overlappedQueueMax : Nat}
    (conserved : manager.Conserved overlappedQueueMax)
    (succeeded : event.answer.failed = false)
    (returned : manager.call callbacks event = .ok after) :
    after.Conserved overlappedQueueMax := by
  rcases conserved with ⟨partitioned, capacity⟩
  have room :
      manager.held.length < manager.overlappedQueue.queueMaxSize := by
    rw [capacity, partitioned.held_length]
    exact Nat.lt_succ_self _
  rcases call_held room returned with ⟨sameCapacity, _, kept⟩
  have keeps : ¬ manager.Loses callbacks event := by
    rintro ⟨_, failed⟩
    rw [succeeded] at failed
    cases failed
  exact
    ⟨(kept keeps).symm.trans partitioned, sameCapacity.trans capacity⟩

end IocpServer.Network.NetworkManager
