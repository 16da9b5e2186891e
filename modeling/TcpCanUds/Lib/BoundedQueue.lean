import TcpCanUds.Lib.Machine
import TcpCanUds.Lib.RingBuffer

/-!
# BoundedQueue — first in, first out, up to a capacity

A queue as a machine: every operation is an input, what it returns is the answer.  The ring buffer of
`RingBuffer` is a machine over the same operations, and `ring_simulates` says that its answers are
those of the queue that holds one element less than the ring has slots.
-/

namespace TcpCanUds
namespace Lib

universe u

inductive QueueOp (α : Type u)
  | push (x : α)
  | pop
  | isEmpty
  | count
  | reset
  deriving DecidableEq, Repr

inductive QueueAnswer (α : Type u)
  | pushed (ok : Bool)
  | popped (x : Option α)
  | isEmpty (b : Bool)
  | count (k : Int)
  | reset
  deriving DecidableEq, Repr

namespace BoundedQueue

variable {α : Type u} {n : Nat}

/-- The queue, oldest element first.  A push fails when the queue is full, a pop when it is empty;
both then leave it as it is. -/
def queue (capacity : Nat) : Machine (List α) (QueueOp α) (QueueAnswer α) where
  init := []
  step
    | q, .push x =>
        if q.length = capacity then (q, .pushed false) else (q ++ [x], .pushed true)
    | [], .pop => ([], .popped none)
    | x :: q, .pop => (q, .popped (some x))
    | q, .isEmpty => (q, .isEmpty q.isEmpty)
    | q, .count => (q, .count q.length)
    | _, .reset => ([], .reset)

/-- The ring buffer over the same operations, starting empty at slot `i`. -/
def ring (i : Fin n) (buffer : Fin n → α) :
    Machine (RingBuffer α n) (QueueOp α) (QueueAnswer α) where
  init := RingBuffer.empty i buffer
  step r
    | .push x =>
        match r.push x with
        | none => (r, .pushed false)
        | some r' => (r', .pushed true)
    | .pop =>
        match r.pop with
        | none => (r, .popped none)
        | some (x, r') => (r', .popped (some x))
    | .isEmpty => (r, .isEmpty r.isEmpty)
    | .count => (r, .count r.count)
    | .reset => (RingBuffer.empty i r.buffer, .reset)

theorem length_le_capacity (capacity : Nat) (ops : List (QueueOp α)) :
    ((queue capacity).after ops).length ≤ capacity := by
  refine (queue capacity).after_invariant (I := fun q => q.length ≤ capacity)
    (Nat.zero_le _) ?_ ops
  intro q op hq
  cases op with
  | push x =>
      simp only [queue]
      split_ifs with hfull
      · exact hq
      · rw [List.length_append, List.length_singleton]
        omega
  | pop =>
      cases q with
      | nil => exact hq
      | cons x q => exact Nat.le_of_succ_le hq
  | isEmpty => exact hq
  | count => exact hq
  | reset => exact Nat.zero_le _

/-! ## The ring stands for the queue -/

theorem ring_step (i : Fin n) (buffer : Fin n → α) (r : RingBuffer α n) (op : QueueOp α) :
    (queue (n - 1)).step r.contents op =
      (((ring i buffer).step r op).1.contents, ((ring i buffer).step r op).2) := by
  cases op with
  | push x =>
      have hpos : 0 < n := Nat.zero_lt_of_lt r.head.isLt
      -- one slot of the ring stays free, so it is full one item before `n`
      have hfull : r.contents.length = n - 1 ↔ r.push x = none := by
        rw [r.push_eq_none_iff x]
        omega
      simp only [queue, ring, hfull]
      cases h : r.push x with
      | none => rfl
      | some r' => simp [RingBuffer.contents_push h]
  | pop =>
      simp only [ring]
      cases h : r.pop with
      | none =>
          have hnil := r.pop_eq_none_iff.1 h
          simp only [hnil]
          rfl
      | some xr =>
          rcases xr with ⟨x, r'⟩
          rw [RingBuffer.contents_pop h]
          rfl
  | isEmpty =>
      have hiff : r.contents.isEmpty = r.isEmpty := by
        rw [Bool.eq_iff_iff, List.isEmpty_iff, r.isEmpty_iff]
      simp only [queue, ring, hiff]
  | count => simp only [queue, ring, RingBuffer.length_contents]
  | reset =>
      change ([], QueueAnswer.reset) = ((RingBuffer.empty i r.buffer).contents, QueueAnswer.reset)
      rw [RingBuffer.contents_empty]

/-- Whatever the operations, the ring answers as the queue does, and holds what the queue holds. -/
theorem ring_simulates (i : Fin n) (buffer : Fin n → α) (ops : List (QueueOp α)) :
    (queue (n - 1)).after ops = ((ring i buffer).after ops).contents ∧
      (ring i buffer).history ops = (queue (n - 1)).history ops := by
  have h := Machine.simulation (M := queue (n - 1)) (N := ring i buffer)
    (R := fun q r => q = r.contents) (f := id) (RingBuffer.contents_empty i buffer).symm
    (by
      rintro q r op rfl
      rw [ring_step i buffer r op]
      exact ⟨rfl, rfl⟩) ops
  simpa using h

end BoundedQueue
end Lib
end TcpCanUds
