import Mathlib.Data.List.Basic
import Mathlib.Logic.Function.Basic

/-!
# RingBuffer — a queue in an array of fixed size

`n` slots, a position to write and a position to read.  The occupied slots run from `tail` up to
`head`; one slot stays free, so that equal positions mean an empty ring.  `contents` is the queue the
ring stands for, and the two operations are the queue's, up to the bound of `n - 1` elements.
-/

namespace TcpCanUds
namespace Lib

universe u

structure RingBuffer (α : Type u) (n : Nat) where
  buffer : Fin n → α
  head : Fin n
  tail : Fin n

namespace RingBuffer

variable {α : Type u} {n : Nat}

/-- The slot `k` places behind slot `i`. -/
def slot (i : Fin n) (k : Nat) : Fin n :=
  ⟨(i + k) % n, Nat.mod_lt _ (Nat.lt_of_le_of_lt (Nat.zero_le _) i.isLt)⟩

def empty (i : Fin n) (buffer : Fin n → α) : RingBuffer α n where
  buffer := buffer
  head := i
  tail := i

/-- Write at the head, unless the ring is full. -/
def push (r : RingBuffer α n) (x : α) : Option (RingBuffer α n) :=
  if slot r.head 1 = r.tail then none
  else some { r with buffer := Function.update r.buffer r.head x, head := slot r.head 1 }

/-- Read at the tail, unless the ring is empty. -/
def pop (r : RingBuffer α n) : Option (α × RingBuffer α n) :=
  if r.tail = r.head then none
  else some (r.buffer r.tail, { r with tail := slot r.tail 1 })

def isEmpty (r : RingBuffer α n) : Bool :=
  r.head = r.tail

def count (r : RingBuffer α n) : Nat :=
  (r.head + n - r.tail) % n

/-- The queue: the occupied slots, oldest first. -/
def contents (r : RingBuffer α n) : List α :=
  (List.range r.count).map fun k => r.buffer (slot r.tail k)

/-! ## Positions -/

theorem slot_val (i : Fin n) (k : Nat) : (slot i k).val = (i + k) % n := rfl

theorem slot_zero (i : Fin n) : slot i 0 = i :=
  Fin.ext (Nat.mod_eq_of_lt i.isLt)

theorem slot_slot (i : Fin n) (j k : Nat) : slot (slot i j) k = slot i (j + k) := by
  apply Fin.ext
  simp only [slot_val, Nat.mod_add_mod, Nat.add_assoc]

theorem count_lt (r : RingBuffer α n) : r.count < n :=
  Nat.mod_lt _ (Nat.lt_of_le_of_lt (Nat.zero_le _) r.head.isLt)

/-- The head lies `count` places behind the tail. -/
theorem slot_tail_count (r : RingBuffer α n) : slot r.tail r.count = r.head := by
  apply Fin.ext
  have hhead := r.head.isLt
  have htail := r.tail.isLt
  rw [slot_val, count, Nat.add_mod_mod,
    show (r.tail : Nat) + (r.head + n - r.tail) = r.head + n by omega, Nat.add_mod_right,
    Nat.mod_eq_of_lt hhead]

/-- Fewer than `n` places lead to different slots. -/
theorem slot_injective {i : Fin n} {j k : Nat} (hj : j < n) (hk : k < n)
    (h : slot i j = slot i k) : j = k := by
  have hi := i.isLt
  have hval := congrArg Fin.val h
  simp only [slot_val] at hval
  have key : ∀ m < n, ((i : Nat) + m) % n = if (i : Nat) + m < n then i + m else i + m - n := by
    intro m hm
    split_ifs with hlt
    · exact Nat.mod_eq_of_lt hlt
    · rw [Nat.mod_eq_sub_mod (Nat.le_of_not_lt hlt), Nat.mod_eq_of_lt (by omega)]
  rw [key j hj, key k hk] at hval
  split_ifs at hval <;> omega

/-- The positions decide the count. -/
theorem count_eq_of_slot {r : RingBuffer α n} {k : Nat} (hk : k < n)
    (h : slot r.tail k = r.head) : r.count = k :=
  slot_injective r.count_lt hk (r.slot_tail_count.trans h.symm)

@[simp] theorem length_contents (r : RingBuffer α n) : r.contents.length = r.count := by
  simp [contents]

theorem contents_eq_nil_iff (r : RingBuffer α n) : r.contents = [] ↔ r.tail = r.head := by
  rw [← List.length_eq_zero_iff, length_contents]
  constructor
  · intro h
    rw [← r.slot_tail_count, h, slot_zero]
  · intro h
    refine count_eq_of_slot (Nat.lt_of_le_of_lt (Nat.zero_le _) r.head.isLt) ?_
    rw [slot_zero, h]

theorem isEmpty_iff (r : RingBuffer α n) : r.isEmpty = true ↔ r.contents = [] := by
  rw [contents_eq_nil_iff, isEmpty, decide_eq_true_eq]
  exact eq_comm

theorem contents_empty (i : Fin n) (buffer : Fin n → α) : (empty i buffer).contents = [] :=
  (contents_eq_nil_iff _).2 rfl

/-! ## The operations on the queue -/

theorem full_iff (r : RingBuffer α n) : slot r.head 1 = r.tail ↔ r.count + 1 = n := by
  have hlt := r.count_lt
  rw [← r.slot_tail_count, slot_slot]
  constructor
  · intro h
    by_contra hne
    have hzero := slot_injective (i := r.tail) (j := r.count + 1) (k := 0) (by omega) (by omega)
      (h.trans (slot_zero _).symm)
    omega
  · intro h
    apply Fin.ext
    rw [slot_val, h, Nat.add_mod_right, Nat.mod_eq_of_lt r.tail.isLt]

theorem push_eq_none_iff (r : RingBuffer α n) (x : α) :
    r.push x = none ↔ r.contents.length + 1 = n := by
  rw [length_contents, ← full_iff, push]
  split_ifs with h
  · simp [h]
  · simp [h]

/-- A push that succeeds appends to the queue. -/
theorem contents_push {r r' : RingBuffer α n} {x : α} (h : r.push x = some r') :
    r'.contents = r.contents ++ [x] := by
  have hlt := r.count_lt
  rw [push] at h
  split_ifs at h with hfull
  have hroom : r.count + 1 < n := by
    have hne := mt r.full_iff.2 hfull
    omega
  rcases Option.some.inj h with rfl
  have hcount : count { r with
      buffer := Function.update r.buffer r.head x
      head := slot r.head 1 } = r.count + 1 := by
    refine count_eq_of_slot hroom ?_
    change slot r.tail (r.count + 1) = slot r.head 1
    rw [← slot_slot, r.slot_tail_count]
  rw [contents, hcount, List.range_succ, List.map_append, List.map_singleton]
  congr 1
  · -- the written slot is none of the occupied ones
    refine List.map_congr_left ?_
    intro k hk
    have hk' := List.mem_range.1 hk
    refine Function.update_of_ne ?_ _ _
    intro heq
    have hsame := slot_injective (by omega) hlt (heq.trans r.slot_tail_count.symm)
    omega
  · change [Function.update r.buffer r.head x (slot r.tail r.count)] = [x]
    rw [r.slot_tail_count, Function.update_self]

theorem pop_eq_none_iff (r : RingBuffer α n) : r.pop = none ↔ r.contents = [] := by
  rw [contents_eq_nil_iff, pop]
  split_ifs with h
  · simp [h]
  · simp [h]

/-- A pop takes the oldest element of the queue. -/
theorem contents_pop {r r' : RingBuffer α n} {x : α} (h : r.pop = some (x, r')) :
    r.contents = x :: r'.contents := by
  have hlt := r.count_lt
  rw [pop] at h
  split_ifs at h with hempty
  rcases Prod.mk.inj (Option.some.inj h) with ⟨rfl, rfl⟩
  have hpos : 0 < r.count := by
    rw [Nat.pos_iff_ne_zero]
    intro hzero
    exact hempty ((contents_eq_nil_iff r).1 (by
      rw [← List.length_eq_zero_iff, length_contents, hzero]))
  obtain ⟨m, hm⟩ : ∃ m, r.count = m + 1 := ⟨r.count - 1, by omega⟩
  have hcount : count { r with tail := slot r.tail 1 } = m := by
    refine count_eq_of_slot (by omega) ?_
    change slot (slot r.tail 1) m = r.head
    rw [slot_slot, ← r.slot_tail_count, hm, Nat.add_comm]
  rw [contents, contents, hcount, hm, List.range_succ_eq_map, List.map_cons, List.map_map, slot_zero]
  congr 1
  refine List.map_congr_left ?_
  intro k _
  change r.buffer (slot r.tail (k + 1)) = r.buffer (slot (slot r.tail 1) k)
  rw [slot_slot, Nat.add_comm]

end RingBuffer
end Lib
end TcpCanUds
