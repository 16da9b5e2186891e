import Mathlib.Data.List.Basic

/-!
# StampedQueue — when the items of a queue joined it

Beside a queue stands the list of the times at which its items joined, oldest first.  The operations work
on the queue alone; whenever they have let items in, `stampedAt` gives these the time it is.
-/

namespace TcpCanUds
namespace Lib

universe u v

/-- The times of the items in `queue`, of which those without one joined `now`. -/
def stampedAt {α : Type u} (now : Nat) (times : List Nat) (queue : List α) : List Nat :=
  times ++ List.replicate (queue.length - times.length) now

section

variable {α : Type u} {β : Type v} {now : Nat} {times : List Nat} {queue items later : List α}

theorem stampedAt_same (h : times.length = queue.length) : stampedAt now times queue = times := by
  rw [stampedAt, h, Nat.sub_self]
  exact List.append_nil times

theorem length_stampedAt (h : times.length ≤ queue.length) :
    (stampedAt now times queue).length = queue.length := by
  rw [stampedAt, List.length_append, List.length_replicate]
  omega

theorem mem_stampedAt {time : Nat} (h : time ∈ stampedAt now times queue) :
    time ∈ times ∨ time = now :=
  (List.mem_append.1 h).imp_right List.eq_of_mem_replicate

/-- Only the number of the items counts. -/
theorem stampedAt_map (f : α → β) (queue : List α) :
    stampedAt now times (queue.map f) = stampedAt now times queue := by
  rw [stampedAt, stampedAt, List.length_map]

/-- Two operations at one time stamp their items like one. -/
theorem stampedAt_twice (h : times.length ≤ queue.length) (hlater : queue.length ≤ later.length) :
    stampedAt now (stampedAt now times queue) later = stampedAt now times later := by
  rw [stampedAt, length_stampedAt h, stampedAt, stampedAt, List.append_assoc,
    List.replicate_append_replicate]
  congr 2
  omega

theorem zip_replicate_length (now : Nat) (items : List α) :
    (List.replicate items.length now).zip items = items.map (Prod.mk now) := by
  induction items with
  | nil => rfl
  | cons x items ih =>
      rw [List.length_cons, List.replicate_succ, List.zip_cons_cons, ih, List.map_cons]

theorem zip_stampedAt_append (now : Nat) (items : List α) (h : times.length = queue.length) :
    (stampedAt now times (queue ++ items)).zip (queue ++ items) =
      times.zip queue ++ items.map (Prod.mk now) := by
  have hnew : (queue ++ items).length - times.length = items.length := by
    rw [List.length_append, h]
    omega
  rw [stampedAt, hnew, List.zip_append h, zip_replicate_length]

/-- An item that is taken out takes its time with it. -/
theorem mem_zip_eraseIdx {i : Nat} {x : Nat × α}
    (h : x ∈ (times.eraseIdx i).zip (queue.eraseIdx i)) : x ∈ times.zip queue := by
  induction times generalizing queue i with
  | nil => cases h
  | cons t times ih =>
      cases queue with
      | nil =>
          rw [List.eraseIdx_nil, List.zip_nil_right] at h
          cases h
      | cons y queue =>
          cases i with
          | zero => exact List.mem_cons_of_mem _ h
          | succ i =>
              rcases List.mem_cons.1 h with rfl | h
              · exact List.mem_cons_self
              · exact List.mem_cons_of_mem _ (ih h)

end

end Lib
end TcpCanUds
