import TcpCanUds.Lib.Machine
import Mathlib.Algebra.BigOperators.Group.List.Basic
import Mathlib.Tactic.Abel
import Mathlib.Tactic.SplitIfs

/-!
# SlidingWindow — a running total that is sampled into a window

A meter adds up what it is given, and at every tick it puts what came since the last tick into a
window of the latest samples.  A restart sets the total back; the samples stay.  So the sum over the
window is what was added within the latest periods as long as every restart finds samples of zero
where they will still be in the window (`tick_answer`).
-/

namespace TcpCanUds
namespace Lib

universe u

inductive Pulse (α : Type u)
  | add (x : α)
  | tick
  | restart
  deriving DecidableEq, Repr

structure Meter (α : Type u) where
  total : α
  last : α
  window : List α

namespace Pulse

variable {α : Type u} {β : Type*}

def map (f : α → β) : Pulse α → Pulse β
  | .add x => .add (f x)
  | .tick => .tick
  | .restart => .restart

/-- What was added within the last `k + 1` periods, the open one among them, and since the last
restart.  The log has the latest pulse first. -/
def recent [AddMonoid α] : Nat → List (Pulse α) → α
  | _, [] => 0
  | k, .add x :: log => recent k log + x
  | 0, .tick :: _ => 0
  | k + 1, .tick :: log => recent k log
  | _, .restart :: _ => 0

theorem recent_map [AddMonoid α] [AddMonoid β] {f : α → β} (hzero : f 0 = 0)
    (hadd : ∀ x y, f (x + y) = f x + f y) (k : Nat) (log : List (Pulse α)) :
    recent k (log.map (map f)) = f (recent k log) := by
  induction log generalizing k with
  | nil => simp [recent, hzero]
  | cons p log ih =>
      cases p with
      | add x =>
          calc
            recent k (.add (f x) :: log.map (map f)) = f (recent k log) + f x := by
                rw [recent, ih]
            _ = f (recent k log + x) := (hadd _ _).symm
            _ = f (recent k (.add x :: log)) := by rw [recent]
      | tick =>
          cases k with
          | zero => exact hzero.symm
          | succ k => exact ih k
      | restart => simp [map, recent, hzero]

end Pulse

namespace Meter

variable {α : Type u} {size : Nat}

/-- A new sample enters the window, the oldest one leaves when there is no room. -/
def slide (size : Nat) (window : List α) (x : α) : List α :=
  if size < (window ++ [x]).length then (window ++ [x]).tail else window ++ [x]

theorem reverse_slide (hsize : 0 < size) {window : List α} (h : window.length ≤ size) (x : α) :
    (slide size window x).reverse = x :: window.reverse.take (size - 1) := by
  have hrev : (window ++ [x]).reverse = x :: window.reverse := List.reverse_append
  rw [slide]
  split_ifs with hfull
  · have hlen : window.length = size := by
      rw [List.length_append, List.length_singleton] at hfull
      omega
    rw [← List.dropLast_reverse, hrev, List.dropLast_eq_take, List.length_cons, List.length_reverse,
      hlen, Nat.add_sub_cancel]
    obtain ⟨m, rfl⟩ : ∃ m, size = m + 1 := ⟨size - 1, by omega⟩
    rfl
  · have hlen : window.reverse.length ≤ size - 1 := by
      rw [List.length_append, List.length_singleton] at hfull
      rw [List.length_reverse]
      omega
    rw [hrev, List.take_of_length_le hlen]

theorem length_slide_le (hsize : 0 < size) {window : List α} (h : window.length ≤ size) (x : α) :
    (slide size window x).length ≤ size := by
  rw [← List.length_reverse, reverse_slide hsize h, List.length_cons]
  have htake := List.length_take_le (size - 1) window.reverse
  omega

variable [AddCommGroup α]

def delta (m : Meter α) : α :=
  m.total - m.last

/-- The meter answers a tick by the sum over its window. -/
def machine (size : Nat) : Machine (Meter α) (Pulse α) (Option α) where
  init := { total := 0, last := 0, window := [] }
  step m
    | .add x => ({ m with total := m.total + x }, none)
    | .tick =>
        ({ m with last := m.total, window := slide size m.window m.delta },
          some (slide size m.window m.delta).sum)
    | .restart => ({ m with total := 0, last := 0 }, none)

/-- A restart finds only samples of zero where the next tick leaves them in the window. -/
def CleanRestart (size : Nat) (m : Meter α) (p : Pulse α) : Prop :=
  p = .restart → ∀ x ∈ m.window.reverse.take (size - 1), x = 0

/-- The open period and the latest `k` samples are what was added within `k + 1` periods. -/
def Agrees (size : Nat) (m : Meter α) (log : List (Pulse α)) : Prop :=
  m.window.length ≤ size ∧
    ∀ k < size, m.delta + (m.window.reverse.take k).sum = Pulse.recent k log

theorem agrees_step (hsize : 0 < size) {m : Meter α} {log : List (Pulse α)} (h : Agrees size m log)
    {p : Pulse α} (hp : CleanRestart size m p) : Agrees size ((machine size).step m p).1 (p :: log) := by
  rcases h with ⟨hlen, hsum⟩
  cases p with
  | add x =>
      refine ⟨hlen, ?_⟩
      intro k hk
      calc
        (m.total + x - m.last) + (m.window.reverse.take k).sum
            = (m.delta + (m.window.reverse.take k).sum) + x := by rw [delta]; abel
        _ = Pulse.recent k (.add x :: log) := by rw [hsum k hk, Pulse.recent]
  | tick =>
      refine ⟨length_slide_le hsize hlen _, ?_⟩
      intro k hk
      change m.total - m.total + ((slide size m.window m.delta).reverse.take k).sum = _
      rw [sub_self, zero_add, reverse_slide hsize hlen]
      cases k with
      | zero => rfl
      | succ k =>
          rw [List.take_succ_cons, List.sum_cons, List.take_take, Nat.min_eq_left (by omega)]
          exact hsum k (by omega)
  -- the old samples stay in the window; they do no harm when they are zero
  | restart =>
      refine ⟨hlen, ?_⟩
      intro k hk
      have hzero : ∀ x ∈ m.window.reverse.take k, x = 0 := by
        intro x hx
        apply hp rfl
        exact (List.take_subset_take_left _ (by omega)) hx
      calc
        ((0 : α) - 0) + (m.window.reverse.take k).sum = 0 := by
            rw [List.sum_eq_zero hzero, sub_self, add_zero]
        _ = Pulse.recent k (.restart :: log) := by simp [Pulse.recent]

theorem agrees_after (hsize : 0 < size) {log : List (Pulse α)}
    (h : (machine size).Along (CleanRestart size) (machine size).init log) :
    Agrees size ((machine size).after log) log.reverse := by
  induction log using List.reverseRecOn with
  | nil =>
      refine ⟨Nat.zero_le _, ?_⟩
      intro k _
      simp [Machine.after, Machine.exec, machine, delta, Pulse.recent]
  | append_singleton log p ih =>
      rw [Machine.after_snoc, List.reverse_append]
      exact agrees_step hsize (ih h.left) h.right.1

/-- Where every restart was clean, a tick is answered by what was added within the latest periods. -/
theorem tick_answer (hsize : 0 < size) {log : List (Pulse α)}
    (h : (machine size).Along (CleanRestart size) (machine size).init log) :
    ((machine size).step ((machine size).after log) .tick).2 =
      some (Pulse.recent (size - 1) log.reverse) := by
  rcases agrees_after hsize h with ⟨hlen, hsum⟩
  have hlast := hsum (size - 1) (by omega)
  change some (slide size _ _).sum = _
  rw [← List.sum_reverse, reverse_slide hsize hlen, List.sum_cons, hlast]

end Meter
end Lib
end TcpCanUds
