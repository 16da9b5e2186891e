import Mathlib.Data.List.Basic

/-!
# TaggedQueue — one queue for several senders

Each item has a tag, its sender.  What a queue holds for one tag, its share, is itself a queue: items
join it at the end and leave it at the front, and the items of other tags leave it as it is.
-/

namespace TcpCanUds
namespace Lib
namespace TaggedQueue

universe u v

variable {α : Type u} {κ : Type v} [DecidableEq κ] (tag : α → κ) {k : κ}

def share (k : κ) (q : List α) : List α :=
  q.filter fun x => tag x = k

theorem share_append (k : κ) (q r : List α) :
    share tag k (q ++ r) = share tag k q ++ share tag k r :=
  List.filter_append q r

theorem share_of_all {q : List α} (h : ∀ x ∈ q, tag x = k) : share tag k q = q :=
  List.filter_eq_self.2 fun x hx => decide_eq_true (h x hx)

theorem share_of_none {q : List α} (h : ∀ x ∈ q, tag x ≠ k) : share tag k q = [] :=
  List.filter_eq_nil_iff.2 fun x hx => by simp [h x hx]

theorem share_cons_self {x : α} (h : tag x = k) (q : List α) :
    share tag k (x :: q) = x :: share tag k q :=
  List.filter_cons_of_pos (decide_eq_true h)

theorem share_cons_ne {x : α} (h : tag x ≠ k) (q : List α) :
    share tag k (x :: q) = share tag k q :=
  List.filter_cons_of_neg (by simp [h])

end TaggedQueue
end Lib
end TcpCanUds
