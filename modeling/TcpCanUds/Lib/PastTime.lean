import Mathlib.Data.List.Basic
import Mathlib.Data.List.Induction
import Mathlib.Tactic.Tauto

/-!
# PastTime — past-time operators over finite histories

A history is a list of events, oldest first.  `Once p` says that an event with `p` happened;
`Since p q` says that one happened and that no event with `q` followed it.  The `snoc` lemmas
say how each operator moves when one more event is appended, which is how invariants use them.
-/

namespace TcpCanUds
namespace Lib

universe u

variable {α : Type u} {p q : α → Prop} {h : List α} {e : α}

/-- Some event of the history satisfies `p`. -/
def Once (p : α → Prop) (h : List α) : Prop :=
  ∃ e ∈ h, p e

/-- Some event satisfies `p` and no later event satisfies `q`. -/
def Since (p q : α → Prop) (h : List α) : Prop :=
  ∃ a e b, h = a ++ e :: b ∧ p e ∧ ∀ x ∈ b, ¬ q x

instance [DecidablePred p] : Decidable (Once p h) :=
  inferInstanceAs (Decidable (∃ e ∈ h, p e))

theorem not_once_nil : ¬ Once p [] := by
  simp [Once]

theorem once_append {k : List α} : Once p (h ++ k) ↔ Once p h ∨ Once p k := by
  simp only [Once, List.mem_append, or_and_right, exists_or]

theorem once_cons : Once p (e :: h) ↔ p e ∨ Once p h :=
  List.exists_mem_cons_iff _ _ _

theorem not_since_nil : ¬ Since p q [] := by
  rintro ⟨a, e, b, hab, -⟩
  simp at hab

theorem since_snoc : Since p q (h ++ [e]) ↔ p e ∨ (Since p q h ∧ ¬ q e) := by
  constructor
  · rintro ⟨a, x, b, hab, hp, hq⟩
    -- nothing follows the `p`-event when it is the new one; otherwise the new one follows
    rcases List.eq_nil_or_concat b with rfl | ⟨b, y, rfl⟩
    · rcases List.append_inj' hab rfl |>.imp_right List.singleton_inj.1 with ⟨-, rfl⟩
      exact Or.inl hp
    · have hsplit : h ++ [e] = (a ++ x :: b) ++ [y] := by simpa using hab
      rcases List.append_inj' hsplit rfl with ⟨rfl, hy⟩
      rcases List.singleton_inj.1 hy with rfl
      exact Or.inr ⟨⟨a, x, b, rfl, hp, fun z hz => hq z (by simp [hz])⟩, hq e (by simp)⟩
  · rintro (hp | ⟨⟨a, x, b, rfl, hp, hq⟩, hqe⟩)
    · exact ⟨h, e, [], rfl, hp, by simp⟩
    · refine ⟨a, x, b ++ [e], by simp, hp, ?_⟩
      intro z hz
      rcases List.mem_append.1 hz with hz | hz
      · exact hq z hz
      · rcases List.mem_singleton.1 hz with rfl
        exact hqe

theorem since_append {k : List α} :
    Since p q (h ++ k) ↔ Since p q k ∨ (Since p q h ∧ ¬ Once q k) := by
  induction k using List.reverseRecOn with
  | nil => simp [not_since_nil, not_once_nil]
  | append_singleton k e ih =>
      have honce : Once q (k ++ [e]) ↔ Once q k ∨ q e := by
        rw [once_append, once_cons, or_iff_left not_once_nil]
      rw [← List.append_assoc, since_snoc, since_snoc, ih, honce]
      tauto

theorem Since.once (hs : Since p q h) : Once p h := by
  rcases hs with ⟨a, x, b, rfl, hp, -⟩
  exact ⟨x, List.mem_append_right a List.mem_cons_self, hp⟩

theorem Since.cons (hs : Since p q h) (e : α) : Since p q (e :: h) := by
  rcases hs with ⟨a, x, b, rfl, hp, hq⟩
  exact ⟨e :: a, x, b, rfl, hp, hq⟩

theorem since_cons_of_not_once (he : p e) (hq : ¬ Once q h) : Since p q (e :: h) :=
  ⟨[], e, h, rfl, he, fun x hx hqx => hq ⟨x, hx, hqx⟩⟩

end Lib
end TcpCanUds
