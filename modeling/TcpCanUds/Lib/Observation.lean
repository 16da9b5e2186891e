import TcpCanUds.Lib.Machine

/-!
# Observation — what the answers of a machine tell about its state

Two states are `Alike` when no list of inputs tells them apart by its answers.  A `view` of the state
that decides every answer, and that the answers alone keep up to date, has everything of the state that
can ever be observed; where it has nothing more, the answers of two runs say whether the states they end
in are alike.
-/

namespace TcpCanUds
namespace Lib

universe u v w

namespace Machine

variable {σ : Type u} {ι : Type v} {ο : Type w} (M : Machine σ ι ο)

/-- The answers to a list of inputs, from state `s` on. -/
def answers (s : σ) (is : List ι) : List ο :=
  (M.trace s is).map Prod.snd

/-- No list of inputs tells the two states apart. -/
def Alike (s t : σ) : Prop :=
  ∀ is, M.answers s is = M.answers t is

variable {M}

theorem answers_cons (s : σ) (i : ι) (is : List ι) :
    M.answers s (i :: is) = (M.step s i).2 :: M.answers (M.step s i).1 is := rfl

theorem answers_snoc (is : List ι) (i : ι) :
    M.answers M.init (is ++ [i]) = M.answers M.init is ++ [(M.step (M.after is) i).2] := by
  rw [answers, trace_snoc, List.map_append]
  rfl

/-- Alike states give the next input the same answer. -/
theorem Alike.answer {s t : σ} (h : M.Alike s t) (i : ι) : (M.step s i).2 = (M.step t i).2 :=
  (List.cons.inj (h [i])).1

section

variable {τ : Type*} {view : σ → τ} {note : τ → ο → τ}

/-- The view is kept up to date by the answers. -/
theorem view_exec (hnote : ∀ s i, view (M.step s i).1 = note (view s) (M.step s i).2) (s : σ)
    (is : List ι) : view (M.exec s is) = (M.answers s is).foldl note (view s) := by
  induction is generalizing s with
  | nil => rfl
  | cons i is ih =>
      rw [answers_cons, List.foldl_cons, ← hnote]
      exact ih _

/-- States with the same view are alike: they give the same answer, which keeps their views the same. -/
theorem alike_of_view (hanswer : ∀ s t i, view s = view t → (M.step s i).2 = (M.step t i).2)
    (hnote : ∀ s i, view (M.step s i).1 = note (view s) (M.step s i).2) {s t : σ}
    (h : view s = view t) : M.Alike s t := by
  intro is
  induction is generalizing s t with
  | nil => rfl
  | cons i is ih =>
      have hsame := hanswer s t i h
      have hnext : view (M.step s i).1 = view (M.step t i).1 := by
        rw [hnote, hnote, h, hsame]
      rw [answers_cons, answers_cons, hsame, ih hnext]

/-- Where the view holds nothing but what some inputs can show, the answers of two runs decide whether
the runs end in alike states. -/
theorem alike_after_iff (hanswer : ∀ s t i, view s = view t → (M.step s i).2 = (M.step t i).2)
    (hnote : ∀ s i, view (M.step s i).1 = note (view s) (M.step s i).2)
    (hshown : ∀ s t, M.Alike s t → view s = view t) (is js : List ι) :
    M.Alike (M.after is) (M.after js) ↔
      (M.answers M.init is).foldl note (view M.init) =
        (M.answers M.init js).foldl note (view M.init) := by
  rw [← view_exec hnote, ← view_exec hnote]
  constructor
  · intro h
    exact hshown _ _ h
  · intro h
    exact alike_of_view hanswer hnote h

end

end Machine
end Lib
end TcpCanUds
