import Mathlib.Algebra.Ring.Nat
import Mathlib.Data.List.Induction

/-!
# Machine — deterministic machines that answer their inputs

A `Machine` reads one input at a time, moves to a next state and gives an answer.  This module
defines the state reached by a list of inputs (`exec`), the list of exchanges seen on the way
(`trace`), and the induction rule that carries an invariant relating the two along every run.
-/

namespace TcpCanUds
namespace Lib

universe u v w

/-- A deterministic machine: a state and an input give the next state and an answer. -/
structure Machine (σ : Type u) (ι : Type v) (ο : Type w) where
  init : σ
  step : σ → ι → σ × ο

namespace Machine

variable {σ : Type u} {ι : Type v} {ο : Type w} (M : Machine σ ι ο)

/-- The state reached from `s` after the inputs `is`. -/
def exec (s : σ) : List ι → σ
  | [] => s
  | i :: is => exec (M.step s i).1 is

/-- The exchanges (input and answer) of the run from `s` on `is`, oldest first. -/
def trace (s : σ) : List ι → List (ι × ο)
  | [] => []
  | i :: is => (i, (M.step s i).2) :: trace (M.step s i).1 is

/-- What `f` sees along the run from `s`, oldest first. -/
def watch {β : Type*} (f : σ → ι → Option β) (s : σ) : List ι → List β
  | [] => []
  | i :: is => (f s i).toList ++ watch f (M.step s i).1 is

def after (is : List ι) : σ :=
  M.exec M.init is

/-- The exchanges of a run from the initial state. -/
def history (is : List ι) : List (ι × ο) :=
  M.trace M.init is

/-! ## Splitting runs -/

theorem exec_append (s : σ) (is js : List ι) :
    M.exec s (is ++ js) = M.exec (M.exec s is) js := by
  induction is generalizing s with
  | nil => rfl
  | cons i is ih => exact ih _

theorem trace_append (s : σ) (is js : List ι) :
    M.trace s (is ++ js) = M.trace s is ++ M.trace (M.exec s is) js := by
  induction is generalizing s with
  | nil => rfl
  | cons i is ih =>
      simp only [List.cons_append, trace, exec]
      rw [ih]

theorem trace_snoc (s : σ) (is : List ι) (i : ι) :
    M.trace s (is ++ [i]) = M.trace s is ++ [(i, (M.step (M.exec s is) i).2)] :=
  M.trace_append s is [i]

theorem watch_snoc {β : Type*} (f : σ → ι → Option β) (s : σ) (is : List ι) (i : ι) :
    M.watch f s (is ++ [i]) = M.watch f s is ++ (f (M.exec s is) i).toList := by
  induction is generalizing s with
  | nil => exact List.append_nil _
  | cons j is ih =>
      simp only [List.cons_append, watch, exec, List.append_assoc]
      rw [ih]

/-- What is seen in a run is seen in one of its steps. -/
theorem mem_watch {β : Type*} {f : σ → ι → Option β} {s : σ} {is : List ι} {b : β}
    (h : b ∈ M.watch f s is) :
    ∃ before i later, is = before ++ i :: later ∧ b ∈ f (M.exec s before) i := by
  induction is generalizing s with
  | nil => exact absurd h List.not_mem_nil
  | cons i is ih =>
      rcases List.mem_append.1 h with h | h
      · exact ⟨[], i, is, rfl, Option.mem_toList.1 h⟩
      · rcases ih h with ⟨before, j, later, rfl, hb⟩
        exact ⟨i :: before, j, later, rfl, hb⟩

@[simp] theorem after_nil : M.after [] = M.init := rfl

@[simp] theorem history_nil : M.history [] = [] := rfl

theorem after_snoc (is : List ι) (i : ι) :
    M.after (is ++ [i]) = (M.step (M.after is) i).1 := by
  simp [after, exec_append, exec]

theorem history_snoc (is : List ι) (i : ι) :
    M.history (is ++ [i]) = M.history is ++ [(i, (M.step (M.after is) i).2)] := by
  simp [history, after, trace_append, trace]

theorem map_fst_trace (s : σ) (is : List ι) : (M.trace s is).map Prod.fst = is := by
  induction is generalizing s with
  | nil => rfl
  | cons i is ih => simp [trace, ih]

/-- Any exchange of a trace is the answer given by the state its prefix leads to. -/
theorem trace_eq_append_cons {s : σ} {is : List ι} {a b : List (ι × ο)} {e : ι × ο}
    (h : M.trace s is = a ++ e :: b) :
    ∃ is₁ is₂, is = is₁ ++ e.1 :: is₂ ∧ M.trace s is₁ = a ∧
      e.2 = (M.step (M.exec s is₁) e.1).2 ∧
      M.trace (M.step (M.exec s is₁) e.1).1 is₂ = b := by
  induction a generalizing s is with
  | nil =>
      cases is with
      | nil => simp [trace] at h
      | cons i is =>
          simp only [trace, List.nil_append, List.cons.injEq] at h
          rcases h with ⟨he, hb⟩
          subst he
          exact ⟨[], is, rfl, rfl, rfl, hb⟩
  | cons x a ih =>
      cases is with
      | nil => simp [trace] at h
      | cons i is =>
          -- the split lies behind `i`: use the hypothesis for the run from there
          simp only [trace, List.cons_append, List.cons.injEq] at h
          rcases h with ⟨hx, ht⟩
          rcases ih ht with ⟨is₁, is₂, his, ha, he, hb⟩
          refine ⟨i :: is₁, is₂, by simp [his], ?_, he, hb⟩
          simp [trace, hx, ha]

theorem exec_after (is js : List ι) : M.exec (M.after is) js = M.after (is ++ js) :=
  (M.exec_append M.init is js).symm

theorem trace_append_cons (s : σ) (is : List ι) (i : ι) (js : List ι) :
    M.trace s (is ++ i :: js) =
      M.trace s is ++ (i, (M.step (M.exec s is) i).2) :: M.trace (M.exec s (is ++ [i])) js := by
  rw [trace_append, exec_append]
  rfl

theorem history_eq_append_cons {is : List ι} {a b : List (ι × ο)} {e : ι × ο}
    (h : M.history is = a ++ e :: b) :
    ∃ is₁ is₂, is = is₁ ++ e.1 :: is₂ ∧ M.history is₁ = a ∧
      e.2 = (M.step (M.after is₁) e.1).2 ∧ M.trace (M.after (is₁ ++ [e.1])) is₂ = b := by
  rcases M.trace_eq_append_cons h with ⟨is₁, is₂, his, ha, he, hb⟩
  refine ⟨is₁, is₂, his, ha, he, ?_⟩
  rw [after_snoc]
  exact hb

/-! ## Invariants of runs -/

/-- An invariant of state and history that holds at the start and is kept by every step holds
after every run. -/
theorem history_invariant {I : σ → List (ι × ο) → Prop} (h0 : I M.init [])
    (hstep : ∀ s t i, I s t → I (M.step s i).1 (t ++ [(i, (M.step s i).2)])) (is : List ι) :
    I (M.after is) (M.history is) := by
  induction is using List.reverseRecOn with
  | nil => exact h0
  | append_singleton is i ih =>
      rw [after_snoc, history_snoc]
      exact hstep _ _ _ ih

theorem after_invariant {I : σ → Prop} (h0 : I M.init)
    (hstep : ∀ s i, I s → I (M.step s i).1) (is : List ι) : I (M.after is) :=
  M.history_invariant (I := fun s _ => I s) h0 (fun s _ i => hstep s i) is

/-! ## Simulation -/

/-- Two machines over the same inputs whose steps keep a relation of their states, with answers that
are translated by `f`, have the same histories up to `f`. -/
theorem simulation {τ : Type*} {π : Type*} {M : Machine σ ι ο} {N : Machine τ ι π}
    {R : σ → τ → Prop} {f : ο → π} (h0 : R M.init N.init)
    (hstep : ∀ s t i, R s t →
      R (M.step s i).1 (N.step t i).1 ∧ (N.step t i).2 = f (M.step s i).2) (is : List ι) :
    R (M.after is) (N.after is) ∧
      N.history is = (M.history is).map fun e => (e.1, f e.2) := by
  induction is using List.reverseRecOn with
  | nil => exact ⟨h0, rfl⟩
  | append_singleton is i ih =>
      rcases ih with ⟨hrel, hhist⟩
      rcases hstep _ _ i hrel with ⟨hrel', hanswer⟩
      rw [after_snoc, after_snoc, history_snoc, history_snoc]
      refine ⟨hrel', ?_⟩
      rw [List.map_append, hhist, hanswer]
      rfl

/-! ## Runs under a condition -/

/-- Every step of the run from `s` meets the condition `G` in the state it starts in. -/
def Along (G : σ → ι → Prop) (s : σ) : List ι → Prop
  | [] => True
  | i :: is => G s i ∧ Along G (M.step s i).1 is

instance decidableAlong {G : σ → ι → Prop} [∀ s i, Decidable (G s i)] (s : σ) (is : List ι) :
    Decidable (M.Along G s is) :=
  match is with
  | [] => isTrue trivial
  | i :: is =>
      haveI := decidableAlong (G := G) (M.step s i).1 is
      inferInstanceAs (Decidable (G s i ∧ M.Along G (M.step s i).1 is))

theorem along_iff {G : σ → ι → Prop} {s : σ} {is : List ι} :
    M.Along G s is ↔ ∀ before i later, is = before ++ i :: later → G (M.exec s before) i := by
  induction is generalizing s with
  | nil => simp [Along]
  | cons i is ih =>
      rw [Along, ih]
      constructor
      · rintro ⟨hi, his⟩ before j later h
        cases before with
        | nil =>
            rcases List.cons_eq_cons.1 h with ⟨rfl, -⟩
            exact hi
        | cons k before =>
            rcases List.cons_eq_cons.1 h with ⟨rfl, hrest⟩
            exact his before j later hrest
      · intro h
        refine ⟨h [] i is rfl, fun before j later hrest => h (i :: before) j later ?_⟩
        rw [hrest]
        rfl

theorem along_append {G : σ → ι → Prop} {s : σ} {is js : List ι} :
    M.Along G s (is ++ js) ↔ M.Along G s is ∧ M.Along G (M.exec s is) js := by
  induction is generalizing s with
  | nil => exact ⟨fun h => ⟨trivial, h⟩, fun h => h.2⟩
  | cons i is ih =>
      calc
        M.Along G s (i :: is ++ js) ↔ G s i ∧ M.Along G (M.step s i).1 (is ++ js) := Iff.rfl
        _ ↔ G s i ∧ M.Along G (M.step s i).1 is ∧ M.Along G (M.exec s (i :: is)) js :=
            and_congr_right' ih
        _ ↔ M.Along G s (i :: is) ∧ M.Along G (M.exec s (i :: is)) js := and_assoc.symm

theorem along_snoc {G : σ → ι → Prop} {s : σ} {is : List ι} {i : ι} :
    M.Along G s (is ++ [i]) ↔ M.Along G s is ∧ G (M.exec s is) i := by
  rw [along_append]
  exact and_congr_right' (and_iff_left trivial)

theorem Along.left {G : σ → ι → Prop} {s : σ} {is js : List ι} (h : M.Along G s (is ++ js)) :
    M.Along G s is :=
  (M.along_append.1 h).1

theorem Along.right {G : σ → ι → Prop} {s : σ} {is js : List ι} (h : M.Along G s (is ++ js)) :
    M.Along G (M.exec s is) js :=
  (M.along_append.1 h).2

/-- A property of all exchanges is a condition on the steps. -/
theorem forall_trace_iff_along {P : ι × ο → Prop} {s : σ} {is : List ι} :
    (∀ e ∈ M.trace s is, P e) ↔ M.Along (fun s i => P (i, (M.step s i).2)) s is := by
  induction is generalizing s with
  | nil => exact ⟨fun _ => trivial, fun _ _ he => absurd he List.not_mem_nil⟩
  | cons i is ih =>
      rw [Along, ← ih]
      exact List.forall_mem_cons

/-- A property that a step keeps exactly when it meets a condition holds after every beginning of the
runs along which every step met it. -/
theorem forall_prefix_iff_along {P : List ι → Prop} {G : σ → ι → Prop} {s : σ} (h0 : P [])
    {is : List ι} (hstep : ∀ before i later, is = before ++ i :: later → P before →
      (P (before ++ [i]) ↔ G (M.exec s before) i)) :
    (∀ js, js <+: is → P js) ↔ M.Along G s is := by
  induction is using List.reverseRecOn with
  | nil =>
      refine ⟨fun _ => trivial, fun _ js hjs => ?_⟩
      rw [List.prefix_nil.1 hjs]
      exact h0
  | append_singleton is i ih =>
      have hprefix := ih fun before j later his => hstep before j (later ++ [i]) (by simp [his])
      calc
        (∀ js, js <+: is ++ [i] → P js) ↔ (∀ js, js <+: is → P js) ∧ P (is ++ [i]) := by
          constructor
          · intro h
            exact ⟨fun js hjs => h js (hjs.trans (List.prefix_append is [i])), h _ List.prefix_rfl⟩
          · rintro ⟨hshort, hlong⟩ js hjs
            rcases List.prefix_concat_iff.1 hjs with rfl | hjs
            · exact hlong
            · exact hshort js hjs
        _ ↔ (∀ js, js <+: is → P js) ∧ G (M.exec s is) i :=
            and_congr_right fun h => hstep is i [] rfl (h is List.prefix_rfl)
        _ ↔ M.Along G s is ∧ G (M.exec s is) i := and_congr_left' hprefix
        _ ↔ M.Along G s (is ++ [i]) := M.along_snoc.symm

/-- An invariant kept by the steps that meet a condition is kept by the runs that do. -/
theorem exec_invariant_along {I : σ → Prop} {G : σ → ι → Prop}
    (hstep : ∀ s i, I s → G s i → I (M.step s i).1) {s : σ} {is : List ι} (h0 : I s)
    (h : M.Along G s is) : I (M.exec s is) := by
  induction is generalizing s with
  | nil => exact h0
  | cons i is ih => exact ih (hstep s i h0 h.1) h.2

/-- A property that a step keeps exactly when it meets a condition, and never brings back, holds after
the runs along which every step met it. -/
theorem exec_iff_along {P : σ → Prop} {G : σ → ι → Prop}
    (hstep : ∀ s i, P (M.step s i).1 ↔ P s ∧ G s i) (s : σ) (is : List ι) :
    P (M.exec s is) ↔ P s ∧ M.Along G s is := by
  induction is generalizing s with
  | nil => exact (and_iff_left trivial).symm
  | cons i is ih =>
      calc
        P (M.exec (M.step s i).1 is) ↔ P (M.step s i).1 ∧ M.Along G (M.step s i).1 is := ih _
        _ ↔ (P s ∧ G s i) ∧ M.Along G (M.step s i).1 is := and_congr_left' (hstep s i)
        _ ↔ P s ∧ M.Along G s (i :: is) := and_assoc

/-- Two conditions that agree wherever an invariant holds agree along whole runs, when the invariant
is kept by the steps that meet the second one. -/
theorem along_iff_along {I : σ → Prop} {G A B : σ → ι → Prop}
    (hiff : ∀ s i, I s → G s i → (A s i ↔ B s i))
    (hstep : ∀ s i, I s → G s i → B s i → I (M.step s i).1) {s : σ} {is : List ι} (h0 : I s)
    (h : M.Along G s is) : M.Along A s is ↔ M.Along B s is := by
  induction is generalizing s with
  | nil => exact Iff.rfl
  | cons i is ih =>
      rw [Along, Along, hiff s i h0 h.1]
      exact and_congr_right fun hi => ih (hstep s i h0 h.1 hi) h.2

/-- Where every state short of the goal has a step that meets the condition and lowers the rank,
some run that meets it reaches the goal. -/
theorem exists_run_along {I : Nat → σ → Prop} {G : σ → ι → Prop} {goal : σ → Prop}
    (hstep : ∀ k s, I k s → ¬ goal s → ∃ i, G s i ∧ ∃ j < k, I j (M.step s i).1) {k : Nat} {s : σ}
    (h : I k s) : ∃ is, M.Along G s is ∧ goal (M.exec s is) := by
  induction k using Nat.strongRecOn generalizing s with
  | ind k ih =>
      by_cases hgoal : goal s
      · exact ⟨[], trivial, hgoal⟩
      · rcases hstep k s h hgoal with ⟨i, hi, j, hlt, hj⟩
        rcases ih j hlt hj with ⟨is, halong, hdone⟩
        exact ⟨i :: is, ⟨hi, halong⟩, hdone⟩

/-- A run leaves `B`, or what the steps from `B` keep holds at its end. -/
theorem Along.exists_prefix_or {I B : σ → Prop} {G : σ → ι → Prop}
    (hstep : ∀ s i, I s → B s → G s i → I (M.step s i).1) {s : σ} {is : List ι} (h0 : I s)
    (h : M.Along G s is) : (∃ js, js <+: is ∧ ¬ B (M.exec s js)) ∨ I (M.exec s is) := by
  induction is generalizing s with
  | nil => exact .inr h0
  | cons i is ih =>
      by_cases hB : B s
      · rcases ih (hstep s i h0 hB h.1) h.2 with ⟨js, hjs, hleft⟩ | hend
        · exact .inl ⟨i :: js, List.cons_prefix_cons.2 ⟨rfl, hjs⟩, hleft⟩
        · exact .inr hend
      · exact .inl ⟨[], List.nil_prefix, hB⟩

/-! ## Potentials -/

/-- Where every step that `f` sees is paid for by the potential, and an input raises it by no more than
its gain, `f` sees no more than the gains and what there was at the start. -/
theorem watch_add_potential_le {β : Type*} {I : σ → Prop} {V : σ → Nat} {gain : ι → Nat}
    {f : σ → ι → Option β} (hkeep : ∀ s i, I s → I (M.step s i).1)
    (hpay : ∀ s i, I s → (f s i).toList.length + V (M.step s i).1 ≤ V s + gain i) {s : σ} (h0 : I s)
    (is : List ι) : (M.watch f s is).length + V (M.exec s is) ≤ V s + (is.map gain).sum := by
  induction is generalizing s with
  | nil => exact Nat.le_of_eq (Nat.zero_add _)
  | cons i is ih =>
      have hstep := hpay s i h0
      have hrest := ih (hkeep s i h0)
      rw [watch, exec, List.length_append, List.map_cons, List.sum_cons]
      omega

end Machine
end Lib
end TcpCanUds
