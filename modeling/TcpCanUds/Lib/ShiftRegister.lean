import Mathlib.Data.List.Basic
import Mathlib.Logic.Function.Iterate
import Mathlib.Tactic.SplitIfs
import Mathlib.Tactic.ByContra

/-!
# ShiftRegister — linear feedback shift registers that read a message bit by bit

A register of `w` bits is shifted towards bit 0; the bit that leaves decides whether the feedback
polynomial is added.  A message bit is added to the bit about to leave.  Everything is linear over
exclusive or, so two messages are told apart exactly when their difference, read into an empty
register, leaves something in it.  The main result is `burst_detected`: a difference that fits into
the register is never lost, however long the message is.
-/

namespace TcpCanUds
namespace Lib
namespace ShiftRegister

variable {w : Nat} (poly : BitVec w)

def shift (s : BitVec w) : BitVec w :=
  if s.getLsbD 0 then (s >>> 1) ^^^ poly else s >>> 1

/-- A register with `b` in bit 0 and nothing else. -/
def bit (b : Bool) : BitVec w :=
  (BitVec.ofBool b).setWidth w

def feed (s : BitVec w) (b : Bool) : BitVec w :=
  shift poly (s ^^^ bit b)

def run (s : BitVec w) (bits : List Bool) : BitVec w :=
  bits.foldl (feed poly) s

/-- The bits of a message side by side in a register, the first one in bit 0. -/
def word (bits : List Bool) : BitVec w :=
  (BitVec.ofBoolListLE bits).setWidth w

/-! ## Linearity -/

theorem shift_xor (s t : BitVec w) : shift poly (s ^^^ t) = shift poly s ^^^ shift poly t := by
  simp only [shift, BitVec.getLsbD_xor, BitVec.ushiftRight_xor_distrib]
  cases s.getLsbD 0 with
  | false =>
      cases t.getLsbD 0 with
      | false => rfl
      | true => exact BitVec.xor_assoc _ _ _
  | true =>
      cases t.getLsbD 0 with
      | false => exact (BitVec.xor_assoc _ _ _).trans ((congrArg _ (BitVec.xor_comm _ _)).trans
          (BitVec.xor_assoc _ _ _).symm)
      | true =>
          -- the polynomial is added twice
          calc
            s >>> 1 ^^^ t >>> 1 = s >>> 1 ^^^ t >>> 1 ^^^ (poly ^^^ poly) := by simp
            _ = (s >>> 1 ^^^ poly) ^^^ (t >>> 1 ^^^ poly) := by ac_rfl

@[simp] theorem shift_zero : shift poly 0#w = 0#w := by
  simp [shift]

theorem iterate_shift_zero (n : Nat) : (shift poly)^[n] 0#w = 0#w :=
  Function.iterate_fixed (shift_zero poly) n

theorem bit_xor (a b : Bool) : bit (w := w) (a ^^ b) = bit a ^^^ bit b := by
  cases a with
  | false => cases b with
    | false => simp [bit]
    | true => simp [bit]
  | true => cases b with
    | false => simp [bit]
    | true => simp [bit]

theorem run_append (s : BitVec w) (bits more : List Bool) :
    run poly s (bits ++ more) = run poly (run poly s bits) more :=
  List.foldl_append

/-- Two messages of one length leave the difference of what each leaves. -/
theorem run_xor {p q : List Bool} (h : p.length = q.length) (s t : BitVec w) :
    run poly (s ^^^ t) (List.zipWith xor p q) = run poly s p ^^^ run poly t q := by
  induction p generalizing q s t with
  | nil =>
      cases q with
      | nil => rfl
      | cons b q => simp at h
  | cons a p ih =>
      cases q with
      | nil => simp at h
      | cons b q =>
          have hfeed : feed poly (s ^^^ t) (a ^^ b) = feed poly s a ^^^ feed poly t b := by
            rw [feed, feed, feed, ← shift_xor, bit_xor]
            congr 1
            ac_rfl
          calc
            run poly (s ^^^ t) (List.zipWith xor (a :: p) (b :: q))
                = run poly (feed poly (s ^^^ t) (a ^^ b)) (List.zipWith xor p q) := rfl
            _ = run poly (feed poly s a ^^^ feed poly t b) (List.zipWith xor p q) := by rw [hfeed]
            _ = run poly (feed poly s a) p ^^^ run poly (feed poly t b) q :=
                ih (Nat.succ.inj h) _ _

/-! ## Short messages -/

theorem getLsbD_word (bits : List Bool) (i : Nat) :
    (word (w := w) bits).getLsbD i = (decide (i < w) && bits.getD i false) := by
  rw [word, BitVec.getLsbD_setWidth, BitVec.getLsbD_ofBoolListLE]

theorem word_cons (b : Bool) (bits : List Bool) :
    word (w := w) (b :: bits) = bit b ^^^ word bits <<< 1 := by
  apply BitVec.eq_of_getLsbD_eq
  intro i hi
  rw [BitVec.getLsbD_xor, BitVec.getLsbD_shiftLeft, getLsbD_word, getLsbD_word, bit,
    BitVec.getLsbD_setWidth, BitVec.getLsbD_ofBool]
  cases i with
  | zero => simp [hi]
  | succ i => simp [hi, Nat.lt_of_succ_lt hi]

/-- A message shorter than the register does not reach its last bit. -/
theorem shift_word_shiftLeft {bits : List Bool} (h : bits.length < w) :
    shift poly (word bits <<< 1) = word bits := by
  have hleaving : (word (w := w) bits <<< 1).getLsbD 0 = false := by simp
  rw [shift, if_neg (by rw [hleaving]; exact Bool.false_ne_true)]
  apply BitVec.eq_of_getLsbD_eq
  intro i hi
  rw [BitVec.getLsbD_ushiftRight, BitVec.getLsbD_shiftLeft, getLsbD_word, getLsbD_word]
  by_cases hlast : i < bits.length
  · have hroom : 1 + i < w := by omega
    simp [hi, hroom]
  · simp [List.getElem?_eq_none (Nat.le_of_not_lt hlast)]

/-- Reading a message that fits into the register is adding it at once and shifting it through. -/
theorem run_eq_iterate {bits : List Bool} (h : bits.length ≤ w) (s : BitVec w) :
    run poly s bits = (shift poly)^[bits.length] (s ^^^ word bits) := by
  induction bits generalizing s with
  | nil => simp [run, word, BitVec.ofBoolListLE]
  | cons b bits ih =>
      calc
        run poly s (b :: bits) = run poly (feed poly s b) bits := rfl
        _ = (shift poly)^[bits.length] (feed poly s b ^^^ word bits) := ih (Nat.le_of_succ_le h) _
        _ = (shift poly)^[bits.length] (shift poly (s ^^^ word (b :: bits))) := by
            rw [word_cons, ← BitVec.xor_assoc, shift_xor, shift_word_shiftLeft poly h]
            rfl
        _ = (shift poly)^[(b :: bits).length] (s ^^^ word (b :: bits)) :=
            (Function.iterate_succ_apply _ _ _).symm

/-! ## Bursts -/

/-- No bits set leave an empty register empty, and shift any other register on. -/
theorem run_false {bits : List Bool} (h : ∀ b ∈ bits, b = false) (s : BitVec w) :
    run poly s bits = (shift poly)^[bits.length] s := by
  induction bits generalizing s with
  | nil => rfl
  | cons b bits ih =>
      have hb : b = false := h b List.mem_cons_self
      have hfeed : feed poly s b = shift poly s := by simp [feed, bit, hb]
      calc
        run poly s (b :: bits) = run poly (shift poly s) bits := by rw [← hfeed]; rfl
        _ = (shift poly)^[bits.length] (shift poly s) :=
            ih (fun c hc => h c (List.mem_cons_of_mem b hc)) _
        _ = (shift poly)^[(b :: bits).length] s := (Function.iterate_succ_apply _ _ _).symm

section
variable {poly} (hpoly : poly.msb = true)
include hpoly

/-- The last bit of the polynomial shows whether it was added, so nothing is lost by a shift. -/
theorem eq_zero_of_shift {s : BitVec w} (h : shift poly s = 0#w) : s = 0#w := by
  have hw : 0 < w := by
    rcases Nat.eq_zero_or_pos w with rfl | hpos
    · exact absurd hpoly (by rw [BitVec.of_length_zero (x := poly)]; decide)
    · exact hpos
  have hlast : (shift poly s).getLsbD (w - 1) = s.getLsbD 0 := by
    rw [BitVec.msb_eq_getLsbD_last] at hpoly
    rw [shift]
    cases hleaving : s.getLsbD 0 with
    | false => simp [show 1 + (w - 1) = w by omega]
    | true => simp [hpoly, show 1 + (w - 1) = w by omega]
  have hleaving : s.getLsbD 0 = false := by
    rw [← hlast, h]
    simp
  rw [shift, if_neg (by rw [hleaving]; exact Bool.false_ne_true)] at h
  apply BitVec.eq_of_getLsbD_eq
  intro i hi
  cases i with
  | zero => simpa using hleaving
  | succ i =>
      have hbit := congrArg (fun x : BitVec w => x.getLsbD i) h
      simpa [Nat.add_comm] using hbit

theorem iterate_shift_ne_zero {s : BitVec w} (h : s ≠ 0#w) (n : Nat) :
    (shift poly)^[n] s ≠ 0#w := by
  induction n generalizing s with
  | zero => exact h
  | succ n ih =>
      rw [Function.iterate_succ_apply]
      apply ih
      intro hs
      exact h (eq_zero_of_shift hpoly hs)

/-- A message whose set bits lie within `w` consecutive positions leaves something in an empty
register. -/
theorem run_burst_ne_zero {bits : List Bool} {k : Nat}
    (hwithin : ∀ i : Nat, bits[i]? = some true → k ≤ i ∧ i < k + w)
    (hset : ∃ i : Nat, bits[i]? = some true) : run poly 0#w bits ≠ 0#w := by
  -- before the burst, the burst, behind the burst
  have hsplit : bits = bits.take k ++ ((bits.drop k).take w ++ (bits.drop k).drop w) := by
    rw [List.take_append_drop, List.take_append_drop]
  have hbefore : ∀ b ∈ bits.take k, b = false := by
    intro b hb
    rcases List.mem_iff_getElem?.1 hb with ⟨i, hi⟩
    rw [List.getElem?_take] at hi
    cases b with
    | false => rfl
    | true =>
        split_ifs at hi with hlt
        exact absurd (hwithin i hi).1 (Nat.not_le_of_lt hlt)
  have hbehind : ∀ b ∈ (bits.drop k).drop w, b = false := by
    intro b hb
    rcases List.mem_iff_getElem?.1 hb with ⟨i, hi⟩
    rw [List.drop_drop, List.getElem?_drop] at hi
    cases b with
    | false => rfl
    | true => exact absurd (hwithin _ hi).2 (by omega)
  have hword : word (w := w) ((bits.drop k).take w) ≠ 0#w := by
    intro hzero
    rcases hset with ⟨i, hi⟩
    rcases hwithin i hi with ⟨hge, hlt⟩
    have hin : i - k < w := by omega
    have hbit : (word (w := w) ((bits.drop k).take w)).getLsbD (i - k) = true := by
      rw [getLsbD_word, List.getD_eq_getElem?_getD, List.getElem?_take, if_pos hin,
        List.getElem?_drop, Nat.add_sub_cancel' hge, hi]
      simp [hin]
    rw [hzero, BitVec.getLsbD_zero] at hbit
    exact Bool.false_ne_true hbit
  have hlen : ((bits.drop k).take w).length ≤ w := by
    rw [List.length_take]
    exact Nat.min_le_left _ _
  rw [hsplit, run_append, run_append, run_false poly hbefore, iterate_shift_zero,
    run_eq_iterate poly hlen, run_false poly hbehind, BitVec.zero_xor]
  exact iterate_shift_ne_zero hpoly (iterate_shift_ne_zero hpoly hword _) _

/-- Two messages of one length whose differing bits lie within `w` consecutive positions leave
different registers. -/
theorem burst_detected {p q : List Bool} (hlen : p.length = q.length) (hne : p ≠ q) {k : Nat}
    (hwithin : ∀ i : Nat, p[i]? ≠ q[i]? → k ≤ i ∧ i < k + w) (s : BitVec w) :
    run poly s p ≠ run poly s q := by
  have hdiff : ∀ i : Nat, (List.zipWith xor p q)[i]? = some true ↔ p[i]? ≠ q[i]? := by
    intro i
    rw [List.getElem?_zipWith]
    by_cases hi : i < p.length
    · rw [List.getElem?_eq_getElem hi, List.getElem?_eq_getElem (hlen ▸ hi)]
      simp
    · rw [List.getElem?_eq_none (Nat.le_of_not_lt hi),
        List.getElem?_eq_none (Nat.le_of_not_lt (hlen ▸ hi))]
      simp
  have hburst : run poly 0#w (List.zipWith xor p q) ≠ 0#w := by
    apply run_burst_ne_zero hpoly (k := k)
    · intro i hi
      exact hwithin i ((hdiff i).1 hi)
    · by_contra hnone
      apply hne
      apply List.ext_getElem?
      intro i
      by_contra hi
      exact hnone ⟨i, (hdiff i).2 hi⟩
  intro heq
  apply hburst
  calc
    run poly 0#w (List.zipWith xor p q) = run poly (s ^^^ s) (List.zipWith xor p q) := by
        rw [BitVec.xor_self]
    _ = run poly s p ^^^ run poly s q := run_xor poly hlen s s
    _ = 0#w := by rw [heq, BitVec.xor_self]

end

end ShiftRegister
end Lib
end TcpCanUds
