import Mathlib.Algebra.Group.Nat.Defs
import Mathlib.Data.List.Basic

/-!
# Decimal — the decimal text of a number as bytes

`Nat.repr` in UTF-8: one ASCII byte for each decimal digit, most significant first.
-/

namespace TcpCanUds
namespace Lib

/-- The ASCII byte of a decimal digit. -/
def digitByte (d : Nat) : UInt8 :=
  UInt8.ofNat (48 + d)

/-- The decimal text of a number, in UTF-8. -/
def decimalBytes (n : Nat) : List UInt8 :=
  (Nat.repr n).toUTF8.data.toList

theorem toNat_digitByte {d : Nat} (h : d < 10) : (digitByte d).toNat = 48 + d := by
  rw [digitByte, UInt8.toNat_ofNat']
  omega

theorem utf8_ofList (l : List Char) :
    (String.ofList l).toUTF8.data.toList = l.flatMap String.utf8EncodeChar := by
  simp only [String.toUTF8, String.toByteArray_ofList]
  induction l with
  | nil => rfl
  | cons c l ih =>
      rw [List.utf8Encode_cons, List.utf8Encode_singleton]
      simp [ih]

theorem decimalBytes_eq (n : Nat) :
    decimalBytes n = (Nat.toDigits 10 n).flatMap String.utf8EncodeChar := by
  rw [decimalBytes, Nat.repr_eq_ofList_toDigits, utf8_ofList]

theorem utf8EncodeChar_digitChar {d : Nat} (h : d < 10) :
    String.utf8EncodeChar d.digitChar = [digitByte d] := by
  have all : ∀ k : Fin 10, String.utf8EncodeChar k.val.digitChar = [digitByte k.val] := by decide
  exact all ⟨d, h⟩

theorem decimalBytes_of_lt {n : Nat} (h : n < 10) : decimalBytes n = [digitByte n] := by
  rw [decimalBytes_eq, Nat.toDigits_of_lt_base h]
  simp [utf8EncodeChar_digitChar h]

theorem decimalBytes_of_ge {n : Nat} (h : 10 ≤ n) :
    decimalBytes n = decimalBytes (n / 10) ++ [digitByte (n % 10)] := by
  rw [decimalBytes_eq, Nat.toDigits_of_base_le (by decide) h, decimalBytes_eq]
  simp [utf8EncodeChar_digitChar (Nat.mod_lt n (by decide : 10 > 0))]

/-- Every byte of a decimal text is a digit. -/
theorem digit_of_mem_decimalBytes {n : Nat} {b : UInt8} (h : b ∈ decimalBytes n) :
    48 ≤ b.toNat ∧ b.toNat ≤ 57 := by
  induction n using Nat.strongRecOn with
  | _ n ih =>
      by_cases hlt : n < 10
      · rw [decimalBytes_of_lt hlt, List.mem_singleton] at h
        rw [h, toNat_digitByte hlt]
        omega
      · rw [decimalBytes_of_ge (Nat.le_of_not_lt hlt), List.mem_append, List.mem_singleton] at h
        rcases h with h | h
        · exact ih (n / 10) (by omega) h
        · rw [h, toNat_digitByte (Nat.mod_lt n (by decide))]
          omega

/-- The text of a number with more than `k` digits begins with the text of the number without
its last `k` digits. -/
theorem decimalBytes_prefix {n k : Nat} (h : 10 ^ k ≤ n) :
    ∃ tail, decimalBytes n = decimalBytes (n / 10 ^ k) ++ tail ∧ tail.length = k := by
  induction k generalizing n with
  | zero => exact ⟨[], by simp⟩
  | succ k ih =>
      have hten : 10 ≤ n := by
        calc
          10 = 10 ^ 1 := rfl
          _ ≤ 10 ^ (k + 1) := Nat.pow_le_pow_right (by decide) (by omega)
          _ ≤ n := h
      have hdiv : 10 ^ k ≤ n / 10 := by
        rw [Nat.le_div_iff_mul_le (by decide)]
        exact h
      rcases ih hdiv with ⟨tail, htail, hlen⟩
      refine ⟨tail ++ [digitByte (n % 10)], ?_, by simp [hlen]⟩
      rw [decimalBytes_of_ge hten, htail, Nat.div_div_eq_div_mul, List.append_assoc,
        Nat.pow_succ, Nat.mul_comm 10]

theorem decimalBytes_four {n : Nat} (h : 1000 ≤ n) (h' : n < 10000) :
    decimalBytes n = [digitByte (n / 1000), digitByte (n / 100 % 10), digitByte (n / 10 % 10),
      digitByte (n % 10)] := by
  rw [decimalBytes_of_ge (by omega), decimalBytes_of_ge (by omega), decimalBytes_of_ge (by omega),
    decimalBytes_of_lt (by omega)]
  simp only [Nat.div_div_eq_div_mul]
  rfl

theorem length_decimalBytes_le {n k : Nat} (h : n < 10 ^ (k + 1)) :
    (decimalBytes n).length ≤ k + 1 := by
  induction k generalizing n with
  | zero =>
      rw [decimalBytes_of_lt h]
      exact Nat.le_refl 1
  | succ k ih =>
      by_cases hten : n < 10
      · rw [decimalBytes_of_lt hten]
        exact Nat.le_add_left 1 (k + 1)
      · have hdiv : n / 10 < 10 ^ (k + 1) := Nat.div_lt_of_lt_mul (by rwa [Nat.mul_comm, ← Nat.pow_succ])
        rw [decimalBytes_of_ge (Nat.le_of_not_lt hten), List.length_append]
        exact Nat.succ_le_succ (ih hdiv)

end Lib
end TcpCanUds
