import Mathlib.Data.Nat.Bitwise

/-!
# ByteOrder — little-endian words

Two- and four-byte little-endian words: splitting a word into its bytes, least significant first,
joining the bytes again, and the two round trips.
-/

namespace TcpCanUds
namespace Lib

/-! ## 16-bit words -/

/-- The bytes of a 16-bit word. -/
def bytes16 (x : UInt16) : List UInt8 :=
  [x.toUInt8, (x >>> 8).toUInt8]

def word16 (b₀ b₁ : UInt8) : UInt16 :=
  b₀.toUInt16 ||| (b₁.toUInt16 <<< 8)

/-- Joining by shift and `or` adds, because the low part stays below the shifted one. -/
private theorem or_shiftLeft_eq_add {a b k : Nat} (h : a < 2 ^ k) :
    a ||| b <<< k = a + b <<< k := by
  rw [Nat.or_comm, ← Nat.shiftLeft_add_eq_or_of_lt h, Nat.add_comm]

theorem toNat_word16 (b₀ b₁ : UInt8) :
    (word16 b₀ b₁).toNat = b₀.toNat + 256 * b₁.toNat := by
  have h₀ := b₀.toNat_lt
  have h₁ := b₁.toNat_lt
  have hor := or_shiftLeft_eq_add (b := b₁.toNat) (k := 8) h₀
  simp only [word16, UInt16.toNat_or, UInt16.toNat_shiftLeft, UInt8.toNat_toUInt16]
  rw [show (UInt16.toNat 8 % 16) = 8 from rfl, Nat.mod_eq_of_lt, hor]
  · rw [Nat.shiftLeft_eq]
    omega
  · rw [Nat.shiftLeft_eq]
    omega

@[simp] theorem word16_bytes16 (x : UInt16) :
    word16 x.toUInt8 (x >>> 8).toUInt8 = x := by
  apply UInt16.toNat_inj.1
  have hx := x.toNat_lt
  rw [toNat_word16]
  simp only [UInt16.toNat_toUInt8, UInt16.toNat_shiftRight]
  rw [show (UInt16.toNat 8 % 16) = 8 from rfl, Nat.shiftRight_eq_div_pow]
  omega

theorem bytes16_word16 (b₀ b₁ : UInt8) : bytes16 (word16 b₀ b₁) = [b₀, b₁] := by
  have h₀ := b₀.toNat_lt
  have h₁ := b₁.toNat_lt
  have hlow : (word16 b₀ b₁).toUInt8 = b₀ := by
    apply UInt8.toNat_inj.1
    rw [UInt16.toNat_toUInt8, toNat_word16]
    omega
  have hhigh : (word16 b₀ b₁ >>> 8).toUInt8 = b₁ := by
    apply UInt8.toNat_inj.1
    rw [UInt16.toNat_toUInt8, UInt16.toNat_shiftRight, toNat_word16,
      show (UInt16.toNat 8 % 16) = 8 from rfl, Nat.shiftRight_eq_div_pow]
    omega
  simp [bytes16, hlow, hhigh]

/-- Keeping the low eight bits before the cut to a byte changes nothing. -/
theorem bytes16_masked (x : UInt16) :
    [(x &&& 0xFF).toUInt8, ((x >>> 8) &&& 0xFF).toUInt8] = bytes16 x := by
  have mask : ∀ y : UInt16, (y &&& 0xFF).toUInt8 = y.toUInt8 := by
    intro y
    apply UInt8.toNat_inj.1
    simpa using Nat.and_two_pow_sub_one_eq_mod (y.toNat % 256) 8
  simp [mask, bytes16]

theorem bytes16_ofNat (n : Nat) :
    [UInt8.ofNat (n &&& 0xFF), UInt8.ofNat ((n >>> 8) &&& 0xFF)] = bytes16 (UInt16.ofNat n) := by
  have mask : ∀ k : Nat, k &&& 0xFF = k % 2 ^ 8 := fun k => Nat.and_two_pow_sub_one_eq_mod k 8
  have hlow : UInt8.ofNat (n &&& 0xFF) = (UInt16.ofNat n).toUInt8 := by
    apply UInt8.toNat_inj.1
    rw [mask]
    simp
  have hhigh : UInt8.ofNat ((n >>> 8) &&& 0xFF) = (UInt16.ofNat n >>> 8).toUInt8 := by
    apply UInt8.toNat_inj.1
    rw [mask]
    simp [Nat.shiftRight_eq_div_pow]
    omega
  rw [hlow, hhigh]
  rfl

/-! ## 32-bit words -/

def bytes32 (x : UInt32) : List UInt8 :=
  [x.toUInt8, (x >>> 8).toUInt8, (x >>> 16).toUInt8, (x >>> 24).toUInt8]

def word32 (b₀ b₁ b₂ b₃ : UInt8) : UInt32 :=
  b₀.toUInt32 ||| (b₁.toUInt32 <<< 8) ||| (b₂.toUInt32 <<< 16) ||| (b₃.toUInt32 <<< 24)

@[simp] theorem length_bytes32 (x : UInt32) : (bytes32 x).length = 4 := rfl

theorem toNat_word32 (b₀ b₁ b₂ b₃ : UInt8) :
    (word32 b₀ b₁ b₂ b₃).toNat =
      b₀.toNat + 256 * b₁.toNat + 65536 * b₂.toNat + 16777216 * b₃.toNat := by
  have h₀ := b₀.toNat_lt
  have h₁ := b₁.toNat_lt
  have h₂ := b₂.toNat_lt
  have h₃ := b₃.toNat_lt
  -- no byte is shifted out of the word, so every shift is a plain product
  have shift : ∀ (b : UInt8) (k : Nat), k < 25 → (b.toNat <<< k) % 2 ^ 32 = b.toNat <<< k := by
    intro b k hk
    rw [Nat.mod_eq_of_lt]
    rw [Nat.shiftLeft_eq]
    have hb := b.toNat_lt
    calc
      b.toNat * 2 ^ k ≤ 255 * 2 ^ 24 :=
        Nat.mul_le_mul (by omega) (Nat.pow_le_pow_right (by omega) (by omega))
      _ < 2 ^ 32 := by decide
  simp only [word32, UInt32.toNat_or, UInt32.toNat_shiftLeft, UInt8.toNat_toUInt32]
  rw [show (UInt32.toNat 8 % 32) = 8 from rfl, show (UInt32.toNat 16 % 32) = 16 from rfl,
    show (UInt32.toNat 24 % 32) = 24 from rfl, shift b₁ 8 (by omega), shift b₂ 16 (by omega),
    shift b₃ 24 (by omega)]
  have s₁ : b₁.toNat <<< 8 = b₁.toNat * 256 := Nat.shiftLeft_eq _ _
  have s₂ : b₂.toNat <<< 16 = b₂.toNat * 65536 := Nat.shiftLeft_eq _ _
  have s₃ : b₃.toNat <<< 24 = b₃.toNat * 16777216 := Nat.shiftLeft_eq _ _
  -- the bytes are joined one after another, each above what is already there
  have j₁ := or_shiftLeft_eq_add (b := b₁.toNat) (k := 8) h₀
  have j₂ := or_shiftLeft_eq_add (a := b₀.toNat + b₁.toNat <<< 8) (b := b₂.toNat) (k := 16)
    (by omega)
  have j₃ := or_shiftLeft_eq_add (a := b₀.toNat + b₁.toNat <<< 8 + b₂.toNat <<< 16)
    (b := b₃.toNat) (k := 24) (by omega)
  rw [j₁, j₂, j₃]
  omega

theorem word32_bytes32 (x : UInt32) :
    word32 x.toUInt8 (x >>> 8).toUInt8 (x >>> 16).toUInt8 (x >>> 24).toUInt8 = x := by
  apply UInt32.toNat_inj.1
  have hx := x.toNat_lt
  rw [toNat_word32]
  simp only [UInt32.toNat_toUInt8, UInt32.toNat_shiftRight]
  rw [show (UInt32.toNat 8 % 32) = 8 from rfl, show (UInt32.toNat 16 % 32) = 16 from rfl,
    show (UInt32.toNat 24 % 32) = 24 from rfl]
  simp only [Nat.shiftRight_eq_div_pow]
  omega

end Lib
end TcpCanUds
