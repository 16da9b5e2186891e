import TcpCanUds.Core.Types
import TcpCanUds.Lib.ShiftRegister

/-!
# CrcHelper — the CRC-16 of the TCP framing (`core/CRC_helper.h`)

Client and server carry the same header.  The two loops are a shift register of sixteen bits that
reads the bytes with the least significant bit first (`toBitVec_calculate`), so the checksum shows
every burst of errors of at most sixteen bits.
-/

namespace TcpCanUds

open Lib

namespace CrcHelper

/-- One round of the inner loop. -/
def shiftBit (crc : UInt16) : UInt16 :=
  if crc &&& 0x0001 ≠ 0 then (crc >>> 1) ^^^ 0xA001 else crc >>> 1

/-- One round of the outer loop: xor the byte in, then eight bit rounds. -/
def update (crc : UInt16) (byte : UInt8) : UInt16 :=
  Nat.repeat shiftBit 8 (crc ^^^ byte.toUInt16)

/-- `CRC_helper::calculate`. -/
def calculate (data : QByteArray) : UInt16 :=
  data.foldl update 0xFFFF

/-! ## The loops as a shift register -/

def byteBits (byte : UInt8) : List Bool :=
  (List.range 8).map byte.toBitVec.getLsbD

/-- The bits of a byte string in the order in which they are transmitted. -/
def bits (data : QByteArray) : List Bool :=
  data.flatMap byteBits

theorem length_byteBits (byte : UInt8) : (byteBits byte).length = 8 := by
  simp [byteBits]

theorem length_bits (data : QByteArray) : (bits data).length = data.length * 8 := by
  simp [bits, length_byteBits, List.length_flatMap]

theorem byteBits_injective : Function.Injective byteBits := by
  intro a b h
  apply UInt8.toBitVec_inj.1
  apply BitVec.eq_of_getLsbD_eq
  intro i hi
  exact List.map_inj_left.1 h i (List.mem_range.2 hi)

theorem bits_injective : Function.Injective bits := by
  intro p q h
  induction p generalizing q with
  | nil =>
      have hlen := congrArg List.length h
      rw [length_bits, length_bits] at hlen
      exact (List.length_eq_zero_iff.1 (by simpa using hlen.symm)).symm
  | cons a p ih =>
      cases q with
      | nil =>
          have hlen := congrArg List.length h
          rw [length_bits, length_bits] at hlen
          simp at hlen
      | cons b q =>
          have hsplit : byteBits a ++ bits p = byteBits b ++ bits q := h
          rcases List.append_inj hsplit ((length_byteBits a).trans (length_byteBits b).symm)
            with ⟨hbyte, hrest⟩
          rw [byteBits_injective hbyte, ih hrest]

/-- The bits of a byte in a register of sixteen are the byte in its lower half. -/
theorem word_byteBits (byte : UInt8) :
    ShiftRegister.word (w := 16) (byteBits byte) = byte.toUInt16.toBitVec := by
  apply BitVec.eq_of_getLsbD_eq
  intro i hi
  rw [ShiftRegister.getLsbD_word, UInt8.toBitVec_toUInt16, BitVec.getLsbD_setWidth]
  by_cases hbyte : i < 8
  · simp [byteBits, hi, hbyte]
  · have hout : byte.toBitVec.getLsbD i = false :=
      BitVec.getLsbD_of_ge byte.toBitVec i (Nat.le_of_not_lt hbyte)
    simp [byteBits, hi, hbyte, hout]

theorem toBitVec_shiftBit (crc : UInt16) :
    (shiftBit crc).toBitVec = ShiftRegister.shift 0xA001#16 crc.toBitVec := by
  have hbit : crc &&& 0x0001 ≠ 0 ↔ crc.toBitVec.getLsbD 0 = true := by
    rw [ne_eq, ← UInt16.toBitVec_inj, UInt16.toBitVec_and]
    change ¬ crc.toBitVec &&& 1#16 = 0#16 ↔ _
    rw [BitVec.and_one_eq_setWidth_ofBool_getLsbD]
    cases crc.toBitVec.getLsbD 0 with
    | false => decide
    | true => decide
  rw [shiftBit, ShiftRegister.shift]
  by_cases h : crc &&& 0x0001 ≠ 0
  · rw [if_pos h, if_pos (hbit.1 h)]
    rfl
  · rw [if_neg h, if_neg (mt hbit.2 h)]
    rfl

theorem toBitVec_repeat_shiftBit (n : Nat) (crc : UInt16) :
    (Nat.repeat shiftBit n crc).toBitVec = (ShiftRegister.shift 0xA001#16)^[n] crc.toBitVec := by
  induction n with
  | zero => rfl
  | succ n ih => rw [Nat.repeat, toBitVec_shiftBit, ih, Function.iterate_succ_apply']

/-- One round of the outer loop reads the eight bits of the byte. -/
theorem toBitVec_update (crc : UInt16) (byte : UInt8) :
    (update crc byte).toBitVec = ShiftRegister.run 0xA001#16 crc.toBitVec (byteBits byte) := by
  have hlen : (byteBits byte).length ≤ 16 := by rw [length_byteBits]; decide
  rw [ShiftRegister.run_eq_iterate _ hlen, word_byteBits, length_byteBits, update,
    toBitVec_repeat_shiftBit, UInt16.toBitVec_xor]

theorem toBitVec_calculate (data : QByteArray) :
    (calculate data).toBitVec = ShiftRegister.run 0xA001#16 0xFFFF#16 (bits data) := by
  have key : ∀ crc : UInt16, (data.foldl update crc).toBitVec =
      ShiftRegister.run 0xA001#16 crc.toBitVec (bits data) := by
    induction data with
    | nil => intro crc; rfl
    | cons byte data ih =>
        intro crc
        calc
          ((byte :: data).foldl update crc).toBitVec
              = ShiftRegister.run 0xA001#16 (update crc byte).toBitVec (bits data) := ih _
          _ = ShiftRegister.run 0xA001#16
                (ShiftRegister.run 0xA001#16 crc.toBitVec (byteBits byte)) (bits data) := by
              rw [toBitVec_update]
          _ = ShiftRegister.run 0xA001#16 crc.toBitVec (bits (byte :: data)) :=
              (ShiftRegister.run_append _ _ _ _).symm
  exact key 0xFFFF

/-- Damage within sixteen consecutive bits changes the checksum. -/
theorem calculate_ne {p p' : QByteArray} (hlen : p'.length = p.length) (hne : p' ≠ p) {k : Nat}
    (hwithin : ∀ i : Nat, (bits p')[i]? ≠ (bits p)[i]? → k ≤ i ∧ i < k + 16) :
    calculate p' ≠ calculate p := by
  have hbits : (bits p').length = (bits p).length := by rw [length_bits, length_bits, hlen]
  have hpoly : (0xA001#16).msb = true := by decide
  have hrun := ShiftRegister.burst_detected hpoly hbits (mt (@bits_injective p' p) hne) hwithin
    0xFFFF#16
  rw [← toBitVec_calculate, ← toBitVec_calculate] at hrun
  exact mt UInt16.toBitVec_inj.2 hrun

end CrcHelper
end TcpCanUds
