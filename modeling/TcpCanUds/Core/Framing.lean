import TcpCanUds.Core.CrcHelper
import TcpCanUds.Lib.Scanner

/-!
# Framing — the TCP packet format both parsers read

A packet is `CD AB type len len payload crc crc`, lengths and checksums little-endian.  This module
says where a parser finds the fields of a frame at the front of its buffer, what a stream of frames
with junk between is, and that a scanner which skips junk and reads frames reads whole streams
(`FrameReader.feedAll_stream`).  Both parsers are instances.
-/

namespace TcpCanUds

open Lib QByteArray

/-! ## The front of a buffer -/

/-- The buffer begins with the magic number. -/
def HasMagic (b : QByteArray) : Prop :=
  b.byteAt 0 = 0xCD ∧ b.byteAt 1 = 0xAB

instance (b : QByteArray) : Decidable (HasMagic b) :=
  inferInstanceAs (Decidable (_ ∧ _))

def announced (b : QByteArray) : Nat :=
  (b.word16At 3).toNat

def totalLen (b : QByteArray) : Nat :=
  5 + announced b + 2

/-- The checksum field fits the payload. -/
def CrcMatches (b : QByteArray) : Prop :=
  b.word16At (5 + announced b) = CrcHelper.calculate (b.mid 5 (announced b))

instance (b : QByteArray) : Decidable (CrcMatches b) :=
  inferInstanceAs (Decidable (_ = _))

theorem le_totalLen (b : QByteArray) : 7 ≤ totalLen b := by
  unfold totalLen
  omega

section

variable {b : QByteArray} (x : QByteArray)

theorem hasMagic_append (h : 5 ≤ b.length) : HasMagic (b ++ x) ↔ HasMagic b := by
  rw [HasMagic, HasMagic, byteAt_append (by omega), byteAt_append (by omega)]

theorem announced_append (h : 5 ≤ b.length) : announced (b ++ x) = announced b := by
  rw [announced, announced, word16At_append (by omega)]

theorem totalLen_append (h : 5 ≤ b.length) : totalLen (b ++ x) = totalLen b := by
  rw [totalLen, totalLen, announced_append x h]

theorem payload_append (h : totalLen b ≤ b.length) :
    (b ++ x).mid 5 (announced (b ++ x)) = b.mid 5 (announced b) := by
  rw [totalLen] at h
  rw [announced_append x (by omega), mid_append (by omega)]

theorem crcMatches_append (h : totalLen b ≤ b.length) : CrcMatches (b ++ x) ↔ CrcMatches b := by
  rw [CrcMatches, CrcMatches, payload_append x h]
  rw [totalLen] at h
  rw [announced_append x (by omega), word16At_append (by omega)]

end

/-! ## Frames -/

/-- A frame with an arbitrary checksum field; the payload fits the 16-bit length. -/
structure Frame where
  type : UInt8
  payload : QByteArray
  crc : UInt16
  fits : payload.length ≤ 65535

namespace Frame

def length (f : Frame) : UInt16 :=
  UInt16.ofNat f.payload.length

def bytes (f : Frame) : QByteArray :=
  [0xCD, 0xAB, f.type] ++ bytes16 f.length ++ f.payload ++ bytes16 f.crc

variable (f : Frame) (x : QByteArray)

@[simp] theorem toNat_length : f.length.toNat = f.payload.length := by
  have hfits := f.fits
  rw [length, UInt16.toNat_ofNat_of_lt']
  exact Nat.lt_succ_of_le hfits

@[simp] theorem length_bytes : f.bytes.length = f.payload.length + 7 := by
  simp only [bytes, bytes16, List.length_append, List.length_cons, List.length_nil]
  omega

theorem bytes_append :
    f.bytes ++ x = 0xCD :: 0xAB :: f.type :: f.length.toUInt8 :: (f.length >>> 8).toUInt8 ::
      (f.payload ++ f.crc.toUInt8 :: (f.crc >>> 8).toUInt8 :: x) := by
  simp [bytes, bytes16]

@[simp] theorem byteAt_zero : (f.bytes ++ x).byteAt 0 = 0xCD := by
  simp [bytes_append]

@[simp] theorem byteAt_one : (f.bytes ++ x).byteAt 1 = 0xAB := by
  simp [bytes_append]

@[simp] theorem byteAt_two : (f.bytes ++ x).byteAt 2 = f.type := by
  simp [bytes_append]

@[simp] theorem word16At_three : (f.bytes ++ x).word16At 3 = f.length := by
  simp [bytes_append, word16At]

@[simp] theorem mid_five : (f.bytes ++ x).mid 5 f.payload.length = f.payload := by
  simp [bytes_append, mid]

@[simp] theorem word16At_crc : (f.bytes ++ x).word16At (5 + f.payload.length) = f.crc := by
  have hlow : byteAt (f.bytes ++ x) (5 + f.payload.length) = f.crc.toUInt8 := by
    simp [bytes_append, byteAt, Nat.add_comm 5]
  have hhigh : byteAt (f.bytes ++ x) (5 + f.payload.length + 1) = (f.crc >>> 8).toUInt8 := by
    simp [bytes_append, byteAt, Nat.add_comm 5]
  rw [word16At, hlow, hhigh, word16_bytes16]

theorem hasMagic : HasMagic (f.bytes ++ x) :=
  ⟨f.byteAt_zero x, f.byteAt_one x⟩

@[simp] theorem announced_eq : announced (f.bytes ++ x) = f.payload.length := by
  simp [announced]

@[simp] theorem totalLen_eq : totalLen (f.bytes ++ x) = f.bytes.length := by
  rw [totalLen, announced_eq, length_bytes]
  omega

theorem crcMatches_iff :
    CrcMatches (f.bytes ++ x) ↔ f.crc = CrcHelper.calculate f.payload := by
  simp [CrcMatches]

end Frame

/-- The frame a buffer begins with, read field by field. -/
def front (b : QByteArray) : Frame where
  type := b.byteAt 2
  payload := b.mid 5 (announced b)
  crc := b.word16At (5 + announced b)
  fits := by
    have hlen := (b.word16At 3).toNat_lt
    have hmid := List.length_take_le (announced b) (b.drop 5)
    unfold mid announced at *
    omega

theorem drop_eq_byteAt_cons {b : QByteArray} {i : Nat} (h : i < b.length) :
    b.drop i = b.byteAt i :: b.drop (i + 1) := by
  rw [byteAt, List.getD_eq_getElem _ _ h, List.drop_eq_getElem_cons h]

theorem drop_eq_bytes16 {b : QByteArray} {i : Nat} (h : i + 1 < b.length) :
    b.drop i = bytes16 (b.word16At i) ++ b.drop (i + 2) := by
  rw [word16At, bytes16_word16, drop_eq_byteAt_cons (by omega), drop_eq_byteAt_cons h]
  rfl

/-- A buffer that holds its front frame whole begins with the bytes of that frame. -/
theorem take_totalLen {b : QByteArray} (hmagic : HasMagic b) (hwhole : totalLen b ≤ b.length) :
    b.take (totalLen b) = (front b).bytes := by
  have hlen : 5 + announced b + 2 ≤ b.length := hwhole
  have hpayload : (front b).payload.length = announced b := by
    simp only [front, mid, List.length_take, List.length_drop]
    omega
  have hfield : (front b).length = b.word16At 3 := by
    apply UInt16.toNat_inj.1
    rw [Frame.toNat_length, hpayload]
    rfl
  -- the fields are read off the buffer from left to right
  have hbytes : b = (front b).bytes ++ b.drop (totalLen b) := by
    calc
      b = b.byteAt 0 :: b.byteAt 1 :: b.byteAt 2 :: b.drop 3 := by
        rw [← drop_eq_byteAt_cons (by omega), ← drop_eq_byteAt_cons (by omega),
          ← drop_eq_byteAt_cons (by omega), List.drop_zero]
      _ = 0xCD :: 0xAB :: b.byteAt 2 :: (bytes16 (b.word16At 3) ++ b.drop 5) := by
        rw [hmagic.1, hmagic.2, drop_eq_bytes16 (by omega)]
      _ = 0xCD :: 0xAB :: b.byteAt 2 :: (bytes16 (b.word16At 3) ++
            (b.mid 5 (announced b) ++ b.drop (5 + announced b))) := by
        rw [mid, ← List.drop_drop, List.take_append_drop]
      _ = (front b).bytes ++ b.drop (totalLen b) := by
        rw [drop_eq_bytes16 (by omega), Frame.bytes, hfield]
        simp only [front, totalLen, List.append_assoc, List.cons_append, List.nil_append]
  have hsize : (front b).bytes.length = totalLen b := by
    rw [Frame.length_bytes, hpayload, totalLen]
    omega
  calc
    b.take (totalLen b) =
        ((front b).bytes ++ b.drop (totalLen b)).take (front b).bytes.length := by
      rw [← hbytes, hsize]
    _ = (front b).bytes := List.take_left

/-! ## Streams -/

/-- Bytes between frames: none of them can begin a magic number. -/
structure Junk where
  bytes : QByteArray
  noMagic : 0xCD ∉ bytes

def Junk.empty : Junk where
  bytes := []
  noMagic := by simp

/-- Frames with junk before each of them, and junk at the end. -/
def stream : List (Junk × Frame) → Junk → QByteArray
  | [], tail => tail.bytes
  | (junk, f) :: items, tail => junk.bytes ++ (f.bytes ++ stream items tail)

theorem stream_frames {α : Type} (frame : α → Frame) (xs : List α) :
    stream (xs.map fun x => (Junk.empty, frame x)) Junk.empty =
      xs.flatMap fun x => (frame x).bytes := by
  induction xs with
  | nil => rfl
  | cons x xs ih =>
      rw [List.map_cons, stream, ih, List.flatMap_cons]
      rfl

/-! ## Reading streams -/

/-- A scanner that waits for `need` bytes, skips what cannot begin a frame byte by byte, and reads
every frame it accepts at the front of the buffer whatever follows. -/
structure FrameReader {ε : Type} (S : Scanner UInt8 ε) where
  need : Nat
  need_le : need ≤ 7
  short : ∀ b : QByteArray, b.length < need → S.verdict b = .wait
  skip : ∀ (a : UInt8) (b : QByteArray), a ≠ 0xCD → need ≤ (a :: b).length →
    S.verdict (a :: b) = .advance 1 []
  accepts : Frame → Prop
  outcome : Frame → List ε
  read : ∀ f, accepts f → ∀ x, S.verdict (f.bytes ++ x) = .advance f.bytes.length (outcome f)

namespace FrameReader

open Scanner

variable {ε : Type} {S : Scanner UInt8 ε} (R : FrameReader S)

theorem reads_junk {junk rest : QByteArray} (hjunk : 0xCD ∉ junk) (hrest : R.need ≤ rest.length) :
    Reads S (junk ++ rest) [] rest := by
  induction junk with
  | nil => exact Reads.refl _
  | cons a junk ih =>
      rcases not_or.1 (mt List.mem_cons.2 hjunk) with ⟨ha, hjunk⟩
      -- `a` cannot begin a frame, and enough bytes follow: one round drops it
      have hv := R.skip a (junk ++ rest) (Ne.symm ha) (by simp; omega)
      exact (Reads.single hv).trans (ih hjunk)

/-- Junk at the end is skipped down to fewer bytes than the scanner needs. -/
theorem reads_tail (R : FrameReader S) {junk : QByteArray} (hjunk : 0xCD ∉ junk) :
    ∃ rest, Reads S junk [] rest ∧ S.verdict rest = .wait := by
  induction junk with
  | nil => exact ⟨[], Reads.refl _, S.wait_nil⟩
  | cons a junk ih =>
      rcases not_or.1 (mt List.mem_cons.2 hjunk) with ⟨ha, hjunk⟩
      by_cases hlen : R.need ≤ (a :: junk).length
      · rcases ih hjunk with ⟨rest, hr, hw⟩
        exact ⟨rest, (Reads.single (R.skip a junk (Ne.symm ha) hlen)).trans hr, hw⟩
      · exact ⟨a :: junk, Reads.refl _, R.short _ (Nat.lt_of_not_le hlen)⟩

theorem reads_frame {f : Frame} (hf : R.accepts f) (x : QByteArray) :
    Reads S (f.bytes ++ x) (R.outcome f) x := by
  simpa using Reads.single (R.read f hf x)

theorem need_le_frame (f : Frame) (x : QByteArray) : R.need ≤ (f.bytes ++ x).length := by
  have hneed := R.need_le
  rw [List.length_append, Frame.length_bytes]
  omega

theorem reads_stream {items : List (Junk × Frame)} (hitems : ∀ i ∈ items, R.accepts i.2)
    (tail : Junk) :
    ∃ rest, Reads S (stream items tail) (items.flatMap fun i => R.outcome i.2) rest ∧
      S.verdict rest = .wait := by
  induction items with
  | nil => exact R.reads_tail tail.noMagic
  | cons i items ih =>
      rcases i with ⟨junk, f⟩
      rcases ih fun j hj => hitems j (by simp [hj]) with ⟨rest, hr, hw⟩
      have hf : R.accepts f := hitems (junk, f) (by simp)
      have hjunk := R.reads_junk junk.noMagic (R.need_le_frame f (stream items tail))
      exact ⟨rest, hjunk.trans ((R.reads_frame hf _).trans hr), hw⟩

/-- However the stream is cut into chunks, the frames come out one after another. -/
theorem feedAll_stream {items : List (Junk × Frame)} (hitems : ∀ i ∈ items, R.accepts i.2)
    {tail : Junk} {chunks : List QByteArray} (hchunks : chunks.flatten = stream items tail) :
    (S.feedAll [] chunks).1 = items.flatMap fun i => R.outcome i.2 := by
  rcases R.reads_stream hitems tail with ⟨rest, hr, hw⟩
  rw [← hchunks] at hr
  rw [S.feedAll_of_reads hr hw]

end FrameReader

end TcpCanUds
