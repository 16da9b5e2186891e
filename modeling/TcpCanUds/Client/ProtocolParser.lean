import TcpCanUds.Core.Framing
import TcpCanUds.Core.UdsHelper
import Mathlib.Tactic.SplitIfs

/-!
# ProtocolParser — the TCP parser of the client (`core/protocol_parser.cpp`)

The client's loop wants seven bytes, has no limit on the payload, and on a wrong checksum drops the
whole frame with one `parseError`.  So every frame has exactly one outcome, whatever its checksum
field holds.
-/

namespace TcpCanUds
namespace Client

open Lib QByteArray

inductive ParserSignal
  | canFrameReady (frame : CanFrameData)
  | udsMessageReady (response : UDSMessage)
  | parseError (msg : String)
  deriving DecidableEq, Repr

namespace ProtocolParser

/-- What a complete frame leads to: the error of the checksum test, or the dispatch on the type. -/
inductive Outcome
  | parseError (type : UInt8)
  | dispatch (type : UInt8) (payload : QByteArray)
  deriving DecidableEq, Repr

/-- The signals behind an outcome; `mem` is the memory under the message that
`deserializeUDSMessage` declares. -/
def Outcome.signals (mem : UDSMessage.Memory) : Outcome → List ParserSignal
  | .parseError type => [.parseError ("CRC Error! Type=" ++ toString type.toNat)]
  | .dispatch type payload =>
      if type = 1 then
        if 4 ≤ payload.length then
          let len := (UInt16.ofNat payload.length - 4).toUInt8
          if len ≤ 8 then
            [.canFrameReady
              { id := payload.word32At 0, data := payload.mid 4 len.toNat, len := len }]
          else []
        else []
      else if type = 2 then []
      else if type = 3 then [.udsMessageReady (deserializeUDSMessage mem payload)]
      else []

/-! ## One round -/

/-- One round of the `while` loop on `m_buffer`. -/
def look (m_buffer : QByteArray) : Verdict Outcome :=
  if m_buffer.length < 7 then .wait
  else if m_buffer.word16At 0 ≠ 0xABCD then .advance 1 []
  else
    let type := m_buffer.byteAt 2
    let length := m_buffer.word16At 3
    let totalLen := 5 + length.toNat + 2
    if m_buffer.length < totalLen then .wait
    else
      let payload := m_buffer.mid 5 length.toNat
      let receivedCRC := m_buffer.word16At (5 + length.toNat)
      -- unlike the server, the client drops the damaged frame as a whole
      if receivedCRC ≠ CrcHelper.calculate payload then .advance totalLen [.parseError type]
      else .advance totalLen [.dispatch type payload]

theorem word16At_zero_eq_iff (b : QByteArray) : b.word16At 0 = 0xABCD ↔ HasMagic b := by
  constructor
  · intro h
    have hbytes := bytes16_word16 (b.byteAt 0) (b.byteAt 1)
    rw [show word16 (b.byteAt 0) (b.byteAt 1) = 0xABCD from h] at hbytes
    exact ⟨(List.cons.inj hbytes).1.symm, (List.cons.inj (List.cons.inj hbytes).2).1.symm⟩
  · rintro ⟨h₀, h₁⟩
    rw [word16At, h₀, h₁]
    decide

inductive Looks (b : QByteArray) : Verdict Outcome → Prop
  | short (hlen : b.length < 7) : Looks b .wait
  | badMagic (hlen : 7 ≤ b.length) (hmagic : ¬ HasMagic b) : Looks b (.advance 1 [])
  | incomplete (hlen : 7 ≤ b.length) (hmagic : HasMagic b) (hpart : b.length < totalLen b) :
      Looks b .wait
  | badCrc (hmagic : HasMagic b) (hwhole : totalLen b ≤ b.length) (hcrc : ¬ CrcMatches b) :
      Looks b (.advance (totalLen b) [.parseError (b.byteAt 2)])
  | packet (hmagic : HasMagic b) (hwhole : totalLen b ≤ b.length) (hcrc : CrcMatches b) :
      Looks b (.advance (totalLen b) [.dispatch (b.byteAt 2) (b.mid 5 (announced b))])

theorem looks_look (b : QByteArray) : Looks b (look b) := by
  unfold look
  simp only
  split_ifs with hshort hmagic hpart hcrc
  · exact .short hshort
  · exact .badMagic (Nat.le_of_not_lt hshort) (mt (word16At_zero_eq_iff b).2 hmagic)
  all_goals
    have hm : HasMagic b := (word16At_zero_eq_iff b).1 (not_not.1 hmagic)
  · exact .incomplete (Nat.le_of_not_lt hshort) hm hpart
  · exact .badCrc hm (Nat.le_of_not_lt hpart) hcrc
  · exact .packet hm (Nat.le_of_not_lt hpart) (not_not.1 hcrc)

theorem Looks.look_eq {b : QByteArray} {v : Verdict Outcome} (h : Looks b v) : look b = v := by
  have hl := looks_look b
  have htotal := le_totalLen b
  generalize look b = w at hl
  -- two different exits contradict each other in a length or in a test
  cases h <;> cases hl <;> first | rfl | omega | contradiction

theorem look_bounds {b : QByteArray} {n : Nat} {out : List Outcome}
    (h : look b = .advance n out) : 0 < n ∧ n ≤ b.length := by
  have hl := looks_look b
  have htotal := le_totalLen b
  rw [h] at hl
  cases hl with
  | badMagic hlen => exact ⟨Nat.one_pos, by omega⟩
  | badCrc _ hwhole => exact ⟨by omega, hwhole⟩
  | packet _ hwhole => exact ⟨by omega, hwhole⟩

theorem Looks.append {b : QByteArray} {v : Verdict Outcome} (h : Looks b v) (hv : v ≠ .wait)
    (x : QByteArray) : Looks (b ++ x) v := by
  have hle : b.length ≤ (b ++ x).length := by simp
  have htotal := le_totalLen b
  cases h with
  | short | incomplete => exact absurd rfl hv
  | badMagic hlen hmagic =>
      exact .badMagic (hlen.trans hle) (mt (hasMagic_append x (by omega)).1 hmagic)
  | badCrc hmagic hwhole hcrc =>
      have hlen : 5 ≤ b.length := by omega
      have hp := Looks.badCrc (b := b ++ x) ((hasMagic_append x hlen).2 hmagic)
        (by rw [totalLen_append x hlen]; exact hwhole.trans hle)
        (mt (crcMatches_append x hwhole).1 hcrc)
      rwa [totalLen_append x hlen, byteAt_append (by omega)] at hp
  | packet hmagic hwhole hcrc =>
      have hlen : 5 ≤ b.length := by omega
      have hp := Looks.packet (b := b ++ x) ((hasMagic_append x hlen).2 hmagic)
        (by rw [totalLen_append x hlen]; exact hwhole.trans hle)
        ((crcMatches_append x hwhole).2 hcrc)
      rwa [totalLen_append x hlen, payload_append x hwhole, byteAt_append (by omega)] at hp

theorem look_append (b x : QByteArray) (h : look b ≠ .wait) : look (b ++ x) = look b :=
  ((looks_look b).append h x).look_eq

/-! ## The loop -/

def parser : Scanner UInt8 Outcome where
  verdict := look
  wait_nil := rfl
  advance_bounds := look_bounds
  stable := look_append

@[simp] theorem parser_verdict (b : QByteArray) : parser.verdict b = look b := rfl

/-- `protocol_parser::pushData`: the outcomes and the new `m_buffer`. -/
def pushData (m_buffer data : QByteArray) : List Outcome × QByteArray :=
  parser.feed m_buffer data

/-- Successive calls of `pushData` on a fresh parser. -/
def pushAll (chunks : List QByteArray) : List Outcome × QByteArray :=
  parser.feedAll [] chunks

/-! ## The cut into chunks -/

/-- Unlike the server's, this parser never throws its buffer away. -/
theorem not_flush (b : QByteArray) : look b ≠ .flush := by
  intro h
  have hl := looks_look b
  rw [h] at hl
  cases hl

theorem drain_not_flushed (b : QByteArray) : (parser.drain b).flushed = false := by
  cases h : (parser.drain b).flushed with
  | false => rfl
  | true =>
      rcases (parser.flushed_iff b).1 h with ⟨os, rest, -, hflush⟩
      exact absurd hflush (not_flush rest)

/-- The calls of `pushData` come to one run of the loop on the whole stream. -/
theorem pushAll_eq_drain (chunks : List QByteArray) :
    pushAll chunks = ((parser.drain chunks.flatten).out, (parser.drain chunks.flatten).rest) :=
  parser.feedAll_of_not_flushed (drain_not_flushed chunks.flatten)

/-- Outcomes and buffer do not depend on the cut into chunks. -/
def SplitIndependent (w : QByteArray) : Prop :=
  ∀ xs ys : List QByteArray, xs.flatten = w → ys.flatten = w → pushAll xs = pushAll ys

/-- Every stream is read the same way however it is cut, also one with false headers and wrong
lengths. -/
theorem splitIndependent (w : QByteArray) : SplitIndependent w := by
  intro xs ys hxs hys
  rw [pushAll_eq_drain, pushAll_eq_drain, hxs, hys]

/-! ## Streams of frames -/

/-- The outcome of a frame: an error when the checksum field does not fit the payload. -/
def frameOutcome (f : Frame) : Outcome :=
  if f.crc = CrcHelper.calculate f.payload then .dispatch f.type f.payload
  else .parseError f.type

def frameReader : FrameReader parser where
  need := 7
  need_le := Nat.le_refl 7
  short b h := (Looks.short h).look_eq
  skip a b ha hlen := (Looks.badMagic hlen fun hm => ha hm.1).look_eq
  accepts _ := True
  outcome f := [frameOutcome f]
  read f _ x := by
    by_cases hcrc : f.crc = CrcHelper.calculate f.payload
    · have hp := Looks.packet (b := f.bytes ++ x) (f.hasMagic x) (by simp)
        ((f.crcMatches_iff x).2 hcrc)
      simpa [frameOutcome, hcrc] using hp.look_eq
    · have hp := Looks.badCrc (b := f.bytes ++ x) (f.hasMagic x) (by simp)
        (mt (f.crcMatches_iff x).1 hcrc)
      simpa [frameOutcome, hcrc] using hp.look_eq

/-- Every frame of a stream has exactly its own outcome, in order, whatever junk lies between and
however the stream is cut. -/
theorem outcomes_pushAll {items : List (Junk × Frame)} {tail : Junk}
    {chunks : List QByteArray} (h : chunks.flatten = stream items tail) :
    (pushAll chunks).1 = items.map fun i => frameOutcome i.2 := by
  rw [pushAll, frameReader.feedAll_stream (fun _ _ => trivial) h]
  exact List.map_eq_flatMap.symm

/-- A frame with a wrong checksum, one junk byte, and a good frame, cut inside the first. -/
theorem outcomes_pushAll_sample :
    (pushAll
        [[0xCD, 0xAB, 0x03, 0x02], [0x00, 0x3E, 0x00, 0x11, 0xD1, 0x7F],
          [0xCD, 0xAB, 0x03, 0x02, 0x00, 0x3E, 0x00, 0x11, 0xD0]]).1 =
      [.parseError 3, .dispatch 3 [0x3E, 0x00]] := by
  rw [@outcomes_pushAll
    [(Junk.empty, ⟨3, [0x3E, 0x00], 0xD111, by decide⟩),
      (⟨[0x7F], by decide⟩, ⟨3, [0x3E, 0x00], 0xD011, by decide⟩)]
    Junk.empty _ (by decide +kernel)]
  decide +kernel

end ProtocolParser
end Client
end TcpCanUds
