import TcpCanUds.Client.ProtocolParser
import TcpCanUds.Server.ProtocolParser

/-!
# ParserGuards — what both parsers do against any input

Whatever bytes arrive, the loop ends and keeps less than one packet, and a packet whose payload was
damaged within sixteen bits does not pass the checksum.
-/

namespace TcpCanUds

open Lib QByteArray

/-! ## The residue -/

namespace Server.ProtocolParser

/-- What is kept is too short for a header, or the beginning of a packet of at most 1024 bytes. -/
theorem residue_of_wait {b : QByteArray} (h : look b = .wait) :
    (b.length < 5 ∨ HasMagic b ∧ b.length < totalLen b) ∧ b.length ≤ 1030 := by
  have hl := looks_look b
  rw [h] at hl
  cases hl with
  | short hlen => exact ⟨.inl hlen, by omega⟩
  | incomplete hlen hmagic hfit hpart =>
      refine ⟨.inr ⟨hmagic, hpart⟩, ?_⟩
      rw [totalLen] at hpart
      omega

end Server.ProtocolParser

namespace Client.ProtocolParser

/-- What is kept is too short for an empty packet, or the beginning of a packet. -/
theorem residue_of_wait {b : QByteArray} (h : look b = .wait) :
    (b.length < 7 ∨ HasMagic b ∧ b.length < totalLen b) ∧ b.length ≤ 65541 := by
  have hl := looks_look b
  rw [h] at hl
  cases hl with
  | short hlen => exact ⟨.inl hlen, by omega⟩
  | incomplete hlen hmagic hpart =>
      refine ⟨.inr ⟨hmagic, hpart⟩, ?_⟩
      have hword : announced b < 65536 := UInt16.toNat_lt _
      rw [totalLen] at hpart
      omega

end Client.ProtocolParser

/-- The result of a `pushData` call whose loop is that of `S`: the loop ends after at most as many
rounds as there are bytes, and leaves fewer than `least` bytes or fewer than the packet they begin
announces, in any case at most `most`. -/
structure Settles {ε : Type*} (S : Scanner UInt8 ε) (least most : Nat)
    (m_buffer data : QByteArray) (result : List ε × QByteArray) : Prop where
  ends : ∃ rounds ≤ (m_buffer ++ data).length,
    S.Loops (m_buffer ++ data) rounds result.1 result.2
  unfinished : result.2.length < least ∨ HasMagic result.2 ∧ result.2.length < totalLen result.2
  bounded : result.2.length ≤ most

/-- Both parsers settle after every chunk, whatever earlier calls left in `m_buffer`. -/
theorem pushData_settles (m_buffer data : QByteArray) :
    Settles Server.ProtocolParser.parser 5 1030 m_buffer data
        (Server.ProtocolParser.pushData m_buffer data) ∧
      Settles Client.ProtocolParser.parser 7 65541 m_buffer data
        (Client.ProtocolParser.pushData m_buffer data) := by
  constructor
  · have hwait := Server.ProtocolParser.parser.verdict_rest (m_buffer ++ data)
    rcases Server.ProtocolParser.residue_of_wait hwait with ⟨hunfinished, hbounded⟩
    exact ⟨Server.ProtocolParser.parser.loops_drain _, hunfinished, hbounded⟩
  · have hwait := Client.ProtocolParser.parser.verdict_rest (m_buffer ++ data)
    rcases Client.ProtocolParser.residue_of_wait hwait with ⟨hunfinished, hbounded⟩
    exact ⟨Client.ProtocolParser.parser.loops_drain _, hunfinished, hbounded⟩

/-! ## The checksum -/

/-- The packet at the front of the buffer fails the comparison of the checksums: the server drops its
first byte unless its length alone makes it clear the buffer, the client reports an error. -/
structure Refused (f : Frame) (behind : QByteArray) : Prop where
  crc : ¬ CrcMatches (f.bytes ++ behind)
  server : f.payload.length ≤ 1024 →
    Server.ProtocolParser.look (f.bytes ++ behind) = .advance 1 []
  client : Client.ProtocolParser.look (f.bytes ++ behind) =
    .advance f.bytes.length [.parseError f.type]

theorem refused_of_crc {f : Frame} (h : f.crc ≠ CrcHelper.calculate f.payload)
    (behind : QByteArray) : Refused f behind := by
  have hcrc : ¬ CrcMatches (f.bytes ++ behind) := mt (f.crcMatches_iff behind).1 h
  constructor
  case crc => exact hcrc
  case server =>
    intro hfit
    apply Server.ProtocolParser.Looks.look_eq
    exact .badCrc (f.hasMagic behind) (by simpa using hfit) (by simp) hcrc
  case client =>
    have hlook := Client.ProtocolParser.Looks.look_eq
      (.badCrc (b := f.bytes ++ behind) (f.hasMagic behind) (by simp) hcrc)
    simpa using hlook

/-- Damage within sixteen consecutive bits changes the checksum of a byte string of any length, and a
packet whose payload was damaged so is refused by both parsers. -/
theorem burst_refused {p p' : QByteArray} (hlen : p'.length = p.length) (hne : p' ≠ p) {k : Nat}
    (hwithin : ∀ i : Nat, (CrcHelper.bits p')[i]? ≠ (CrcHelper.bits p)[i]? →
      k ≤ i ∧ i < k + 16) :
    CrcHelper.calculate p' ≠ CrcHelper.calculate p ∧
      ∀ received : Frame, received.payload = p' → received.crc = CrcHelper.calculate p →
        ∀ behind, Refused received behind := by
  have hcalc := CrcHelper.calculate_ne hlen hne hwithin
  refine ⟨hcalc, ?_⟩
  intro received hpayload hcrc behind
  apply refused_of_crc
  intro heq
  apply hcalc
  rw [← hpayload, ← heq, hcrc]

/-- Twelve bits inverted across the last two bytes of `22 F1 90`. -/
theorem burst_refused_sample :
    CrcHelper.calculate [0x22, 0x0E, 0x9F] ≠ CrcHelper.calculate [0x22, 0xF1, 0x90] ∧
      ∀ received : Frame, received.payload = [0x22, 0x0E, 0x9F] →
        received.crc = CrcHelper.calculate [0x22, 0xF1, 0x90] →
          ∀ behind, Refused received behind := by
  refine burst_refused rfl (by decide) (k := 8) ?_
  have hinside : ∀ i < 24, (CrcHelper.bits [0x22, 0x0E, 0x9F])[i]? ≠
      (CrcHelper.bits [0x22, 0xF1, 0x90])[i]? → 8 ≤ i ∧ i < 8 + 16 := by decide
  intro i hi
  by_cases hlt : i < 24
  · exact hinside i hlt hi
  · exact absurd (by rw [List.getElem?_eq_none (Nat.le_of_not_lt hlt),
      List.getElem?_eq_none (Nat.le_of_not_lt hlt)]) hi

end TcpCanUds
