import TcpCanUds.Client.ProtocolParser
import TcpCanUds.Server.ProtocolParser

/-!
# CanPackets — CAN frames in TCP packets

Both parsers turn a packet of type `1` into a CAN frame: four bytes of identifier and up to eight of
data.  Both store the number of data bytes in a byte before they compare it with eight, so from 256
data bytes on it starts over, and some long packets are taken for short ones.
-/

namespace TcpCanUds
namespace System

open Lib QByteArray

/-! ## Packets and what they mean -/

/-- The payload of a packet of type `1` with the right checksum. -/
structure CanPacket where
  payload : QByteArray
  fits : payload.length ≤ 65535

def CanPacket.frame (p : CanPacket) : Frame where
  type := 1
  payload := p.payload
  crc := CrcHelper.calculate p.payload
  fits := p.fits

/-- The CAN frame in a payload of four to twelve bytes. -/
def decodedFrames (payload : QByteArray) : List CanFrameData :=
  if 4 ≤ payload.length ∧ payload.length ≤ 12 then
    [{ id := payload.word32At 0
       data := payload.drop 4
       len := UInt8.ofNat (payload.length - 4) }]
  else []

/-- Wherever the packet stands in a stream of frames it accepts, and however the stream is cut, the
server's parser emits the CAN frame in it for it, and nothing else. -/
def ServerDecodes (p : CanPacket) : Prop :=
  ∀ (before after : List (Junk × Frame)) (junk tail : Junk) (chunks : List QByteArray),
    (∀ i ∈ before ++ after, Server.ProtocolParser.frameReader.accepts i.2) →
    chunks.flatten = stream (before ++ (junk, p.frame) :: after) tail →
      (Server.ProtocolParser.pushAll chunks).1 =
        (before.flatMap fun i => Server.ProtocolParser.frameReader.outcome i.2) ++
          ((decodedFrames p.payload).map .canFrameReady ++
            after.flatMap fun i => Server.ProtocolParser.frameReader.outcome i.2)

/-- The signals of the client's parser, in order. -/
def clientSignals (mem : UDSMessage.Memory) (outcomes : List Client.ProtocolParser.Outcome) :
    List Client.ParserSignal :=
  outcomes.flatMap fun o => o.signals mem

def ClientDecodes (p : CanPacket) : Prop :=
  ∀ (mem : UDSMessage.Memory) (before after : List (Junk × Frame)) (junk tail : Junk)
    (chunks : List QByteArray),
    chunks.flatten = stream (before ++ (junk, p.frame) :: after) tail →
      clientSignals mem (Client.ProtocolParser.pushAll chunks).1 =
        (clientSignals mem (before.map fun i => Client.ProtocolParser.frameOutcome i.2)) ++
          ((decodedFrames p.payload).map .canFrameReady ++
            clientSignals mem (after.map fun i => Client.ProtocolParser.frameOutcome i.2))

/-! ## What the parsers take for a CAN frame -/

/-- Cut to a byte, the number of data bytes passes for what it is. -/
def LengthSurvives (n : Nat) : Prop :=
  n ≤ 12 ∨ 8 < (n - 4) % 256

instance (n : Nat) : Decidable (LengthSurvives n) :=
  inferInstanceAs (Decidable (_ ∨ _))

/-- The CAN frame either parser reads out of a payload. -/
def readFrames (payload : QByteArray) : List CanFrameData :=
  if payload.length < 4 then []
  else if 8 < (payload.length - 4) % 256 then []
  else
    [{ id := payload.word32At 0
       data := payload.mid 4 ((payload.length - 4) % 256)
       len := UInt8.ofNat (payload.length - 4) }]

theorem lengthByte {n : Nat} (hfour : 4 ≤ n) (hfits : n ≤ 65535) :
    (UInt16.ofNat n - 4).toUInt8 = UInt8.ofNat (n - 4) := by
  apply UInt8.toNat_inj.1
  rw [UInt16.toNat_toUInt8, UInt16.toNat_sub, UInt16.toNat_ofNat', UInt8.toNat_ofNat']
  change (2 ^ 16 - 4 + n % 2 ^ 16) % 2 ^ 16 % 256 = (n - 4) % 256
  omega

theorem eight_lt_lengthByte (n : Nat) : 8 < UInt8.ofNat (n - 4) ↔ 8 < (n - 4) % 256 := by
  rw [UInt8.lt_iff_toNat_lt, UInt8.toNat_ofNat']
  exact Iff.rfl

section

variable (p : CanPacket)

theorem server_dispatch :
    Server.ProtocolParser.dispatch 1 p.frame.length p.payload =
      (readFrames p.payload).map .canFrameReady := by
  have hlt : p.frame.length < 4 ↔ p.payload.length < 4 := by
    rw [UInt16.lt_iff_toNat_lt, Frame.toNat_length]
    exact Iff.rfl
  by_cases hshort : p.payload.length < 4
  · rw [Server.ProtocolParser.dispatch, if_pos rfl, if_pos (hlt.2 hshort), readFrames, if_pos hshort]
    rfl
  · have hbyte : (p.frame.length - 4).toUInt8 = UInt8.ofNat (p.payload.length - 4) :=
      lengthByte (Nat.le_of_not_lt hshort) p.fits
    rw [Server.ProtocolParser.dispatch, if_pos rfl, if_neg (mt hlt.1 hshort), readFrames,
      if_neg hshort]
    simp only [hbyte, eight_lt_lengthByte, UInt8.toNat_ofNat']
    split_ifs <;> rfl

theorem client_signals (mem : UDSMessage.Memory) :
    (Client.ProtocolParser.frameOutcome p.frame).signals mem =
      (readFrames p.payload).map .canFrameReady := by
  have houtcome : Client.ProtocolParser.frameOutcome p.frame = .dispatch 1 p.payload := if_pos rfl
  rw [houtcome, Client.ProtocolParser.Outcome.signals, if_pos rfl, readFrames]
  by_cases hshort : p.payload.length < 4
  · rw [if_neg (Nat.not_le.2 hshort), if_pos hshort]
    rfl
  · have hbyte := lengthByte (Nat.le_of_not_lt hshort) p.fits
    rw [if_pos (Nat.le_of_not_lt hshort), if_neg hshort]
    simp only [hbyte, ← UInt8.not_lt, eight_lt_lengthByte, UInt8.toNat_ofNat']
    split_ifs <;> rfl

/-- What is read is what is meant exactly for the lengths that survive the cut to a byte. -/
theorem readFrames_eq_iff (payload : QByteArray) :
    readFrames payload = decodedFrames payload ↔ LengthSurvives payload.length := by
  rw [readFrames, decodedFrames, LengthSurvives]
  by_cases hshort : payload.length < 4
  · rw [if_pos hshort, if_neg fun h => Nat.not_lt.2 h.1 hshort]
    exact iff_of_true rfl (Or.inl (by omega))
  · rw [if_neg hshort]
    by_cases hsmall : payload.length ≤ 12
    · -- the number of data bytes is at most eight, and all of them are taken
      have hmod : (payload.length - 4) % 256 = payload.length - 4 := Nat.mod_eq_of_lt (by omega)
      have hall : payload.mid 4 (payload.length - 4) = payload.drop 4 :=
        List.take_of_length_le (Nat.le_of_eq List.length_drop)
      rw [hmod, hall, if_neg (by omega), if_pos ⟨Nat.le_of_not_lt hshort, hsmall⟩]
      exact iff_of_true rfl (Or.inl hsmall)
    · have hnone : ¬ (4 ≤ payload.length ∧ payload.length ≤ 12) := fun h => hsmall h.2
      rw [if_neg hnone, or_iff_right hsmall]
      by_cases hover : 8 < (payload.length - 4) % 256
      · rw [if_pos hover]
        exact iff_of_true rfl hover
      · rw [if_neg hover]
        exact iff_of_false (List.cons_ne_nil _ _) hover

end

/-! ## Both parsers -/

section

variable (p : CanPacket)

/-- The server's parser emits what it reads, between what the frames around it lead to. -/
theorem server_stream (hsmall : p.payload.length ≤ 1024) {before after : List (Junk × Frame)}
    {junk tail : Junk} {chunks : List QByteArray}
    (haccepts : ∀ i ∈ before ++ after, Server.ProtocolParser.frameReader.accepts i.2)
    (h : chunks.flatten = stream (before ++ (junk, p.frame) :: after) tail) :
    (Server.ProtocolParser.pushAll chunks).1 =
      (before.flatMap fun i => Server.ProtocolParser.frameReader.outcome i.2) ++
        ((readFrames p.payload).map .canFrameReady ++
          after.flatMap fun i => Server.ProtocolParser.frameReader.outcome i.2) := by
  have hall : ∀ i ∈ before ++ (junk, p.frame) :: after,
      Server.ProtocolParser.frameReader.accepts i.2 := by
    intro i hi
    rcases List.mem_append.1 hi with hi | hi
    · exact haccepts i (List.mem_append_left _ hi)
    · rcases List.mem_cons.1 hi with rfl | hi
      · exact ⟨hsmall, rfl⟩
      · exact haccepts i (List.mem_append_right _ hi)
  rw [Server.ProtocolParser.pushAll, Server.ProtocolParser.frameReader.feedAll_stream hall h,
    List.flatMap_append, List.flatMap_cons, ← server_dispatch]
  rfl

/-- So does the client's, whatever the frames around it. -/
theorem client_stream (mem : UDSMessage.Memory) {before after : List (Junk × Frame)}
    {junk tail : Junk} {chunks : List QByteArray}
    (h : chunks.flatten = stream (before ++ (junk, p.frame) :: after) tail) :
    clientSignals mem (Client.ProtocolParser.pushAll chunks).1 =
      clientSignals mem (before.map fun i => Client.ProtocolParser.frameOutcome i.2) ++
        ((readFrames p.payload).map .canFrameReady ++
          clientSignals mem (after.map fun i => Client.ProtocolParser.frameOutcome i.2)) := by
  rw [Client.ProtocolParser.outcomes_pushAll h, List.map_append, List.map_cons, clientSignals,
    List.flatMap_append, List.flatMap_cons, client_signals]
  rfl

theorem stream_alone : [stream [(Junk.empty, p.frame)] Junk.empty].flatten =
    stream ([] ++ (Junk.empty, p.frame) :: []) Junk.empty :=
  List.append_nil _

theorem serverDecodes_iff (hsmall : p.payload.length ≤ 1024) :
    ServerDecodes p ↔ LengthSurvives p.payload.length := by
  rw [← readFrames_eq_iff]
  constructor
  · intro h
    have hinj : Function.Injective (List.map Server.ParserSignal.canFrameReady) :=
      List.map_injective_iff.2 fun _ _ => Server.ParserSignal.canFrameReady.inj
    -- the packet alone: its own signals are all there are
    have hsignals := h [] [] Junk.empty Junk.empty _ (by simp) (stream_alone p)
    rw [server_stream p hsmall (by simp) (stream_alone p)] at hsignals
    exact hinj (List.append_cancel_right hsignals)
  · intro heq before after junk tail chunks haccepts hchunks
    rw [← heq]
    exact server_stream p hsmall haccepts hchunks

theorem clientDecodes_iff : ClientDecodes p ↔ LengthSurvives p.payload.length := by
  rw [← readFrames_eq_iff]
  constructor
  · intro h
    have hinj : Function.Injective (List.map Client.ParserSignal.canFrameReady) :=
      List.map_injective_iff.2 fun _ _ => Client.ParserSignal.canFrameReady.inj
    have hsignals := h {} [] [] Junk.empty Junk.empty _ (stream_alone p)
    rw [client_stream p {} (stream_alone p)] at hsignals
    exact hinj (List.append_cancel_right hsignals)
  · intro heq mem before after junk tail chunks hchunks
    rw [← heq]
    exact client_stream p mem hchunks

end

/-- Both parsers decode exactly the packets whose number of data bytes survives the cut to a byte. -/
theorem canPackets_iff (p : CanPacket) :
    (ClientDecodes p ↔ LengthSurvives p.payload.length) ∧
      (p.payload.length ≤ 1024 → (ServerDecodes p ↔ LengthSurvives p.payload.length)) :=
  ⟨clientDecodes_iff p, serverDecodes_iff p⟩

/-- Three data bytes for the identifier `0x7E1`. -/
def shortCanPacket : CanPacket where
  payload := [0xE1, 0x07, 0x00, 0x00, 0x02, 0x3E, 0x00]
  fits := by decide

theorem canPackets_short : ClientDecodes shortCanPacket ∧ ServerDecodes shortCanPacket :=
  ⟨(canPackets_iff shortCanPacket).1.2 (by decide),
    ((canPackets_iff shortCanPacket).2 (by decide)).2 (by decide)⟩

/-- 256 data bytes. -/
def longCanPacket : CanPacket where
  payload := List.replicate 260 0x01
  fits := by rw [List.length_replicate]; decide

/-- Both parsers take them for no data bytes at all and emit a frame. -/
theorem long_packet_emitted : ¬ ClientDecodes longCanPacket ∧ ¬ ServerDecodes longCanPacket := by
  have hlen : longCanPacket.payload.length = 260 := List.length_replicate
  have hwraps : ¬ LengthSurvives longCanPacket.payload.length := by
    rw [hlen]
    decide
  constructor
  · rw [clientDecodes_iff]
    exact hwraps
  · rw [serverDecodes_iff longCanPacket (by rw [hlen]; decide)]
    exact hwraps

end System
end TcpCanUds
