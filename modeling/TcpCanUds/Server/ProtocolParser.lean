import TcpCanUds.Client.TcpWorker
import TcpCanUds.Core.Framing
import Mathlib.Tactic.SplitIfs

/-!
# ProtocolParser — the TCP parser of the server (`core/protocol_parser.cpp`)

`look` is one round of the loop in `pushData`.  Its decisions are stable under input that arrives
later, so the loop is a `Scanner` and the results about scanners apply: which packets come out of a
stream, when the cut into chunks does not matter, and what follows a damaged frame.
-/

namespace TcpCanUds
namespace Server

open Lib QByteArray

/-- The signals of `protocol_parser` that are emitted; `parseError` never is. -/
inductive ParserSignal
  | canFrameReady (frame : CanFrameData)
  | udsPacketReady (udspacket : QByteArray)
  deriving DecidableEq, Repr

namespace ProtocolParser

/-! ## One round -/

/-- The `switch` on the packet type.  `frame.len` is a byte, so `length - 4` is cut to eight bits
before the test. -/
def dispatch (type : UInt8) (length : UInt16) (payload : QByteArray) : List ParserSignal :=
  -- a CAN frame: four bytes of identifier, then the data
  if type = 1 then
    if length < 4 then []
    else
      let len := (length - 4).toUInt8
      if 8 < len then []
      else
        [.canFrameReady
          { id := payload.word32At 0, data := payload.mid 4 len.toNat, len := len }]
  -- a heartbeat
  else if type = 2 then []
  else if type = 3 then
    if payload.isEmpty then [] else [.udsPacketReady payload]
  else []

/-- One round of the `while` loop on `m_buffer`. -/
def look (m_buffer : QByteArray) : Verdict ParserSignal :=
  if m_buffer.length < tcpHeaderSize then .wait
  else if m_buffer.byteAt 0 ≠ 0xCD ∨ m_buffer.byteAt 1 ≠ 0xAB then .advance 1 []
  else
    let type := m_buffer.byteAt 2
    let length := m_buffer.word16At 3
    -- the whole buffer is cleared, whatever lies behind the header
    if 1024 < length then .flush
    else
      let totalLen := 5 + length.toNat + 2
      if m_buffer.length < totalLen then .wait
      else
        let payload := m_buffer.mid 5 length.toNat
        let receivedCRC := m_buffer.word16At (5 + length.toNat)
        -- one byte is dropped, so the damaged frame is scanned again from its second byte
        if receivedCRC ≠ CrcHelper.calculate payload then .advance 1 []
        else .advance totalLen (dispatch type length payload)

inductive Looks (b : QByteArray) : Verdict ParserSignal → Prop
  | short (hlen : b.length < 5) : Looks b .wait
  | badMagic (hlen : 5 ≤ b.length) (hmagic : ¬ HasMagic b) : Looks b (.advance 1 [])
  | oversized (hlen : 5 ≤ b.length) (hmagic : HasMagic b) (hover : 1024 < announced b) :
      Looks b .flush
  | incomplete (hlen : 5 ≤ b.length) (hmagic : HasMagic b) (hfit : announced b ≤ 1024)
      (hpart : b.length < totalLen b) : Looks b .wait
  | badCrc (hmagic : HasMagic b) (hfit : announced b ≤ 1024) (hwhole : totalLen b ≤ b.length)
      (hcrc : ¬ CrcMatches b) : Looks b (.advance 1 [])
  | packet (hmagic : HasMagic b) (hfit : announced b ≤ 1024) (hwhole : totalLen b ≤ b.length)
      (hcrc : CrcMatches b) :
      Looks b (.advance (totalLen b)
        (dispatch (b.byteAt 2) (b.word16At 3) (b.mid 5 (announced b))))

theorem looks_look (b : QByteArray) : Looks b (look b) := by
  unfold look
  simp only
  split_ifs with hshort hmagic hover hpart hcrc
  · exact .short hshort
  · exact .badMagic (Nat.le_of_not_lt hshort) fun h => by simp [h.1, h.2] at hmagic
  all_goals
    have hlen : 5 ≤ b.length := Nat.le_of_not_lt hshort
    have hm : HasMagic b := by simpa [HasMagic, not_or] using hmagic
  · exact .oversized hlen hm hover
  all_goals
    have hfit : announced b ≤ 1024 := UInt16.not_lt.1 hover
  · exact .incomplete hlen hm hfit hpart
  · exact .badCrc hm hfit (Nat.le_of_not_lt hpart) hcrc
  · exact .packet hm hfit (Nat.le_of_not_lt hpart) (not_not.1 hcrc)

/-- The exits exclude each other, so a round is any exit that applies. -/
theorem Looks.look_eq {b : QByteArray} {v : Verdict ParserSignal} (h : Looks b v) :
    look b = v := by
  have hl := looks_look b
  have htotal := le_totalLen b
  generalize look b = w at hl
  -- two different exits contradict each other in a length or in a test
  cases h <;> cases hl <;> first | rfl | omega | contradiction

theorem look_bounds {b : QByteArray} {n : Nat} {out : List ParserSignal}
    (h : look b = .advance n out) : 0 < n ∧ n ≤ b.length := by
  have hl := looks_look b
  have htotal := le_totalLen b
  rw [h] at hl
  cases hl with
  | badMagic hlen => exact ⟨Nat.one_pos, by omega⟩
  | badCrc _ _ hwhole => exact ⟨Nat.one_pos, by omega⟩
  | packet _ _ hwhole => exact ⟨by omega, hwhole⟩

/-- An exit that does not wait applies as well when more bytes have arrived. -/
theorem Looks.append {b : QByteArray} {v : Verdict ParserSignal} (h : Looks b v)
    (hv : v ≠ .wait) (x : QByteArray) : Looks (b ++ x) v := by
  have hle : b.length ≤ (b ++ x).length := by simp
  have htotal := le_totalLen b
  cases h with
  | short | incomplete => exact absurd rfl hv
  | badMagic hlen hmagic =>
      exact .badMagic (hlen.trans hle) (mt (hasMagic_append x hlen).1 hmagic)
  | oversized hlen hmagic hover =>
      refine .oversized (hlen.trans hle) ((hasMagic_append x hlen).2 hmagic) ?_
      rwa [announced_append x hlen]
  | badCrc hmagic hfit hwhole hcrc =>
      have hlen : 5 ≤ b.length := by omega
      refine .badCrc ((hasMagic_append x hlen).2 hmagic) ?_ ?_
        (mt (crcMatches_append x hwhole).1 hcrc)
      · rwa [announced_append x hlen]
      · rw [totalLen_append x hlen]
        exact hwhole.trans hle
  | packet hmagic hfit hwhole hcrc =>
      have hlen : 5 ≤ b.length := by omega
      have hp := Looks.packet (b := b ++ x) ((hasMagic_append x hlen).2 hmagic)
        (by rwa [announced_append x hlen])
        (by rw [totalLen_append x hlen]; exact hwhole.trans hle)
        ((crcMatches_append x hwhole).2 hcrc)
      rwa [totalLen_append x hlen, payload_append x hwhole, byteAt_append (by omega),
        word16At_append (by omega)] at hp

theorem look_append (b x : QByteArray) (h : look b ≠ .wait) : look (b ++ x) = look b :=
  ((looks_look b).append h x).look_eq

/-! ## The loop -/

def parser : Scanner UInt8 ParserSignal where
  verdict := look
  wait_nil := rfl
  advance_bounds := look_bounds
  stable := look_append

@[simp] theorem parser_verdict (b : QByteArray) : parser.verdict b = look b := rfl

/-- `protocol_parser::pushData`: the signals emitted and the new `m_buffer`. -/
def pushData (m_buffer data : QByteArray) : List ParserSignal × QByteArray :=
  parser.feed m_buffer data

/-- Successive calls of `pushData` on a fresh parser. -/
def pushAll (chunks : List QByteArray) : List ParserSignal × QByteArray :=
  parser.feedAll [] chunks

theorem pushAll_snoc (chunks : List QByteArray) (data : QByteArray) :
    pushAll (chunks ++ [data]) =
      ((pushAll chunks).1 ++ (pushData (pushAll chunks).2 data).1,
        (pushData (pushAll chunks).2 data).2) :=
  parser.feedAll_snoc [] chunks data

/-! ## Packets of the client -/

def udsPackets (signals : List ParserSignal) : List QByteArray :=
  signals.filterMap fun
    | .udsPacketReady udspacket => some udspacket
    | .canFrameReady _ => none

def udsPayloads (packets : List Packet) : List QByteArray :=
  (packets.filter fun p => p.type = 3 ∧ p.payload ≠ []).map Packet.payload

/-- The parser reads frames with a payload of at most 1024 bytes and the right checksum. -/
def frameReader : FrameReader parser where
  need := 5
  need_le := by decide
  short b h := (Looks.short h).look_eq
  skip a b ha hlen := (Looks.badMagic hlen fun hm => ha hm.1).look_eq
  accepts f := f.payload.length ≤ 1024 ∧ f.crc = CrcHelper.calculate f.payload
  outcome f := dispatch f.type f.length f.payload
  read f hf x := by
    have hp := Looks.packet (b := f.bytes ++ x) (f.hasMagic x) (by simpa using hf.1)
      (by simp) ((f.crcMatches_iff x).2 hf.2)
    simpa using hp.look_eq

@[simp] theorem udsPackets_append (s t : List ParserSignal) :
    udsPackets (s ++ t) = udsPackets s ++ udsPackets t :=
  List.filterMap_append

theorem udsPackets_dispatch (p : Packet) :
    udsPackets (dispatch p.type p.frame.length p.payload) = udsPayloads [p] := by
  unfold dispatch udsPackets udsPayloads
  simp only
  split_ifs <;> simp_all

theorem udsPayloads_cons (p : Packet) (ps : List Packet) :
    udsPayloads (p :: ps) = udsPayloads [p] ++ udsPayloads ps := by
  unfold udsPayloads
  rw [← List.map_append, ← List.filter_append]
  rfl

theorem frameReader_accepts_packets (items : List (Junk × Packet)) :
    ∀ i ∈ items.map fun i => (i.1, i.2.frame), frameReader.accepts i.2 := by
  intro i hi
  rcases List.mem_map.1 hi with ⟨j, -, rfl⟩
  exact ⟨j.2.fits, rfl⟩

theorem udsPackets_outcomes (items : List (Junk × Packet)) :
    udsPackets ((items.map fun i => (i.1, i.2.frame)).flatMap
      fun i => frameReader.outcome i.2) = udsPayloads (items.map Prod.snd) := by
  induction items with
  | nil => rfl
  | cons i items ih =>
      rw [List.map_cons, List.flatMap_cons, udsPackets_append, ih, List.map_cons,
        udsPayloads_cons]
      congr 1
      exact udsPackets_dispatch i.2

/-- The server gets the payloads of the client's UDS packets back, in order, whatever junk lies
between them and however the stream is cut. -/
theorem udsPackets_pushAll {items : List (Junk × Packet)} {tail : Junk}
    {chunks : List QByteArray} (h : chunks.flatten = packetStream items tail) :
    udsPackets (pushAll chunks).1 = udsPayloads (items.map Prod.snd) := by
  rw [packetStream_eq_stream] at h
  rw [pushAll, frameReader.feedAll_stream (frameReader_accepts_packets items) h,
    udsPackets_outcomes]

/-- A `3E 00` packet behind a junk byte, cut inside its header. -/
theorem udsPackets_pushAll_tester :
    udsPackets (pushAll
        [[0x00, 0xCD, 0xAB], [0x03, 0x02, 0x00, 0x3E, 0x00, 0x11, 0xD0, 0xFF]]).1 =
      [[0x3E, 0x00]] :=
  @udsPackets_pushAll [(⟨[0x00], by decide⟩, ⟨3, [0x3E, 0x00], by decide⟩)]
    ⟨[0xFF], by decide⟩ _ (by decide +kernel)

/-! ## Only packets of the stream -/

/-- The piece is a UDS frame around the payload `p`, with its length and its checksum. -/
structure IsUdsFrame (p piece : QByteArray) : Prop where
  nonempty : 1 ≤ p.length
  small : p.length ≤ 1024
  bytes : piece = [0xCD, 0xAB, 0x03] ++ bytes16 (UInt16.ofNat p.length) ++ p ++
    bytes16 (CrcHelper.calculate p)

theorem udsPackets_dispatch_cases (type : UInt8) (length : UInt16) (payload : QByteArray) :
    udsPackets (dispatch type length payload) = [] ∨
      type = 3 ∧ payload ≠ [] ∧ udsPackets (dispatch type length payload) = [payload] := by
  unfold dispatch udsPackets
  simp only
  split_ifs <;> simp_all

theorem isUdsFrame_front {b : QByteArray} (hmagic : HasMagic b) (hfit : announced b ≤ 1024)
    (hwhole : totalLen b ≤ b.length) (hcrc : CrcMatches b) (htype : b.byteAt 2 = 3)
    (hne : b.mid 5 (announced b) ≠ []) :
    IsUdsFrame (b.mid 5 (announced b)) (b.take (totalLen b)) := by
  have hlen : (b.mid 5 (announced b)).length ≤ announced b := List.length_take_le _ _
  refine ⟨List.length_pos_iff.2 hne, hlen.trans hfit, ?_⟩
  rw [take_totalLen hmagic hwhole, Frame.bytes, Frame.length]
  simp only [front]
  rw [htype, hcrc]

/-- A look that emits a UDS packet consumes the frame it lies in. -/
theorem parser_readsPieces :
    Scanner.ReadsPieces parser IsUdsFrame fun
      | .udsPacketReady udspacket => some udspacket
      | .canFrameReady _ => none := by
  intro (b : QByteArray) n out hv
  have hl := looks_look b
  rw [show look b = .advance n out from hv] at hl
  cases hl with
  | badMagic | badCrc => exact .inl rfl
  | packet hmagic hfit hwhole hcrc =>
      rcases udsPackets_dispatch_cases (b.byteAt 2) (b.word16At 3) (b.mid 5 (announced b)) with
        hnone | ⟨htype, hne, hone⟩
      · exact .inl hnone
      · exact .inr ⟨_, hone, isUdsFrame_front hmagic hfit hwhole hcrc htype hne⟩

/-- Whatever arrives and however it is cut, the packets emitted lie in the stream one behind
another, each in a UDS frame of its own. -/
theorem udsPackets_embedded (chunks : List QByteArray) :
    Embedded IsUdsFrame (udsPackets (pushAll chunks).1) chunks.flatten := by
  rcases parser_readsPieces.embedded_feedAll [] chunks with ⟨u, hu, hpackets⟩
  -- what stays in the buffer is a last gap
  have hall := hpackets.append (Embedded.gap (pushAll chunks).2)
  rw [List.append_nil] at hall
  rw [← List.nil_append chunks.flatten, hu]
  exact hall

/-! ## The cut into chunks -/

def OversizeHeader (b : QByteArray) : Prop :=
  5 ≤ b.length ∧ HasMagic b ∧ 1024 < announced b

theorem look_eq_flush_iff (b : QByteArray) : look b = .flush ↔ OversizeHeader b := by
  constructor
  · intro h
    have hl := looks_look b
    rw [h] at hl
    cases hl with
    | oversized hlen hmagic hover => exact ⟨hlen, hmagic, hover⟩
  · rintro ⟨hlen, hmagic, hover⟩
    exact (Looks.oversized hlen hmagic hover).look_eq

def MeetsOversize (w : QByteArray) : Prop :=
  ∃ signals b, Scanner.Reads parser w signals b ∧ OversizeHeader b

/-- Signals and buffer do not depend on the cut into chunks. -/
def SplitIndependent (w : QByteArray) : Prop :=
  ∀ xs ys : List QByteArray, xs.flatten = w → ys.flatten = w → pushAll xs = pushAll ys

/-- The cut of a stream into chunks does not matter exactly when the parser meets no oversize
header before the last byte of the stream. -/
theorem splitIndependent_iff (w : QByteArray) :
    SplitIndependent w ↔ ∀ p x, w = p ++ x → x ≠ [] → ¬ MeetsOversize p := by
  have hone : ∀ a : UInt8, parser.verdict [a] = .wait := fun a =>
    Looks.look_eq (b := [a]) (.short (by simp))
  have hmeets : ∀ p, MeetsOversize p ↔ (parser.drain p).flushed = true := by
    intro p
    rw [parser.flushed_iff]
    simp only [MeetsOversize, parser_verdict, look_eq_flush_iff]
  rw [SplitIndependent, show (∀ xs ys : List QByteArray, xs.flatten = w → ys.flatten = w →
    pushAll xs = pushAll ys) ↔ _ from parser.feedAll_eq_iff hone w]
  simp only [hmeets, Bool.not_eq_true]

def oversizeThenTester : List QByteArray :=
  [[0xCD, 0xAB, 0x03, 0x01, 0x04],
    [0xCD, 0xAB, 0x03, 0x02, 0x00, 0x3E, 0x00, 0x11, 0xD0]]

/-- In one chunk the packet is thrown away with the buffer, in two it is read. -/
theorem oversize_loses_packet : ¬ ∀ w, SplitIndependent w := by
  intro h
  have hsame := h _ [oversizeThenTester.flatten] oversizeThenTester (by simp) rfl
  exact absurd hsame (by decide +kernel)

/-! ## Damaged frames -/

structure DamagedFrame where
  frame : Frame
  small : frame.payload.length ≤ 1024
  wrong : frame.crc ≠ CrcHelper.calculate frame.payload

def DamagedFrame.bytes (d : DamagedFrame) : QByteArray :=
  d.frame.bytes

/-- The packets behind the damaged frame come out, and nothing else. -/
def Recovers (d : DamagedFrame) (packets : List Packet) : Prop :=
  ∀ chunks : List QByteArray, chunks.flatten = d.bytes ++ packetBytes packets →
    udsPackets (pushAll chunks).1 = udsPayloads packets

/-- The magic number at the front, if it is there, begins a complete frame of at most 1024 bytes
with a wrong checksum. -/
def Harmless (b : QByteArray) : Prop :=
  HasMagic b → announced b ≤ 1024 ∧ totalLen b ≤ b.length ∧ ¬ CrcMatches b

instance (b : QByteArray) : Decidable (Harmless b) :=
  inferInstanceAs (Decidable (_ → _))

theorem look_harmless {b : QByteArray} (hlen : 5 ≤ b.length) (h : Harmless b) :
    look b = .advance 1 [] := by
  by_cases hmagic : HasMagic b
  · rcases h hmagic with ⟨hfit, hwhole, hcrc⟩
    exact (Looks.badCrc hmagic hfit hwhole hcrc).look_eq
  · exact (Looks.badMagic hlen hmagic).look_eq

theorem DamagedFrame.harmless (d : DamagedFrame) (x : QByteArray) :
    Harmless (d.bytes ++ x) := by
  intro _
  refine ⟨by simpa [DamagedFrame.bytes] using d.small, by simp [DamagedFrame.bytes], ?_⟩
  rw [DamagedFrame.bytes, Frame.crcMatches_iff]
  exact d.wrong

theorem reads_damaged {d : DamagedFrame} {rest : QByteArray} (hrest : 5 ≤ rest.length)
    (h : ∀ j < d.bytes.length, 0 < j → Harmless ((d.bytes ++ rest).drop j)) :
    Scanner.Reads parser (d.bytes ++ rest) [] rest := by
  have hskip : ∀ j < d.bytes.length,
      parser.verdict ((d.bytes ++ rest).drop j) = .advance 1 [] := by
    intro j hj
    refine look_harmless ?_ ?_
    · rw [List.length_drop, List.length_append]
      omega
    · rcases Nat.eq_zero_or_pos j with rfl | hpos
      · exact d.harmless rest
      · exact h j hj hpos
  simpa using Scanner.Reads.skip hskip

/-- The server recovers from a damaged frame when every magic number inside it is harmless. -/
theorem recovers {d : DamagedFrame} {packets : List Packet} (hne : packets ≠ [])
    (h : ∀ j < d.bytes.length, 0 < j → Harmless ((d.bytes ++ packetBytes packets).drop j)) :
    Recovers d packets := by
  intro chunks hchunks
  have hrest : 5 ≤ (packetBytes packets).length := by
    rcases List.exists_cons_of_ne_nil hne with ⟨p, ps, rfl⟩
    simp only [packetBytes, List.flatMap_cons, p.bytes_eq_frame, List.length_append,
      Frame.length_bytes]
    omega
  have hdamaged := reads_damaged hrest h
  have hitems := frameReader_accepts_packets (packets.map fun p => (Junk.empty, p))
  have hout := udsPackets_outcomes (packets.map fun p => (Junk.empty, p))
  simp only [List.map_map] at hitems hout
  rcases frameReader.reads_stream hitems Junk.empty with ⟨rest, hr, hw⟩
  rw [packetBytes_eq_stream] at hdamaged hchunks
  have hreads := hdamaged.trans hr
  rw [← hchunks] at hreads
  rw [pushAll, parser.feedAll_of_reads hreads hw, List.nil_append]
  exact hout.trans (congrArg udsPayloads (List.map_id packets))

/-- A frame with a magic number in its payload, and another wrong checksum behind that. -/
def damagedSample : DamagedFrame where
  frame := ⟨3, [0xCD, 0xAB, 0x03, 0x00, 0x00, 0x11, 0x22], 0, by decide⟩
  small := by decide
  wrong := by decide +kernel

theorem recovers_sample : Recovers damagedSample [⟨3, [0x3E, 0x00], by decide⟩] :=
  recovers (by decide) (by decide +kernel)

/-- A frame whose payload is itself a `3E 00` packet. -/
def damagedAroundPacket : DamagedFrame where
  frame := ⟨3, [0xCD, 0xAB, 0x03, 0x02, 0x00, 0x3E, 0x00, 0x11, 0xD0], 0, by decide⟩
  small := by decide
  wrong := by decide +kernel

/-- The packet inside the damaged payload is emitted in front of the one behind. -/
theorem inner_packet_emitted :
    ¬ ∀ (d : DamagedFrame) (packets : List Packet), packets ≠ [] → Recovers d packets := by
  intro h
  let switch : Packet := ⟨3, [0x10, 0x03], by decide⟩
  have hrec := h damagedAroundPacket [switch] (by simp)
    [damagedAroundPacket.bytes ++ packetBytes [switch]] (by simp)
  exact absurd hrec (by decide +kernel)

end ProtocolParser
end Server
end TcpCanUds
