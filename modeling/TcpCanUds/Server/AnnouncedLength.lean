import TcpCanUds.Core.IsoTpTransfer
import TcpCanUds.Server.SendReports

/-!
# AnnouncedLength — the length the first frame of a response announces

The size of a response is cast to sixteen bits, compared with a buffer of 4096 bytes, and put into a
field of four or of twelve bits.  The last size the buffer holds does not fit that field any more, and
the cast makes large sizes small, so both are announced as something else.
-/

namespace TcpCanUds
namespace Server

open Lib IsoTp

/-! ## What a frame announces -/

/-- `SF_DL` of a single frame, `FF_DL` of a first frame. -/
def announcedLength (message : QByteArray) : Option Nat :=
  if Pci.type message = Pci.typeSingle then some (Pci.low message)
  else if Pci.type message = Pci.typeFirstFrame then
    some (Pci.low message * 256 + (message.byteAt 1).toNat)
  else none

/-- The bytes of the message in such a frame. -/
def leadingBytes (message : QByteArray) : QByteArray :=
  if Pci.type message = Pci.typeSingle then message.mid 1 (Pci.low message) else message.mid 2 6

/-- The frame announces the full size of `raw` and carries its leading bytes. -/
structure AnnouncesAll (raw message : QByteArray) : Prop where
  length : announcedLength message = some raw.length
  leading : leadingBytes message <+: raw

section

variable {raw : QByteArray}

theorem announcedLength_singleFrame (raw : QByteArray) :
    announcedLength (singleFrame raw) = some (raw.length % 16) := by
  rw [announcedLength, singleFrame, Pci.type_byte (by decide), if_pos rfl, Pci.low_byte (by decide)]

/-- Of the size of a long message the first frame keeps twelve bits. -/
theorem announcedLength_firstFrame (raw : QByteArray) :
    announcedLength (firstFrame raw) = some (raw.length % 4096) := by
  have hsecond : ((firstFrame raw).byteAt 1).toNat = raw.length % 256 := by
    change (UInt8.ofNat raw.length).toNat = _
    rw [UInt8.toNat_ofNat']
  rw [announcedLength, hsecond, firstFrame, Pci.type_byte (by decide), if_neg (by decide), if_pos rfl,
    Pci.low_byte (by decide)]
  congr 1
  omega

theorem announcesAll_singleFrame (hshort : raw.length < 8) : AnnouncesAll raw (singleFrame raw) := by
  have hmod : raw.length % 16 = raw.length := Nat.mod_eq_of_lt (by omega)
  constructor
  · rw [announcedLength_singleFrame, hmod]
  · rw [leadingBytes, singleFrame, Pci.type_byte (by decide), if_pos rfl, Pci.low_byte (by decide), hmod]
    simp [QByteArray.mid]

theorem announcesAll_firstFrame (hlong : 8 ≤ raw.length) (hfits : raw.length ≤ 4095) :
    AnnouncesAll raw (firstFrame raw) := by
  constructor
  · rw [announcedLength_firstFrame, Nat.mod_eq_of_lt (by omega)]
  · rw [leadingBytes, firstFrame, Pci.type_byte (by decide), if_neg (by decide)]
    have hsix : (raw.take 6).length = 6 := by
      rw [List.length_take]
      omega
    have hbytes : (raw.take 6).take 6 = raw.take 6 := List.take_of_length_le (by omega)
    change (raw.take 6).take 6 <+: raw
    rw [hbytes]
    exact List.take_prefix 6 raw

end

/-! ## What a call announces -/

namespace CanWorkerServer

/-- The call has reported a failed send, or its first frame announces the whole message. -/
def Announced (w : CanWorkerServer) (ms : UInt32) (msg : UDSMessage) : Prop :=
  (w.sendUdsMessage ms msg).2.failed ≠ none ∨
    ∃ frame ∈ (w.sendUdsMessage ms msg).2.frames.head?,
      AnnouncesAll (serializeUDSMessage msg) frame.bytes

section

variable {w : CanWorkerServer} (ms : UInt32) {msg : UDSMessage}

/-- On an idle link a message that passes the size check goes out, cut to its size modulo `65536`. -/
theorem sends_of_fits (h : Running w) (hidle : ¬ w.Transmitting)
    (hsize : (serializeUDSMessage msg).length % 65536 ≤ isoTpBufferSize) :
    ∃ cut frame, cut = (serializeUDSMessage msg).take ((serializeUDSMessage msg).length % 65536) ∧
      (w.sendUdsMessage ms msg).2.failed = none ∧
      (w.sendUdsMessage ms msg).2.frames = [frame] ∧
      frame.bytes = if cut.length < 8 then singleFrame cut else firstFrame cut := by
  rcases h with ⟨hinit, link, hlink, hconfig⟩
  have hbuf : link.send_buf_size = isoTpBufferSize := congrArg (fun c => c.2.1) hconfig
  have hstatus : link.send_status ≠ .inprogress := fun hs => hidle ⟨link, hlink, hs⟩
  have heq := sendUdsMessage_eq ms msg hinit hlink
  generalize hcut : (serializeUDSMessage msg).take ((serializeUDSMessage msg).length % 65536) = cut
    at heq
  have hfits : cut.length ≤ link.send_buf_size := by
    rw [← hcut, length_cast, hbuf]
    exact hsize
  by_cases hshort : cut.length < 8
  · rw [isotpSend_single rfl hfits hstatus hshort] at heq
    refine ⟨cut, _, rfl, by rw [heq]; rfl, by rw [heq], ?_⟩
    rw [if_pos hshort]
    exact List.take_of_length_le (Nat.le_of_eq (length_singleFrame (by omega)))
  · rw [isotpSend_first rfl hfits hstatus (Nat.le_of_not_lt hshort)] at heq
    refine ⟨cut, _, rfl, by rw [heq]; rfl, by rw [heq], ?_⟩
    rw [if_neg hshort]
    exact List.take_of_length_le (Nat.le_of_eq (length_firstFrame (by omega)))

/-- The frame that goes out announces at most 4095 bytes, and the whole size only up to there. -/
theorem announced_iff_of_fits (h : Running w) (hidle : ¬ w.Transmitting)
    (hsize : (serializeUDSMessage msg).length % 65536 ≤ isoTpBufferSize) :
    Announced w ms msg ↔ (serializeUDSMessage msg).length ≤ 4095 := by
  rcases sends_of_fits ms h hidle hsize with ⟨cut, frame, hcut, hfailed, hframes, hbytes⟩
  have hcutlen : cut.length = (serializeUDSMessage msg).length % 65536 := by
    rw [hcut, length_cast]
  have hone : Announced w ms msg ↔ AnnouncesAll (serializeUDSMessage msg) frame.bytes := by
    simp [Announced, hfailed, hframes]
  rw [hone, hbytes]
  constructor
  · rintro ⟨hlength, -⟩
    split_ifs at hlength with hshort
    · rw [announcedLength_singleFrame, Option.some.injEq] at hlength
      omega
    · rw [announcedLength_firstFrame, Option.some.injEq] at hlength
      omega
  · intro hle
    -- up to this size nothing is cut off
    have hwhole : cut = serializeUDSMessage msg := by
      rw [hcut, Nat.mod_eq_of_lt (by omega), List.take_length]
    rw [hwhole]
    split_ifs with hshort
    · exact announcesAll_singleFrame hshort
    · exact announcesAll_firstFrame (Nat.le_of_not_lt hshort) hle

/-- A message whose size modulo `65536` is more than the buffer holds is refused. -/
theorem announced_of_overflow (h : Running w)
    (hsize : isoTpBufferSize < (serializeUDSMessage msg).length % 65536) : Announced w ms msg := by
  rcases h with ⟨hinit, link, hlink, hconfig⟩
  have hbuf : link.send_buf_size = isoTpBufferSize := congrArg (fun c => c.2.1) hconfig
  have hover : link.send_buf_size < (serializeUDSMessage msg).length % 65536 := by
    rw [hbuf]
    exact hsize
  refine Or.inl ?_
  rw [failed_of_overflow ms msg hinit hlink hover]
  exact Option.some_ne_none _

end

/-- On an idle link a response is announced with its full size, or refused, exactly when its size is at
most 4095 bytes or is refused by the size check. -/
theorem announced_iff {w : CanWorkerServer} (ms : UInt32) (msg : UDSMessage) (h : Running w)
    (hidle : ¬ w.Transmitting) :
    Announced w ms msg ↔
      (serializeUDSMessage msg).length ≤ 4095 ∨
        isoTpBufferSize < (serializeUDSMessage msg).length % 65536 := by
  by_cases hsize : (serializeUDSMessage msg).length % 65536 ≤ isoTpBufferSize
  · rw [announced_iff_of_fits ms h hidle hsize, or_iff_left (Nat.not_lt.2 hsize)]
  · have hover := Nat.lt_of_not_le hsize
    exact iff_of_true (announced_of_overflow ms h hover) (Or.inr hover)

theorem not_transmitting_init (buffers : IsoTpBuffers isoTpBufferSize) :
    ¬ (init buffers true).Transmitting := by
  rintro ⟨link, hlink, hstatus⟩
  rw [← Option.some.inj hlink] at hstatus
  cases hstatus

theorem announced_longResponse :
    Announced (init (IsoTpBuffers.zero isoTpBufferSize) true) 0 longResponse :=
  (announced_iff 0 longResponse (running_init _) (not_transmitting_init _)).2 (Or.inl (by decide))

/-- A response of 4096 bytes. -/
def fullResponse : UDSMessage :=
  { UDSMessage.declare {} with
    serviceId := 0x62, subFunction := 0xF1, payload := List.replicate 4094 0x55 }

/-- It fits the buffer, and its first frame announces no bytes at all. -/
theorem full_response_misannounced :
    ¬ ∀ w ms msg, Running w → ¬ w.Transmitting → Announced w ms msg := by
  intro h
  have hrun := running_init (IsoTpBuffers.zero isoTpBufferSize)
  have hidle := not_transmitting_init (IsoTpBuffers.zero isoTpBufferSize)
  have hlen : (serializeUDSMessage fullResponse).length = 4096 := by
    rw [length_serializeUDSMessage, fullResponse, List.length_replicate]
  have hann := h _ 0 fullResponse hrun hidle
  rw [announced_iff_of_fits 0 hrun hidle (by rw [hlen]), hlen] at hann
  exact absurd hann (by decide)

end CanWorkerServer
end Server
end TcpCanUds
