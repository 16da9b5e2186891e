import TcpCanUds.Core.IsoTp
import Mathlib.Tactic.SplitIfs

/-!
# IsoTpSteps — what the calls into the ISO-TP library do

The frames a message is cut into, and for each call on a link the case it falls in: what it sends and
which fields it changes.
-/

namespace TcpCanUds
namespace IsoTp

/-! ## The frames of a message -/

/-- The frame of a message of at most seven bytes. -/
def singleFrame (raw : QByteArray) : QByteArray :=
  Pci.byte Pci.typeSingle raw.length :: (raw ++ List.replicate (7 - raw.length) 0)

/-- The first frame of a longer message, with its length and six of its bytes. -/
def firstFrame (raw : QByteArray) : QByteArray :=
  Pci.byte Pci.typeFirstFrame (raw.length / 256) :: UInt8.ofNat raw.length :: raw.take 6

theorem Pci.toNat_byte {type : Nat} (h : type < 16) (low : Nat) :
    (Pci.byte type low).toNat = type * 16 + low % 16 := by
  rw [Pci.byte, UInt8.toNat_ofNat']
  omega

theorem Pci.type_byte {type : Nat} (h : type < 16) (low : Nat) (rest : QByteArray) :
    Pci.type (Pci.byte type low :: rest) = type := by
  rw [Pci.type, QByteArray.byteAt_cons_zero, Pci.toNat_byte h]
  omega

theorem Pci.low_byte {type : Nat} (h : type < 16) (low : Nat) (rest : QByteArray) :
    Pci.low (Pci.byte type low :: rest) = low % 16 := by
  rw [Pci.low, QByteArray.byteAt_cons_zero, Pci.toNat_byte h]
  omega

theorem take_write_zero (buffer raw : QByteArray) :
    (buffer.write 0 raw).take raw.length = raw := by
  simp [QByteArray.write]

/-! ## Sending -/

section

variable {u : IsoTpUser} {link : IsoTpLink} {id : UInt32} {raw : QByteArray}

theorem isotpUserSendCan_ok (h : u.canSend = true) (id : UInt32) (data : QByteArray) :
    isotpUserSendCan u id data = (.ok, [{ id := id, data := data, len := 8 }]) := by
  rw [isotpUserSendCan, h]
  rfl

theorem isotpSend_overflow (hsize : link.send_buf_size < raw.length) :
    isotpSend u link raw = ⟨.overflow, link, []⟩ := by
  rw [isotpSend, isotpSendWithId, if_pos hsize]

theorem isotpSend_inprogress (hsize : raw.length ≤ link.send_buf_size)
    (hstatus : link.send_status = .inprogress) :
    isotpSend u link raw = ⟨.inprogress, link, []⟩ := by
  rw [isotpSend, isotpSendWithId, if_neg (Nat.not_lt.2 hsize), if_pos hstatus]

/-- A short message goes out in one frame. -/
theorem isotpSend_single (hu : u.canSend = true) (hsize : raw.length ≤ link.send_buf_size)
    (hstatus : link.send_status ≠ .inprogress) (hshort : raw.length < 8) :
    isotpSend u link raw =
      ⟨.ok,
        { link with
          send_size := raw.length
          send_offset := 0
          send_buffer := link.send_buffer.write 0 raw },
        [{ id := link.send_arbitration_id, data := singleFrame raw, len := 8 }]⟩ := by
  simp only [isotpSend, isotpSendWithId, if_neg (Nat.not_lt.2 hsize), if_neg hstatus, if_pos hshort,
    isotpSendSingleFrame, take_write_zero, isotpUserSendCan_ok hu, singleFrame]

/-- The link behind the first frame of a message. -/
def started (u : IsoTpUser) (link : IsoTpLink) (raw : QByteArray) : IsoTpLink :=
  { link with
    send_size := raw.length
    send_offset := 6
    send_buffer := link.send_buffer.write 0 raw
    send_sn := 1
    send_bs_remain := 0
    send_st_min := 0
    send_wtf_count := 0
    send_timer_st := u.ms
    send_timer_bs := u.ms + isoTpDefaultResponseTimeout
    send_protocol_result := .ok
    send_status := .inprogress }

/-- A longer message starts with its first frame. -/
theorem isotpSend_first (hu : u.canSend = true) (hsize : raw.length ≤ link.send_buf_size)
    (hstatus : link.send_status ≠ .inprogress) (hlong : 8 ≤ raw.length) :
    isotpSend u link raw =
      ⟨.ok, started u link raw,
        [{ id := link.send_arbitration_id, data := firstFrame raw, len := 8 }]⟩ := by
  have hsix : (link.send_buffer.write 0 raw).take 6 = raw.take 6 := by
    rw [← congrArg (List.take 6) (take_write_zero link.send_buffer raw), List.take_take,
      Nat.min_eq_left (by omega)]
  simp only [isotpSend, isotpSendWithId, if_neg (Nat.not_lt.2 hsize), if_neg hstatus,
    if_neg (Nat.not_lt.2 hlong), isotpSendFirstFrame, hsix, isotpUserSendCan_ok hu, if_true, started,
    firstFrame, Nat.zero_add]

theorem isotpSend_ok (hu : u.canSend = true) (hsize : raw.length ≤ link.send_buf_size)
    (hstatus : link.send_status ≠ .inprogress) :
    (isotpSend u link raw).ret = .ok ∧ (isotpSend u link raw).link.send_size = raw.length := by
  by_cases hshort : raw.length < 8
  · rw [isotpSend_single hu hsize hstatus hshort]
    exact ⟨rfl, rfl⟩
  · rw [isotpSend_first hu hsize hstatus (Nat.le_of_not_lt hshort)]
    exact ⟨rfl, rfl⟩

end

/-! ## Received frames -/

/-- A frame filled up with zeros, as `isotp_on_can_message` copies it. -/
def padded (data : QByteArray) : QByteArray :=
  data ++ List.replicate (8 - data.length) 0

theorem padded_of_eight {data : QByteArray} (h : data.length = 8) : padded data = data := by
  rw [padded, h]
  exact List.append_nil data

theorem isotpOnCanMessage_eq (u : IsoTpUser) (link : IsoTpLink) {data : QByteArray}
    (hlen : ¬ (data.length < 2 ∨ data.length > 8)) :
    isotpOnCanMessage u link data =
      if Pci.type (padded data) = Pci.typeSingle then
        (onSingleFrame link (padded data) data.length, [])
      else if Pci.type (padded data) = Pci.typeFirstFrame then
        onFirstFrame u link (padded data) data.length
      else if Pci.type (padded data) = Pci.typeConsecutiveFrame then
        onConsecutiveFrame u link (padded data) data.length
      else if Pci.type (padded data) = Pci.typeFlowControlFrame then
        (onFlowControl u link (padded data) data.length, [])
      else (link, []) := by
  rw [isotpOnCanMessage, if_neg hlen]
  rfl

/-! ## Flow control -/

/-- A flow control frame that lets the sender go on. -/
structure IsContinueToSend (data : QByteArray) : Prop where
  three_le : 3 ≤ data.length
  le_eight : data.length ≤ 8
  type : Pci.type data = Pci.typeFlowControlFrame
  status : Pci.low data = Pci.flowStatusContinue

/-- The block size that a flow control frame grants. -/
def grantedBlockSize (data : QByteArray) : Nat :=
  if data.byteAt 1 = 0 then isotpInvalidBs else (data.byteAt 1).toNat

theorem grantedBlockSize_ne_zero (data : QByteArray) : grantedBlockSize data ≠ 0 := by
  rw [grantedBlockSize]
  split_ifs with h
  · decide
  · intro hzero
    exact h (UInt8.toNat_inj.1 hzero)

/-- The link behind a flow control frame that it took. -/
def granted (u : IsoTpUser) (link : IsoTpLink) (data : QByteArray) : IsoTpLink :=
  { link with
    send_timer_bs := u.ms + isoTpDefaultResponseTimeout
    send_bs_remain := grantedBlockSize data
    send_st_min := isotpStMinToMs (data.byteAt 2)
    send_wtf_count := 0 }

section

variable {data : QByteArray}

theorem Pci.type_append (h : data ≠ []) (x : QByteArray) :
    Pci.type (data ++ x) = Pci.type data := by
  rw [Pci.type, Pci.type, QByteArray.byteAt_append (List.length_pos_iff.2 h)]

theorem Pci.low_append (h : data ≠ []) (x : QByteArray) : Pci.low (data ++ x) = Pci.low data := by
  rw [Pci.low, Pci.low, QByteArray.byteAt_append (List.length_pos_iff.2 h)]

theorem isotpOnCanMessage_continue (u : IsoTpUser) (link : IsoTpLink) (h : IsContinueToSend data) :
    isotpOnCanMessage u link data =
      (if link.send_status = .inprogress then granted u link data else link, []) := by
  have hne : data ≠ [] := List.ne_nil_of_length_pos (Nat.lt_of_lt_of_le (by decide) h.three_le)
  have hlen : ¬ (data.length < 2 ∨ data.length > 8) := by
    have h3 := h.three_le
    have h8 := h.le_eight
    omega
  have hone : (data ++ List.replicate (8 - data.length) 0).byteAt 1 = data.byteAt 1 :=
    QByteArray.byteAt_append (Nat.lt_of_lt_of_le (by decide) h.three_le) _
  have htwo : (data ++ List.replicate (8 - data.length) 0).byteAt 2 = data.byteAt 2 :=
    QByteArray.byteAt_append h.three_le _
  simp only [isotpOnCanMessage, if_neg hlen, Pci.type_append hne, h.type, onFlowControl,
    Pci.low_append hne, h.status, isotpReceiveFlowControlFrame, if_neg (Nat.not_lt.2 h.three_le), hone,
    htwo]
  by_cases hstatus : link.send_status = .inprogress
  · rw [if_neg (not_not.2 hstatus), if_pos hstatus]
    rfl
  · rw [if_pos hstatus, if_neg hstatus]
    rfl

end

theorem isotpReceive_send (link : IsoTpLink) (payload_size : Nat) :
    (isotpReceive link payload_size).2.send_status = link.send_status ∧
      (isotpReceive link payload_size).2.send_bs_remain = link.send_bs_remain := by
  rw [isotpReceive]
  split_ifs <;> exact ⟨rfl, rfl⟩

/-! ## What no call changes -/

/-- The fields set up with the link. -/
def config (link : IsoTpLink) : UInt32 × Nat × UInt32 × Nat :=
  (link.send_arbitration_id, link.send_buf_size, link.receive_arbitration_id, link.receive_buf_size)

section

variable (u : IsoTpUser) (link : IsoTpLink)

theorem config_isotpSend (raw : QByteArray) : config (isotpSend u link raw).link = config link := by
  simp only [isotpSend, isotpSendWithId, isotpSendSingleFrame, isotpSendFirstFrame]
  split_ifs <;> rfl

theorem config_onSingleFrame (message : QByteArray) (len : Nat) :
    config (onSingleFrame link message len) = config link := by
  simp only [onSingleFrame, isotpReceiveSingleFrame]
  split_ifs <;> rfl

theorem config_onFirstFrame (message : QByteArray) (len : Nat) :
    config (onFirstFrame u link message len).1 = config link := by
  simp only [onFirstFrame, isotpReceiveFirstFrame]
  split_ifs <;> rfl

theorem config_onConsecutiveFrame (message : QByteArray) (len : Nat) :
    config (onConsecutiveFrame u link message len).1 = config link := by
  simp only [onConsecutiveFrame, isotpReceiveConsecutiveFrame]
  split_ifs <;> rfl

theorem config_onFlowControl (message : QByteArray) (len : Nat) :
    config (onFlowControl u link message len) = config link := by
  simp only [onFlowControl]
  split_ifs <;> rfl

theorem config_isotpOnCanMessage (data : QByteArray) :
    config (isotpOnCanMessage u link data).1 = config link := by
  simp only [isotpOnCanMessage]
  split_ifs
  · rfl
  · exact config_onSingleFrame _ _ _
  · exact config_onFirstFrame _ _ _ _
  · exact config_onConsecutiveFrame _ _ _ _
  · exact config_onFlowControl _ _ _ _
  · rfl

theorem config_isotpReceive (payload_size : Nat) :
    config (isotpReceive link payload_size).2 = config link := by
  simp only [isotpReceive]
  split_ifs <;> rfl

theorem config_pollSend : config (pollSend u link).1 = config link := by
  simp only [pollSend, isotpSendConsecutiveFrame]
  split_ifs <;> rfl

theorem config_pollTimeouts :
    config (pollTimeoutBs u link) = config link ∧ config (pollTimeoutCr u link) = config link := by
  simp only [pollTimeoutBs, pollTimeoutCr]
  constructor
  · split_ifs <;> rfl
  · split_ifs <;> rfl

theorem config_isotpPoll : config (isotpPoll u link).1 = config link := by
  rw [isotpPoll]
  split_ifs
  · rw [(config_pollTimeouts u _).2, (config_pollTimeouts u _).1, config_pollSend]
  · exact (config_pollTimeouts u link).2

end

/-! ## The frames of a call -/

/-- No frame, or one of eight bytes with the given identifier. -/
def AtMostOne (id : UInt32) (frames : List CanFrameData) : Prop :=
  frames = [] ∨ ∃ data, frames = [{ id := id, data := data, len := 8 }]

theorem AtMostOne.mem {id : UInt32} {frames : List CanFrameData} (h : AtMostOne id frames)
    {frame : CanFrameData} (hmem : frame ∈ frames) : frame.id = id ∧ frame.len = 8 := by
  rcases h with rfl | ⟨data, rfl⟩
  · exact absurd hmem List.not_mem_nil
  · rcases List.mem_singleton.1 hmem with rfl
    exact ⟨rfl, rfl⟩

theorem AtMostOne.length_le {id : UInt32} {frames : List CanFrameData} (h : AtMostOne id frames) :
    frames.length ≤ 1 := by
  rcases h with rfl | ⟨data, rfl⟩
  · exact Nat.zero_le _
  · exact Nat.le_refl _

section

variable (u : IsoTpUser) (link : IsoTpLink)

theorem atMostOne_isotpUserSendCan (id : UInt32) (data : QByteArray) :
    AtMostOne id (isotpUserSendCan u id data).2 := by
  unfold isotpUserSendCan
  split_ifs with hcan
  · exact .inr ⟨data, rfl⟩
  · exact .inl rfl

theorem atMostOne_isotpSend (raw : QByteArray) :
    AtMostOne link.send_arbitration_id (isotpSend u link raw).frames := by
  simp only [isotpSend, isotpSendWithId, isotpSendSingleFrame, isotpSendFirstFrame]
  split_ifs with hsize hbusy hsingle hsent
  · exact .inl rfl
  · exact .inl rfl
  · exact atMostOne_isotpUserSendCan u _ _
  · exact atMostOne_isotpUserSendCan u _ _
  · exact atMostOne_isotpUserSendCan u _ _

theorem atMostOne_onFirstFrame (message : QByteArray) (len : Nat) :
    AtMostOne link.send_arbitration_id (onFirstFrame u link message len).2 := by
  simp only [onFirstFrame]
  split_ifs with hoverflow hok
  · exact atMostOne_isotpUserSendCan u _ _
  · exact atMostOne_isotpUserSendCan u _ _
  · exact .inl rfl

theorem atMostOne_onConsecutiveFrame (message : QByteArray) (len : Nat) :
    AtMostOne link.send_arbitration_id (onConsecutiveFrame u link message len).2 := by
  have hid : (isotpReceiveConsecutiveFrame link message len).2.send_arbitration_id =
      link.send_arbitration_id := by
    simp only [isotpReceiveConsecutiveFrame]
    split_ifs <;> rfl
  simp only [onConsecutiveFrame]
  split_ifs with hstatus hsn hok hdone hblock
  · exact .inl rfl
  · exact .inl rfl
  · exact .inl rfl
  · rw [← hid]
    exact atMostOne_isotpUserSendCan u _ _
  · exact .inl rfl
  · exact .inl rfl

theorem atMostOne_isotpOnCanMessage (data : QByteArray) :
    AtMostOne link.send_arbitration_id (isotpOnCanMessage u link data).2 := by
  simp only [isotpOnCanMessage]
  split_ifs with hlen hsingle hfirst hconsecutive hflow
  · exact .inl rfl
  · exact .inl rfl
  · exact atMostOne_onFirstFrame u link _ _
  · exact atMostOne_onConsecutiveFrame u link _ _
  · exact .inl rfl
  · exact .inl rfl

/-- With or without success the frame of a consecutive frame is the one handed over. -/
theorem frames_isotpSendConsecutiveFrame :
    ∃ message, (isotpSendConsecutiveFrame u link).frames =
      (isotpUserSendCan u link.send_arbitration_id message).2 := by
  simp only [isotpSendConsecutiveFrame]
  split_ifs <;> exact ⟨_, rfl⟩

theorem frames_pollSend :
    (pollSend u link).2 =
      if MaySend u link then (isotpSendConsecutiveFrame u link).frames else [] := by
  simp only [pollSend]
  split_ifs <;> rfl

theorem frames_isotpPoll :
    (isotpPoll u link).2 =
      if link.send_status = .inprogress then (pollSend u link).2 else [] := by
  simp only [isotpPoll]
  split_ifs <;> rfl

theorem atMostOne_isotpPoll : AtMostOne link.send_arbitration_id (isotpPoll u link).2 := by
  rcases frames_isotpSendConsecutiveFrame u link with ⟨message, hframes⟩
  rw [frames_isotpPoll, frames_pollSend, hframes]
  split_ifs with hbusy hmay
  · exact atMostOne_isotpUserSendCan u _ _
  · exact .inl rfl
  · exact .inl rfl

/-- A poll sends exactly when a message is under way and its next frame is due. -/
theorem isotpPoll_sends_iff (hu : u.canSend = true) :
    (isotpPoll u link).2 ≠ [] ↔ link.send_status = .inprogress ∧ MaySend u link := by
  rcases frames_isotpSendConsecutiveFrame u link with ⟨message, hframes⟩
  rw [frames_isotpPoll, frames_pollSend, hframes, isotpUserSendCan_ok hu]
  split_ifs with hbusy hmay
  · exact ⟨fun _ => ⟨hbusy, hmay⟩, fun _ => List.cons_ne_nil _ _⟩
  · exact ⟨fun h => absurd rfl h, fun h => absurd h.2 hmay⟩
  · exact ⟨fun h => absurd rfl h, fun h => absurd h.1 hbusy⟩

/-- A message is begun exactly when it fits and none is under way. -/
theorem isotpSend_sends_iff (hu : u.canSend = true) (raw : QByteArray) :
    (isotpSend u link raw).frames ≠ [] ↔
      raw.length ≤ link.send_buf_size ∧ link.send_status ≠ .inprogress := by
  by_cases hsize : raw.length ≤ link.send_buf_size
  · by_cases hbusy : link.send_status = .inprogress
    · rw [isotpSend_inprogress hsize hbusy]
      exact ⟨fun h => absurd rfl h, fun h => absurd hbusy h.2⟩
    · rcases Nat.lt_or_ge raw.length 8 with hshort | hlong
      · rw [isotpSend_single hu hsize hbusy hshort]
        exact ⟨fun _ => ⟨hsize, hbusy⟩, fun _ => List.cons_ne_nil _ _⟩
      · rw [isotpSend_first hu hsize hbusy hlong]
        exact ⟨fun _ => ⟨hsize, hbusy⟩, fun _ => List.cons_ne_nil _ _⟩
  · rw [isotpSend_overflow (Nat.lt_of_not_le hsize)]
    exact ⟨fun h => absurd rfl h, fun h => absurd h.1 hsize⟩

end

end IsoTp
end TcpCanUds
