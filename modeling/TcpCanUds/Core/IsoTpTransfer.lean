import TcpCanUds.Core.IsoTpSteps

/-!
# IsoTpTransfer — the message behind the frames

A message of more than seven bytes travels as a first frame and numbered consecutive frames.
`Sends` and `Receives` tell how far a link is with sending or receiving such a message; the lemmas
below move them on by one frame.
-/

namespace TcpCanUds
namespace IsoTp

open QByteArray

/-! ## The frames -/

/-- How many consecutive frames follow the first frame. -/
def consecutiveCount (p : QByteArray) : Nat :=
  p.length / 7

/-- How many bytes the first frame and `n` consecutive frames carry. -/
def carried (p : QByteArray) (n : Nat) : Nat :=
  min (6 + 7 * n) p.length

/-- The bytes of the consecutive frame that follows `n` others. -/
def chunk (p : QByteArray) (n : Nat) : QByteArray :=
  (p.drop (carried p n)).take 7

def consecutiveFrame (p : QByteArray) (n : Nat) : QByteArray :=
  Pci.byte Pci.typeConsecutiveFrame (n + 1) ::
    (chunk p n ++ List.replicate (7 - (chunk p n).length) 0)

/-- The flow control frame of a receiver that lets the sender go on. -/
def continueFrame : QByteArray :=
  Pci.byte Pci.typeFlowControlFrame Pci.flowStatusContinue ::
    UInt8.ofNat isoTpDefaultBlockSize :: isotpMsToStMin isoTpDefaultStMin :: List.replicate 5 0

theorem isContinueToSend_continueFrame : IsContinueToSend continueFrame :=
  ⟨by decide, by decide, by decide, by decide⟩

section

variable {p : QByteArray} {n : Nat}

theorem carried_lt (h : n < consecutiveCount p) : carried p n < p.length := by
  rw [consecutiveCount] at h
  rw [carried]
  omega

theorem length_chunk (p : QByteArray) (n : Nat) :
    (chunk p n).length = min 7 (p.length - carried p n) := by
  rw [chunk, List.length_take, List.length_drop]

theorem carried_succ (h : n < consecutiveCount p) :
    carried p (n + 1) = carried p n + (chunk p n).length := by
  rw [consecutiveCount] at h
  rw [length_chunk, carried, carried]
  omega

/-- The last consecutive frame completes the message, no earlier one does. -/
theorem length_le_carried_iff : p.length ≤ carried p n ↔ consecutiveCount p ≤ n := by
  rw [consecutiveCount, carried]
  omega

theorem take_carried_succ (h : n < consecutiveCount p) :
    p.take (carried p (n + 1)) = p.take (carried p n) ++ chunk p n := by
  rw [carried_succ h, List.take_add, chunk, List.length_take]
  congr 1
  rw [List.take_eq_take_iff]
  omega

theorem length_consecutiveFrame (p : QByteArray) (n : Nat) : (consecutiveFrame p n).length = 8 := by
  have hle : (chunk p n).length ≤ 7 := List.length_take_le _ _
  simp only [consecutiveFrame, List.length_cons, List.length_append, List.length_replicate]
  omega

theorem length_firstFrame (h : 6 ≤ p.length) : (firstFrame p).length = 8 := by
  rw [firstFrame, List.length_cons, List.length_cons, List.length_take]
  omega

theorem length_singleFrame (h : p.length ≤ 7) : (singleFrame p).length = 8 := by
  rw [singleFrame, List.length_cons, List.length_append, List.length_replicate]
  omega

end

/-! ## Polls -/

theorem not_timeAfter_self (ms : UInt32) :
    isoTpTimeAfter ms (ms + isoTpDefaultResponseTimeout) = false := by
  rw [isoTpTimeAfter, UInt32.add_comm, UInt32.add_sub_cancel]
  decide

theorem toInt32_neg_iff (x : UInt32) : x.toInt32 < 0 ↔ 2147483648 ≤ x.toNat := by
  rw [Int32.lt_iff_toInt_lt]
  change x.toBitVec.toInt < 0 ↔ _
  rw [BitVec.toInt_eq_toNat_cond]
  change (if 2 * x.toNat < 2 ^ 32 then (x.toNat : Int) else _) < 0 ↔ _
  have hlt := x.toNat_lt
  split_ifs <;> constructor <;> intro h <;> omega

/-- A timer set at `t` has expired when the clock is strictly past `t + 100`, also where the counter
of milliseconds wraps. -/
theorem timeAfter_ofNat {now t : Nat} (h : t ≤ now) (hle : now ≤ t + 2147483648) :
    isoTpTimeAfter (UInt32.ofNat now) (UInt32.ofNat t + isoTpDefaultResponseTimeout) =
      decide (t + 100 < now) := by
  have htimeout : isoTpDefaultResponseTimeout.toNat = 100 := rfl
  rw [isoTpTimeAfter, decide_eq_decide, toInt32_neg_iff, UInt32.toNat_sub, UInt32.toNat_add,
    UInt32.toNat_ofNat', UInt32.toNat_ofNat', htimeout]
  omega

theorem pollTimeoutBs_refreshed {u : IsoTpUser} {link : IsoTpLink}
    (h : link.send_timer_bs = u.ms + isoTpDefaultResponseTimeout) :
    pollTimeoutBs u link = link := by
  rw [pollTimeoutBs, h, not_timeAfter_self, if_neg Bool.false_ne_true]

theorem pollTimeoutCr_eq {u : IsoTpUser} {link : IsoTpLink}
    (h : link.receive_status = .inprogress → isoTpTimeAfter u.ms link.receive_timer_cr = false) :
    pollTimeoutCr u link = link := by
  rw [pollTimeoutCr, if_neg]
  rintro ⟨hstatus, hafter⟩
  rw [h hstatus] at hafter
  cases hafter

/-- A poll that has nothing to send and finds no expired timer changes nothing. -/
theorem isotpPoll_quiet {u : IsoTpUser} {link : IsoTpLink}
    (hsend : link.send_status = .inprogress →
      ¬ MaySend u link ∧ isoTpTimeAfter u.ms link.send_timer_bs = false)
    (hreceive : link.receive_status = .inprogress →
      isoTpTimeAfter u.ms link.receive_timer_cr = false) :
    isotpPoll u link = (link, []) := by
  rw [isotpPoll]
  split_ifs with hstatus
  · rcases hsend hstatus with ⟨hmay, hafter⟩
    simp only [pollSend, if_neg hmay, pollTimeoutBs, hafter, Bool.false_eq_true, if_false,
      pollTimeoutCr_eq hreceive]
  · rw [pollTimeoutCr_eq hreceive]

/-- The link behind a poll that sent a consecutive frame with `k` bytes. -/
def polled (u : IsoTpUser) (link : IsoTpLink) (k : Nat) : IsoTpLink :=
  { link with
    send_offset := link.send_offset + k
    send_sn := if link.send_sn + 1 > 0x0F then 0 else link.send_sn + 1
    send_bs_remain :=
      if link.send_bs_remain ≠ isotpInvalidBs then link.send_bs_remain - 1 else link.send_bs_remain
    send_timer_bs := u.ms + isoTpDefaultResponseTimeout
    send_timer_st := u.ms + link.send_st_min.toUInt32
    send_status := if link.send_offset + k ≥ link.send_size then .idle else link.send_status }

theorem isotpPoll_send {u : IsoTpUser} {link : IsoTpLink} (hu : u.canSend = true)
    (hstatus : link.send_status = .inprogress) (hmay : MaySend u link)
    (hreceive : link.receive_status = .inprogress →
      isoTpTimeAfter u.ms link.receive_timer_cr = false) :
    isotpPoll u link =
      (polled u link (min (link.send_size - link.send_offset) 7),
        [{ id := link.send_arbitration_id
           data :=
            Pci.byte Pci.typeConsecutiveFrame link.send_sn ::
              ((link.send_buffer.drop link.send_offset).take
                  (min (link.send_size - link.send_offset) 7) ++
                List.replicate (7 - min (link.send_size - link.send_offset) 7) 0)
           len := 8 }]) := by
  simp only [isotpPoll, if_pos hstatus, pollSend, if_pos hmay, isotpSendConsecutiveFrame,
    isotpUserSendCan_ok hu, if_true]
  -- sending has refreshed the timer that the poll looks at next
  by_cases hend : link.send_offset + min (link.send_size - link.send_offset) 7 ≥ link.send_size
  · rw [if_pos hend, pollTimeoutBs_refreshed rfl, pollTimeoutCr_eq (by exact hreceive), polled,
      if_pos hend]
  · rw [if_neg hend, pollTimeoutBs_refreshed rfl, pollTimeoutCr_eq (by exact hreceive), polled,
      if_neg hend]

/-! ## The sender -/

/-- The link has sent the first frame of `p` and `n` consecutive frames, and taken `c` grants of
eight frames each. -/
structure Sends (p : QByteArray) (n c : Nat) (link : IsoTpLink) : Prop where
  size : link.send_size = p.length
  buffer : link.send_buffer.take p.length = p
  offset : link.send_offset = carried p n
  sn : link.send_sn = (n + 1) % 16
  grants : link.send_bs_remain + n = 8 * c
  remain_le : link.send_bs_remain ≤ 8
  stMin : link.send_st_min = 0
  status : link.send_status = if n < consecutiveCount p then .inprogress else .idle
  result : link.send_protocol_result = .ok

theorem sends_started (u : IsoTpUser) (link : IsoTpLink) {p : QByteArray} (h : 8 ≤ p.length) :
    Sends p 0 0 (started u link p) := by
  refine ⟨rfl, take_write_zero _ _, ?_, rfl, rfl, Nat.zero_le _, rfl, ?_, rfl⟩
  · change 6 = min (6 + 7 * 0) p.length
    omega
  · rw [if_pos (by rw [consecutiveCount]; omega)]
    rfl

theorem take_drop_of_take {buffer p : QByteArray} {off k : Nat} (h : buffer.take p.length = p)
    (hle : off + k ≤ p.length) : (buffer.drop off).take k = (p.drop off).take k := by
  rw [← h, List.drop_take, List.take_take, Nat.min_eq_left (by omega)]

section

variable {p : QByteArray} {n c : Nat} {u : IsoTpUser} {link : IsoTpLink}

theorem Sends.inprogress_iff (h : Sends p n c link) :
    link.send_status = .inprogress ↔ n < consecutiveCount p := by
  rw [h.status]
  split_ifs with hlt <;> simp [hlt]

theorem Sends.maySend_iff (h : Sends p n c link) : MaySend u link ↔ n < 8 * c := by
  have hgrants := h.grants
  have hle := h.remain_le
  simp only [MaySend, h.stMin, isotpInvalidBs, true_or, and_true]
  omega

/-- A poll with a grant sends the next consecutive frame. -/
theorem Sends.poll (h : Sends p n c link) (hu : u.canSend = true) (hn : n < consecutiveCount p)
    (hc : n < 8 * c)
    (hreceive : link.receive_status = .inprogress →
      isoTpTimeAfter u.ms link.receive_timer_cr = false) :
    Sends p (n + 1) c (isotpPoll u link).1 ∧
      (isotpPoll u link).2 =
        [{ id := link.send_arbitration_id, data := consecutiveFrame p n, len := 8 }] ∧
      (isotpPoll u link).1.receive_status = link.receive_status ∧
      (isotpPoll u link).1.send_timer_bs = u.ms + isoTpDefaultResponseTimeout := by
  -- the link sends the bytes of the next chunk
  have hlen : min (link.send_size - link.send_offset) 7 = (chunk p n).length := by
    rw [h.size, h.offset, length_chunk, Nat.min_comm]
  have hroom : carried p n + (chunk p n).length ≤ p.length := by
    rw [← carried_succ hn]
    exact Nat.min_le_right _ _
  rw [isotpPoll_send hu (h.inprogress_iff.2 hn) (h.maySend_iff.2 hc) hreceive]
  refine ⟨?_, ?_, rfl, rfl⟩
  · have hgrants := h.grants
    have hle := h.remain_le
    refine ⟨h.size, h.buffer, ?_, ?_, ?_, ?_, h.stMin, ?_, h.result⟩
    · change link.send_offset + _ = _
      rw [hlen, h.offset, carried_succ hn]
    · change (if link.send_sn + 1 > 0x0F then 0 else link.send_sn + 1) = _
      rw [h.sn]
      split_ifs <;> omega
    · change (if link.send_bs_remain ≠ isotpInvalidBs then _ else _) + _ = _
      rw [if_pos (by rw [isotpInvalidBs]; omega)]
      omega
    · change (if link.send_bs_remain ≠ isotpInvalidBs then _ else _) ≤ 8
      rw [if_pos (by rw [isotpInvalidBs]; omega)]
      omega
    · change (if link.send_offset + _ ≥ link.send_size then _ else link.send_status) = _
      rw [hlen, h.offset, h.size, ← carried_succ hn, h.inprogress_iff.2 hn]
      by_cases hlast : consecutiveCount p ≤ n + 1
      · rw [if_pos (length_le_carried_iff.2 hlast), if_neg (Nat.not_lt.2 hlast)]
      · rw [if_neg (mt length_le_carried_iff.1 hlast), if_pos (Nat.lt_of_not_le hlast)]
  · have hbytes : (link.send_buffer.drop (carried p n)).take (chunk p n).length = chunk p n := by
      rw [take_drop_of_take h.buffer hroom, chunk, List.take_eq_take_iff, List.length_take,
        Nat.min_assoc, Nat.min_self]
    have hsn : Pci.byte Pci.typeConsecutiveFrame ((n + 1) % 16) =
        Pci.byte Pci.typeConsecutiveFrame (n + 1) := by
      rw [Pci.byte, Pci.byte, Nat.mod_mod]
    rw [hlen, h.offset, hbytes, h.sn, hsn, consecutiveFrame]

/-- A flow control frame lets the sender send eight more frames. -/
theorem Sends.grant (h : Sends p n c link) (hn : n < consecutiveCount p) (hc : n = 8 * c) :
    ∃ link', isotpOnCanMessage u link continueFrame = (link', []) ∧ Sends p n (c + 1) link' ∧
      link'.receive_status = link.receive_status := by
  refine ⟨granted u link continueFrame, ?_, ?_, rfl⟩
  · rw [isotpOnCanMessage_continue u link isContinueToSend_continueFrame,
      if_pos (h.inprogress_iff.2 hn)]
  · -- the grants before are used up, so eight are left and eight more are taken
    have hblock : grantedBlockSize continueFrame = 8 := by decide
    refine ⟨h.size, h.buffer, h.offset, h.sn, ?_, ?_, ?_, h.status, h.result⟩
    · change grantedBlockSize continueFrame + n = _
      omega
    · change grantedBlockSize continueFrame ≤ 8
      omega
    · change isotpStMinToMs (continueFrame.byteAt 2) = 0
      decide

end

/-! ## The receiver -/

/-- The link has taken the first frame of `p` and `n` consecutive frames, and waits for more. -/
structure Receives (p : QByteArray) (n : Nat) (link : IsoTpLink) : Prop where
  status : link.receive_status = .inprogress
  size : link.receive_size = p.length
  offset : link.receive_offset = carried p n
  sn : link.receive_sn = (n + 1) % 16
  count : link.receive_bs_count = 8 - n % 8
  buffer : link.receive_buffer.take (carried p n) = p.take (carried p n)
  room : p.length ≤ link.receive_buffer.length
  noTimeout : link.receive_protocol_result ≠ .timeoutCr

/-- The link has taken the whole of `p`. -/
structure Received (p : QByteArray) (link : IsoTpLink) : Prop where
  status : link.receive_status = .full
  size : link.receive_size = p.length
  buffer : link.receive_buffer.take p.length = p
  noTimeout : link.receive_protocol_result ≠ .timeoutCr

/-- A message that begins takes the last one's timeout back. -/
theorem beginResult_ne_timeoutCr (link : IsoTpLink) : beginResult link ≠ .timeoutCr := by
  rw [beginResult]
  split_ifs <;> exact fun h => IsoTpProtocolResult.noConfusion h

section

variable {p : QByteArray} {n : Nat} {u : IsoTpUser} {link : IsoTpLink}

theorem isotpOnCanMessage_eight (u : IsoTpUser) (link : IsoTpLink) {data : QByteArray}
    (h : data.length = 8) :
    isotpOnCanMessage u link data =
      if Pci.type data = Pci.typeSingle then (onSingleFrame link data 8, [])
      else if Pci.type data = Pci.typeFirstFrame then onFirstFrame u link data 8
      else if Pci.type data = Pci.typeConsecutiveFrame then onConsecutiveFrame u link data 8
      else if Pci.type data = Pci.typeFlowControlFrame then (onFlowControl u link data 8, [])
      else (link, []) := by
  rw [isotpOnCanMessage_eq u link (by omega), padded_of_eight h, h]

theorem isotpSendFlowControl_continue (hu : u.canSend = true) (link : IsoTpLink) :
    isotpSendFlowControl u link Pci.flowStatusContinue isoTpDefaultBlockSize isoTpDefaultStMin =
      [{ id := link.send_arbitration_id, data := continueFrame, len := 8 }] := by
  rw [isotpSendFlowControl, isotpUserSendCan_ok hu]
  rfl

theorem length_write {buffer data : QByteArray} {off : Nat}
    (h : off + data.length ≤ buffer.length) : (buffer.write off data).length = buffer.length := by
  rw [write, List.length_append, List.length_append, List.length_take, List.length_drop]
  omega

theorem take_write {buffer data : QByteArray} {off : Nat} (h : off ≤ buffer.length) :
    (buffer.write off data).take (off + data.length) = buffer.take off ++ data := by
  rw [write, List.take_append_of_le_length, List.take_of_length_le]
  · rw [List.length_append, List.length_take]
    omega
  · rw [List.length_append, List.length_take]
    omega

/-- The first frame of a message that fits is answered with a flow control frame. -/
theorem receives_firstFrame (u : IsoTpUser) (link : IsoTpLink) (hu : u.canSend = true)
    (hlong : 8 ≤ p.length) (hsize : p.length ≤ link.receive_buf_size) (hmax : p.length < 4096)
    (hroom : p.length ≤ link.receive_buffer.length) :
    Receives p 0 (isotpOnCanMessage u link (firstFrame p)).1 ∧
      (isotpOnCanMessage u link (firstFrame p)).2 =
        [{ id := link.send_arbitration_id, data := continueFrame, len := 8 }] ∧
      (isotpOnCanMessage u link (firstFrame p)).1.send_status = link.send_status ∧
      (isotpOnCanMessage u link (firstFrame p)).1.receive_timer_cr =
        u.ms + isoTpDefaultResponseTimeout := by
  have htype : Pci.type (firstFrame p) = Pci.typeFirstFrame := Pci.type_byte (by decide) _ _
  -- twelve bits hold the length
  have hpayload : Pci.low (firstFrame p) * 256 + ((firstFrame p).byteAt 1).toNat = p.length := by
    have hlow : Pci.low (firstFrame p) = p.length / 256 % 16 := Pci.low_byte (by decide) _ _
    have hone : ((firstFrame p).byteAt 1).toNat = p.length % 256 := UInt8.toNat_ofNat'
    omega
  have hdata : (firstFrame p).mid 2 6 = p.take 6 := by
    rw [firstFrame, mid, List.drop_succ_cons, List.drop_succ_cons, List.drop_zero, List.take_take]
    rfl
  have hsix : (p.take 6).length = 6 := by
    rw [List.length_take]
    omega
  have hcarried : carried p 0 = 6 := by
    rw [carried]
    omega
  have hreceived : ∀ l : IsoTpLink, l.receive_buf_size = link.receive_buf_size →
      isotpReceiveFirstFrame l (firstFrame p) 8 =
        (.ok,
          { l with
            receive_buffer := l.receive_buffer.write 0 (p.take 6)
            receive_size := p.length
            receive_offset := 6
            receive_sn := 1 }) := by
    intro l hl
    rw [isotpReceiveFirstFrame, if_neg (by decide), hpayload, hdata]
    rw [if_neg (by omega), if_neg (by omega)]
  rw [isotpOnCanMessage_eight u link (length_firstFrame (by omega)), htype, if_neg (by decide),
    if_pos rfl, onFirstFrame]
  simp only [hreceived, reduceCtorEq, if_false, if_true, isotpSendFlowControl_continue hu]
  have hwrite := take_write_zero link.receive_buffer (p.take 6)
  rw [hsix] at hwrite
  refine ⟨⟨rfl, rfl, hcarried.symm, rfl, rfl, ?_, ?_, beginResult_ne_timeoutCr link⟩, trivial,
    trivial, trivial⟩
  · rw [hcarried]
    exact hwrite
  · rw [length_write (by omega)]
    exact hroom

/-- What a consecutive frame in its turn leaves in the link. -/
def consumed (link : IsoTpLink) (p : QByteArray) (n : Nat) : IsoTpLink :=
  { link with
    receive_buffer := link.receive_buffer.write (carried p n) (chunk p n)
    receive_offset := carried p (n + 1)
    receive_sn := (n + 2) % 16 }

theorem Receives.receive (h : Receives p n link) (hn : n < consecutiveCount p) :
    isotpReceiveConsecutiveFrame link (consecutiveFrame p n) 8 = (.ok, consumed link p n) := by
  have hlow : Pci.low (consecutiveFrame p n) = (n + 1) % 16 := Pci.low_byte (by decide) _ _
  have hlen : min (link.receive_size - link.receive_offset) 7 = (chunk p n).length := by
    rw [h.size, h.offset, length_chunk, Nat.min_comm]
  have hdata : (consecutiveFrame p n).mid 1 (chunk p n).length = chunk p n := by
    rw [consecutiveFrame, mid, List.drop_succ_cons, List.drop_zero, List.take_left]
  have hle : (chunk p n).length ≤ 7 := List.length_take_le _ _
  rw [isotpReceiveConsecutiveFrame, if_neg (by rw [h.sn, hlow]; exact not_not.2 rfl), hlen]
  rw [if_neg (by omega), hdata, h.offset, ← carried_succ hn, h.sn, consumed]
  congr 2
  split_ifs <;> omega

theorem Receives.buffer_consumed (h : Receives p n link) (hn : n < consecutiveCount p) :
    (consumed link p n).receive_buffer.take (carried p (n + 1)) = p.take (carried p (n + 1)) ∧
      p.length ≤ (consumed link p n).receive_buffer.length := by
  have hlt := carried_lt hn
  have hroom := h.room
  have hle : carried p (n + 1) ≤ p.length := Nat.min_le_right _ _
  have hsucc := carried_succ hn
  refine ⟨?_, ?_⟩
  · rw [consumed, hsucc, take_write (by omega), h.buffer, ← take_carried_succ hn, hsucc]
  · rw [consumed, length_write (by omega)]
    exact hroom

theorem type_consecutiveFrame (p : QByteArray) (n : Nat) :
    Pci.type (consecutiveFrame p n) = Pci.typeConsecutiveFrame :=
  Pci.type_byte (by decide) _ _

theorem Receives.consecutive (h : Receives p n link) (hu : u.canSend = true)
    (hn : n + 1 < consecutiveCount p) :
    Receives p (n + 1) (isotpOnCanMessage u link (consecutiveFrame p n)).1 ∧
      (isotpOnCanMessage u link (consecutiveFrame p n)).2 =
        (if (n + 1) % 8 = 0 then
          [{ id := link.send_arbitration_id, data := continueFrame, len := 8 }]
        else []) ∧
      (isotpOnCanMessage u link (consecutiveFrame p n)).1.send_status = link.send_status ∧
      (isotpOnCanMessage u link (consecutiveFrame p n)).1.receive_timer_cr =
        u.ms + isoTpDefaultResponseTimeout := by
  have hlt : n < consecutiveCount p := Nat.lt_of_succ_lt hn
  have hmore : ¬ carried p (n + 1) ≥ p.length := mt length_le_carried_iff.1 (Nat.not_le.2 hn)
  rcases h.buffer_consumed hlt with ⟨hbuffer, hroom⟩
  rw [isotpOnCanMessage_eight u link (length_consecutiveFrame p n), type_consecutiveFrame,
    if_neg (by decide), if_neg (by decide), if_pos rfl, onConsecutiveFrame,
    if_neg (not_not.2 h.status), h.receive hlt]
  -- the count of the block never wraps
  have hcount : (link.receive_bs_count + 255) % 256 = 7 - n % 8 := by
    rw [h.count]
    omega
  have hoffset : ¬ (consumed link p n).receive_offset ≥ (consumed link p n).receive_size := by
    change ¬ carried p (n + 1) ≥ link.receive_size
    rw [h.size]
    exact hmore
  have hsame : (consumed link p n).receive_bs_count = link.receive_bs_count := rfl
  simp only [reduceCtorEq, if_false, if_true, if_neg hoffset, hsame, hcount,
    isotpSendFlowControl_continue hu]
  by_cases hblock : (n + 1) % 8 = 0
  · rw [if_pos (show 7 - n % 8 = 0 by omega), if_pos hblock]
    refine ⟨⟨h.status, h.size, rfl, rfl, ?_, hbuffer, hroom, h.noTimeout⟩, rfl, rfl, rfl⟩
    change 8 = 8 - (n + 1) % 8
    omega
  · rw [if_neg (show ¬ 7 - n % 8 = 0 by omega), if_neg hblock]
    refine ⟨⟨h.status, h.size, rfl, rfl, ?_, hbuffer, hroom, h.noTimeout⟩, rfl, rfl, rfl⟩
    change 7 - n % 8 = 8 - (n + 1) % 8
    omega

theorem Receives.last (h : Receives p n link) (hn : n + 1 = consecutiveCount p) :
    Received p (isotpOnCanMessage u link (consecutiveFrame p n)).1 ∧
      (isotpOnCanMessage u link (consecutiveFrame p n)).2 = [] ∧
      (isotpOnCanMessage u link (consecutiveFrame p n)).1.send_status = link.send_status := by
  have hlt : n < consecutiveCount p := by omega
  have hdone : p.length ≤ carried p (n + 1) := length_le_carried_iff.2 (Nat.le_of_eq hn.symm)
  rcases h.buffer_consumed hlt with ⟨hbuffer, -⟩
  have hwhole : carried p (n + 1) = p.length := Nat.le_antisymm (Nat.min_le_right _ _) hdone
  rw [hwhole, List.take_length] at hbuffer
  rw [isotpOnCanMessage_eight u link (length_consecutiveFrame p n), type_consecutiveFrame,
    if_neg (by decide), if_neg (by decide), if_pos rfl, onConsecutiveFrame,
    if_neg (not_not.2 h.status), h.receive hlt]
  have hoffset : (consumed link p n).receive_offset ≥ (consumed link p n).receive_size := by
    change carried p (n + 1) ≥ link.receive_size
    rw [h.size]
    exact hdone
  simp only [reduceCtorEq, if_false, if_true, if_pos hoffset]
  exact ⟨⟨rfl, h.size, hbuffer, h.noTimeout⟩, trivial, rfl⟩

theorem received_singleFrame (u : IsoTpUser) (link : IsoTpLink) (hshort : p.length ≤ 7)
    (hpos : 0 < p.length) :
    Received p (isotpOnCanMessage u link (singleFrame p)).1 ∧
      (isotpOnCanMessage u link (singleFrame p)).2 = [] ∧
      (isotpOnCanMessage u link (singleFrame p)).1.send_status = link.send_status := by
  have hlow : Pci.low (singleFrame p) = p.length := by
    rw [singleFrame, Pci.low_byte (by decide)]
    omega
  have hdata : (singleFrame p).mid 1 p.length = p := by
    rw [singleFrame, mid, List.drop_succ_cons, List.drop_zero, List.take_left]
  have htype : Pci.type (singleFrame p) = Pci.typeSingle := Pci.type_byte (by decide) _ _
  rw [isotpOnCanMessage_eight u link (length_singleFrame hshort), htype, if_pos rfl, onSingleFrame]
  have hfits : ¬ (p.length = 0 ∨ p.length > 8 - 1) := by omega
  simp only [isotpReceiveSingleFrame, hlow, hdata, if_neg hfits, if_true]
  exact ⟨⟨rfl, rfl, take_write_zero _ _, beginResult_ne_timeoutCr link⟩, trivial, trivial⟩

theorem Received.isotpReceive (h : Received p link) {size : Nat} (hsize : p.length ≤ size) :
    IsoTp.isotpReceive link size = (some p, { link with receive_status := .idle }) := by
  rw [IsoTp.isotpReceive, if_neg (not_not.2 h.status), h.size, Nat.min_eq_left hsize, h.buffer]

end

end IsoTp
end TcpCanUds
