import TcpCanUds.Core.IsoTpTransfer

/-!
# IsoTpSides — the two halves of a link

A link sends one message and receives another.  Each call works on one half and leaves the other one
as it is; only the poll looks at both.
-/

namespace TcpCanUds
namespace IsoTp

/-! ## Halves -/

/-- What belongs to sending. -/
structure SendSide where
  send_arbitration_id : UInt32
  send_buffer : QByteArray
  send_buf_size : Nat
  send_size : Nat
  send_offset : Nat
  send_sn : Nat
  send_bs_remain : Nat
  send_st_min : UInt8
  send_wtf_count : Nat
  send_timer_st : UInt32
  send_timer_bs : UInt32
  send_protocol_result : IsoTpProtocolResult
  send_status : IsoTpSendStatus
  deriving DecidableEq, Repr

/-- What belongs to receiving. -/
structure ReceiveSide where
  receive_buffer : QByteArray
  receive_buf_size : Nat
  receive_size : Nat
  receive_offset : Nat
  receive_sn : Nat
  receive_bs_count : Nat
  receive_timer_cr : UInt32
  receive_protocol_result : IsoTpProtocolResult
  receive_status : IsoTpReceiveStatus
  deriving DecidableEq, Repr

def sendSide (link : IsoTpLink) : SendSide where
  send_arbitration_id := link.send_arbitration_id
  send_buffer := link.send_buffer
  send_buf_size := link.send_buf_size
  send_size := link.send_size
  send_offset := link.send_offset
  send_sn := link.send_sn
  send_bs_remain := link.send_bs_remain
  send_st_min := link.send_st_min
  send_wtf_count := link.send_wtf_count
  send_timer_st := link.send_timer_st
  send_timer_bs := link.send_timer_bs
  send_protocol_result := link.send_protocol_result
  send_status := link.send_status

def receiveSide (link : IsoTpLink) : ReceiveSide where
  receive_buffer := link.receive_buffer
  receive_buf_size := link.receive_buf_size
  receive_size := link.receive_size
  receive_offset := link.receive_offset
  receive_sn := link.receive_sn
  receive_bs_count := link.receive_bs_count
  receive_timer_cr := link.receive_timer_cr
  receive_protocol_result := link.receive_protocol_result
  receive_status := link.receive_status

section

variable {p : QByteArray} {n c : Nat} {link link' : IsoTpLink}

theorem Sends.congr (h : Sends p n c link) (hsame : sendSide link' = sendSide link) :
    Sends p n c link' := by
  simp only [sendSide, SendSide.mk.injEq] at hsame
  rcases hsame with ⟨-, hbuffer, -, hsize, hoffset, hsn, hremain, hmin, -, -, -, hresult, hstatus⟩
  refine ⟨?_, ?_, ?_, ?_, ?_, ?_, ?_, ?_, ?_⟩
  · rw [hsize, h.size]
  · rw [hbuffer, h.buffer]
  · rw [hoffset, h.offset]
  · rw [hsn, h.sn]
  · rw [hremain, h.grants]
  · rw [hremain]
    exact h.remain_le
  · rw [hmin, h.stMin]
  · rw [hstatus, h.status]
  · rw [hresult, h.result]

theorem Received.congr (h : Received p link) (hsame : receiveSide link' = receiveSide link) :
    Received p link' := by
  simp only [receiveSide, ReceiveSide.mk.injEq] at hsame
  rcases hsame with ⟨hbuffer, -, hsize, -, -, -, -, hresult, hstatus⟩
  refine ⟨?_, ?_, ?_, ?_⟩
  · rw [hstatus, h.status]
  · rw [hsize, h.size]
  · rw [hbuffer, h.buffer]
  · rw [hresult]
    exact h.noTimeout

theorem Receives.congr (h : Receives p n link) (hsame : receiveSide link' = receiveSide link) :
    Receives p n link' := by
  simp only [receiveSide, ReceiveSide.mk.injEq] at hsame
  rcases hsame with ⟨hbuffer, -, hsize, hoffset, hsn, hcount, -, hresult, hstatus⟩
  refine ⟨?_, ?_, ?_, ?_, ?_, ?_, ?_, ?_⟩
  · rw [hstatus, h.status]
  · rw [hsize, h.size]
  · rw [hoffset, h.offset]
  · rw [hsn, h.sn]
  · rw [hcount, h.count]
  · rw [hbuffer, h.buffer]
  · rw [hbuffer]
    exact h.room
  · rw [hresult]
    exact h.noTimeout

end

/-! ## What each call leaves -/

section

variable (u : IsoTpUser) (link : IsoTpLink)

theorem receiveSide_isotpSend (payload : QByteArray) :
    receiveSide (isotpSend u link payload).link = receiveSide link := by
  simp only [isotpSend, isotpSendWithId, isotpSendSingleFrame, isotpSendFirstFrame]
  split_ifs <;> rfl

theorem sendSide_isotpReceive (size : Nat) :
    sendSide (isotpReceive link size).2 = sendSide link := by
  simp only [isotpReceive]
  split_ifs <;> rfl

theorem receiveSide_onFlowControl (message : QByteArray) (len : Nat) :
    receiveSide (onFlowControl u link message len) = receiveSide link := by
  simp only [onFlowControl]
  split_ifs <;> rfl

theorem sendSide_onSingleFrame (message : QByteArray) (len : Nat) :
    sendSide (onSingleFrame link message len) = sendSide link := by
  simp only [onSingleFrame, isotpReceiveSingleFrame]
  split_ifs <;> rfl

theorem sendSide_onFirstFrame (message : QByteArray) (len : Nat) :
    sendSide (onFirstFrame u link message len).1 = sendSide link := by
  simp only [onFirstFrame, isotpReceiveFirstFrame]
  split_ifs <;> rfl

theorem sendSide_onConsecutiveFrame (message : QByteArray) (len : Nat) :
    sendSide (onConsecutiveFrame u link message len).1 = sendSide link := by
  simp only [onConsecutiveFrame, isotpReceiveConsecutiveFrame]
  split_ifs <;> rfl

/-- A flow control frame is for the sender. -/
theorem isotpOnCanMessage_flowControl {data : QByteArray} (hlen : data.length = 8)
    (htype : Pci.type data = Pci.typeFlowControlFrame) :
    receiveSide (isotpOnCanMessage u link data).1 = receiveSide link ∧
      (isotpOnCanMessage u link data).2 = [] := by
  rw [isotpOnCanMessage_eight u link hlen, htype, if_neg (by decide), if_neg (by decide),
    if_neg (by decide), if_pos rfl]
  exact ⟨receiveSide_onFlowControl u link data 8, rfl⟩

/-- Every other frame is for the receiver. -/
theorem sendSide_isotpOnCanMessage {data : QByteArray} (hlen : data.length = 8)
    (htype : Pci.type data ≠ Pci.typeFlowControlFrame) :
    sendSide (isotpOnCanMessage u link data).1 = sendSide link := by
  rw [isotpOnCanMessage_eight u link hlen, if_neg htype]
  split_ifs with hsingle hfirst hconsecutive
  · exact sendSide_onSingleFrame link data 8
  · exact sendSide_onFirstFrame u link data 8
  · exact sendSide_onConsecutiveFrame u link data 8
  · rfl

end

/-! ## Polls -/

section

variable (u : IsoTpUser) (link : IsoTpLink)

/-- The link with nothing to receive. -/
def unreceiving (link : IsoTpLink) : IsoTpLink :=
  { link with receive_status := .idle }

theorem isotpSendConsecutiveFrame_unreceiving :
    isotpSendConsecutiveFrame u (unreceiving link) =
      { isotpSendConsecutiveFrame u link with
        link := unreceiving (isotpSendConsecutiveFrame u link).link } := by
  cases hcan : u.canSend with
  | true => simp [isotpSendConsecutiveFrame, isotpUserSendCan, unreceiving, hcan]
  | false => simp [isotpSendConsecutiveFrame, isotpUserSendCan, unreceiving, hcan]

theorem pollSend_unreceiving :
    pollSend u (unreceiving link) =
      (unreceiving (pollSend u link).1, (pollSend u link).2) := by
  have hmay : MaySend u (unreceiving link) ↔ MaySend u link := Iff.rfl
  simp only [pollSend, hmay, isotpSendConsecutiveFrame_unreceiving]
  generalize isotpSendConsecutiveFrame u link = sent
  by_cases hsend : MaySend u link
  · simp only [if_pos hsend]
    by_cases hok : sent.ret = .ok
    · simp only [if_pos hok, apply_ite unreceiving]
      rfl
    · simp only [if_neg hok]
      rfl
  · simp only [if_neg hsend]

theorem pollTimeoutBs_unreceiving :
    pollTimeoutBs u (unreceiving link) = unreceiving (pollTimeoutBs u link) := by
  simp only [pollTimeoutBs, apply_ite unreceiving]
  rfl

theorem sendSide_pollTimeoutCr : sendSide (pollTimeoutCr u link) = sendSide link := by
  simp only [pollTimeoutCr]
  split_ifs <;> rfl

theorem receiveSide_pollSend : receiveSide (pollSend u link).1 = receiveSide link := by
  simp only [pollSend, isotpSendConsecutiveFrame]
  split_ifs <;> rfl

theorem receiveSide_pollTimeoutBs : receiveSide (pollTimeoutBs u link) = receiveSide link := by
  simp only [pollTimeoutBs]
  split_ifs <;> rfl

/-- What a poll sends, and what it does to the sender, does not depend on the receiver. -/
theorem isotpPoll_unreceiving :
    sendSide (isotpPoll u link).1 = sendSide (isotpPoll u (unreceiving link)).1 ∧
      (isotpPoll u link).2 = (isotpPoll u (unreceiving link)).2 := by
  have hside : ∀ l, sendSide (unreceiving l) = sendSide l := fun _ => rfl
  have hstatus : (unreceiving link).send_status = link.send_status := rfl
  simp only [isotpPoll, hstatus, pollSend_unreceiving, pollTimeoutBs_unreceiving]
  by_cases hsend : link.send_status = .inprogress
  · simp only [if_pos hsend, sendSide_pollTimeoutCr, hside, and_self]
  · simp only [if_neg hsend, sendSide_pollTimeoutCr, hside, and_self]

/-- A link that sends nothing has nothing to poll for. -/
theorem sendSide_isotpPoll_idle (h : link.send_status ≠ .inprogress) :
    sendSide (isotpPoll u link).1 = sendSide link ∧ (isotpPoll u link).2 = [] := by
  rw [isotpPoll, if_neg h]
  exact ⟨sendSide_pollTimeoutCr u link, rfl⟩

/-- The receiver goes on as before, or gives its message up. -/
theorem receiveSide_isotpPoll :
    receiveSide (isotpPoll u link).1 = receiveSide link ∨
      link.receive_status = .inprogress ∧ (isotpPoll u link).1.receive_status = .idle := by
  have hcr : ∀ l : IsoTpLink, receiveSide l = receiveSide link →
      receiveSide (pollTimeoutCr u l) = receiveSide link ∨
        link.receive_status = .inprogress ∧ (pollTimeoutCr u l).receive_status = .idle := by
    intro l hl
    have hstatus : l.receive_status = link.receive_status :=
      congrArg ReceiveSide.receive_status hl
    rw [pollTimeoutCr]
    split_ifs with hexpired
    · exact .inr ⟨hstatus ▸ hexpired.1, rfl⟩
    · exact .inl hl
  rw [isotpPoll]
  split_ifs
  · exact hcr _ ((receiveSide_pollTimeoutBs u _).trans (receiveSide_pollSend u link))
  · exact hcr _ rfl

end

end IsoTp
end TcpCanUds
