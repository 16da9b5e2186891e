import TcpCanUds.Core.IsoTpLatency

/-!
# IsoTpRecovery — how long a message can keep the link

While a message of several frames is under way, another one is refused.  The receiver decides how long
that takes: it grants blocks, asks for gaps between the frames, asks to wait, or says nothing at all.
Whatever it does, a link that is polled every `gap` milliseconds sends its next consecutive frame or gives
up before `answerTime gap` has passed.  Only flow control frames with a status that has no meaning could
delay that: they start the timer and change nothing else.
-/

namespace TcpCanUds
namespace IsoTp

/-! ## Timers -/

/-- Two clocks less than `2 ^ 31` milliseconds apart are compared as they should be. -/
theorem timeAfter_ofNat_ofNat {now t : Nat} (h : now ≤ t + 2147483648) (h' : t < now + 2147483648) :
    isoTpTimeAfter (UInt32.ofNat now) (UInt32.ofNat t) = decide (t < now) := by
  rw [isoTpTimeAfter, decide_eq_decide, toInt32_neg_iff, UInt32.toNat_sub, UInt32.toNat_ofNat',
    UInt32.toNat_ofNat']
  omega

theorem ofNat_add_timeout (now : Nat) :
    UInt32.ofNat now + isoTpDefaultResponseTimeout = UInt32.ofNat (now + 100) :=
  (UInt32.ofNat_add now 100).symm

theorem ofNat_add_stMin (now : Nat) (st_min : UInt8) :
    UInt32.ofNat now + st_min.toUInt32 = UInt32.ofNat (now + st_min.toNat) := by
  rw [UInt32.ofNat_add]
  exact congrArg (UInt32.ofNat now + ·) (UInt32.toNat_inj.1 (by simp))

/-- No receiver can ask for gaps longer than 127 milliseconds. -/
theorem isotpStMinToMs_le (st_min : UInt8) : (isotpStMinToMs st_min).toNat ≤ 127 := by
  rw [isotpStMinToMs]
  split_ifs with hsub hle
  · decide
  · exact hle
  · decide

/-! ## What is left of a message -/

/-- The number of consecutive frames that are still to be sent. -/
def remaining (link : IsoTpLink) : Nat :=
  (link.send_size - link.send_offset + 6) / 7

/-- The most time between two frames of a message, on a link that is polled every `gap` milliseconds:
one timeout, another one after the single wait that is allowed, and the gap that the receiver asked for,
each of them seen one poll late. -/
def answerTime (gap : Nat) : Nat :=
  227 + 2 * gap

/-- How much longer the receiver can still ask to wait. -/
def patience (gap : Nat) (link : IsoTpLink) : Nat :=
  (1 - link.send_wtf_count) * (100 + gap)

/-- What the link is waiting for. -/
inductive WaitsFor (gap T now lastPoll : Nat) (link : IsoTpLink) : Prop
  -- the receiver has to allow the next block, or the timer that ends at `due` stops the message
  | grant (st due : Nat) (hremain : link.send_bs_remain = 0)
      (hst : link.send_timer_st = UInt32.ofNat st) (hbs : link.send_timer_bs = UInt32.ofNat due)
      (hpoll : lastPoll ≤ due) (hdue : due ≤ now + 100) (hnear : st ≤ due + 27)
      (hfar : due + patience gap link ≤ st + 200 + gap)
      (htime : due + 27 + patience gap link + gap + remaining link * answerTime gap ≤ T) :
      WaitsFor gap T now lastPoll link
  -- the next frame is sent by the first poll after `st`
  | turn (st : Nat) (hremain : link.send_bs_remain ≠ 0)
      (hst : link.send_timer_st = UInt32.ofNat st) (hnear : st ≤ now + 127)
      (hfar : lastPoll ≤ st + 200 + gap)
      (htime : max st lastPoll + gap + remaining link * answerTime gap ≤ T) :
      WaitsFor gap T now lastPoll link

/-- A message under way will have left the link by the time `T`. -/
structure Waits (gap T now lastPoll : Nat) (link : IsoTpLink) : Prop where
  wtf : link.send_wtf_count ≤ 1
  st_min : link.send_st_min.toNat ≤ 127
  waits : WaitsFor gap T now lastPoll link

section

variable {gap T T' now now' lastPoll : Nat} {link link' : IsoTpLink}

theorem Waits.congr (h : Waits gap T now lastPoll link) (hsame : sendSide link' = sendSide link) :
    Waits gap T now lastPoll link' := by
  simp only [sendSide, SendSide.mk.injEq] at hsame
  rcases hsame with ⟨-, -, -, hsize, hoffset, -, hremain, hst_min, hwtf, hst, hbs, -, -⟩
  have hleft : remaining link' = remaining link := by
    rw [remaining, remaining, hsize, hoffset]
  have hpatience : patience gap link' = patience gap link := by
    rw [patience, patience, hwtf]
  refine ⟨hwtf ▸ h.wtf, hst_min ▸ h.st_min, ?_⟩
  cases h.waits with
  | grant st due hzero hst' hbs' hpoll hdue hnear hfar htime =>
      exact .grant st due (hremain.trans hzero) (hst.trans hst') (hbs.trans hbs') hpoll hdue hnear
        (hpatience ▸ hfar) (by rw [hpatience, hleft]; exact htime)
  | turn st hone hst' hnear hfar htime =>
      exact .turn st (hremain.symm ▸ hone) (hst.trans hst') hnear hfar (hleft ▸ htime)

/-- Time passes. -/
theorem Waits.later (h : Waits gap T now lastPoll link) (hnow : now ≤ now') (hT : T ≤ T') :
    Waits gap T' now' lastPoll link := by
  refine ⟨h.wtf, h.st_min, ?_⟩
  cases h.waits with
  | grant st due hzero hst hbs hpoll hdue hnear hfar htime =>
      exact .grant st due hzero hst hbs hpoll (hdue.trans (Nat.add_le_add_right hnow 100)) hnear hfar
        (htime.trans hT)
  | turn st hone hst hnear hfar htime =>
      exact .turn st hone hst (hnear.trans (Nat.add_le_add_right hnow 127)) hfar (htime.trans hT)

/-- As long as the polls keep coming, the time is not over. -/
theorem Waits.le (h : Waits gap T now lastPoll link) (hpolled : now ≤ lastPoll + gap) : now ≤ T := by
  cases h.waits with
  | grant st due hzero hst hbs hpoll hdue hnear hfar htime =>
      calc
        now ≤ lastPoll + gap := hpolled
        _ ≤ due + gap := Nat.add_le_add_right hpoll gap
        _ ≤ T := by omega
  | turn st hone hst hnear hfar htime =>
      calc
        now ≤ lastPoll + gap := hpolled
        _ ≤ max st lastPoll + gap := Nat.add_le_add_right (Nat.le_max_right st lastPoll) gap
        _ ≤ T := by omega

end

/-! ## Polls -/

section

variable {gap T now lastPoll : Nat} {link : IsoTpLink}

/-- A poll that may send does, and the message goes on with one frame less, or is over. -/
theorem pollSend_cases (hmay : MaySend { ms := UInt32.ofNat now } link)
    (hbusy : (pollSend { ms := UInt32.ofNat now } link).1.send_status = .inprogress) :
    let link' := (pollSend { ms := UInt32.ofNat now } link).1
    remaining link' + 1 = remaining link ∧ link'.send_wtf_count = link.send_wtf_count ∧
      link'.send_st_min = link.send_st_min ∧
      link'.send_timer_st = UInt32.ofNat (now + link.send_st_min.toNat) ∧
      link'.send_timer_bs = UInt32.ofNat (now + 100) := by
  simp only [pollSend, if_pos hmay, isotpSendConsecutiveFrame,
    isotpUserSendCan_ok (u := { ms := UInt32.ofNat now }) rfl, if_true] at hbusy ⊢
  by_cases hdone : link.send_offset + min (link.send_size - link.send_offset) 7 ≥ link.send_size
  · rw [if_pos hdone] at hbusy
    cases hbusy
  · rw [if_neg hdone]
    refine ⟨?_, rfl, rfl, ofNat_add_stMin now link.send_st_min, ofNat_add_timeout now⟩
    simp only [remaining]
    omega

/-- With a new timer the link waits again, for one frame less. -/
theorem waits_sent (hwtf : link.send_wtf_count ≤ 1) (hst_min : link.send_st_min.toNat ≤ 127)
    (hst : link.send_timer_st = UInt32.ofNat (now + link.send_st_min.toNat))
    (hbs : link.send_timer_bs = UInt32.ofNat (now + 100))
    (htime : now + (remaining link + 1) * answerTime gap ≤ T) : Waits gap T now now link := by
  have hpatience : patience gap link ≤ 100 + gap := by
    calc
      patience gap link ≤ 1 * (100 + gap) := Nat.mul_le_mul_right _ (Nat.sub_le 1 _)
      _ = 100 + gap := Nat.one_mul _
  rw [Nat.add_mul, Nat.one_mul] at htime
  refine ⟨hwtf, hst_min, ?_⟩
  have hanswer : answerTime gap = 227 + 2 * gap := rfl
  by_cases hremain : link.send_bs_remain = 0
  · exact .grant _ _ hremain hst hbs (by omega) (Nat.le_refl _) (by omega) (by omega) (by omega)
  · exact .turn _ hremain hst (by omega) (by omega) (by omega)

theorem Waits.poll (h : Waits gap T now lastPoll link) (hgap : gap < 2 ^ 29)
    (hbusy : link.send_status = .inprogress) (hpolled : now ≤ lastPoll + gap)
    (hafter : (isotpPoll { ms := UInt32.ofNat now } link).1.send_status = .inprogress) :
    Waits gap T now now (isotpPoll { ms := UInt32.ofNat now } link).1 := by
  have hpoll : (isotpPoll { ms := UInt32.ofNat now } link).1 = pollTimeoutCr { ms := UInt32.ofNat now }
      (pollTimeoutBs { ms := UInt32.ofNat now } (pollSend { ms := UInt32.ofNat now } link).1) := by
    rw [isotpPoll, if_pos hbusy]
  rw [hpoll] at hafter ⊢
  have hcr := sendSide_pollTimeoutCr { ms := UInt32.ofNat now }
    (pollTimeoutBs { ms := UInt32.ofNat now } (pollSend { ms := UInt32.ofNat now } link).1)
  refine Waits.congr ?_ hcr
  have hkept : (pollTimeoutBs { ms := UInt32.ofNat now }
      (pollSend { ms := UInt32.ofNat now } link).1).send_status = .inprogress :=
    (congrArg SendSide.send_status hcr).symm.trans hafter
  by_cases hmay : MaySend { ms := UInt32.ofNat now } link
  · -- the timer is new, and does not stop the message
    have hsending : (pollSend { ms := UInt32.ofNat now } link).1.send_status = .inprogress := by
      rw [pollTimeoutBs] at hkept
      split_ifs at hkept
      exact hkept
    rcases pollSend_cases hmay hsending with ⟨hleft, hwtf, hst_min, hst, hbs⟩
    rw [pollTimeoutBs_refreshed (hbs.trans (ofNat_add_timeout now).symm)]
    cases h.waits with
    | grant st due hzero =>
        rcases hmay.1 with hremain | hremain
        · rw [hzero] at hremain
          cases hremain
        · exact absurd hzero (Nat.ne_of_gt hremain)
    | turn st hone hst' hnear hfar htime =>
        refine waits_sent (hwtf ▸ h.wtf) (hst_min ▸ h.st_min) (hst_min ▸ hst) hbs ?_
        rw [hleft]
        omega
  · have hsame : (pollSend { ms := UInt32.ofNat now } link).1 = link := by
      rw [pollSend, if_neg hmay]
    rw [hsame] at hkept ⊢
    have hrunning : isoTpTimeAfter (UInt32.ofNat now) link.send_timer_bs = false := by
      by_contra hexpired
      rw [pollTimeoutBs, if_pos (Bool.not_eq_false _ ▸ hexpired)] at hkept
      cases hkept
    rw [pollTimeoutBs, if_neg (by rw [hrunning]; exact Bool.false_ne_true)]
    refine ⟨h.wtf, h.st_min, ?_⟩
    cases h.waits with
    | grant st due hzero hst hbs hpoll hdue hnear hfar htime =>
        rw [hbs, timeAfter_ofNat_ofNat (by omega) (by omega)] at hrunning
        have hdue' : now ≤ due := Nat.le_of_not_lt (of_decide_eq_false hrunning)
        exact .grant st due hzero hst hbs hdue' hdue hnear hfar htime
    | turn st hone hst hnear hfar htime =>
        have hgranted : link.send_bs_remain = isotpInvalidBs ∨ link.send_bs_remain > 0 :=
          .inr (Nat.pos_of_ne_zero hone)
        -- only the gap between the frames has kept it from sending
        have hearly : ¬ isoTpTimeAfter (UInt32.ofNat now) link.send_timer_st = true := by
          intro hafter
          by_cases hzero : link.send_st_min = 0
          · exact hmay ⟨hgranted, .inl hzero⟩
          · exact hmay ⟨hgranted, .inr ⟨hzero, hafter⟩⟩
        rw [hst, timeAfter_ofNat_ofNat (by omega) (by omega), decide_eq_true_eq] at hearly
        have hst' : now ≤ st := Nat.le_of_not_lt hearly
        exact .turn st hone hst hnear (by omega) (by omega)

end

/-! ## Frames -/

/-- A flow control frame whose status is none of the three that there are. -/
structure IsReserved (data : QByteArray) : Prop where
  type : Pci.type data = Pci.typeFlowControlFrame
  status : Pci.flowStatusOverflow < Pci.low data

instance (data : QByteArray) : Decidable (IsReserved data) :=
  decidable_of_iff (Pci.type data = Pci.typeFlowControlFrame ∧ Pci.flowStatusOverflow < Pci.low data)
    ⟨fun h => ⟨h.1, h.2⟩, fun h => ⟨h.type, h.status⟩⟩

section

variable {gap T now lastPoll : Nat} {link : IsoTpLink}

/-- The receiver asks to wait. -/
theorem Waits.wait (h : Waits gap T now lastPoll link) (hpolled : now ≤ lastPoll + gap)
    (hfirst : link.send_wtf_count = 0) :
    Waits gap T now lastPoll { link with
      send_timer_bs := UInt32.ofNat now + isoTpDefaultResponseTimeout, send_wtf_count := 1 } := by
  refine ⟨Nat.le_refl 1, h.st_min, ?_⟩
  cases h.waits with
  | grant st due hzero hst hbs hpoll hdue hnear hfar htime =>
      have hpatience : patience gap link = 100 + gap := by
        rw [patience, hfirst, Nat.sub_zero, Nat.one_mul]
      rw [hpatience] at hfar htime
      -- it cannot ask a second time
      refine .grant st (now + 100) hzero hst (ofNat_add_timeout now) (by omega) (Nat.le_refl _)
        (by omega) ?_ ?_
      · change now + 100 + 0 * (100 + gap) ≤ st + 200 + gap
        omega
      · change now + 100 + 27 + 0 * (100 + gap) + gap + remaining link * answerTime gap ≤ T
        omega
  | turn st hone hst hnear hfar htime => exact .turn st hone hst hnear hfar htime

/-- The receiver allows the next block. -/
theorem Waits.granted (h : Waits gap T now lastPoll link) {data : QByteArray} :
    Waits gap T now lastPoll { link with
      send_timer_bs := UInt32.ofNat now + isoTpDefaultResponseTimeout
      send_bs_remain := grantedBlockSize data
      send_st_min := isotpStMinToMs (data.byteAt 2)
      send_wtf_count := 0 } := by
  have hone := grantedBlockSize_ne_zero data
  refine ⟨Nat.zero_le 1, isotpStMinToMs_le _, ?_⟩
  cases h.waits with
  | grant st due hzero hst hbs hpoll hdue hnear hfar htime =>
      refine .turn st hone hst (by omega) (by omega) ?_
      change max st lastPoll + gap + remaining link * answerTime gap ≤ T
      omega
  | turn st _ hst hnear hfar htime => exact .turn st hone hst hnear hfar htime

theorem Waits.onFlowControl (h : Waits gap T now lastPoll link) (hpolled : now ≤ lastPoll + gap)
    {message : QByteArray} (len : Nat) (hstatus : Pci.low message ≤ Pci.flowStatusOverflow)
    (hafter : (onFlowControl { ms := UInt32.ofNat now } link message len).send_status = .inprogress) :
    Waits gap T now lastPoll (onFlowControl { ms := UInt32.ofNat now } link message len) := by
  by_cases hbusy : link.send_status = .inprogress
  · by_cases hlen : isotpReceiveFlowControlFrame len = .ok
    · simp only [IsoTp.onFlowControl, if_neg (not_not.2 hbusy), if_pos hlen] at hafter ⊢
      by_cases hover : Pci.low message = Pci.flowStatusOverflow
      · rw [if_pos hover] at hafter
        cases hafter
      · by_cases hwait : Pci.low message = Pci.flowStatusWait
        · have hcount := h.wtf
          simp only [if_neg hover, if_pos hwait] at hafter ⊢
          by_cases hmany : (link.send_wtf_count + 1) % 256 > isoTpMaxWftNumber
          · rw [if_pos hmany] at hafter
            cases hafter
          · have hfirst : link.send_wtf_count = 0 := by
              simp only [isoTpMaxWftNumber] at hmany
              omega
            rw [if_neg hmany, hfirst]
            exact h.wait hpolled hfirst
        · have hcontinue : Pci.low message = Pci.flowStatusContinue := by
            simp only [Pci.flowStatusOverflow, Pci.flowStatusWait] at hstatus hover hwait
            simp only [Pci.flowStatusContinue]
            omega
          rw [if_neg hover, if_neg hwait, if_pos hcontinue]
          exact h.granted
    · rw [IsoTp.onFlowControl, if_neg (not_not.2 hbusy), if_neg hlen]
      exact h
  · rw [IsoTp.onFlowControl, if_pos hbusy]
    exact h

/-- No frame begins a message. -/
theorem busy_of_onCanMessage {u : IsoTpUser} {data : QByteArray}
    (h : (isotpOnCanMessage u link data).1.send_status = .inprogress) :
    link.send_status = .inprogress := by
  have hsame : ∀ {l : IsoTpLink}, sendSide l = sendSide link → l.send_status = .inprogress →
      link.send_status = .inprogress := fun hside hl =>
    (congrArg SendSide.send_status hside).symm.trans hl
  by_cases hlen : data.length < 2 ∨ data.length > 8
  · rwa [isotpOnCanMessage, if_pos hlen] at h
  · rw [isotpOnCanMessage_eq u link hlen] at h
    split_ifs at h
    · exact hsame (sendSide_onSingleFrame link _ _) h
    · exact hsame (sendSide_onFirstFrame u link _ _) h
    · exact hsame (sendSide_onConsecutiveFrame u link _ _) h
    · by_contra hidle
      rw [IsoTp.onFlowControl, if_pos hidle] at h
      exact hidle h
    · exact h

theorem Waits.onCanMessage (h : Waits gap T now lastPoll link) (hpolled : now ≤ lastPoll + gap)
    {data : QByteArray} (hmeant : ¬ IsReserved data)
    (hafter : (isotpOnCanMessage { ms := UInt32.ofNat now } link data).1.send_status = .inprogress) :
    Waits gap T now lastPoll (isotpOnCanMessage { ms := UInt32.ofNat now } link data).1 := by
  by_cases hlen : data.length < 2 ∨ data.length > 8
  · rw [isotpOnCanMessage, if_pos hlen]
    exact h
  · have hne : data ≠ [] := fun heq => hlen (.inl (by rw [heq]; exact Nat.two_pos))
    rw [isotpOnCanMessage_eq _ _ hlen] at hafter ⊢
    split_ifs at hafter ⊢ with hsingle hfirst hconsecutive hflow
    · exact h.congr (sendSide_onSingleFrame link _ _)
    · exact h.congr (sendSide_onFirstFrame _ link _ _)
    · exact h.congr (sendSide_onConsecutiveFrame _ link _ _)
    · refine h.onFlowControl hpolled _ (Nat.le_of_not_lt fun hstatus => hmeant ?_) hafter
      rw [padded, Pci.low_append hne] at hstatus
      rw [padded, Pci.type_append hne] at hflow
      exact ⟨hflow, hstatus⟩
    · exact h

end

/-! ## A new message -/

section

variable {gap T n now lastPoll : Nat} {link : IsoTpLink} {raw : QByteArray}

/-- A message that is begun takes a time for each of its frames but the first one, and one more. -/
theorem waits_isotpSend (hidle : link.send_status ≠ .inprogress) (hlen : raw.length ≤ n)
    (hpoll : lastPoll ≤ now)
    (hafter : (isotpSend { ms := UInt32.ofNat now } link raw).link.send_status = .inprogress) :
    Waits gap (now + (n / 7 + 1) * answerTime gap) now lastPoll
      (isotpSend { ms := UInt32.ofNat now } link raw).link := by
  by_cases hsize : raw.length ≤ link.send_buf_size
  · by_cases hshort : raw.length < 8
    · rw [isotpSend_single rfl hsize hidle hshort] at hafter
      exact absurd hafter hidle
    · rw [isotpSend_first rfl hsize hidle (Nat.le_of_not_lt hshort)]
      have hanswer : answerTime gap = 227 + 2 * gap := rfl
      have hframes : (raw.length - 6 + 6) / 7 ≤ n / 7 := by omega
      have htime := Nat.mul_le_mul_right (answerTime gap) hframes
      have hpatience : (1 - 0) * (100 + gap) = 100 + gap := Nat.one_mul _
      refine ⟨Nat.zero_le 1, Nat.zero_le 127, ?_⟩
      refine .grant now (now + 100) rfl rfl (ofNat_add_timeout now) (by omega) (Nat.le_refl _)
        (by omega) ?_ ?_
      · change now + 100 + (1 - 0) * (100 + gap) ≤ now + 200 + gap
        omega
      · change now + 100 + 27 + (1 - 0) * (100 + gap) + gap +
          (raw.length - 6 + 6) / 7 * answerTime gap ≤ now + (n / 7 + 1) * answerTime gap
        rw [Nat.add_mul, Nat.one_mul]
        omega
  · rw [isotpSend_overflow (Nat.lt_of_not_le hsize)] at hafter
    exact absurd hafter hidle

end

end IsoTp
end TcpCanUds
