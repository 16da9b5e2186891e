import Mathlib.Data.List.Basic
import TcpCanUds.Core.IsoTpReceive
import TcpCanUds.Core.IsoTpSides

/-!
# IsoTpPassage — one way of a bus that loses frames

A sender, a receiver, and between them the frames of the messages one way and the flow control frames
back.  `Carries` tells which messages are settled, which one is being transferred and which are only
announced, and what of them is under way; the lemmas below keep it through every call of either link
and through every loss.  The window of eight frames is what makes it work: consecutive frames carry
their number modulo sixteen only.
-/

namespace TcpCanUds
namespace IsoTp

/-! ## Frames -/

/-- The frame that a message begins with. -/
def headFrame (q : QByteArray) : QByteArray :=
  if q.length < 8 then singleFrame q else firstFrame q

/-- The frame of a receiver that does not take the announced message. -/
def overflowFrame : QByteArray :=
  Pci.byte Pci.typeFlowControlFrame Pci.flowStatusOverflow ::
    UInt8.ofNat 0 :: isotpMsToStMin 0 :: List.replicate 5 0

/-- The message that is complete and not yet fetched. -/
def held (link : IsoTpLink) : List QByteArray :=
  if link.receive_status = .full then
    [link.receive_buffer.take (min link.receive_size link.receive_buf_size)]
  else []

theorem headFrame_short {q : QByteArray} (h : q.length < 8) : headFrame q = singleFrame q :=
  if_pos h

theorem headFrame_long {q : QByteArray} (h : 8 ≤ q.length) : headFrame q = firstFrame q :=
  if_neg (Nat.not_lt.2 h)

theorem held_congr {link link' : IsoTpLink} (h : receiveSide link' = receiveSide link) :
    held link' = held link := by
  simp only [receiveSide, ReceiveSide.mk.injEq] at h
  rcases h with ⟨hbuffer, hbuf, hsize, -, -, -, -, -, hstatus⟩
  simp only [held, hbuffer, hbuf, hsize, hstatus]

theorem held_of_ne {link : IsoTpLink} (h : link.receive_status ≠ .full) : held link = [] :=
  if_neg h

theorem Received.held {p : QByteArray} {link : IsoTpLink} (h : Received p link)
    (hsize : p.length ≤ link.receive_buf_size) : held link = [p] := by
  rw [IsoTp.held, if_pos h.status, h.size, Nat.min_eq_left hsize, h.buffer]

theorem Receives.not_full {p : QByteArray} {k : Nat} {link : IsoTpLink} (h : Receives p k link) :
    link.receive_status ≠ .full := by
  rw [h.status]
  exact fun heq => IsoTpReceiveStatus.noConfusion heq

/-! ## The way of a message -/

/-- One way of the bus, with the messages begun and those fetched. -/
structure Passage where
  sender : IsoTpLink
  receiver : IsoTpLink
  /-- the frames under way to the receiver -/
  data : List QByteArray
  /-- the flow control frames under way to the sender -/
  grants : List QByteArray
  sent : List QByteArray
  fetched : List QByteArray

/-- How far the messages have come, in the order in which they were begun. -/
structure Progress where
  /-- got through or given up -/
  settled : List QByteArray
  /-- its first frame was taken by the receiver -/
  current : Option QByteArray
  /-- those behind it -/
  later : List QByteArray
  /-- the later ones whose head frame is under way -/
  heads : List QByteArray
  /-- the consecutive frames of the current one that are under way -/
  numbers : List Nat
  /-- how many consecutive frames of the current one the receiver has, while it waits for more -/
  taken : Option Nat

/-- The consecutive frames under way. -/
def Progress.numbered (g : Progress) : List QByteArray :=
  g.current.toList.flatMap fun p => g.numbers.map (consecutiveFrame p)

/-- What the sender is doing. -/
inductive Stage (d : Passage) (g : Progress) : Prop
  /-- Nothing.  If frames are still under way, the receiver will not ask for more. -/
  | free (status : d.sender.send_status ≠ .inprogress) (grants : d.grants = [])
      (short : ∀ q ∈ g.heads, q.length < 8)
      (tail : g.numbers ≠ [] → ∀ p ∈ g.current, ∀ k ∈ g.taken, consecutiveCount p ≤ 8 * (k / 8 + 1))
  /-- It waits for the answer to a first frame, which is under way or lost. -/
  | announced {q : QByteArray} {earlier shorts : List QByteArray} (sends : Sends q 0 0 d.sender)
      (long : 8 ≤ q.length) (small : q.length ≤ 4096) (later : g.later = earlier ++ [q])
      (short : ∀ x ∈ shorts, x.length < 8) (heads : g.heads = shorts ∨ g.heads = shorts ++ [q])
      (grants : d.grants = [])
      (tail : g.numbers ≠ [] → ∀ p ∈ g.current, ∀ k ∈ g.taken, consecutiveCount p ≤ 8 * (k / 8 + 1))
  /-- The first frame was turned down, and the answer is under way. -/
  | refused {q : QByteArray} {earlier : List QByteArray} (sends : Sends q 0 0 d.sender)
      (long : 8 ≤ q.length) (small : q.length ≤ 4096) (later : g.later = earlier ++ [q])
      (heads : g.heads = []) (numbers : g.numbers = []) (grants : d.grants = [overflowFrame])
  /-- It sends what it was granted, or waits for the next grant. -/
  | sending {p : QByteArray} {n c : Nat} (sends : Sends p n c d.sender)
      (more : n < consecutiveCount p) (current : g.current = some p) (later : g.later = [])
      (before : ∀ i ∈ g.numbers, i < n) (window : ∀ k ∈ g.taken, k ≤ n ∧ c ≤ k / 8 + 1)
      (grants : d.grants = [])
  /-- The next grant is under way. -/
  | granted {p : QByteArray} {n c : Nat} (sends : Sends p n c d.sender)
      (more : n < consecutiveCount p) (current : g.current = some p) (later : g.later = [])
      (numbers : g.numbers = []) (used : n = 8 * c) (window : ∀ k ∈ g.taken, k ≤ n ∧ c ≤ k / 8)
      (grants : d.grants = [continueFrame])

/-- The invariant of one way. -/
structure Carries (d : Passage) (g : Progress) : Prop where
  sent : d.sent = g.settled ++ g.current.toList ++ g.later
  fetched : (d.fetched ++ held d.receiver).Sublist g.settled
  data : d.data = g.numbered ++ g.heads.map headFrame
  heads : g.heads.Sublist g.later
  increasing : g.numbers.Pairwise (· < ·)
  unnumbered : g.current = none → g.numbers = []
  bound : ∀ p ∈ g.current, ∀ i ∈ g.numbers, i < consecutiveCount p
  waits : g.taken = none → d.receiver.receive_status ≠ .inprogress
  taken : ∀ k ∈ g.taken, ∃ p, g.current = some p ∧ Receives p k d.receiver ∧
    k < consecutiveCount p ∧ p.length ≤ d.receiver.receive_buf_size ∧
      ∀ i ∈ g.numbers, k ≤ i ∧ i < 8 * (k / 8 + 1)
  stage : Stage d g

/-- The sizes of the buffers: twelve bits hold the length of every message that is begun. -/
structure Sized (d : Passage) : Prop where
  sender : d.sender.send_buf_size ≤ 4096
  receiver : 8 ≤ d.receiver.receive_buf_size
  room : d.receiver.receive_buf_size ≤ d.receiver.receive_buffer.length

/-- Nothing is under way. -/
def Passage.Settled (d : Passage) : Prop :=
  d.data = [] ∧ d.grants = []

section

variable {d : Passage} {g : Progress} {u : IsoTpUser}

/-! ## Calls that do not concern this way -/

theorem Stage.congr (h : Stage d g) {d' : Passage} (hs : sendSide d'.sender = sendSide d.sender)
    (hgrants : d'.grants = d.grants) : Stage d' g := by
  have hstatus : d'.sender.send_status = d.sender.send_status := congrArg SendSide.send_status hs
  cases h with
  | free status grants short tail =>
      exact .free (hstatus ▸ status) (hgrants.trans grants) short tail
  | announced sends long small later short heads grants tail =>
      exact .announced (sends.congr hs) long small later short heads (hgrants.trans grants) tail
  | refused sends long small later heads numbers grants =>
      exact .refused (sends.congr hs) long small later heads numbers (hgrants.trans grants)
  | sending sends more current later before window grants =>
      exact .sending (sends.congr hs) more current later before window (hgrants.trans grants)
  | granted sends more current later numbers used window grants =>
      exact .granted (sends.congr hs) more current later numbers used window (hgrants.trans grants)

/-- Only the two halves that face each other matter. -/
theorem Carries.congr (h : Carries d g) {s r : IsoTpLink} (hs : sendSide s = sendSide d.sender)
    (hr : receiveSide r = receiveSide d.receiver) :
    Carries { d with sender := s, receiver := r } g := by
  have hstatus : r.receive_status = d.receiver.receive_status :=
    congrArg ReceiveSide.receive_status hr
  have hbuf : r.receive_buf_size = d.receiver.receive_buf_size :=
    congrArg ReceiveSide.receive_buf_size hr
  refine { h with
    fetched := ?_
    waits := fun hnone => ?_
    taken := fun k hk => ?_
    stage := h.stage.congr hs rfl }
  · rw [held_congr hr]
    exact h.fetched
  · rw [hstatus]
    exact h.waits hnone
  · rcases h.taken k hk with ⟨p, hp, hreceives, hlt, hfits, hwindow⟩
    exact ⟨p, hp, hreceives.congr hr, hlt, hbuf ▸ hfits, hwindow⟩

/-! ## The sender -/

theorem Sends.busy {p : QByteArray} {n c : Nat} {link : IsoTpLink} (h : Sends p n c link)
    (hn : n < consecutiveCount p) : link.send_status = .inprogress :=
  h.inprogress_iff.2 hn

theorem consecutiveCount_pos {q : QByteArray} (h : 8 ≤ q.length) : 0 < consecutiveCount q := by
  rw [consecutiveCount]
  omega

/-- A sender that is not busy does nothing, whatever came before. -/
theorem Carries.free (h : Carries d g) (hidle : d.sender.send_status ≠ .inprogress) :
    d.grants = [] ∧ (∀ q ∈ g.heads, q.length < 8) ∧
      (g.numbers ≠ [] → ∀ p ∈ g.current, ∀ k ∈ g.taken, consecutiveCount p ≤ 8 * (k / 8 + 1)) := by
  cases h.stage with
  | free status grants short tail => exact ⟨grants, short, tail⟩
  | announced sends long | refused sends long =>
      exact absurd (sends.busy (consecutiveCount_pos long)) hidle
  | sending sends more | granted sends more => exact absurd (sends.busy more) hidle

/-- A message is begun. -/
theorem Carries.begin (h : Carries d g) (hsized : Sized d) (hu : u.canSend = true)
    {raw : QByteArray} (hfits : raw.length ≤ d.sender.send_buf_size)
    (hidle : d.sender.send_status ≠ .inprogress) :
    Carries { d with
        sender := (isotpSend u d.sender raw).link
        data := d.data ++ [headFrame raw]
        sent := d.sent ++ [raw] }
      { g with later := g.later ++ [raw], heads := g.heads ++ [raw] } := by
  rcases h.free hidle with ⟨hgrants, hshort, htail⟩
  have hdata : d.data ++ [headFrame raw] = g.numbered ++ (g.heads ++ [raw]).map headFrame := by
    rw [h.data, List.map_append, List.append_assoc]
    rfl
  refine { h with
    sent := ?_
    data := hdata
    heads := h.heads.append (List.Sublist.refl [raw])
    stage := ?_ }
  · change d.sent ++ [raw] = g.settled ++ g.current.toList ++ (g.later ++ [raw])
    rw [h.sent, List.append_assoc _ g.later]
  · rcases Nat.lt_or_ge raw.length 8 with hless | hlong
    · -- a single frame leaves the status as it is
      refine .free ?_ hgrants ?_ htail
      · rw [isotpSend_single hu hfits hidle hless]
        exact hidle
      · intro q hq
        rcases List.mem_append.1 hq with hq | hq
        · exact hshort q hq
        · rcases List.mem_singleton.1 hq with rfl
          exact hless
    · -- a first frame announces the message, and the sender waits for its first grant
      have hsends : Sends raw 0 0 (isotpSend u d.sender raw).link := by
        rw [isotpSend_first hu hfits hidle hlong]
        exact sends_started u d.sender hlong
      exact .announced hsends hlong (hfits.trans hsized.sender) rfl hshort (.inr rfl) hgrants htail

/-- The poll gives up the message under way: it may not go on, and the timer has run out. -/
def Expires (u : IsoTpUser) (link : IsoTpLink) : Prop :=
  link.send_status = .inprogress ∧ ¬ MaySend u link ∧
    isoTpTimeAfter u.ms link.send_timer_bs = true

instance (u : IsoTpUser) (link : IsoTpLink) : Decidable (Expires u link) :=
  inferInstanceAs (Decidable (_ ∧ _ ∧ _))

section

variable {p : QByteArray} {n c : Nat} {link : IsoTpLink}

/-- With a grant the poll sends the next consecutive frame, whatever the receiver is doing. -/
theorem Sends.poll_granted (h : Sends p n c link) (hu : u.canSend = true)
    (hn : n < consecutiveCount p) (hc : n < 8 * c) :
    Sends p (n + 1) c (isotpPoll u link).1 ∧
      (isotpPoll u link).2.map CanFrameData.data = [consecutiveFrame p n] := by
  rcases isotpPoll_unreceiving u link with ⟨hside, hframes⟩
  have hsame : Sends p n c (unreceiving link) := h.congr rfl
  rcases hsame.poll hu hn hc fun hin => IsoTpReceiveStatus.noConfusion hin with ⟨hsends, hsent, -⟩
  refine ⟨hsends.congr hside, ?_⟩
  rw [hframes, hsent]
  rfl

/-- Without one the poll does nothing to the sender, unless its time is up. -/
theorem Sends.poll_ungranted (h : Sends p n c link) (hn : n < consecutiveCount p)
    (hc : ¬ n < 8 * c) :
    (isotpPoll u link).2 = [] ∧
      (sendSide (isotpPoll u link).1 = sendSide link ∨
        Expires u link ∧ (isotpPoll u link).1.send_status = .error) := by
  have hbusy := h.busy hn
  have hmay : ¬ MaySend u link := mt h.maySend_iff.1 hc
  have hpoll : isotpPoll u link = (pollTimeoutCr u (pollTimeoutBs u link), []) := by
    simp only [isotpPoll, if_pos hbusy, pollSend, if_neg hmay]
  rw [hpoll]
  refine ⟨rfl, ?_⟩
  rw [sendSide_pollTimeoutCr]
  by_cases hafter : isoTpTimeAfter u.ms link.send_timer_bs = true
  · right
    refine ⟨⟨hbusy, hmay, hafter⟩, ?_⟩
    have hstatus := congrArg SendSide.send_status (sendSide_pollTimeoutCr u (pollTimeoutBs u link))
    rw [pollTimeoutBs, if_pos hafter] at hstatus ⊢
    exact hstatus
  · left
    rw [pollTimeoutBs, if_neg hafter]

end

theorem Progress.numbered_some {p : QByteArray} (h : g.current = some p) :
    g.numbered = g.numbers.map (consecutiveFrame p) := by
  rw [Progress.numbered, h]
  exact List.append_nil _

theorem Progress.numbered_nil (h : g.numbers = []) : g.numbered = [] := by
  rw [Progress.numbered, h]
  cases g.current <;> rfl

/-- An empty bus has nothing of any message. -/
theorem Carries.empty (h : Carries d g) (hdata : d.data = []) : g.numbers = [] ∧ g.heads = [] := by
  have hnil := h.data.symm.trans hdata
  rcases List.append_eq_nil_iff.1 hnil with ⟨hnumbered, hheads⟩
  refine ⟨?_, List.map_eq_nil_iff.1 hheads⟩
  cases hcurrent : g.current with
  | none => exact h.unnumbered hcurrent
  | some p =>
      rw [Progress.numbered_some hcurrent] at hnumbered
      exact List.map_eq_nil_iff.1 hnumbered

theorem Carries.heads_nil (h : Carries d g) (hlater : g.later = []) : g.heads = [] :=
  List.sublist_nil.1 (hlater ▸ h.heads)

/-- The sender gives its message up; nothing of it is under way. -/
theorem Carries.give_up (h : Carries d g) {s : IsoTpLink} (hstatus : s.send_status ≠ .inprogress)
    (hsettled : d.Settled) : Carries { d with sender := s } g := by
  rcases h.empty hsettled.1 with ⟨hnumbers, hheads⟩
  refine { h with stage := .free hstatus hsettled.2 ?_ fun hne => absurd hnumbers hne }
  intro q hq
  rw [hheads] at hq
  cases hq

/-- The sender sends its next consecutive frame. -/
theorem Carries.number (h : Carries d g) {p : QByteArray} {n c : Nat} {s : IsoTpLink}
    (hsends : Sends p (n + 1) c s) (hn : n < consecutiveCount p) (hc : n < 8 * c)
    (hcurrent : g.current = some p) (hlater : g.later = [])
    (hbefore : ∀ i ∈ g.numbers, i < n) (hwindow : ∀ k ∈ g.taken, k ≤ n ∧ c ≤ k / 8 + 1)
    (hgrants : d.grants = []) :
    Carries { d with sender := s, data := d.data ++ [consecutiveFrame p n] }
      { g with numbers := g.numbers ++ [n] } := by
  have hheads := h.heads_nil hlater
  have hnumbered : ({ g with numbers := g.numbers ++ [n] } : Progress).numbered =
      g.numbered ++ [consecutiveFrame p n] := by
    rw [Progress.numbered_some hcurrent, Progress.numbered_some (p := p) (by exact hcurrent),
      List.map_append]
    rfl
  -- the frame joins those on the bus; all else stays as it was told
  refine { h with
    data := ?_
    increasing := ?_
    unnumbered := fun hnone => by rw [hcurrent] at hnone; cases hnone
    bound := ?_
    taken := fun k hk => ?_
    stage := ?_ }
  · rw [hnumbered, h.data, hheads, List.map_nil, List.append_nil, List.append_nil]
  · refine List.pairwise_append.2 ⟨h.increasing, List.pairwise_singleton _ _, ?_⟩
    intro i hi j hj
    rw [List.mem_singleton.1 hj]
    exact hbefore i hi
  · intro q hq i hi
    rcases List.mem_append.1 hi with hi | hi
    · exact h.bound q hq i hi
    · rw [List.mem_singleton.1 hi]
      rw [hcurrent] at hq
      cases Option.mem_def.1 hq
      exact hn
  · rcases h.taken k hk with ⟨q, hq, hreceives, hlt, hfits, hnumbers⟩
    refine ⟨q, hq, hreceives, hlt, hfits, ?_⟩
    intro i hi
    rcases List.mem_append.1 hi with hi | hi
    · exact hnumbers i hi
    · rw [List.mem_singleton.1 hi]
      have hkn := hwindow k hk
      omega
  · by_cases hlast : n + 1 < consecutiveCount p
    · refine .sending hsends hlast hcurrent hlater ?_ ?_ hgrants
      · intro i hi
        rcases List.mem_append.1 hi with hi | hi
        · exact Nat.lt_succ_of_lt (hbefore i hi)
        · rw [List.mem_singleton.1 hi]
          exact Nat.lt_succ_self n
      · intro k hk
        have hkn := hwindow k hk
        omega
    · -- the last frame of the message is in the last block that the receiver granted
      refine .free (mt hsends.inprogress_iff.1 hlast) hgrants ?_ ?_
      · intro q hq
        rw [show g.heads = [] from hheads] at hq
        cases hq
      · intro _ q hq k hk
        rw [show g.current = some p from hcurrent] at hq
        cases Option.mem_def.1 hq
        have hkn := hwindow k hk
        omega

/-- A poll of the sender, when its message is only given up on a settled bus. -/
theorem Carries.poll_sender (h : Carries d g) (hu : u.canSend = true)
    (hsettled : Expires u d.sender → d.Settled) :
    ∃ g', Carries { d with
        sender := (isotpPoll u d.sender).1
        data := d.data ++ (isotpPoll u d.sender).2.map CanFrameData.data } g' := by
  -- a poll that sends nothing and keeps the send side
  have hquiet : (isotpPoll u d.sender).2 = [] →
      sendSide (isotpPoll u d.sender).1 = sendSide d.sender →
      ∃ g', Carries { d with
        sender := (isotpPoll u d.sender).1
        data := d.data ++ (isotpPoll u d.sender).2.map CanFrameData.data } g' := by
    intro hframes hside
    rw [hframes, List.map_nil, List.append_nil]
    exact ⟨g, h.congr hside rfl⟩
  -- a sender without a grant keeps waiting, or its timer has run out
  have hwaits : ∀ {p : QByteArray} {n c : Nat}, Sends p n c d.sender → n < consecutiveCount p →
      ¬ n < 8 * c → ∃ g', Carries { d with
        sender := (isotpPoll u d.sender).1
        data := d.data ++ (isotpPoll u d.sender).2.map CanFrameData.data } g' := by
    intro p n c sends hn hc
    rcases sends.poll_ungranted (u := u) hn hc with ⟨hframes, hside | ⟨hexpires, herror⟩⟩
    · exact hquiet hframes hside
    · rw [hframes, List.map_nil, List.append_nil]
      refine ⟨g, h.give_up ?_ (hsettled hexpires)⟩
      rw [herror]
      exact fun heq => IsoTpSendStatus.noConfusion heq
  -- only a sender inside its block sends
  cases h.stage with
  | free status grants short tail =>
      rcases sendSide_isotpPoll_idle u d.sender status with ⟨hside, hframes⟩
      exact hquiet hframes hside
  | announced sends long => exact hwaits sends (consecutiveCount_pos long) (Nat.not_lt_zero _)
  | refused sends long => exact hwaits sends (consecutiveCount_pos long) (Nat.not_lt_zero _)
  | granted sends more current later numbers used =>
      exact hwaits sends more (Nat.not_lt.2 (Nat.le_of_eq used.symm))
  | @sending p n c sends more current later before window grants =>
      by_cases hc : n < 8 * c
      · rcases sends.poll_granted hu more hc with ⟨hsends, hframes⟩
        rw [hframes]
        exact ⟨_, h.number hsends more hc current later before window grants⟩
      · exact hwaits sends more hc

/-- A flow control frame reaches the sender. -/
theorem Carries.grant (h : Carries d g) {f : QByteArray} {rest : List QByteArray}
    (hbus : d.grants = f :: rest) :
    Carries { d with sender := (isotpOnCanMessage u d.sender f).1, grants := rest } g ∧
      f.length = 8 ∧ Pci.type f = Pci.typeFlowControlFrame := by
  cases h.stage with
  | free status grants | announced _ _ _ _ _ _ grants | sending _ _ _ _ _ _ grants =>
      rw [grants] at hbus
      cases hbus
  | refused sends long small later heads numbers grants =>
      rw [grants] at hbus
      rcases List.cons_eq_cons.1 hbus with ⟨rfl, rfl⟩
      refine ⟨?_, by decide, by decide⟩
      -- the message is given up
      have herror : (isotpOnCanMessage u d.sender overflowFrame).1.send_status = .error := by
        have htype : Pci.type overflowFrame = Pci.typeFlowControlFrame := by decide
        have hlow : Pci.low overflowFrame = Pci.flowStatusOverflow := by decide
        have hlen : isotpReceiveFlowControlFrame 8 = .ok := by decide
        rw [isotpOnCanMessage_eight u d.sender (by decide), htype, if_neg (by decide),
          if_neg (by decide), if_neg (by decide), if_pos rfl]
        simp only [onFlowControl, sends.busy (consecutiveCount_pos long), hlow, hlen, if_true,
          ne_eq, not_true_eq_false, if_false]
      refine { h with stage := .free ?_ rfl ?_ fun hne => absurd numbers hne }
      · rw [herror]
        exact fun heq => IsoTpSendStatus.noConfusion heq
      · intro x hx
        rw [heads] at hx
        cases hx
  | @granted p n c sends more current later numbers used window grants =>
      rw [grants] at hbus
      rcases List.cons_eq_cons.1 hbus with ⟨rfl, rfl⟩
      refine ⟨?_, by decide, by decide⟩
      rcases sends.grant (u := u) more used with ⟨link', hframe, hsends, -⟩
      rw [hframe]
      refine { h with stage := .sending hsends more current later ?_ ?_ rfl }
      · intro i hi
        rw [numbers] at hi
        cases hi
      · intro k hk
        have hkn := window k hk
        omega

/-! ## Loss -/

/-- Flow control frames are lost. -/
theorem Carries.lose_grants (h : Carries d g) {grants : List QByteArray}
    (hgrants : grants.Sublist d.grants) : Carries { d with grants := grants } g := by
  have hnil : d.grants = [] → grants = [] := fun heq => List.sublist_nil.1 (heq ▸ hgrants)
  have hone : ∀ f, d.grants = [f] → grants = [] ∨ grants = [f] :=
    fun f heq => List.sublist_singleton.1 (heq ▸ hgrants)
  refine { h with stage := ?_ }
  cases h.stage with
  | free status none short tail => exact .free status (hnil none) short tail
  | announced sends long small later short heads none tail =>
      exact .announced sends long small later short heads (hnil none) tail
  | sending sends more current later before window none =>
      exact .sending sends more current later before window (hnil none)
  | refused sends long small later heads numbers one =>
      rcases hone _ one with hlost | hkept
      · -- the sender keeps waiting for an answer
        have hshort : ∀ x ∈ ([] : List QByteArray), x.length < 8 := fun _ hx => by cases hx
        exact .announced sends long small later hshort (.inl heads) hlost
          fun hne => absurd numbers hne
      · exact .refused sends long small later heads numbers hkept
  | granted sends more current later numbers used window one =>
      rcases hone _ one with hlost | hkept
      · refine .sending sends more current later ?_ ?_ hlost
        · intro i hi
          rw [numbers] at hi
          cases hi
        · intro k hk
          have hkn := window k hk
          omega
      · exact .granted sends more current later numbers used window hkept

/-- The frames under way, with some of them lost. -/
def Progress.shorten (g : Progress) (numbers : List Nat) (heads : List QByteArray) : Progress :=
  { g with numbers := numbers, heads := heads }

theorem Stage.shorten (h : Stage d g) {ns : List Nat} {hs : List QByteArray}
    (hns : ns.Sublist g.numbers) (hhs : hs.Sublist g.heads) (data : List QByteArray) :
    Stage { d with data := data } (g.shorten ns hs) := by
  have hne : ns ≠ [] → g.numbers ≠ [] := fun hne heq => hne (List.sublist_nil.1 (heq ▸ hns))
  have hnil : g.numbers = [] → ns = [] := fun heq => List.sublist_nil.1 (heq ▸ hns)
  cases h with
  | free status grants short tail =>
      exact .free status grants (fun q hq => short q (hhs.subset hq)) fun hns' => tail (hne hns')
  | @announced q earlier shorts sends long small later short heads grants tail =>
      -- the first frame is the last of the heads, or lost
      have hsub : hs.Sublist (shorts ++ [q]) := by
        rcases heads with heads | heads
        · exact (heads ▸ hhs).trans (List.sublist_append_left _ _)
        · exact heads ▸ hhs
      rcases List.sublist_append_iff.1 hsub with ⟨shorts', last, rfl, hshorts, hlast⟩
      have hshort : ∀ x ∈ shorts', x.length < 8 := fun x hx => short x (hshorts.subset hx)
      refine .announced sends long small later hshort ?_ grants fun hns' => tail (hne hns')
      rcases List.sublist_singleton.1 hlast with rfl | rfl
      · exact .inl (List.append_nil _)
      · exact .inr rfl
  | refused sends long small later heads numbers grants =>
      exact .refused sends long small later (List.sublist_nil.1 (heads ▸ hhs)) (hnil numbers) grants
  | sending sends more current later before window grants =>
      exact .sending sends more current later (fun i hi => before i (hns.subset hi)) window grants
  | granted sends more current later numbers used window grants =>
      exact .granted sends more current later (hnil numbers) used window grants

theorem Carries.shorten (h : Carries d g) {ns : List Nat} {hs data : List QByteArray}
    (hns : ns.Sublist g.numbers) (hhs : hs.Sublist g.heads)
    (hdata : data = (g.shorten ns hs).numbered ++ hs.map headFrame) :
    Carries { d with data := data } (g.shorten ns hs) where
  sent := h.sent
  fetched := h.fetched
  data := hdata
  heads := hhs.trans h.heads
  increasing := h.increasing.sublist hns
  unnumbered := fun hnone => List.sublist_nil.1 (h.unnumbered hnone ▸ hns)
  bound := fun p hp i hi => h.bound p hp i (hns.subset hi)
  waits := h.waits
  taken := by
    intro k hk
    rcases h.taken k hk with ⟨p, hp, hreceives, hlt, hfits, hwindow⟩
    exact ⟨p, hp, hreceives, hlt, hfits, fun i hi => hwindow i (hns.subset hi)⟩
  stage := h.stage.shorten hns hhs data

/-- Frames to the receiver are lost. -/
theorem Carries.lose_data (h : Carries d g) {data : List QByteArray} (hdata : data.Sublist d.data) :
    ∃ g', Carries { d with data := data } g' := by
  rw [h.data] at hdata
  rcases List.sublist_append_iff.1 hdata with ⟨l₁, l₂, rfl, h₁, h₂⟩
  rcases List.sublist_map_iff.1 h₂ with ⟨hs, hhs, rfl⟩
  have hnumbered : ∃ ns, ns.Sublist g.numbers ∧ l₁ = (g.shorten ns hs).numbered := by
    cases hcurrent : g.current with
    | none =>
        rw [Progress.numbered, hcurrent] at h₁
        exact ⟨[], List.nil_sublist _, (List.sublist_nil.1 h₁).trans
          (Progress.numbered_nil rfl).symm⟩
    | some p =>
        rw [Progress.numbered_some hcurrent] at h₁
        rcases List.sublist_map_iff.1 h₁ with ⟨ns, hns, rfl⟩
        exact ⟨ns, hns, (Progress.numbered_some (g := g.shorten ns hs) hcurrent).symm⟩
  rcases hnumbered with ⟨ns, hns, rfl⟩
  exact ⟨_, h.shorten hns hhs rfl⟩

/-! ## The receiver -/

theorem Stage.untaken (h : Stage d g) : Stage d { g with taken := none } := by
  cases h with
  | free status grants short tail =>
      exact .free status grants short fun _ _ _ _ hk => absurd hk (Option.not_mem_none _)
  | announced sends long small later short heads grants tail =>
      exact .announced sends long small later short heads grants
        fun _ _ _ _ hk => absurd hk (Option.not_mem_none _)
  | refused sends long small later heads numbers grants =>
      exact .refused sends long small later heads numbers grants
  | sending sends more current later before window grants =>
      exact .sending sends more current later before
        (fun _ hk => absurd hk (Option.not_mem_none _)) grants
  | granted sends more current later numbers used window grants =>
      exact .granted sends more current later numbers used
        (fun _ hk => absurd hk (Option.not_mem_none _)) grants

/-- The receiver waits for no more frames of the current message. -/
theorem Carries.stop (h : Carries d g) {r : IsoTpLink} (hstatus : r.receive_status ≠ .inprogress)
    (hfetched : (d.fetched ++ held r).Sublist g.settled) :
    Carries { d with receiver := r } { g with taken := none } :=
  { h with
    fetched := hfetched
    waits := fun _ => hstatus
    taken := fun _ hk => absurd hk (Option.not_mem_none _)
    stage := h.stage.untaken.congr rfl rfl }

theorem Carries.fetched_left (h : Carries d g) : d.fetched.Sublist g.settled :=
  (List.sublist_append_left _ _).trans h.fetched

/-- A poll of the receiver, whose time may be up. -/
theorem Carries.poll_receiver (h : Carries d g) :
    ∃ g', Carries { d with receiver := (isotpPoll u d.receiver).1 } g' := by
  rcases receiveSide_isotpPoll u d.receiver with hside | ⟨-, hidle⟩
  · exact ⟨g, h.congr rfl hside⟩
  · refine ⟨_, h.stop ?_ ?_⟩
    · rw [hidle]
      exact fun heq => IsoTpReceiveStatus.noConfusion heq
    · rw [held_of_ne (by rw [hidle]; exact fun heq => IsoTpReceiveStatus.noConfusion heq),
        List.append_nil]
      exact h.fetched_left

/-- A complete message is fetched. -/
theorem Carries.fetch (h : Carries d g) :
    ∃ g', Carries { d with
        receiver := (isotpReceive d.receiver d.receiver.receive_buf_size).2
        fetched := d.fetched ++
          (isotpReceive d.receiver d.receiver.receive_buf_size).1.toList } g' := by
  by_cases hfull : d.receiver.receive_status = .full
  · have hreceive := isotpReceive_full hfull d.receiver.receive_buf_size
    have hheld : held d.receiver =
        (isotpReceive d.receiver d.receiver.receive_buf_size).1.toList := by
      rw [hreceive, held, if_pos hfull]
      rfl
    have hnone : held (isotpReceive d.receiver d.receiver.receive_buf_size).2 = [] := by
      rw [hreceive]
      exact held_of_ne fun heq => IsoTpReceiveStatus.noConfusion heq
    have hidle : (isotpReceive d.receiver d.receiver.receive_buf_size).2.receive_status ≠
        .inprogress := by
      rw [hreceive]
      exact fun heq => IsoTpReceiveStatus.noConfusion heq
    refine ⟨{ g with taken := none }, { h with
      fetched := ?_
      waits := fun _ => hidle
      taken := fun _ hk => absurd hk (Option.not_mem_none _)
      stage := h.stage.untaken.congr rfl rfl }⟩
    rw [hnone, List.append_nil, ← hheld]
    exact h.fetched
  · rw [isotpReceive_waits hfull]
    refine ⟨g, ?_⟩
    rw [Option.toList_none, List.append_nil]
    exact h

/-! ## Frames that the receiver does not take -/

section

variable {q : QByteArray} {i : Nat} {link : IsoTpLink}

theorem isotpOnCanMessage_unexpected (u : IsoTpUser) (q : QByteArray) (i : Nat)
    (h : link.receive_status ≠ .inprogress) :
    isotpOnCanMessage u link (consecutiveFrame q i) =
      ({ link with receive_protocol_result := .unexpPdu }, []) := by
  rw [isotpOnCanMessage_eight u link (length_consecutiveFrame q i), type_consecutiveFrame,
    if_neg (by decide), if_neg (by decide), if_pos rfl, onConsecutiveFrame, if_pos h]

/-- A frame with another number than the next one ends the message. -/
theorem Receives.outOfTurn {k : Nat} (h : Receives q k link) (u : IsoTpUser)
    (hne : (k + 1) % 16 ≠ (i + 1) % 16) :
    isotpOnCanMessage u link (consecutiveFrame q i) =
      ({ link with receive_protocol_result := .wrongSn, receive_status := .idle }, []) := by
  have hlow : Pci.low (consecutiveFrame q i) = (i + 1) % 16 := Pci.low_byte (by decide) _ _
  have hwrong : isotpReceiveConsecutiveFrame link (consecutiveFrame q i) 8 = (.wrongSn, link) := by
    rw [isotpReceiveConsecutiveFrame, if_pos]
    rw [h.sn, hlow]
    exact hne
  rw [isotpOnCanMessage_eight u link (length_consecutiveFrame q i), type_consecutiveFrame,
    if_neg (by decide), if_neg (by decide), if_pos rfl, onConsecutiveFrame,
    if_neg (not_not.2 h.status)]
  simp only [hwrong, if_true]

/-- What is left of a message that began and was refused. -/
def begun (link : IsoTpLink) : IsoTpLink :=
  { link with receive_protocol_result := beginResult link }

theorem type_firstFrame (q : QByteArray) : Pci.type (firstFrame q) = Pci.typeFirstFrame :=
  Pci.type_byte (by decide) _ _

theorem type_singleFrame (q : QByteArray) : Pci.type (singleFrame q) = Pci.typeSingle :=
  Pci.type_byte (by decide) _ _

/-- An empty message is sent, and refused for its length. -/
theorem isotpOnCanMessage_empty (u : IsoTpUser) (link : IsoTpLink) :
    isotpOnCanMessage u link (singleFrame []) = (begun link, []) := by
  have hlow : Pci.low (singleFrame []) = 0 := by decide
  rw [isotpOnCanMessage_eight u link (length_singleFrame (p := []) (Nat.zero_le 7)), type_singleFrame,
    if_pos rfl, onSingleFrame]
  simp only [isotpReceiveSingleFrame, hlow, true_or, if_true, reduceCtorEq, if_false]
  rfl

theorem firstFrame_length (q : QByteArray) :
    Pci.low (firstFrame q) * 256 + ((firstFrame q).byteAt 1).toNat = q.length % 4096 := by
  have hlow : Pci.low (firstFrame q) = q.length / 256 % 16 := Pci.low_byte (by decide) _ _
  have hone : ((firstFrame q).byteAt 1).toNat = q.length % 256 := UInt8.toNat_ofNat'
  omega

/-- Twelve bits announce 4096 bytes as none. -/
theorem isotpOnCanMessage_unannounced (u : IsoTpUser) (link : IsoTpLink) (h : q.length = 4096) :
    isotpOnCanMessage u link (firstFrame q) = (begun link, []) := by
  have hlength := firstFrame_length q
  rw [h] at hlength
  rw [isotpOnCanMessage_eight u link (length_firstFrame (by omega)), type_firstFrame,
    if_neg (by decide), if_pos rfl, onFirstFrame]
  simp only [isotpReceiveFirstFrame, hlength, ne_eq, not_true_eq_false, if_false, Nat.mod_self,
    Nat.zero_le, if_true, reduceCtorEq]
  rfl

/-- A message that the buffer does not hold is turned down. -/
theorem isotpOnCanMessage_overflow (hu : u.canSend = true) (link : IsoTpLink) (hlong : 8 ≤ q.length)
    (hsize : link.receive_buf_size < q.length) (hmax : q.length < 4096) :
    isotpOnCanMessage u link (firstFrame q) =
      ({ link with receive_protocol_result := .bufferOvflw, receive_status := .idle },
        [{ id := link.send_arbitration_id, data := overflowFrame, len := 8 }]) := by
  have hlength := firstFrame_length q
  rw [Nat.mod_eq_of_lt hmax] at hlength
  have hover : ∀ l : IsoTpLink, l.receive_buf_size = link.receive_buf_size →
      isotpReceiveFirstFrame l (firstFrame q) 8 = (.overflow, l) := by
    intro l hl
    rw [isotpReceiveFirstFrame, if_neg (by decide), hlength]
    exact (if_neg (by omega)).trans (if_pos (by omega))
  rw [isotpOnCanMessage_eight u link (length_firstFrame (by omega)), type_firstFrame,
    if_neg (by decide), if_pos rfl, onFirstFrame]
  simp only [hover, if_true, isotpSendFlowControl, isotpUserSendCan_ok hu]
  rfl

end

/-- A frame that is refused leaves the message in progress as it is. -/
theorem Carries.refuse (h : Carries d g) : Carries { d with receiver := begun d.receiver } g := by
  refine { h with
    taken := fun k hk => ?_
    stage := h.stage.congr rfl rfl }
  rcases h.taken k hk with ⟨p, hp, hreceives, hlt, hfits, hwindow⟩
  exact ⟨p, hp, { hreceives with noTimeout := beginResult_ne_timeoutCr _ }, hlt, hfits, hwindow⟩

/-! ## Frames that it takes -/

theorem receive_buf_size_isotpOnCanMessage (u : IsoTpUser) (link : IsoTpLink) (f : QByteArray) :
    (isotpOnCanMessage u link f).1.receive_buf_size = link.receive_buf_size :=
  congrArg (fun config => config.2.2.2) (config_isotpOnCanMessage u link f)

/-- The next frame under way is the next consecutive frame, or else the next head frame. -/
theorem Carries.next_frame (h : Carries d g) {f : QByteArray} {rest : List QByteArray}
    (hbus : d.data = f :: rest) :
    (∃ p i is, g.current = some p ∧ g.numbers = i :: is ∧ f = consecutiveFrame p i ∧
        rest = (g.shorten is g.heads).numbered ++ g.heads.map headFrame) ∨
      ∃ q hs, g.numbers = [] ∧ g.heads = q :: hs ∧ f = headFrame q ∧ rest = hs.map headFrame := by
  have hdata := hbus.symm.trans h.data
  cases hnumbers : g.numbers with
  | nil =>
      right
      rw [Progress.numbered_nil hnumbers, List.nil_append] at hdata
      cases hheads : g.heads with
      | nil =>
          rw [hheads] at hdata
          cases hdata
      | cons q hs =>
          rw [hheads, List.map_cons] at hdata
          rcases List.cons_eq_cons.1 hdata with ⟨hf, hrest⟩
          exact ⟨q, hs, rfl, rfl, hf, hrest⟩
  | cons i is =>
      left
      cases hcurrent : g.current with
      | none =>
          rw [h.unnumbered hcurrent] at hnumbers
          cases hnumbers
      | some p =>
          rw [Progress.numbered_some hcurrent, hnumbers, List.map_cons, List.cons_append] at hdata
          rcases List.cons_eq_cons.1 hdata with ⟨hf, hrest⟩
          refine ⟨p, i, is, rfl, rfl, hf, hrest.trans ?_⟩
          rw [Progress.numbered_some (g := g.shorten is g.heads) hcurrent]
          rfl

/-- The stage that the receiver's next frame of the current message leads to, and its answer. -/
theorem Stage.advance (h : Stage d g) {p : QByteArray} {k : Nat} {is : List Nat}
    (hcurrent : g.current = some p) (hnumbers : g.numbers = k :: is) (htaken : g.taken = some k)
    (hin : ∀ i ∈ is, k < i ∧ i < 8 * (k / 8 + 1)) (hmore : k + 1 < consecutiveCount p) :
    Stage { d with
        grants := d.grants ++ if (k + 1) % 8 = 0 then [continueFrame] else [] }
      { g with numbers := is, taken := some (k + 1) } := by
  have hne : g.numbers ≠ [] := by
    rw [hnumbers]
    exact List.cons_ne_nil k is
  -- a block ends with its last frame only
  have hend : (k + 1) % 8 = 0 → is = [] := by
    intro hblock
    refine List.eq_nil_iff_forall_not_mem.2 fun i hi => ?_
    have hki := hin i hi
    omega
  have htail : (g.numbers ≠ [] → ∀ q ∈ g.current, ∀ j ∈ g.taken,
      consecutiveCount q ≤ 8 * (j / 8 + 1)) → ¬ (k + 1) % 8 = 0 ∧
        ∀ q ∈ g.current, ∀ j ∈ some (k + 1), consecutiveCount q ≤ 8 * (j / 8 + 1) := by
    intro htail
    have hcount := htail hne p hcurrent k htaken
    refine ⟨by omega, ?_⟩
    intro q hq j hj
    rw [hcurrent] at hq
    cases Option.mem_def.1 hq
    cases Option.mem_def.1 hj
    omega
  cases h with
  | free status grants short tail =>
      rcases htail tail with ⟨hblock, htail'⟩
      rw [if_neg hblock, List.append_nil]
      exact .free status grants short fun _ => htail'
  | announced sends long small later short heads grants tail =>
      rcases htail tail with ⟨hblock, htail'⟩
      rw [if_neg hblock, List.append_nil]
      exact .announced sends long small later short heads grants fun _ => htail'
  | refused _ _ _ _ _ numbers | granted _ _ _ _ numbers => exact absurd numbers hne
  | @sending p' n c sends more current later before window grants =>
      have hkn : k < n := before k (hnumbers ▸ List.mem_cons_self)
      rcases window k htaken with ⟨-, hck⟩
      by_cases hblock : (k + 1) % 8 = 0
      · -- the sender has sent all it was granted, and this was the last of it
        have hgrants := sends.grants
        rw [if_pos hblock, grants, List.nil_append]
        refine .granted sends more current later (hend hblock) (by omega) ?_ rfl
        intro j hj
        cases Option.mem_def.1 hj
        omega
      · rw [if_neg hblock, List.append_nil]
        refine .sending sends more current later ?_ ?_ grants
        · intro i hi
          exact before i (hnumbers ▸ List.mem_cons_of_mem k hi)
        · intro j hj
          cases Option.mem_def.1 hj
          omega

/-- Nothing of the current message is under way, and no more of it is awaited. -/
theorem Stage.complete (h : Stage d g) {p : QByteArray} {k : Nat} {is : List Nat}
    (hcurrent : g.current = some p) (hnumbers : g.numbers = k :: is)
    (hlast : k + 1 = consecutiveCount p) (settled : List QByteArray) :
    Stage d { g with settled := settled, current := none, numbers := [], taken := none } := by
  have hne : g.numbers ≠ [] := by
    rw [hnumbers]
    exact List.cons_ne_nil k is
  cases h with
  | free status grants short tail =>
      exact .free status grants short fun hnil => absurd rfl hnil
  | announced sends long small later short heads grants tail =>
      exact .announced sends long small later short heads grants fun hnil => absurd rfl hnil
  | refused _ _ _ _ _ numbers | granted _ _ _ _ numbers => exact absurd numbers hne
  | sending sends more current later before =>
      have hkn := before k (hnumbers ▸ List.mem_cons_self)
      rw [hcurrent] at current
      cases Option.some.inj current
      omega

/-- Where a frame leaves the receiver, and what it answers. -/
def Passage.delivered (d : Passage) (u : IsoTpUser) (f : QByteArray) (rest : List QByteArray) :
    Passage :=
  { d with
    receiver := (isotpOnCanMessage u d.receiver f).1
    data := rest
    grants := d.grants ++ (isotpOnCanMessage u d.receiver f).2.map CanFrameData.data }

/-- A consecutive frame of a message that the receiver does not wait for, or no longer. -/
theorem Carries.deliver_unexpected (h : Carries d g) (hidle : d.receiver.receive_status ≠ .inprogress)
    {p : QByteArray} {i : Nat} {is : List Nat} {rest : List QByteArray} (hnumbers : g.numbers = i :: is)
    (hrest : rest = (g.shorten is g.heads).numbered ++ g.heads.map headFrame) :
    ∃ g', Carries (d.delivered u (consecutiveFrame p i) rest) g' := by
  have hsub : is.Sublist g.numbers := hnumbers ▸ List.sublist_cons_self i is
  have hfewer := h.shorten hsub (List.Sublist.refl g.heads) hrest
  rw [Passage.delivered, isotpOnCanMessage_unexpected u p i hidle, List.map_nil, List.append_nil]
  exact ⟨_, hfewer.stop hidle h.fetched⟩

/-- A consecutive frame of the message that the receiver waits for. -/
theorem Carries.deliver_number (h : Carries d g) (hu : u.canSend = true) {p : QByteArray} {k i : Nat}
    {is : List Nat} {rest : List QByteArray} (hcurrent : g.current = some p)
    (hnumbers : g.numbers = i :: is) (htaken : g.taken = some k)
    (hrest : rest = (g.shorten is g.heads).numbered ++ g.heads.map headFrame) :
    ∃ g', Carries (d.delivered u (consecutiveFrame p i) rest) g' := by
  have hsub : is.Sublist g.numbers := hnumbers ▸ List.sublist_cons_self i is
  have hfewer := h.shorten hsub (List.Sublist.refl g.heads) hrest
  have hincreasing := hnumbers ▸ h.increasing
  rcases h.taken k htaken with ⟨p', hp', hreceives, hlt, hfits, hwindow⟩
  rw [hcurrent] at hp'
  cases Option.some.inj hp'
  have hi := hwindow i (hnumbers ▸ List.mem_cons_self)
  -- the receiver waits for number `k`; what the frame does depends on whether it is this one
  by_cases hik : i = k
  · rcases hik with rfl
    have hin : ∀ j ∈ is, i < j ∧ j < 8 * (i / 8 + 1) := fun j hj =>
      ⟨List.rel_of_pairwise_cons hincreasing hj,
        (hwindow j (hnumbers ▸ List.mem_cons_of_mem i hj)).2⟩
    rcases Nat.lt_or_ge (i + 1) (consecutiveCount p) with hmore | hge
    · -- the message goes on, and at the end of the block the sender is let go on
      rcases hreceives.consecutive hu hmore with ⟨hafter, hframes, -⟩
      have hsent : (isotpOnCanMessage u d.receiver (consecutiveFrame p i)).2.map
          CanFrameData.data = if (i + 1) % 8 = 0 then [continueFrame] else [] := by
        rw [hframes]
        split_ifs <;> rfl
      rw [Passage.delivered, hsent]
      refine ⟨{ g with numbers := is, taken := some (i + 1) }, { hfewer with
        fetched := ?_
        waits := fun hnone => by cases hnone
        taken := fun j hj => ?_
        stage := (h.stage.advance hcurrent hnumbers htaken hin hmore).congr rfl rfl }⟩
      · rw [held_of_ne hafter.not_full, List.append_nil]
        exact h.fetched_left
      · cases Option.mem_def.1 hj
        refine ⟨p, hcurrent, hafter, hmore, ?_, ?_⟩
        · exact hfits.trans (Nat.le_of_eq (receive_buf_size_isotpOnCanMessage _ _ _).symm)
        · intro j hj
          have hij := hin j hj
          omega
    · -- the message is complete
      have hlast : i + 1 = consecutiveCount p := by omega
      rcases hreceives.last (u := u) hlast with ⟨hafter, hframes, -⟩
      have hnone : is = [] := by
        refine List.eq_nil_iff_forall_not_mem.2 fun j hj => ?_
        have hij := hin j hj
        have hj := h.bound p hcurrent j (hnumbers ▸ List.mem_cons_of_mem i hj)
        omega
      have hbuf : p.length ≤
          (isotpOnCanMessage u d.receiver (consecutiveFrame p i)).1.receive_buf_size :=
        hfits.trans (Nat.le_of_eq (receive_buf_size_isotpOnCanMessage _ _ _).symm)
      have hstatus : (isotpOnCanMessage u d.receiver (consecutiveFrame p i)).1.receive_status ≠
          .inprogress := by
        rw [hafter.status]
        exact fun heq => IsoTpReceiveStatus.noConfusion heq
      rw [Passage.delivered, hframes, List.map_nil, List.append_nil]
      refine ⟨{ g with
        settled := g.settled ++ [p], current := none, numbers := [], taken := none }, {
        sent := ?_
        fetched := ?_
        data := ?_
        heads := h.heads
        increasing := List.Pairwise.nil
        unnumbered := fun _ => rfl
        bound := fun _ hq => absurd hq (Option.not_mem_none _)
        waits := fun _ => hstatus
        taken := fun _ hj => absurd hj (Option.not_mem_none _)
        stage := (h.stage.complete hcurrent hnumbers hlast _).congr rfl rfl }⟩
      · rw [h.sent, hcurrent]
        simp only [Option.toList_some, Option.toList_none, List.append_nil]
      · rw [hafter.held hbuf]
        exact h.fetched_left.append (List.Sublist.refl [p])
      · rw [hrest, hnone, Progress.numbered_nil rfl, Progress.numbered_nil rfl]
  · -- the one before it was lost
    rw [Passage.delivered, hreceives.outOfTurn u (by omega), List.map_nil, List.append_nil]
    refine ⟨_, hfewer.stop (fun heq => IsoTpReceiveStatus.noConfusion heq) ?_⟩
    rw [held_of_ne fun heq => IsoTpReceiveStatus.noConfusion heq, List.append_nil]
    exact h.fetched_left

/-- A single frame ends whatever the receiver was at. -/
theorem Stage.take_short (h : Stage d g) {q : QByteArray} {earlier later hs : List QByteArray}
    (hheads : g.heads = q :: hs) (hlater : g.later = earlier ++ q :: later) (hshort : q.length < 8)
    (settled : List QByteArray) :
    Stage d ⟨settled, none, later, hs, [], none⟩ := by
  have hne : g.heads ≠ [] := by
    rw [hheads]
    exact List.cons_ne_nil q hs
  have hlater_ne : g.later ≠ [] := by
    rw [hlater]
    exact List.append_ne_nil_of_right_ne_nil _ (List.cons_ne_nil q later)
  cases h with
  | free status grants short tail =>
      exact .free status grants (fun x hx => short x (hheads ▸ List.mem_cons_of_mem q hx))
        fun hnil => absurd rfl hnil
  | @announced q' earlier' shorts sends long small later' short heads grants tail =>
      have hne' : q ≠ q' := by
        rintro rfl
        omega
      -- the announced message is the last one, so it is not this one
      have hlast : ∃ l, later = l ++ [q'] := by
        have heq := hlater.symm.trans later'
        rcases List.eq_nil_or_concat later with rfl | ⟨l, x, rfl⟩
        · rcases List.append_inj' heq rfl with ⟨-, hcons⟩
          exact absurd (List.cons_eq_cons.1 hcons).1 hne'
        · rw [List.concat_eq_append, ← List.cons_append, ← List.append_assoc] at heq
          rcases List.append_inj' heq rfl with ⟨-, hcons⟩
          rcases (List.cons_eq_cons.1 hcons).1 with rfl
          exact ⟨l, List.concat_eq_append⟩
      have hshorts : ∃ shorts', (∀ x ∈ shorts', x.length < 8) ∧
          (hs = shorts' ∨ hs = shorts' ++ [q']) := by
        rw [hheads] at heads
        rcases heads with rfl | heads
        · exact ⟨hs, fun x hx => short x (List.mem_cons_of_mem q hx), .inl rfl⟩
        · cases shorts with
          | nil => exact absurd (List.cons_eq_cons.1 heads).1 hne'
          | cons x shorts =>
              refine ⟨shorts, fun y hy => short y (List.mem_cons_of_mem x hy), .inr ?_⟩
              exact (List.cons_eq_cons.1 heads).2
      rcases hlast with ⟨l, rfl⟩
      rcases hshorts with ⟨shorts', hshort', hs'⟩
      exact .announced sends long small rfl hshort' hs' grants fun hnil => absurd rfl hnil
  | refused _ _ _ _ heads => exact absurd heads hne
  | sending _ _ _ later | granted _ _ _ later => exact absurd later hlater_ne

/-- The messages before one that arrives are settled. -/
theorem Carries.take_short (h : Carries d g) {q : QByteArray} {hs rest : List QByteArray}
    (hheads : g.heads = q :: hs) (hrest : rest = hs.map headFrame) (hshort : q.length < 8)
    (hpos : 0 < q.length) (hsized : Sized d) :
    ∃ g', Carries (d.delivered u (headFrame q) rest) g' := by
  rcases List.cons_sublist_iff.1 (hheads ▸ h.heads) with ⟨l₁, l₂, hlater, hmem, hsub⟩
  rcases List.append_of_mem hmem with ⟨earlier, behind, rfl⟩
  rw [List.append_assoc, List.cons_append] at hlater
  rcases received_singleFrame u d.receiver (Nat.le_of_lt_succ hshort) hpos with
    ⟨hafter, hframes, -⟩
  have hbuf : q.length ≤ (isotpOnCanMessage u d.receiver (singleFrame q)).1.receive_buf_size := by
    have hsize := hsized.receiver
    rw [receive_buf_size_isotpOnCanMessage]
    omega
  rw [Passage.delivered, headFrame_short hshort, hframes, List.map_nil, List.append_nil]
  -- the message joins the settled ones, with all those before it that did not arrive
  refine ⟨⟨g.settled ++ g.current.toList ++ earlier ++ [q], none, behind ++ l₂, hs, [], none⟩, {
    sent := ?_
    fetched := ?_
    data := ?_
    heads := hsub.trans (List.sublist_append_right behind l₂)
    increasing := List.Pairwise.nil
    unnumbered := fun _ => rfl
    bound := fun _ hp => absurd hp (Option.not_mem_none _)
    waits := fun _ => ?_
    taken := fun _ hk => absurd hk (Option.not_mem_none _)
    stage := (h.stage.take_short hheads hlater hshort _).congr rfl rfl }⟩
  · rw [h.sent, hlater]
    simp only [Option.toList_none, List.append_nil, List.append_assoc, List.cons_append,
      List.nil_append]
  · rw [hafter.held hbuf]
    have hleft := h.fetched_left.trans
      (List.sublist_append_left g.settled (g.current.toList ++ earlier))
    rw [← List.append_assoc] at hleft
    exact hleft.append (List.Sublist.refl [q])
  · rw [hrest, Progress.numbered_nil rfl, List.nil_append]
  · rw [hafter.status]
    exact fun heq => IsoTpReceiveStatus.noConfusion heq

/-- A first frame under way is the one that the sender waits with. -/
theorem Carries.long_head (h : Carries d g) {q : QByteArray} {hs : List QByteArray}
    (hheads : g.heads = q :: hs) (hlong : 8 ≤ q.length) :
    hs = [] ∧ d.grants = [] ∧ Sends q 0 0 d.sender ∧ q.length ≤ 4096 ∧
      ∃ earlier, g.later = earlier ++ [q] := by
  have hmem : q ∈ g.heads := hheads ▸ List.mem_cons_self
  cases h.stage with
  | free status grants short => exact absurd (short q hmem) (Nat.not_lt.2 hlong)
  | @announced q' earlier shorts sends long small later short heads grants =>
      rw [hheads] at heads
      cases shorts with
      | nil =>
          rcases heads with heads | heads
          · cases heads
          · rcases List.cons_eq_cons.1 heads with ⟨rfl, rfl⟩
            exact ⟨rfl, grants, sends, small, earlier, later⟩
      | cons x shorts =>
          have hx := short x List.mem_cons_self
          rcases heads with heads | heads
          · rcases List.cons_eq_cons.1 heads with ⟨rfl, -⟩
            omega
          · rcases List.cons_eq_cons.1 heads with ⟨rfl, -⟩
            omega
  | refused _ _ _ _ heads =>
      rw [heads] at hmem
      cases hmem
  | sending _ _ _ later | granted _ _ _ later =>
      rw [h.heads_nil later] at hmem
      cases hmem

/-- A first frame ends whatever the receiver was at, and is answered. -/
theorem Carries.take_first (h : Carries d g) (hu : u.canSend = true) {q : QByteArray}
    {hs rest : List QByteArray} (hheads : g.heads = q :: hs)
    (hrest : rest = hs.map headFrame) (hlong : 8 ≤ q.length) (hmax : q.length < 4096)
    (hsized : Sized d) :
    ∃ g', Carries (d.delivered u (headFrame q) rest) g' := by
  rcases h.long_head hheads hlong with ⟨rfl, hgrants, hsends, hsmall, earlier, hlater⟩
  rcases hrest with rfl
  rw [Passage.delivered, headFrame_long hlong, hgrants, List.nil_append]
  rcases Nat.lt_or_ge d.receiver.receive_buf_size q.length with hover | hsize
  · -- turned down
    rw [isotpOnCanMessage_overflow hu d.receiver hlong hover hmax]
    refine ⟨{ g with heads := [], numbers := [], taken := none }, { h with
      fetched := ?_
      data := ?_
      heads := List.nil_sublist _
      increasing := List.Pairwise.nil
      unnumbered := fun _ => rfl
      bound := fun _ _ _ hi => by cases hi
      waits := fun _ heq => IsoTpReceiveStatus.noConfusion heq
      taken := fun _ hk => absurd hk (Option.not_mem_none _)
      stage := .refused hsends hlong hsmall hlater rfl rfl rfl }⟩
    · rw [held_of_ne fun heq => IsoTpReceiveStatus.noConfusion heq, List.append_nil]
      exact h.fetched_left
    · rw [Progress.numbered_nil rfl]
      rfl
  · -- accepted: the messages before it are settled, and the sender is granted its first block
    rcases receives_firstFrame u d.receiver hu hlong hsize hmax (hsize.trans hsized.room) with
      ⟨hafter, hframes, -⟩
    have hcount := consecutiveCount_pos hlong
    rw [hframes]
    refine ⟨⟨g.settled ++ g.current.toList ++ earlier, some q, [], [], [], some 0⟩, {
      sent := ?_
      fetched := ?_
      data := ?_
      heads := List.Sublist.refl []
      increasing := List.Pairwise.nil
      unnumbered := fun _ => rfl
      bound := fun _ _ _ hi => by cases hi
      waits := fun hnone => by cases hnone
      taken := fun k hk => ?_
      stage := .granted hsends hcount rfl rfl rfl rfl (fun k hk => ?_) rfl }⟩
    · rw [h.sent, hlater]
      simp only [Option.toList_some, List.append_nil, List.append_assoc]
    · rw [held_of_ne hafter.not_full, List.append_nil]
      exact (h.fetched_left.trans (List.sublist_append_left _ _)).trans
        (List.sublist_append_left _ _)
    · rw [Progress.numbered_nil rfl]
      rfl
    · cases Option.mem_def.1 hk
      refine ⟨q, rfl, hafter, hcount, ?_, fun _ hi => by cases hi⟩
      exact hsize.trans (Nat.le_of_eq (receive_buf_size_isotpOnCanMessage _ _ _).symm)
    · cases Option.mem_def.1 hk
      exact ⟨Nat.le_refl 0, Nat.le_refl 0⟩

theorem length_headFrame (q : QByteArray) : (headFrame q).length = 8 := by
  rcases Nat.lt_or_ge q.length 8 with hshort | hlong
  · rw [headFrame_short hshort, length_singleFrame (Nat.le_of_lt_succ hshort)]
  · rw [headFrame_long hlong, length_firstFrame (by omega)]

theorem type_headFrame (q : QByteArray) : Pci.type (headFrame q) ≠ Pci.typeFlowControlFrame := by
  rcases Nat.lt_or_ge q.length 8 with hshort | hlong
  · rw [headFrame_short hshort, type_singleFrame]
    decide
  · rw [headFrame_long hlong, type_firstFrame]
    decide

/-- The frames under way to the receiver are whole, and no flow control. -/
theorem Carries.framed (h : Carries d g) {f : QByteArray} (hf : f ∈ d.data) :
    f.length = 8 ∧ Pci.type f ≠ Pci.typeFlowControlFrame := by
  rw [h.data, List.mem_append] at hf
  rcases hf with hf | hf
  · rcases List.mem_flatMap.1 hf with ⟨p, -, hp⟩
    rcases List.mem_map.1 hp with ⟨i, -, rfl⟩
    refine ⟨length_consecutiveFrame p i, ?_⟩
    rw [type_consecutiveFrame]
    decide
  · rcases List.mem_map.1 hf with ⟨q, -, rfl⟩
    exact ⟨length_headFrame q, type_headFrame q⟩

/-- Every frame that reaches the receiver. -/
theorem Carries.deliver (h : Carries d g) (hu : u.canSend = true) (hsized : Sized d) {f : QByteArray}
    {rest : List QByteArray} (hbus : d.data = f :: rest) : ∃ g', Carries (d.delivered u f rest) g' := by
  rcases h.next_frame hbus with
    ⟨p, i, is, hcurrent, hnumbers, rfl, hrest⟩ | ⟨q, hs, hnumbers, hheads, rfl, hrest⟩
  · cases htaken : g.taken with
    | none => exact h.deliver_unexpected (h.waits htaken) hnumbers hrest
    | some k => exact h.deliver_number hu hcurrent hnumbers htaken hrest
  · -- a frame that is refused leaves only its own head frame behind
    have hrefuse : isotpOnCanMessage u d.receiver (headFrame q) = (begun d.receiver, []) →
        ∃ g', Carries (d.delivered u (headFrame q) rest) g' := by
      intro hframe
      have hsub : hs.Sublist g.heads := hheads ▸ List.sublist_cons_self q hs
      have hnil : (g.shorten [] hs).numbered = [] := Progress.numbered_nil rfl
      have hfewer := h.shorten (List.nil_sublist g.numbers) hsub
        (hrest.trans (by rw [hnil, List.nil_append]))
      rw [Passage.delivered, hframe, List.map_nil, List.append_nil]
      exact ⟨_, hfewer.refuse⟩
    rcases Nat.lt_or_ge q.length 8 with hshort | hlong
    · rcases Nat.eq_zero_or_pos q.length with hzero | hpos
      · rcases List.length_eq_zero_iff.1 hzero with rfl
        exact hrefuse (isotpOnCanMessage_empty u d.receiver)
      · exact h.take_short hheads hrest hshort hpos hsized
    · have hsmall := (h.long_head hheads hlong).2.2.2.1
      rcases Nat.lt_or_ge q.length 4096 with hmax | hge
      · exact h.take_first hu hheads hrest hlong hmax hsized
      · refine hrefuse ?_
        rw [headFrame_long hlong]
        exact isotpOnCanMessage_unannounced u d.receiver (Nat.le_antisymm hsmall hge)

end

end IsoTp
end TcpCanUds
