import TcpCanUds.Core.IsoTpDuplex
import TcpCanUds.Lib.StampedQueue

/-!
# IsoTpLatency — how slow the bus may be

A clock beside the two links, and with every frame under way the time it was sent.  When no frame is
under way for longer than fifty milliseconds, a sender that has waited for `ISO_TP_DEFAULT_RESPONSE_TIMEOUT`
knows that nothing of its message is left on the bus, in either direction: a run on such a bus is one
that `TimelyStep` allows.
-/

namespace TcpCanUds
namespace IsoTp

open Lib

/-! ## The timer of the sender -/

section

variable {u : IsoTpUser} {link : IsoTpLink}

/-- The timer has been set to run from now. -/
def Refreshed (u : IsoTpUser) (link : IsoTpLink) : Prop :=
  link.send_timer_bs = u.ms + isoTpDefaultResponseTimeout

/-- A message was under way before, and its timer runs on. -/
def RunsOn (link link' : IsoTpLink) : Prop :=
  link.send_status = .inprogress ∧ link'.send_timer_bs = link.send_timer_bs

theorem timer_isotpSend {raw : QByteArray}
    (h : (isotpSend u link raw).link.send_status = .inprogress) :
    Refreshed u (isotpSend u link raw).link ∨
      RunsOn link (isotpSend u link raw).link ∧ (isotpSend u link raw).frames = [] := by
  by_cases hsize : raw.length ≤ link.send_buf_size
  · by_cases hstatus : link.send_status = .inprogress
    · rw [isotpSend_inprogress hsize hstatus]
      exact .inr ⟨⟨hstatus, rfl⟩, rfl⟩
    · left
      simp only [isotpSend, isotpSendWithId, if_neg (Nat.not_lt.2 hsize), if_neg hstatus] at h ⊢
      by_cases hshort : raw.length < 8
      · -- a single frame does not make the sender busy
        simp only [if_pos hshort, isotpSendSingleFrame] at h
        exact absurd h hstatus
      · simp only [if_neg hshort, isotpSendFirstFrame] at h ⊢
        split_ifs at h ⊢
        · rfl
        · exact absurd h hstatus
  · rw [isotpSend_overflow (Nat.lt_of_not_le hsize)] at h ⊢
    exact .inr ⟨⟨h, rfl⟩, rfl⟩

theorem timer_isotpPoll (h : (isotpPoll u link).1.send_status = .inprogress) :
    Refreshed u (isotpPoll u link).1 ∨
      RunsOn link (isotpPoll u link).1 ∧ (isotpPoll u link).2 = [] := by
  have hcr : ∀ l : IsoTpLink, (pollTimeoutCr u l).send_status = l.send_status ∧
      (pollTimeoutCr u l).send_timer_bs = l.send_timer_bs := fun l =>
    ⟨congrArg SendSide.send_status (sendSide_pollTimeoutCr u l),
      congrArg SendSide.send_timer_bs (sendSide_pollTimeoutCr u l)⟩
  have hbs : ∀ l : IsoTpLink, (pollTimeoutBs u l).send_status = .inprogress →
      l.send_status = .inprogress ∧ (pollTimeoutBs u l).send_timer_bs = l.send_timer_bs := by
    intro l hl
    rw [pollTimeoutBs] at hl ⊢
    split_ifs at hl ⊢
    exact ⟨hl, rfl⟩
  by_cases hbusy : link.send_status = .inprogress
  · simp only [isotpPoll, if_pos hbusy, Refreshed, RunsOn, (hcr _).1, (hcr _).2] at h ⊢
    rcases hbs _ h with ⟨hsend, htimer⟩
    rw [htimer]
    by_cases hmay : MaySend u link
    · left
      simp only [pollSend, if_pos hmay] at hsend ⊢
      split_ifs at hsend ⊢
      all_goals rfl
    · right
      simp only [pollSend, if_neg hmay]
      exact ⟨⟨hbusy, trivial⟩, trivial⟩
  · simp only [isotpPoll, if_neg hbusy, (hcr _).1] at h
    exact absurd h hbusy

theorem timer_isotpOnCanMessage {data : QByteArray}
    (h : (isotpOnCanMessage u link data).1.send_status = .inprogress) :
    Refreshed u (isotpOnCanMessage u link data).1 ∨
      RunsOn link (isotpOnCanMessage u link data).1 := by
  have hsame : ∀ {l : IsoTpLink}, sendSide l = sendSide link → l.send_status = .inprogress →
      Refreshed u l ∨ RunsOn link l := by
    intro l hside hl
    have hstatus : l.send_status = link.send_status := congrArg SendSide.send_status hside
    exact .inr ⟨hstatus ▸ hl, congrArg SendSide.send_timer_bs hside⟩
  by_cases hlen : data.length < 2 ∨ data.length > 8
  · rw [isotpOnCanMessage, if_pos hlen] at h ⊢
    exact hsame rfl h
  · rw [isotpOnCanMessage_eq u link hlen] at h ⊢
    split_ifs at h ⊢
    · exact hsame (sendSide_onSingleFrame link _ _) h
    · exact hsame (sendSide_onFirstFrame u link _ _) h
    · exact hsame (sendSide_onConsecutiveFrame u link _ _) h
    · by_cases hbusy : link.send_status = .inprogress
      · -- an answer starts the timer again
        simp only [onFlowControl, hbusy, ne_eq, not_true_eq_false, if_false] at h ⊢
        split_ifs at h ⊢
        all_goals
          first
          | exact .inl rfl
          | exact .inr ⟨hbusy, rfl⟩
      · rw [onFlowControl, if_pos hbusy] at h
        exact absurd h hbusy
    · exact hsame rfl h

/-- A timer that is found expired was set more than a hundred milliseconds ago. -/
theorem lt_of_timeAfter {now t : Nat} (hle : t ≤ now)
    (h : isoTpTimeAfter (UInt32.ofNat now) (UInt32.ofNat t + isoTpDefaultResponseTimeout) = true) :
    t + 100 < now := by
  by_contra hnear
  rw [timeAfter_ofNat hle (by omega)] at h
  exact hnear (of_decide_eq_true h)

end

/-! ## The clock -/

/-- The two links, the time, and when each frame under way was sent. -/
structure TimedDuplex where
  duplex : Duplex
  now : Nat
  nearTimes : List Nat := []
  farTimes : List Nat := []
  deriving DecidableEq, Repr

inductive TimedCall where
  | tick
  | act (side : WhichEnd) (c : EndCall)
  deriving DecidableEq, Repr

/-- The reading of the clock that a call sees, and whether it can send. -/
def EndCall.user : EndCall → Option IsoTpUser
  | .send u _ | .poll u | .arrive u => some u
  | .fetch | .lose _ => none

namespace TimedDuplex

/-- What a frame takes at most, or it is lost. -/
abbrev latency : Nat := 50

def swap (t : TimedDuplex) : TimedDuplex :=
  ⟨t.duplex.swap, t.now, t.farTimes, t.nearTimes⟩

/-- A call at the near end. -/
def call (t : TimedDuplex) (c : EndCall) : TimedDuplex :=
  let d := t.duplex.call c
  match c with
  | .send _ _ | .poll _ | .fetch =>
      { t with duplex := d, nearTimes := stampedAt t.now t.nearTimes d.near.out }
  | .arrive _ =>
      { t with
        duplex := d
        nearTimes := stampedAt t.now t.nearTimes d.near.out
        farTimes := t.farTimes.tail }
  | .lose i => { t with duplex := d, nearTimes := t.nearTimes.eraseIdx i }

def step (t : TimedDuplex) : TimedCall → TimedDuplex
  | .tick => { t with now := t.now + 1 }
  | .act .near c => t.call c
  | .act .far c => (t.swap.call c).swap

def machine (near far : IsoTpLink) (now : Nat) : Lib.Machine TimedDuplex TimedCall Unit where
  init := { duplex := Duplex.start near far, now := now }
  step := fun t c => (t.step c, ())

/-- Every call sees the clock of its end, `ahead` of the common one, and the clock waits for the frames
that are under way. -/
def OnTime (ahead : WhichEnd → Nat) (t : TimedDuplex) : TimedCall → Prop
  | .tick => ∀ time ∈ t.nearTimes ++ t.farTimes, t.now < time + latency
  | .act side c => ∀ u ∈ c.user, u = { ms := UInt32.ofNat (t.now + ahead side) }

instance (ahead : WhichEnd → Nat) (t : TimedDuplex) : (c : TimedCall) → Decidable (t.OnTime ahead c)
  | .tick => inferInstanceAs (Decidable (∀ time ∈ t.nearTimes ++ t.farTimes, t.now < time + latency))
  | .act side c =>
      inferInstanceAs (Decidable (∀ u ∈ c.user, u = { ms := UInt32.ofNat (t.now + ahead side) }))

/-! ## What the times tell -/

/-- What is known of one sender, `ahead` of the common clock: the frames under way are new enough, and
while it waits, those of its message and the answers to them are not newer than its timer allows. -/
structure Clocked (ahead now : Nat) (link : IsoTpLink) (out back : List (Nat × QByteArray)) :
    Prop where
  recent_out : ∀ x ∈ out, x.1 ≤ now ∧ now ≤ x.1 + latency
  recent_back : ∀ x ∈ back, x.1 ≤ now ∧ now ≤ x.1 + latency
  timer : link.send_status = .inprogress → ∃ time ≤ now,
    link.send_timer_bs = UInt32.ofNat (time + ahead) + isoTpDefaultResponseTimeout ∧
      (∀ x ∈ out, ¬ Duplex.IsFlowControl x.2 → x.1 ≤ time) ∧
        ∀ x ∈ back, Duplex.IsFlowControl x.2 → x.1 ≤ time + latency

section

variable {ahead now : Nat} {link link' : IsoTpLink} {u : IsoTpUser} {frames : List QByteArray}
  {out out' back back' : List (Nat × QByteArray)}

theorem recent_append (h : ∀ x ∈ out, x.1 ≤ now ∧ now ≤ x.1 + latency) :
    ∀ x ∈ out ++ frames.map (Prod.mk now), x.1 ≤ now ∧ now ≤ x.1 + latency := by
  intro x hx
  rcases List.mem_append.1 hx with hx | hx
  · exact h x hx
  · rcases List.mem_map.1 hx with ⟨f, -, rfl⟩
    exact ⟨Nat.le_refl now, Nat.le_add_right now latency⟩

/-- A call of the sender's own. -/
theorem Clocked.sender (h : Clocked ahead now link out back)
    (htimer : link'.send_status = .inprogress →
      Refreshed u link' ∨ RunsOn link link' ∧ ∀ f ∈ frames, Duplex.IsFlowControl f)
    (hu : u.ms = UInt32.ofNat (now + ahead)) (hback : ∀ x ∈ back', x ∈ back) :
    Clocked ahead now link' (out ++ frames.map (Prod.mk now)) back' where
  recent_out := recent_append h.recent_out
  recent_back := fun x hx => h.recent_back x (hback x hx)
  timer := by
    intro hbusy
    rcases htimer hbusy with hfresh | ⟨⟨hbefore, hsame⟩, hflow⟩
    · refine ⟨now, Nat.le_refl now, hu ▸ hfresh, fun x hx _ => (recent_append h.recent_out x hx).1, ?_⟩
      intro x hx _
      exact (h.recent_back x (hback x hx)).1.trans (Nat.le_add_right now latency)
    · rcases h.timer hbefore with ⟨time, hle, hset, hout, hanswers⟩
      refine ⟨time, hle, hsame.trans hset, ?_, fun x hx => hanswers x (hback x hx)⟩
      intro x hx hdata
      rcases List.mem_append.1 hx with hx | hx
      · exact hout x hx hdata
      · rcases List.mem_map.1 hx with ⟨f, hf, rfl⟩
        exact absurd (hflow f hf) hdata

/-- A call at the other end, which answers nothing but a frame of the message. -/
theorem Clocked.receiver (h : Clocked ahead now link out back) (hout : ∀ x ∈ out', x ∈ out)
    (hanswer : ∀ f ∈ frames, Duplex.IsFlowControl f → ∃ x ∈ out, ¬ Duplex.IsFlowControl x.2) :
    Clocked ahead now link out' (back ++ frames.map (Prod.mk now)) where
  recent_out := fun x hx => h.recent_out x (hout x hx)
  recent_back := recent_append h.recent_back
  timer := by
    intro hbusy
    rcases h.timer hbusy with ⟨time, hle, hset, hdata, hanswers⟩
    refine ⟨time, hle, hset, fun x hx => hdata x (hout x hx), ?_⟩
    intro x hx hflow
    rcases List.mem_append.1 hx with hx | hx
    · exact hanswers x hx hflow
    · -- the frame that is answered was sent before the timer was set, and has just arrived
      rcases List.mem_map.1 hx with ⟨f, hf, rfl⟩
      rcases hanswer f hf hflow with ⟨y, hy, hy'⟩
      exact (h.recent_out y hy).2.trans (Nat.add_le_add_right (hdata y hy hy') latency)

theorem Clocked.fewer (h : Clocked ahead now link out back) (hout : ∀ x ∈ out', x ∈ out)
    (hback : ∀ x ∈ back', x ∈ back) : Clocked ahead now link out' back' where
  recent_out := fun x hx => h.recent_out x (hout x hx)
  recent_back := fun x hx => h.recent_back x (hback x hx)
  timer := by
    intro hbusy
    rcases h.timer hbusy with ⟨time, hle, hset, hdata, hanswers⟩
    exact ⟨time, hle, hset, fun x hx => hdata x (hout x hx), fun x hx => hanswers x (hback x hx)⟩

theorem Clocked.tick (h : Clocked ahead now link out back) (hout : ∀ x ∈ out, now < x.1 + latency)
    (hback : ∀ x ∈ back, now < x.1 + latency) : Clocked ahead (now + 1) link out back where
  recent_out := fun x hx => ⟨Nat.le_succ_of_le (h.recent_out x hx).1, hout x hx⟩
  recent_back := fun x hx => ⟨Nat.le_succ_of_le (h.recent_back x hx).1, hback x hx⟩
  timer := by
    intro hbusy
    rcases h.timer hbusy with ⟨time, hle, hrest⟩
    exact ⟨time, Nat.le_succ_of_le hle, hrest⟩

/-- When the timer has run out, nothing of the message is under way. -/
theorem Clocked.settled (h : Clocked ahead now link out back)
    (hu : u.ms = UInt32.ofNat (now + ahead)) (hexpires : Expires u link) :
    (∀ x ∈ out, Duplex.IsFlowControl x.2) ∧ ∀ x ∈ back, ¬ Duplex.IsFlowControl x.2 := by
  rcases h.timer hexpires.1 with ⟨time, hle, hset, hdata, hanswers⟩
  have hafter := hexpires.2.2
  rw [hset, hu] at hafter
  have hlate := lt_of_timeAfter (Nat.add_le_add_right hle ahead) hafter
  have hlatency : latency = 50 := rfl
  constructor
  · intro x hx
    by_contra hx'
    have hnear := (h.recent_out x hx).2
    have hsent := hdata x hx hx'
    omega
  · intro x hx hx'
    have hnear := (h.recent_back x hx).2
    have hsent := hanswers x hx hx'
    omega

end

/-! ## Runs on time -/

/-- Both senders are clocked. -/
structure Punctual (ahead : WhichEnd → Nat) (t : TimedDuplex) : Prop where
  nearTimes : t.nearTimes.length = t.duplex.near.out.length
  farTimes : t.farTimes.length = t.duplex.far.out.length
  forth : Clocked (ahead .near) t.now t.duplex.near.link (t.nearTimes.zip t.duplex.near.out)
    (t.farTimes.zip t.duplex.far.out)
  back : Clocked (ahead .far) t.now t.duplex.far.link (t.farTimes.zip t.duplex.far.out)
    (t.nearTimes.zip t.duplex.near.out)

variable {ahead : WhichEnd → Nat} {t : TimedDuplex} {u : IsoTpUser}

theorem Punctual.swap (h : Punctual ahead t) : Punctual (ahead ∘ WhichEnd.other) t.swap :=
  ⟨h.farTimes, h.nearTimes, h.back, h.forth⟩

/-- A call of the near end's own, which sends `frames`. -/
theorem Punctual.own (h : Punctual ahead t) {d : Duplex} {frames : List QByteArray}
    (hout : d.near.out = t.duplex.near.out ++ frames) (hfar : d.far = t.duplex.far)
    (hdata : ∀ f ∈ frames, ¬ Duplex.IsFlowControl f)
    (htimer : d.near.link.send_status = .inprogress →
      Refreshed u d.near.link ∨ RunsOn t.duplex.near.link d.near.link ∧ frames = [])
    (hu : u.ms = UInt32.ofNat (t.now + ahead .near)) :
    Punctual ahead { t with
      duplex := d, nearTimes := stampedAt t.now t.nearTimes d.near.out } := by
  have hgrown : t.nearTimes.length ≤ d.near.out.length := by
    rw [h.nearTimes, hout, List.length_append]
    exact Nat.le_add_right _ _
  have hzip := zip_stampedAt_append t.now frames h.nearTimes
  rw [← hout] at hzip
  refine ⟨length_stampedAt hgrown, hfar ▸ h.farTimes, ?_, ?_⟩
  · change Clocked _ _ d.near.link (List.zip (stampedAt _ _ _) _) _
    rw [hzip, hfar]
    refine h.forth.sender (fun hbusy => ?_) hu fun _ hx => hx
    rcases htimer hbusy with hfresh | ⟨hruns, rfl⟩
    · exact .inl hfresh
    · exact .inr ⟨hruns, fun _ hf => by cases hf⟩
  · change Clocked _ _ d.far.link _ (List.zip (stampedAt _ _ _) _)
    rw [hzip, hfar]
    exact h.back.receiver (fun _ hx => hx) fun f hf hflow => absurd hflow (hdata f hf)

theorem not_isFlowControl_send {link : IsoTpLink} {raw : QByteArray} (hu : u.canSend = true) :
    ∀ f ∈ (isotpSend u link raw).frames.map CanFrameData.data, ¬ Duplex.IsFlowControl f := by
  by_cases hfree : raw.length ≤ link.send_buf_size ∧ link.send_status ≠ .inprogress
  · rw [(Duplex.isotpSend_frames hu hfree.1 hfree.2).2]
    intro f hf
    rw [List.mem_singleton.1 hf]
    exact type_headFrame raw
  · have hnone : (isotpSend u link raw).frames = [] := by
      by_contra hne
      exact hfree ((isotpSend_sends_iff u link hu raw).1 hne)
    rw [hnone]
    exact fun _ hf => by cases hf

theorem Punctual.send (h : Punctual ahead t) {raw : QByteArray} (hu : u.canSend = true)
    (hms : u.ms = UInt32.ofNat (t.now + ahead .near)) :
    Punctual ahead (t.call (.send u raw)) := by
  refine h.own rfl rfl (not_isFlowControl_send hu) (fun hbusy => ?_) hms
  rcases timer_isotpSend hbusy with hfresh | ⟨hruns, hnone⟩
  · exact .inl hfresh
  · exact .inr ⟨hruns, congrArg (List.map CanFrameData.data) hnone⟩

theorem Punctual.poll (h : Punctual ahead t) (hms : u.ms = UInt32.ofNat (t.now + ahead .near)) :
    Punctual ahead (t.call (.poll u)) := by
  refine h.own rfl rfl (Duplex.not_isFlowControl_poll u t.duplex.near.link) (fun hbusy => ?_) hms
  rcases timer_isotpPoll hbusy with hfresh | ⟨hruns, hnone⟩
  · exact .inl hfresh
  · exact .inr ⟨hruns, congrArg (List.map CanFrameData.data) hnone⟩

theorem Punctual.fetch (h : Punctual ahead t) : Punctual ahead (t.call .fetch) := by
  have hside := sendSide_isotpReceive t.duplex.near.link t.duplex.near.link.receive_buf_size
  refine h.own (u := { ms := UInt32.ofNat (t.now + ahead .near) })
    (List.append_nil _).symm rfl (fun _ hf => by cases hf) (fun hbusy => ?_) rfl
  have hstatus : (isotpReceive t.duplex.near.link
      t.duplex.near.link.receive_buf_size).2.send_status = t.duplex.near.link.send_status :=
    congrArg SendSide.send_status hside
  exact .inr ⟨⟨hstatus.symm.trans hbusy, congrArg SendSide.send_timer_bs hside⟩, rfl⟩

/-- A flow control frame is not answered. -/
theorem answer_of_flowControl {link : IsoTpLink} {f : QByteArray} (h : Duplex.IsFlowControl f) :
    (isotpOnCanMessage u link f).2 = [] := by
  by_cases hlen : f.length < 2 ∨ f.length > 8
  · rw [isotpOnCanMessage, if_pos hlen]
  · have hne : f ≠ [] := by
      rintro rfl
      exact hlen (.inl (Nat.zero_lt_two))
    have htype : Pci.type (padded f) = Pci.typeFlowControlFrame := by
      rw [padded, Pci.type_append hne]
      exact h
    rw [isotpOnCanMessage_eq u link hlen, htype, if_neg (by decide), if_neg (by decide),
      if_neg (by decide), if_pos rfl]

theorem call_arrive {f : QByteArray} {rest : List QByteArray} (hout : t.duplex.far.out = f :: rest) :
    t.call (.arrive u) =
      { t with
        duplex := ⟨t.duplex.near.handle u f, { t.duplex.far with out := rest }⟩
        nearTimes := stampedAt t.now t.nearTimes (t.duplex.near.handle u f).out
        farTimes := t.farTimes.tail } := by
  simp only [TimedDuplex.call, Duplex.call, hout]

theorem Punctual.arrive (h : Punctual ahead t) (hms : u.ms = UInt32.ofNat (t.now + ahead .near)) :
    Punctual ahead (t.call (.arrive u)) := by
  cases hout : t.duplex.far.out with
  | nil =>
      have htimes : t.farTimes = [] := List.length_eq_zero_iff.1 (by rw [h.farTimes, hout]; rfl)
      have hcall : t.duplex.call (.arrive u) = t.duplex := by
        simp only [Duplex.call, hout]
      have hstep : t.call (.arrive u) =
          { t with nearTimes := stampedAt t.now t.nearTimes t.duplex.near.out } := by
        simp only [TimedDuplex.call, hcall, htimes, List.tail_nil]
      rw [hstep]
      refine h.own (List.append_nil _).symm rfl (fun _ hf => by cases hf) (fun hbusy => ?_) hms
      exact .inr ⟨⟨hbusy, rfl⟩, rfl⟩
  | cons f rest =>
      rcases h with ⟨hnear, hfar, hforth, hback⟩
      rw [hout] at hfar
      rcases List.exists_cons_of_length_eq_add_one hfar with ⟨time, times, htimes⟩
      rw [htimes, hout] at hforth hback
      rw [htimes] at hfar
      have hless : ∀ x ∈ times.zip rest, x ∈ (time :: times).zip (f :: rest) := fun x hx =>
        List.mem_cons_of_mem _ hx
      have hzip := zip_stampedAt_append t.now
        ((isotpOnCanMessage u t.duplex.near.link f).2.map CanFrameData.data) hnear
      have hcall := call_arrive (u := u) hout
      rw [htimes, List.tail_cons] at hcall
      have hanswered : (t.duplex.near.handle u f).out = t.duplex.near.out ++
          (isotpOnCanMessage u t.duplex.near.link f).2.map CanFrameData.data := rfl
      rw [← hanswered] at hzip
      have hgrown : t.nearTimes.length ≤ (t.duplex.near.handle u f).out.length := by
        rw [hnear, hanswered, List.length_append]
        exact Nat.le_add_right _ _
      rw [hcall]
      refine ⟨length_stampedAt hgrown, Nat.succ.inj hfar, ?_, ?_⟩
      · change Clocked (ahead .near) t.now (t.duplex.near.handle u f).link
          ((stampedAt t.now t.nearTimes (t.duplex.near.handle u f).out).zip
            (t.duplex.near.handle u f).out) (times.zip rest)
        rw [hzip]
        refine hforth.sender (fun hbusy => ?_) hms hless
        rcases timer_isotpOnCanMessage hbusy with hfresh | hruns
        · exact .inl hfresh
        · exact .inr ⟨hruns, Duplex.isFlowControl_answer u t.duplex.near.link f⟩
      · change Clocked (ahead .far) t.now t.duplex.far.link (times.zip rest)
          ((stampedAt t.now t.nearTimes (t.duplex.near.handle u f).out).zip
            (t.duplex.near.handle u f).out)
        rw [hzip]
        refine hback.receiver hless fun g hg _ => ⟨(time, f), List.mem_cons_self, ?_⟩
        -- something was answered, so it was not flow control
        intro hflow
        rw [answer_of_flowControl hflow] at hg
        cases hg

theorem Punctual.lose (h : Punctual ahead t) (i : Nat) : Punctual ahead (t.call (.lose i)) := by
  have hless : ∀ x ∈ (t.nearTimes.eraseIdx i).zip (t.duplex.near.out.eraseIdx i),
      x ∈ t.nearTimes.zip t.duplex.near.out := fun _ => mem_zip_eraseIdx
  refine ⟨?_, h.farTimes, ?_, ?_⟩
  · change (t.nearTimes.eraseIdx i).length = (t.duplex.near.out.eraseIdx i).length
    rw [List.length_eraseIdx, List.length_eraseIdx, h.nearTimes]
  · exact h.forth.fewer hless fun _ hx => hx
  · exact h.back.fewer (fun _ hx => hx) hless

theorem Punctual.tick (h : Punctual ahead t)
    (htimes : ∀ time ∈ t.nearTimes ++ t.farTimes, t.now < time + latency) :
    Punctual ahead { t with now := t.now + 1 } := by
  have hnear : ∀ x ∈ t.nearTimes.zip t.duplex.near.out, t.now < x.1 + latency := fun x hx =>
    htimes x.1 (List.mem_append_left _ (List.of_mem_zip hx).1)
  have hfar : ∀ x ∈ t.farTimes.zip t.duplex.far.out, t.now < x.1 + latency := fun x hx =>
    htimes x.1 (List.mem_append_right _ (List.of_mem_zip hx).1)
  exact ⟨h.nearTimes, h.farTimes, h.forth.tick hnear hfar, h.back.tick hfar hnear⟩

/-- No sender gives up a message of which something is under way. -/
theorem Punctual.timely (h : Punctual ahead t) {c : EndCall}
    (hon : t.OnTime ahead (.act .near c)) : t.duplex.Timely c := by
  have hpair : ∀ {times : List Nat} {out : List QByteArray} {f : QByteArray},
      times.length = out.length → f ∈ out → ∃ time, (time, f) ∈ times.zip out := by
    intro times out f hlength hf
    rw [← List.map_snd_zip (Nat.le_of_eq hlength.symm)] at hf
    rcases List.mem_map.1 hf with ⟨⟨time, _⟩, hmem, rfl⟩
    exact ⟨time, hmem⟩
  cases c with
  | send u raw =>
      rcases hon u rfl with rfl
      rfl
  | arrive u =>
      rcases hon u rfl with rfl
      rfl
  | poll u =>
      rcases hon u rfl with rfl
      refine ⟨rfl, fun hexpires => ?_⟩
      rcases h.forth.settled rfl hexpires with ⟨hdata, hanswers⟩
      constructor
      · refine List.filter_eq_nil_iff.2 fun f hf => ?_
        rcases hpair h.nearTimes hf with ⟨time, hmem⟩
        simpa using hdata _ hmem
      · refine List.filter_eq_nil_iff.2 fun f hf => ?_
        rcases hpair h.farTimes hf with ⟨time, hmem⟩
        simpa using hanswers _ hmem
  | fetch | lose _ => trivial

theorem Punctual.call (h : Punctual ahead t) {c : EndCall} (hon : t.OnTime ahead (.act .near c)) :
    Punctual ahead (t.call c) := by
  cases c with
  | send u raw =>
      rcases hon u rfl with rfl
      exact h.send rfl rfl
  | poll u =>
      rcases hon u rfl with rfl
      exact h.poll rfl
  | arrive u =>
      rcases hon u rfl with rfl
      exact h.arrive rfl
  | fetch => exact h.fetch
  | lose i => exact h.lose i

/-- What holds along every run on time. -/
structure Safe (ahead : WhichEnd → Nat) (t : TimedDuplex) : Prop where
  punctual : Punctual ahead t
  sound : t.duplex.Sound

theorem call_duplex (t : TimedDuplex) (c : EndCall) : (t.call c).duplex = t.duplex.call c := by
  cases c <;> rfl

theorem Safe.step (h : Safe ahead t) {c : TimedCall} (hon : t.OnTime ahead c) :
    Safe ahead (t.step c) := by
  cases c with
  | tick => exact ⟨h.punctual.tick hon, h.sound⟩
  | act side c =>
      cases side with
      | near =>
          refine ⟨h.punctual.call hon, ?_⟩
          rw [TimedDuplex.step, call_duplex]
          exact h.sound.call (h.punctual.timely hon)
      | far =>
          -- the same at the other end
          have hpunctual := h.punctual.swap
          have hon' : t.swap.OnTime (ahead ∘ WhichEnd.other) (.act .near c) := hon
          have hsound : (t.swap.call c).duplex.Sound := by
            rw [call_duplex]
            exact h.sound.swap.call (hpunctual.timely hon')
          have hother : (ahead ∘ WhichEnd.other) ∘ WhichEnd.other = ahead := by
            funext side
            cases side <;> rfl
          exact ⟨hother ▸ (hpunctual.call hon').swap, hsound.swap⟩

theorem safe_start {near far : IsoTpLink} (hnear : Duplex.Unused near) (hfar : Duplex.Unused far)
    (ahead : WhichEnd → Nat) (now : Nat) : Safe ahead (machine near far now).init := by
  have hclocked : ∀ {link : IsoTpLink}, Duplex.Unused link → ∀ n, Clocked n now link [] [] :=
    fun hlink n => {
      recent_out := fun _ hx => by cases hx
      recent_back := fun _ hx => by cases hx
      timer := fun hbusy => absurd hbusy hlink.send_status }
  exact ⟨⟨rfl, rfl, hclocked hnear _, hclocked hfar _⟩, Duplex.sound_start hnear hfar⟩

theorem safe_run {near far : IsoTpLink} (hnear : Duplex.Unused near) (hfar : Duplex.Unused far)
    {ahead : WhichEnd → Nat} {now : Nat} {calls : List TimedCall}
    (hon : (machine near far now).Along (OnTime ahead) (machine near far now).init calls) :
    Safe ahead ((machine near far now).after calls) := by
  have hstep : ∀ t c, Safe ahead t → t.OnTime ahead c → Safe ahead ((machine near far now).step t c).1 :=
    fun _ _ h hon => h.step hon
  exact (machine near far now).exec_invariant_along hstep (safe_start hnear hfar ahead now) hon

/-- On a bus that loses any frames and delivers the others within fifty milliseconds, every message
that a link gives was taken by the other one, once and in the same order, and as it was. -/
theorem fetched_sublist_of_latency {near far : IsoTpLink} (hnear : Duplex.Unused near)
    (hfar : Duplex.Unused far) {ahead : WhichEnd → Nat} {now : Nat} {calls : List TimedCall}
    (hon : (machine near far now).Along (OnTime ahead) (machine near far now).init calls) :
    let d := ((machine near far now).after calls).duplex
    d.far.fetched.Sublist d.near.sent ∧ d.near.fetched.Sublist d.far.sent :=
  (safe_run hnear hfar hon).sound.fetched

/-- A clock that is two milliseconds ahead at the far end. -/
def twoAhead : WhichEnd → Nat
  | .near => 0
  | .far => 2

/-- A message is lost, the next one arrives. -/
def oneLost : List TimedCall :=
  [.act .near (.send { ms := 0 } [1]), .act .near (.lose 0), .tick,
    .act .near (.send { ms := 1 } [2, 3]), .act .far (.arrive { ms := 3 }), .act .far .fetch]

theorem fetched_sublist_of_latency_oneLost :
    let link := isotpInitLink 0 (IsoTpBuffers.zero 64)
    let d := ((machine link link 0).after oneLost).duplex
    d.far.fetched = [[2, 3]] ∧ d.far.fetched.Sublist d.near.sent := by
  intro link
  have hunused := Duplex.unused_isotpInitLink 0 (IsoTpBuffers.zero 64) (by decide) (by decide)
  have hon : (machine link link 0).Along (OnTime twoAhead) (machine link link 0).init oneLost := by
    decide
  exact ⟨by decide, (fetched_sublist_of_latency hunused hunused hon).1⟩

end TimedDuplex
end IsoTp
end TcpCanUds
